/-
A session equals a batch. Two accepted sources, of which the first runs to its end, do the same one
after the other as when they are one source with a line end between them: what is printed, how it
ends and what is left are the same, but that the second source then stands on later lines. Nothing
of the first source is left for the second one but the heap, and what is found out about the names
of one source is of no use to the other.
-/

import Lox.Proofs.Run.Settled
import Lox.Proofs.Source.Joined

namespace Lox

open Scope

/-! ### Accepted sources -/

namespace Session

variable {session : Session}

theorem perform_ok {α : Type} {run : Run α} {result : α} {after : Machine}
    (ended : run session.machine = .ok result after) :
    session.perform run = (.finished result, { session with machine := after }) := by
  unfold perform
  rw [ended]

theorem perform_finished {α : Type} {run : Run α} {result : α}
    (finished : (session.perform run).1 = .finished result) :
    ∃ after, run session.machine = .ok result after := by
  unfold perform at finished
  split at finished
  · rename_i value after ended
    cases finished
    exact ⟨after, ended⟩
  · cases finished
  · cases finished

/-- Where a first part has ended, what goes on is run on the machine that is left. -/
theorem perform_bind {α β : Type} {run : Run α} {next : α → Run β} {result : α} {after : Machine}
    (ended : run session.machine = .ok result after) :
    session.perform (run >>= next) =
      { session with machine := after }.perform (next result) := by
  unfold perform
  rw [bind_ok ended]

/-- What an accepted source does in a session. -/
theorem run_reading (session : Session) {source : String} {high : Reference}
    {statements : List Statement} {distances : Distances}
    (reading : Source.Reading source session.nextReference high statements distances)
    (depth : Nat) :
    session.run depth source = ({ session with nextReference := high }.learn distances).perform
      (interpret depth statements) := by
  unfold Session.run readProgram
  simp only [reading.scanned, reading.parsed, reading.resolved]

end Session

/-! ### Two sources -/

/-- The session with the texts of its functions on a line on which no token is. -/
def Session.withoutLines (session : Session) : Session :=
  let functions := session.machine.heap.functions.map fun object => object.reline fun _ => 0
  ⟨session.machine.beside functions session.machine.distances, session.nextReference⟩

/-- Two sources that are run after the steps of a session. -/
structure Joint where
  capacity : Option Nat
  clock : Clock
  steps : List Step
  depth : Nat
  first : String
  second : String

/-- What is compared with the session in which the second source is run behind the first one: that
in which both are one source, and that in which nothing but the second source has lines. -/
inductive Aside where
  | joined
  | erased

namespace Joint

section

variable (joint : Joint)

/-- The session in which the sources are run. -/
def session : Session := (Session.start joint.capacity joint.clock).after joint.steps

/-- Both sources as one. -/
def source : String := joint.first ++ "\n" ++ joint.second

/-- The first source is run. -/
def before : Outcome Unit × Session := joint.session.run joint.depth joint.first

/-- Then the second source is run. -/
def apart : Outcome Unit × Session := joint.before.2.run joint.depth joint.second

/-- Or it is run where nothing else has lines. -/
def erased : Outcome Unit × Session := joint.before.2.withoutLines.run joint.depth joint.second

/-- Both sources are run as one. -/
def joined : Outcome Unit × Session := joint.session.run joint.depth joint.source

/-- The lines of a part: the second source is the late one, and all that was run before it the early
one. -/
def has : Part → Nat → Prop
  | .early, line => Source.OnLine joint.first line ∨
      ∃ step ∈ joint.steps, ∃ source ∈ step.source?, Source.OnLine source line
  | .late, line => Source.OnLine joint.second line

/-- What the lines of a part become. -/
def line : Aside → Part → Nat → Nat
  | .joined, .early => id
  | .joined, .late => Source.lineBehind joint.first
  | .erased, .early => fun _ => 0
  | .erased, .late => id

/-- Both sources as one end like the second one behind the first one. An error in the text of the
second source, which has its line also where nothing else has one, is moved behind the lines of the
first source; any other stays where it is. -/
inductive SameOutcome : (erased apart joined : Outcome Unit) → Prop
  | finished : SameOutcome (.finished ()) (.finished ()) (.finished ())
  | early {problem line} : joint.has .early line →
      SameOutcome (.failed [.runtime (.located problem 0)])
        (.failed [.runtime (.located problem line)]) (.failed [.runtime (.located problem line)])
  | late {problem line} : joint.has .late line → 0 < line →
      SameOutcome (.failed [.runtime (.located problem line)])
        (.failed [.runtime (.located problem line)])
        (.failed [.runtime (.located problem (Source.lineBehind joint.first line))])
  | output {problem} : SameOutcome (.failed [.runtime (.output problem)])
      (.failed [.runtime (.output problem)]) (.failed [.runtime (.output problem)])
  | exhausted : SameOutcome .exhausted .exhausted .exhausted

/-- Both sources as one leave the same as the second one behind the first one, but for lines. The
functions that were there before the second source have the same text; that of another one is from
the second source, and then its lines are moved, or it is not. -/
structure SameSession (before erased apart joined : Session) : Prop where
  sink : joined.machine.sink = apart.machine.sink
  clock : joined.machine.clock = apart.machine.clock
  frames : joined.machine.heap.frames = apart.machine.heap.frames
  classes : joined.machine.heap.classes = apart.machine.heap.classes
  instances : joined.machine.heap.instances = apart.machine.heap.instances
  natives : joined.machine.heap.natives = apart.machine.heap.natives
  size : joined.machine.heap.functions.size = apart.machine.heap.functions.size
  kept : ∀ place < before.machine.heap.functions.size,
    joined.machine.heap.functions[place]? = apart.machine.heap.functions[place]?
  functions : ∀ {place : FunctionId} {object},
    apart.machine.heap.functions[place]? = some object → ∃ part,
      object.declaration.Shaped (.onLines (joint.has part)) ∧
      joined.machine.heap.functions[place]? = some (object.reline (joint.line .joined part)) ∧
      erased.machine.heap.functions[place]? = some (object.reline (joint.line .erased part))
  distances : ∀ reference : Reference,
    joined.machine.distances[reference]? = apart.machine.distances[reference]?
  current : joined.machine.current = apart.machine.current
  callDepth : joined.machine.callDepth = apart.machine.callDepth
  nextReference : joined.nextReference = apart.nextReference

/-- How the machines beside that of the session differ from it when the second source begins. -/
def layout (between : Machine) (known further : Distances) : Layout Aside where
  has := joint.has
  line := joint.line
  known := known
  knownIn
    | .joined => further
    | .erased => known
  fixed := between.heap.functions.size

end

variable {joint : Joint} {between : Machine} {known further : Distances}

theorem has_late_pos {line : Nat} (present : joint.has .late line) : 0 < line := by
  obtain ⟨token, member, rfl⟩ := present
  exact Source.scan_line_pos member

theorem sameOutcome_of_ends (apart : Session) (aside : Aside → Session) {run : Run Unit}
    {others : Aside → Run Unit}
    (ends : (joint.layout between known further).Ends (run apart.machine) fun world =>
      others world (aside world).machine) :
    joint.SameOutcome ((aside .erased).perform (others .erased)).1 (apart.perform run).1
        ((aside .joined).perform (others .joined)).1 ∧
      (joint.layout between known further).Alike (apart.perform run).2.machine fun world =>
        ((aside world).perform (others world)).2.machine := by
  unfold Session.perform
  generalize run apart.machine = result at ends ⊢
  generalize isOther : (fun world => others world (aside world).machine) = results at ends
  simp only [fun world => congrFun isOther world]
  cases ends with
  | ok alike => exact ⟨.finished, alike⟩
  | error stops alike =>
    cases stops with
    | exhausted => exact ⟨.exhausted, alike⟩
    | error moves =>
      cases moves with
      | output => exact ⟨.output, alike⟩
      | @located problem part line present =>
        cases part with
        | early => exact ⟨.early present, alike⟩
        | late => exact ⟨.late present (has_late_pos present), alike⟩

theorem sameSession_of_alike (before : Session) {apart : Session} (aside : Aside → Session)
    (alike : (joint.layout before.machine known further).Alike apart.machine fun world =>
      (aside world).machine)
    (distances : ∀ reference : Reference, further[reference]? = known[reference]?)
    (nextReference : (aside .joined).nextReference = apart.nextReference) :
    joint.SameSession before (aside .erased) apart (aside .joined) where
  sink := alike.sink .joined
  clock := alike.clock .joined
  frames := alike.frames .joined
  classes := alike.classes .joined
  instances := alike.instances .joined
  natives := alike.natives .joined
  size := alike.size .joined
  kept place wasThere := by
    have present := Array.getElem?_eq_getElem (Nat.lt_of_lt_of_le wasThere alike.fixed)
    obtain ⟨part, _, isOther, fixed⟩ := alike.functions present
    obtain rfl := fixed wasThere
    rw [present, isOther .joined]
    exact congrArg some (FunctionObject.reline_id _)
  functions found := by
    obtain ⟨part, tells, isOther, _⟩ := alike.functions found
    exact ⟨part, tells.shaped, isOther .joined, isOther .erased⟩
  distances reference := by
    rw [(alike.distances .joined).1, (alike.distances .joined).2]
    exact distances reference
  current := alike.current .joined
  callDepth := alike.callDepth .joined
  nextReference := nextReference

end Joint

/-! ### The first source -/

/-- A program does not notice what is known beyond a limit below which all references are, its own
and those of the functions that there are. -/
theorem Machine.Settled.interpret_learn {machine between : Machine} {has : Nat → Prop}
    (settled : machine.Settled has) {statements : List Statement} {depth : Nat} {limit : Reference}
    {distances further : Distances} (shaped : Statement.AllShaped (.onLines has) statements)
    (bounded : ∀ reference ∈ Statement.allReferences statements, reference < limit)
    (functions : ∀ {place : FunctionId} {object}, machine.heap.functions[place]? = some object →
      ∀ reference ∈ object.declaration.references, reference < limit)
    (agree : ∀ reference < limit, further[reference]? = distances[reference]?)
    (ran : Lox.interpret depth statements (machine.learn distances) = .ok () between) :
    between.distances = (machine.learn distances).distances ∧
      Lox.interpret depth statements (machine.learn further) =
        .ok () { between with distances := (machine.learn further).distances } := by
  let layout : Layout Unit := ⟨fun _ => has, fun _ _ => id, (machine.learn distances).distances,
    fun _ => (machine.learn further).distances, 0⟩
  have agrees {references : List Reference}
      (small : ∀ reference ∈ references, reference < limit) : layout.Agrees references := by
    intro reference member _
    show (machine.learn further).distances[reference]? =
      (machine.learn distances).distances[reference]?
    rw [learn_getElem?, learn_getElem?, agree reference (small reference member)]
  have learned : (machine.learn distances).Settled has := ⟨settled.shaped, settled.named⟩
  have alike := layout.alike_of_settled learned (fun found => agrees (functions found)) rfl
    (Nat.zero_le _)
  have started : layout.Alike (machine.learn distances) fun _ => machine.learn further := by
    simp only [show ∀ world, layout.line world .early = id from fun _ => rfl,
      Array.map_reline_id] at alike
    exact alike
  have ends := (layout.interpret_matches depth
    (show Statement.AllShaped (layout.words .early) statements from shaped) (agrees bounded)).ends
    started
  have same (world : Unit) : Statement.relabelAll (layout.labels world .early) statements =
      statements := Statement.relabelAll_same statements
  simp only [same] at ends
  rw [ran] at ends
  generalize isOther : (fun _ : Unit => Lox.interpret depth statements (machine.learn further)) =
    results at ends
  cases ends with
  | ok alike =>
    refine ⟨(alike.distances ()).1, (congrFun isOther ()).trans ?_⟩
    exact congrArg (EStateM.Result.ok ()) (alike.eq_of_stays () fun _ => rfl)

/-! ### The second source -/

/-- What a source finds out is about its own references alone. -/
theorem Source.Reading.unknown {source : String} {low high : Reference}
    {statements : List Statement} {distances : Distances}
    (reading : Source.Reading source low high statements distances) {reference : Reference}
    (before : reference < low) : distances[reference]? = none := by
  have ⟨shaped, fresh⟩ :=
    Grammar.parseProgram_read (Source.scan_admitted source) reading.parsed
  have ⟨_, only⟩ := resolveProgram_placed shaped fresh.distinct reading.resolved
  exact only reference fun member =>
    absurd (fresh.bounded reference member).1 (Nat.not_le.mpr before)

namespace Joint

/-- The sessions beside that of the second source when it begins; the one of both sources knows what
it has found out about both. -/
def aside (between : Machine) (distances further : Distances) (high : Reference) :
    Aside → Session
  | .joined => ⟨{ between with distances := further }, high⟩
  | .erased => (⟨between, high⟩ : Session).withoutLines.learn distances

/-- The second source does the same on the lines it has beside. -/
theorem ends_second {joint : Joint} {between : Machine} {low high : Reference}
    {statements : List Statement} {distances further : Distances}
    (settled : between.Settled (joint.has .early))
    (reading : Source.Reading joint.second low high statements distances) (depth : Nat)
    (same : ∀ reference : Reference,
      further[reference]? = (between.learn distances).distances[reference]?) :
    (joint.layout between (between.learn distances).distances further).Ends
      (interpret depth statements (between.learn distances)) fun world =>
        interpret depth (Statement.relabelAll (.lines (joint.line world .late)) statements)
          (aside between distances further high world).machine := by
  let layout := joint.layout between (between.learn distances).distances further
  have learned : (between.learn distances).Settled (layout.has .early) :=
    ⟨settled.shaped, settled.named⟩
  have agrees (references : List Reference) : layout.Agrees references := fun reference _ world =>
    match world with
    | .joined => same reference
    | .erased => rfl
  have alike := layout.alike_of_settled learned (fun _ => agrees _) rfl (Nat.le_refl _)
  have ⟨shaped, _⟩ : Statement.AllShaped (layout.words .late) statements ∧ _ :=
    Grammar.parseProgram_read (Source.scan_onLines fun _ => id) reading.parsed
  refine Layout.Matches.ends_of_eq
    ((layout.interpret_matches depth shaped (agrees _)).ends alike) fun world => ?_
  cases world with
  | joined =>
    show _ = interpret depth (Statement.relabelAll (.lines (joint.line .joined .late)) statements)
      (between.learn distances |>.beside
        (between.heap.functions.map (·.reline id)) further)
    rw [Array.map_reline_id]
    rfl
  | erased => rfl

end Joint

/-! ### Both sources -/

/-- Two accepted sources, of which the first runs to its end, are run in a session. As one source
with a line end between them they are accepted, too, and in that session they end in the same way,
have printed the same and leave the same behind, but that the lines of the second source, and no
others, are moved behind those of the first one. -/
theorem session_joined (joint : Joint) (accepted : Source.Accepted joint.first)
    (acceptedToo : Source.Accepted joint.second)
    (finished : joint.before.1 = .finished ()) :
    Source.Accepted joint.source ∧
      joint.SameOutcome joint.erased.1 joint.apart.1 joint.joined.1 ∧
      joint.SameSession joint.before.2 joint.erased.2 joint.apart.2 joint.joined.2 := by
  have sound : Session.Sound _ joint.session :=
    Session.after_sound (Session.start_sound _ joint.capacity joint.clock) joint.steps
  have settled : joint.session.machine.Settled (joint.has .early) :=
    Session.settled_after (Session.settled_start joint.capacity joint.clock _) joint.steps
      fun step member source isSource line onLine => .inr ⟨step, member, source, isSource, onLine⟩
  obtain ⟨middle, first, early, reading⟩ := accepted.reading joint.session.nextReference
  obtain ⟨high, second, late, readingToo⟩ := acceptedToo.reading middle
  obtain ⟨distances, readingBoth, both⟩ := reading.append readingToo
  refine ⟨accepted.append acceptedToo, ?_⟩
  have isFirst : joint.before = _ := joint.session.run_reading reading joint.depth
  rw [isFirst] at finished
  obtain ⟨between, ran⟩ := Session.perform_finished finished
  have before : joint.before.2 = ⟨between, middle⟩ := by
    rw [isFirst, Session.perform_ok ran]
    rfl
  -- the first source does not notice that what is found out about the second one is known
  have ⟨shaped, fresh⟩ := Grammar.parseProgram_read
    (Source.scan_onLines fun _ onLine => (.inl onLine : joint.has .early _)) reading.parsed
  have ⟨known, ranToo⟩ := settled.interpret_learn shaped
    (fun reference member => (fresh.bounded reference member).2)
    (fun found reference member =>
      Nat.lt_of_lt_of_le (sound.machine.functions found reference member) fresh.ordered)
    (fun reference small =>
      (both reference).trans (by rw [readingToo.unknown small, Option.none_or])) ran
  -- and behind it the same is known as in the session
  let further := (joint.session.machine.learn distances).distances
  have sameKnown (reference : Reference) :
      further[reference]? = (between.learn late).distances[reference]? := by
    rw [Machine.learn_getElem?, Machine.learn_getElem?, both, known, Machine.learn_getElem?,
      Option.or_assoc]
  have learned : (joint.session.machine.learn early).Settled (joint.has .early) :=
    ⟨settled.shaped, settled.named⟩
  have ends := Joint.ends_second (learned.finished shaped ran) readingToo joint.depth sameKnown
  let again (world : Aside) : Run Unit :=
    interpret joint.depth (Statement.relabelAll (.lines (joint.line world .late)) second)
  let aside := Joint.aside between late further high
  have apart : joint.apart =
      ((⟨between, high⟩ : Session).learn late).perform (interpret joint.depth second) := by
    unfold Joint.apart
    rw [before]
    exact Session.run_reading ⟨between, middle⟩ readingToo joint.depth
  have erased : joint.erased = (aside .erased).perform (again .erased) := by
    have stays : again .erased = interpret joint.depth second :=
      congrArg (interpret joint.depth) (Statement.relabelAll_same second)
    unfold Joint.erased
    rw [before, stays]
    exact (⟨between, middle⟩ : Session).withoutLines.run_reading readingToo joint.depth
  have joined : joint.joined = (aside .joined).perform (again .joined) := by
    have isBoth : joint.joined = _ := joint.session.run_reading readingBoth joint.depth
    rw [interpret_append] at isBoth
    exact isBoth.trans (Session.perform_bind ranToo)
  have ⟨sameOutcome, alike⟩ :=
    Joint.sameOutcome_of_ends ((⟨between, high⟩ : Session).learn late) aside ends
  rw [before, apart, erased, joined]
  refine ⟨sameOutcome, Joint.sameSession_of_alike ⟨between, middle⟩
    (fun world => ((aside world).perform (again world)).2) alike sameKnown ?_⟩
  simp only [Session.perform_nextReference]
  rfl

/-- A variable is called that the source before declares: the error is one line further down. -/
theorem session_joined_calledBehind :
    ∃ joint : Joint, (Source.Accepted joint.first ∧ Source.Accepted joint.second ∧
        joint.before.1 = .finished ()) ∧
      (Source.Accepted joint.source ∧
        joint.SameOutcome joint.erased.1 joint.apart.1 joint.joined.1 ∧
        joint.SameSession joint.before.2 joint.erased.2 joint.apart.2 joint.joined.2) ∧
      joint.apart.1 = .failed [.runtime (.located .notCallable 1)] ∧
      joint.joined.1 = .failed [.runtime (.located .notCallable 2)] := by
  have accepted : Source.Accepted "var a;" :=
    ⟨0, [.declareVariable ⟨"a", 1⟩ none], ∅, rfl, rfl, rfl⟩
  have acceptedToo : Source.Accepted "a();" :=
    ⟨1, [.expression (.call (.read 0 ⟨"a", 1⟩) 1 [])], ∅, rfl, rfl, rfl⟩
  exact ⟨⟨none, ⟨0⟩, [], 3, "var a;", "a();"⟩, ⟨accepted, acceptedToo, rfl⟩,
    session_joined _ accepted acceptedToo rfl, rfl, rfl⟩

end Lox
