/-
Braces around statements change nothing. A source with braces around some statements of an accepted
one is accepted, too, and in a session both do the same: they write the same, and one ends if the
other one does, in the same way but for the line of an error. At the beginning of a source the heap
is a pair with itself, in which every frame belongs to itself alone.
-/

import Lox.Proofs.Grammar.Spelled
import Lox.Proofs.Run.Batch
import Lox.Proofs.Run.Twin

namespace Lox

open Scope Grammar

/-! ### Frames of environments -/

/-- The way outward from the frame of an environment ends at the global frame. -/
theorem Environment.Aligned.chained {heap : Heap} {environment : Environment} {frame : FrameId}
    (aligned : environment.Aligned heap frame)
    (outermost : heap.frames.enclosing? Heap.globalFrame = none)
    (room : Heap.globalFrame < heap.frames.size) : heap.frames.Chained frame := by
  induction environment generalizing frame with
  | nil =>
    obtain rfl : frame = Heap.globalFrame := aligned
    intro distance outer isOuter
    cases distance with
    | zero =>
      cases isOuter
      exact room
    | succ distance =>
      rw [Frames.ancestor?, outermost] at isOuter
      cases isOuter
  | cons innermost others inductionHypothesis =>
    obtain ⟨_, _, _, _, enclosing, enclosed, around⟩ := aligned
    intro distance outer isOuter
    cases distance with
    | zero =>
      cases isOuter
      exact Frames.lt_size_of_enclosing? enclosed
    | succ distance =>
      rw [Frames.ancestor?, enclosed] at isOuter
      exact inductionHypothesis around distance outer isOuter

/-! ### A heap beside itself -/

namespace Pair

/-- The heap beside itself: every frame belongs to itself. -/
def ofHeap (known knownToo : Distances) (heap : Heap) : Pair known knownToo where
  left := heap
  right := heap
  frames frame other := frame = other ∧ frame < heap.frames.size

variable {known knownToo : Distances} {heap : Heap}

theorem linked_ofHeap {frame : FrameId} (chained : heap.frames.Chained frame) :
    (ofHeap known knownToo heap).Linked .same frame frame := by
  refine ⟨chained, chained, fun {distance other} aligned => ?_⟩
  obtain rfl : distance = other := aligned
  show Option.Rel _ (heap.frames.ancestor? frame distance) (heap.frames.ancestor? frame distance)
  cases isOuter : heap.frames.ancestor? frame distance with
  | none => exact .none
  | some outer => exact .some ⟨rfl, chained distance outer isOuter⟩

variable {start session : Session}

/-- A function that there is between two sources does the same on both sides, whatever is known
about references that are still unused. -/
theorem function_ofHeap (sound : Session.Sound start session)
    (agree : ∀ reference < session.nextReference, known[reference]? = knownToo[reference]?)
    {id : FunctionId} {object : FunctionObject}
    (found : session.machine.heap.functions[id]? = some object) {environment : Environment}
    (aligned : environment.Aligned session.machine.heap object.closure) :
    (ofHeap known knownToo session.machine.heap).Linked .same object.closure object.closure ∧
      Twin (.known known knownToo) .same (.function object.declaration object.declaration) :=
  ⟨linked_ofHeap (aligned.chained sound.machine.outermost sound.machine.room),
    object.declaration.twin (Ties.fixes_known fun reference member =>
      agree reference (sound.machine.functions found reference member))⟩

theorem usable_ofHeap (sound : Session.Sound start session)
    (agree : ∀ reference < session.nextReference, known[reference]? = knownToo[reference]?)
    {value : Value}
    (good : (Watch.innermost start session.nextReference []).Good session.machine value) :
    (ofHeap known knownToo session.machine.heap).Usable value := by
  have runs {id : FunctionId}
      (closed : (Watch.innermost start session.nextReference []).Closed session.machine id) :
      (ofHeap known knownToo session.machine.heap).Runs id := by
    obtain ⟨environment, _, _, _, ⟨_, object, found, aligned, _⟩, _⟩ := closed
    have ⟨linked, twin⟩ := function_ofHeap sound agree found aligned
    exact ⟨.same, object, object, found, found, linked, twin, fun _ => rfl⟩
  cases value with
  | callable callable =>
    cases callable with
    | function id => exact runs good
    | method id => exact runs good
    | _ => trivial
  | _ => trivial

/-- Between two sources the heap is a pair with itself. -/
theorem holds_ofHeap (sound : Session.Sound start session)
    (agree : ∀ reference < session.nextReference, known[reference]? = knownToo[reference]?) :
    (ofHeap known knownToo session.machine.heap).Holds where
  globals := ⟨rfl, sound.machine.room⟩
  present := by
    rintro frame _ ⟨rfl, present⟩
    exact ⟨present, present⟩
  unique := by
    rintro frame _ other _ ⟨rfl, _⟩ ⟨rfl, _⟩
    exact Iff.rfl
  reads := by
    rintro frame _ ⟨rfl, _⟩ name
    rfl
  values _ bound := usable_ofHeap sound agree (sound.machine.values bound)
  size := rfl
  resembles _ := ⟨rfl, rfl, rfl⟩
  classes := rfl
  instances := rfl
  natives := rfl
  fields {id name value} isSet := by
    have isSet : (session.machine.heap.instanceAt id).fields.get? name = some value := isSet
    cases found : session.machine.heap.instances[id]? with
    | none =>
      rw [Heap.instanceAt_of_none found] at isSet
      exact nomatch isSet
    | some object =>
      rw [Heap.instanceAt_of_some found] at isSet
      exact usable_ofHeap sound agree (sound.machine.fields found isSet)
  methods {id name method} isMethod := by
    have isMethod : (session.machine.heap.classAt id).methods.get? name = some method := isMethod
    cases found : session.machine.heap.classes[id]? with
    | none =>
      rw [Heap.classAt_of_none found] at isMethod
      exact nomatch isMethod
    | some object =>
      rw [Heap.classAt_of_some found] at isMethod
      obtain ⟨environment, _, _, _, ⟨⟨object, found, aligned, _⟩, _⟩, _⟩ :=
        sound.machine.methods found isMethod
      obtain ⟨linked, twin⟩ := function_ofHeap sound agree found aligned
      exact ⟨.same, object, object, found, found, linked, Alignment.inside_same.symm ▸ twin⟩

end Pair

/-! ### Sources that do the same -/

/-- The runs end in the same way, but for the line of an error. -/
inductive Outcome.EndsLike : Outcome Unit → Outcome Unit → Prop
  | finished : EndsLike (.finished ()) (.finished ())
  | failed {error errorToo : RuntimeError} : error.SameProblem errorToo →
    EndsLike (.failed [.runtime error]) (.failed [.runtime errorToo])

namespace Session

/-- The runs of two sources end in the same way and have written the same. -/
structure SameRun (one other : Outcome Unit × Session) : Prop where
  outcome : one.1.EndsLike other.1
  sink : other.2.machine.sink = one.2.machine.sink
  clock : other.2.machine.clock = one.2.machine.clock

/-- Whenever the source ends, so does the other one, in the same way, within every depth that is
great enough. -/
def Matched (session : Session) (source other : String) : Prop :=
  ∀ depth, (session.run depth source).1 ≠ .exhausted →
    ∃ least, ∀ depthToo, least ≤ depthToo →
      SameRun (session.run depth source) (session.run depthToo other)

theorem sameRun_of_ends {known knownToo : Distances} {pair : Pair known knownToo}
    {current currentToo : FrameId} (one other : Session) {run : Run Unit} {runs : Nat → Run Unit}
    (ends : pair.Ends current currentToo Pair.Same (run one.machine)
      fun depth => runs depth other.machine)
    (ended : (one.perform run).1 ≠ .exhausted) :
    ∃ least, ∀ depth, least ≤ depth → SameRun (one.perform run) (other.perform (runs depth)) := by
  unfold perform at ended ⊢
  generalize run one.machine = result at ends ended ⊢
  generalize isResults : (fun depth => runs depth other.machine) = results at ends
  have isResult (depth : Nat) : runs depth other.machine = results depth := congrFun isResults depth
  cases ends with
  | ok least _ joins _ eventually =>
    refine ⟨least, fun depth bound => ?_⟩
    rw [isResult, eventually depth bound]
    exact ⟨.finished, joins.sink, joins.clock⟩
  | error least _ joins sameProblem eventually =>
    refine ⟨least, fun depth bound => ?_⟩
    rw [isResult, eventually depth bound]
    exact ⟨.failed sameProblem, joins.sink, joins.clock⟩
  | exhausted => exact absurd rfl ended

variable {start session : Session} {source other : String} {high highToo : Reference}
  {statements statementsToo : List Statement} {distances distancesToo : Distances}

/-- Sources whose trees are twins do the same. -/
theorem matched_of_twins (sound : Sound start session)
    (reading : Source.Reading source session.nextReference high statements distances)
    (readingToo : Source.Reading other session.nextReference highToo statementsToo distancesToo)
    (twins : Twin (.known (session.machine.learn distances).distances
      (session.machine.learn distancesToo).distances) .same
      (.statements statements statementsToo)) :
    session.Matched source other := by
  intro depth ended
  have agree (reference : Reference) (small : reference < session.nextReference) :
      (session.machine.learn distances).distances[reference]? =
        (session.machine.learn distancesToo).distances[reference]? := by
    rw [Machine.learn_absent (reading.unknown small),
      Machine.learn_absent (readingToo.unknown small)]
  have holds := Pair.holds_ofHeap sound agree
  have joins : (Pair.ofHeap _ _ session.machine.heap).Joins session.machine.current
      session.machine.current (session.machine.learn distances)
      (session.machine.learn distancesToo) :=
    ⟨rfl, rfl, holds, rfl, rfl, rfl, rfl, rfl, rfl, rfl⟩
  have aligned : Environment.Aligned session.machine.heap [] session.machine.current :=
    sound.outermost
  have chained := aligned.chained sound.machine.outermost sound.machine.room
  have ends := (Pair.interpret_follows depth (Pair.linked_ofHeap chained) twins).ends joins
  simp only [session.run_reading reading, session.run_reading readingToo] at ended ⊢
  exact sameRun_of_ends _ _ ends ended

/-- What is known about a program when it is run. -/
theorem placed_learn (sound : Sound start session)
    (reading : Source.Reading source session.nextReference high statements distances) :
    Statement.AllPlaced (tableOf (session.machine.learn distances).distances) [] statements := by
  have ⟨shaped, fresh⟩ := parseProgram_read (Source.scan_admitted source) reading.parsed
  have ⟨placed, _⟩ := resolveProgram_placed shaped fresh.distinct reading.resolved
  refine Statement.AllPlaced.mono statements (fun reference member distance isKnown => ?_) placed
  exact (Machine.learn_unknown (sound.unused reference (fresh.bounded reference member).1)).trans
    isKnown

end Session

/-! ### Braces -/

/-- The source consists of the tokens of the derivation, which tells how they are read. -/
structure Source.Derives (source : String) (program : Derivation .program) : Prop where
  scanned : scan source = (program.tokens, [])
  regular : program.Regular []

namespace Source

variable {source other : String} {program programToo : Derivation .program}

/-- An accepted source is derived. -/
theorem Accepted.derives (accepted : Accepted source) : ∃ program, Derives source program := by
  obtain ⟨high, statements, distances, reading⟩ := accepted
  obtain ⟨body, last, isTokens, onlyEnd⟩ := scan_onlyEnd source
  have parsed := reading.parsed
  rw [isTokens] at parsed
  obtain ⟨program, isProgram, _, _, regular⟩ := onlyEnd.program parsed
  exact ⟨program, Prod.ext (isTokens.trans isProgram.symm) reading.scanned, regular⟩

theorem Derives.parsed (derives : Derives source program) (low : Reference) :
    parseProgram (scan source).1 low = (.ok (program.tree low), low + program.drawn) := by
  rw [derives.scanned]
  exact program.parseProgram_tokens low derives.regular

/-- The statements of a source that is derived are the tree of the derivation. -/
theorem Reading.isTree {low high : Reference} {statements : List Statement} {distances : Distances}
    (reading : Reading source low high statements distances) (derives : Derives source program) :
    statements = program.tree low :=
  Except.ok.inj (Prod.mk.inj (reading.parsed.symm.trans (derives.parsed low))).1

/-- With loops spelled out and braces around statements a source is still accepted. -/
theorem Reading.spelled {low high : Reference} {statements : List Statement} {distances : Distances}
    (reading : Reading source low high statements distances) (derives : Derives source program)
    (spelled : program.Spelled programToo) (scanned : scan other = (programToo.tokens, [])) :
    Twin .loose .same (.statements statements (programToo.tree low)) ∧
      ∃ distancesToo, Reading other low (low + programToo.drawn) (programToo.tree low)
        distancesToo := by
  have twins : Twin .loose .same (.statements statements (programToo.tree low)) := by
    rw [reading.isTree derives]
    exact spelled.twins .same low low fun _ => rfl
  have derivesToo : Derives other programToo :=
    ⟨scanned, spelled.regular derives.regular fun none => none⟩
  obtain ⟨distancesToo, resolved⟩ := twins.resolveProgram id reading.resolved
  exact ⟨twins, distancesToo, congrArg Prod.snd scanned, derivesToo.parsed low, resolved⟩

theorem Reading.braced {low high : Reference} {statements : List Statement} {distances : Distances}
    (reading : Reading source low high statements distances) (derives : Derives source program)
    (braced : program.Braced programToo) (scanned : scan other = (programToo.tokens, [])) :
    Twin .loose .same (.statements statements (programToo.tree low)) ∧
      ∃ distancesToo, Reading other low (low + programToo.drawn) (programToo.tree low)
        distancesToo :=
  reading.spelled derives braced.spelled scanned

end Source

/-- Every accepted source is derived by the grammar. Put braces around whatever statements of it:
the source is still accepted, and after whatever steps of a session both do the same. Whichever of
them ends, the other one ends, too, and both write the same and end in the same way, but for the
line of an error. -/
theorem session_braced {source : String} (accepted : Source.Accepted source) :
    (∃ program, Source.Derives source program) ∧
    ∀ {program programToo : Derivation .program} {other : String}, Source.Derives source program →
      program.Braced programToo → Source.scan other = (programToo.tokens, []) →
      Source.Accepted other ∧ ∀ capacity clock steps,
        ((Session.start capacity clock).after steps).Matched source other ∧
        ((Session.start capacity clock).after steps).Matched other source := by
  refine ⟨accepted.derives, fun {program programToo other} derives braced scanned => ?_⟩
  refine ⟨?_, fun capacity clock steps => ?_⟩
  · obtain ⟨_, _, _, reading⟩ := accepted
    obtain ⟨_, distancesToo, readingToo⟩ := reading.braced derives braced scanned
    exact ⟨_, _, distancesToo, readingToo⟩
  · have sound : Session.Sound _ ((Session.start capacity clock).after steps) :=
      Session.after_sound (Session.start_sound _ capacity clock) steps
    obtain ⟨_, _, _, reading⟩ :=
      accepted.reading ((Session.start capacity clock).after steps).nextReference
    obtain ⟨loose, _, readingToo⟩ := reading.braced derives braced scanned
    have twins := loose.tied id .top
      ⟨Session.placed_learn sound reading, Session.placed_learn sound readingToo⟩
    refine ⟨Session.matched_of_twins sound reading readingToo twins,
      Session.matched_of_twins sound readingToo reading ?_⟩
    rw [← Alignment.swap_same]
    exact twins.swap_known

/-- The program `{var a;print a;}`, with something around the last statement. -/
def innerPrint (around : Derivation .statement → Derivation .statement) : Derivation .program :=
  .wholeProgram
    (.moreDeclarations
      (.statementDeclaration (.blockStatement (.braces ⟨"\x7b", 1⟩
        (.moreDeclarations
          (.variableDeclaration (.uninitialized ⟨"var", 1⟩ ⟨"a", 1⟩ ⟨";", 1⟩))
          (.moreDeclarations
            (.statementDeclaration
              (around (.printStatement ⟨"print", 1⟩ (Derivation.bareName ⟨"a", 1⟩) ⟨";", 1⟩)))
            .noDeclarations))
        ⟨"\x7d", 1⟩)))
      .noDeclarations)
    ⟨"", 1⟩

/-- With braces around it, the `print` finds the variable one scope further out. -/
theorem session_braced_innerPrint :
    ∃ source other programToo, (Source.Accepted source ∧ Source.Derives source (innerPrint id) ∧
        (innerPrint id).Braced programToo ∧ Source.scan other = (programToo.tokens, [])) ∧
      Source.Accepted other ∧ (Session.start none ⟨0⟩).Matched source other ∧
      (Session.start none ⟨0⟩).Matched other source ∧
      ((Session.start none ⟨0⟩).run 4 source).1 = .finished () := by
  have accepted : Source.Accepted "\x7bvar a;print a;\x7d" :=
    ⟨1, [.block [.declareVariable ⟨"a", 1⟩ none, .print (.read 0 ⟨"a", 1⟩)]], {(0, 0)},
      rfl, rfl, rfl⟩
  have derives : Source.Derives "\x7bvar a;print a;\x7d" (innerPrint id) :=
    ⟨rfl, ⟨⟨trivial, trivial, trivial⟩, trivial⟩⟩
  have braced : (innerPrint id).Braced (innerPrint (.inBraces ⟨"\x7b", 1⟩ · ⟨"\x7d", 1⟩)) :=
    .wholeProgram (.moreDeclarations
      (.statementDeclaration (.blockStatement (.braces (.moreDeclarations (.refl _)
        (.moreDeclarations (.statementDeclaration (.inBraces (.refl _))) (.refl _))))))
      (.refl _))
  have scanned : Source.scan "\x7bvar a;\x7bprint a;\x7d\x7d" =
      ((innerPrint (.inBraces ⟨"\x7b", 1⟩ · ⟨"\x7d", 1⟩)).tokens, []) := rfl
  have ⟨acceptedToo, matched⟩ := (session_braced accepted).2 derives braced scanned
  exact ⟨_, _, _, ⟨accepted, derives, braced, scanned⟩, acceptedToo, (matched none ⟨0⟩ []).1,
    (matched none ⟨0⟩ []).2, rfl⟩

end Lox
