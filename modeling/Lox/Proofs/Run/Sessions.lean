/-
Between two sources the machine is sound, runs in the global frame and knows no reference that is
still unused. A source that is accepted adds what it needs to be run: its own references, which
nothing before it has, and their distances.
-/

import Lox.Proofs.Grammar.Program
import Lox.Proofs.Scope.Accepted
import Lox.Proofs.Source.Spelling
import Lox.Proofs.Run.Nodes

namespace Lox

open Scope

variable {start session : Session} {machine : Machine} {environment : Environment}

/-! ### Learning distances -/

namespace Machine

/-- Of two lots of distances the one that is learned is kept. -/
theorem getElem?_insertAll (entries : List (Reference × Nat)) (known : Distances)
    (reference : Reference) (distance : Option Nat)
    (agree : ∀ entry ∈ entries, entry.1 = reference → distance = some entry.2)
    (found : (∀ entry ∈ entries, entry.1 ≠ reference) → known[reference]? = distance) :
    (entries.foldl (fun known entry => known.insert entry.1 entry.2) known)[reference]? =
      distance := by
  induction entries generalizing known with
  | nil => exact found fun _ member => absurd member List.not_mem_nil
  | cons entry others inductionHypothesis =>
    refine inductionHypothesis _
      (fun other member => agree other (List.mem_cons_of_mem _ member)) ?_
    intro others
    show (known.insert entry.1 entry.2)[reference]? = distance
    rw [Std.TreeMap.getElem?_insert]
    split
    · rename_i same
      exact (agree entry List.mem_cons_self (Std.LawfulEqCmp.eq_of_compare same)).symm
    · rename_i different
      refine found fun other member isReference => ?_
      rcases List.mem_cons.mp member with rfl | inOthers
      · exact different (by rw [isReference]; exact Std.ReflCmp.compare_self)
      · exact others other inOthers isReference

/-- What is learned about a reference is what is new, and otherwise what was known. -/
theorem learn_getElem? (machine : Machine) (distances : Distances) (reference : Reference) :
    (machine.learn distances).distances[reference]? =
      distances[reference]?.or machine.distances[reference]? := by
  unfold learn
  dsimp only
  rw [Std.TreeMap.foldl_eq_foldl_toList]
  refine getElem?_insertAll _ _ _ _ ?_ ?_
  · intro entry member same
    rw [← same, Std.TreeMap.mem_toList_iff_getElem?_eq_some.mp member]
    rfl
  · intro absent
    cases found : distances[reference]? with
    | none => rfl
    | some distance =>
      exact absurd rfl (absent (reference, distance)
        (Std.TreeMap.mem_toList_iff_getElem?_eq_some.mpr found))

/-- Nothing is lost about a reference of which nothing is learned. -/
theorem learn_absent {distances : Distances} {reference : Reference}
    (absent : distances[reference]? = none) :
    (machine.learn distances).distances[reference]? = machine.distances[reference]? := by
  rw [learn_getElem?, absent, Option.none_or]

/-- Of a reference of which nothing was known that is known which is learned. -/
theorem learn_unknown {distances : Distances} {reference : Reference}
    (unknown : machine.distances[reference]? = none) :
    (machine.learn distances).distances[reference]? = distances[reference]? := by
  rw [learn_getElem?, unknown, Option.or_none]

end Machine

/-! ### What holds between two sources -/

/-- The innermost frame of an environment. -/
def Environment.current : Environment → FrameId
  | [] => Heap.globalFrame
  | innermost :: _ => innermost.frame

/-- The innermost frame of an environment may bind a name. The global frame may bind any. -/
def Environment.Allows : Environment → String → Prop
  | [], _ => True
  | innermost :: _, name => innermost.names.contains name = true

/-- The innermost frame of an environment is watched: it binds no more than the environment
tells. -/
def Watch.innermost (start : Session) (limit : Reference) (environment : Environment) : Watch :=
  ⟨start, limit, environment.current, environment.Allows⟩

namespace Session

structure Sound (start session : Session) : Prop where
  machine : (Watch.innermost start session.nextReference []).Sound session.machine
  outermost : session.machine.current = Heap.globalFrame
  unused : ∀ reference, session.nextReference ≤ reference →
    session.machine.distances[reference]? = none

/-- Nothing is watched around a source. -/
theorem Sound.ready (sound : Sound start session) :
    (Watch.innermost start session.nextReference []).Ready [] session.machine :=
  ⟨sound.machine, sound.outermost, rfl, fun _ member => absurd member List.not_mem_nil⟩

/-- References that are drawn and not used do no harm. -/
theorem Sound.skip (sound : Sound start session) {high : Reference}
    (later : session.nextReference ≤ high) :
    Sound start { session with nextReference := high } := by
  have carries : Watch.Carries (Watch.innermost start session.nextReference [])
      (Watch.innermost start high []) session.machine session.machine :=
    ⟨rfl, later, .refl _, fun _ _ => rfl, fun _ _ _ _ _ _ _ => trivial⟩
  refine ⟨?_, sound.outermost, fun reference unused =>
    sound.unused reference (Nat.le_trans later unused)⟩
  have before := sound.machine
  exact before.carry carries before.room before.everywhere before.keeps .inl
    (fun found isSet => .inl ⟨_, found, isSet⟩) (fun found => .inl ⟨_, found, rfl⟩) .inl .inl

/-- The distances of references that were unused are learned. -/
theorem Sound.learn (sound : Sound start session) {high : Reference}
    {references : List Reference} {distances : Distances}
    (fresh : Fresh session.nextReference high references)
    (only : ∀ reference, reference ∉ references → distances[reference]? = none) :
    Sound start ({ session with nextReference := high }.learn distances) ∧
      Covers references (tableOf distances) ((session.machine.learn distances).table high) := by
  have old (reference : Reference) (small : reference < session.nextReference) :
      distances[reference]? = none :=
    only reference fun member => absurd (fresh.bounded reference member).1 (Nat.not_le.mpr small)
  have carries : Watch.Carries (Watch.innermost start session.nextReference [])
      (Watch.innermost start high []) session.machine (session.machine.learn distances) :=
    ⟨rfl, fresh.ordered, .refl _, fun reference small => Machine.learn_absent (old reference small),
      fun _ _ _ _ _ _ _ => trivial⟩
  refine ⟨⟨?_, sound.outermost, fun reference unused => ?_⟩, fun reference member distance is => ?_⟩
  · have before := sound.machine
    exact before.carry carries before.room before.everywhere before.keeps .inl
      (fun found isSet => .inl ⟨_, found, isSet⟩) (fun found => .inl ⟨_, found, rfl⟩) .inl .inl
  · have new : distances[reference]? = none :=
      only reference fun member => absurd (fresh.bounded reference member).2 (Nat.not_lt.mpr unused)
    exact (Machine.learn_absent new).trans
      (sound.unused reference (Nat.le_trans fresh.ordered unused))
  · have ⟨low, high⟩ := fresh.bounded reference member
    exact ⟨high, (Machine.learn_unknown (sound.unused reference low)).trans is⟩

/-! ### Native functions -/

theorem defineNative_precedes (heap : Heap) (native : NativeFunction) :
    heap.Precedes (heap.defineNative native) :=
  Heap.Precedes.define
    { Heap.Precedes.refl heap with : heap.Precedes { heap with natives := heap.natives.push native } }
    Heap.globalFrame native.name (.callable (.native heap.natives.size)) (.inr (.inl rfl))

/-- A native function is bound globally, where any name may be bound. -/
theorem Sound.defineNative (sound : Sound start session) (native : NativeFunction) :
    Sound start (session.defineNative native) := by
  refine ⟨?_, sound.outermost, sound.unused⟩
  have before := sound.machine
  have precedes := defineNative_precedes session.machine.heap native
  refine before.carry (.ofHeap _ precedes) (Nat.lt_of_lt_of_le before.room precedes.size)
    before.everywhere (fun _ => trivial) (fun bound => ?_)
    (fun found isSet => .inl ⟨_, found, isSet⟩) (fun found => .inl ⟨_, found, rfl⟩) .inl .inl
  rcases Frames.read?_write_cases bound with ⟨_, _, rfl⟩ | wasBound
  · exact .inr trivial
  · exact .inl wasBound

/-- Before the first source there is the clock. -/
theorem start_sound (start : Session) (capacity : Option Nat) (clock : Clock) :
    Sound start (.start capacity clock) := by
  let bare : Session := ⟨⟨.start, Heap.globalFrame, 0, ∅, .empty capacity, clock⟩, 0⟩
  have empty : Sound start bare := by
    refine ⟨?_, rfl, fun reference _ => Std.TreeMap.getElem?_emptyc⟩
    have unbound (frame : FrameId) (name : String) :
        bare.machine.heap.frames.read? frame name = none := by
      rw [show bare.machine.heap.frames = Frames.empty.add none from rfl, Frames.read?_add]
      rfl
    refine ⟨Nat.one_pos, rfl, fun _ _ => trivial, fun _ => trivial, fun bound => ?_, ?_, ?_, ?_, ?_,
      ?_⟩
    · exact nomatch (unbound _ _).symm.trans bound
    all_goals exact fun found => nomatch found
  exact empty.defineNative ⟨"clock", 0, .clock⟩

/-! ### Reading sources -/

/-- A program that is read was parsed, and nothing was wrong with its tokens. -/
theorem readProgram_parsed {source : String} {statements : List Statement} {after : Session}
    (read : session.readProgram source = (.ok statements, after)) :
    (Source.scan source).2 = [] ∧ ∃ high, after = { session with nextReference := high } ∧
      Grammar.parseProgram (Source.scan source).1 session.nextReference = (.ok statements, high) := by
  unfold readProgram at read
  cases parsed : Grammar.parseProgram (Source.scan source).1 session.nextReference with
  | mk program high =>
    dsimp only at read
    rw [parsed] at read
    dsimp only at read
    split at read
    · rename_i noErrors
      cases read
      exact ⟨noErrors, high, rfl, rfl⟩
    · cases read
    · cases read

/-- An accepted program has its shape, and its references were unused. -/
theorem readProgram_read {source : String} {statements : List Statement} {after : Session}
    (read : session.readProgram source = (.ok statements, after)) :
    ∃ high, after = { session with nextReference := high } ∧
      Statement.AllShaped .spelled statements ∧
      Fresh session.nextReference high (Statement.allReferences statements) := by
  obtain ⟨_, high, isAfter, parsed⟩ := readProgram_parsed read
  exact ⟨high, isAfter, Grammar.parseProgram_read (Source.scan_admitted source) parsed⟩

/-- A program that is not accepted may have drawn references. -/
theorem readProgram_next (session : Session) (source : String) :
    ∃ high, session.nextReference ≤ high ∧
      (session.readProgram source).2 = { session with nextReference := high } := by
  refine ⟨_, Grammar.parseProgram_references (Source.scan source).1 session.nextReference, ?_⟩
  unfold readProgram
  dsimp only
  split <;> rfl

/-- A lone expression that is read was parsed. -/
theorem readExpression_parsed {source : String} {expression : Expression} {after : Session}
    (read : session.readExpression source = (.ok expression, after)) :
    ∃ high, after = { session with nextReference := high } ∧
      Grammar.parseExpression (Source.scan source).1 session.nextReference =
        (.ok expression, high) := by
  unfold readExpression at read
  dsimp only at read
  split at read
  · cases parsed : Grammar.parseExpression (Source.scan source).1 session.nextReference with
    | mk result high =>
      rw [parsed] at read
      dsimp only at read
      split at read
      · cases read
        exact ⟨high, rfl, rfl⟩
      · cases read
  · cases read

/-- An accepted lone expression has its shape, and its references were unused. -/
theorem readExpression_read {source : String} {expression : Expression} {after : Session}
    (read : session.readExpression source = (.ok expression, after)) :
    ∃ high, after = { session with nextReference := high } ∧ expression.Shaped .spelled ∧
      Fresh session.nextReference high expression.references := by
  obtain ⟨high, isAfter, parsed⟩ := readExpression_parsed read
  exact ⟨high, isAfter, Grammar.parseExpression_read (Source.scan_admitted source) parsed⟩

theorem readExpression_next (session : Session) (source : String) :
    ∃ high, session.nextReference ≤ high ∧
      (session.readExpression source).2 = { session with nextReference := high } := by
  have drawn := Grammar.parseExpression_references (Source.scan source).1 session.nextReference
  unfold readExpression
  dsimp only
  split
  · refine ⟨_, drawn, ?_⟩
    split <;> rfl
  · exact ⟨session.nextReference, Nat.le_refl _, rfl⟩

end Session

/-! ### Programs -/

/-- Statements one after the other, whatever their flow. -/
def Evaluator.executeEvery (evaluator : Evaluator) : List Statement → Run Unit
  | [] => return
  | statement :: others => do
    let _ ← evaluator.execute statement
    executeEvery evaluator others

theorem interpret_eq (depth : Nat) (statements : List Statement) :
    interpret depth statements = (evaluator depth).executeEvery statements := by
  induction statements with
  | nil => rfl
  | cons statement others inductionHypothesis =>
    unfold interpret Evaluator.executeEvery
    rw [inductionHypothesis]
    rfl

theorem Watch.executeEvery_keeps {watch : Watch} {evaluator other : Evaluator}
    (trusts : watch.Trusts evaluator other) (statements : List Statement)
    (happened : Happens watch.start (.program statements machine))
    (ready : watch.Ready [] machine)
    (placed : Statement.AllPlaced (machine.table watch.limit) [] statements) :
    watch.Keeps (evaluator.executeEvery statements) (other.executeEvery statements) machine
      fun _ _ => True := by
  induction statements generalizing machine with
  | nil => exact .pure ready.sound trivial
  | cons statement others inductionHypothesis =>
    have confined : watch.Confined (Environment.after [] statement) := by
      rw [Environment.after_nil]
      exact ready.confined
    refine (trusts.execute (.programFirst happened) ready confined placed.1).bind ?_
    intro flow after ended leads _
    refine inductionHypothesis (.programRest happened (trusts.executes ended))
      (ready.later leads) ?_
    have sameScopes : statement.scopesAfter [] = [] := by
      unfold Statement.scopesAfter
      split <;> rfl
    rw [leads.table, ← sameScopes]
    exact placed.2

namespace Session

/-- A run that keeps the machine sound leaves the session as it should be. -/
theorem Sound.perform {α : Type} {run : Run α} {result : α → Machine → Prop}
    (sound : Sound start session)
    (keeps : (Watch.innermost start session.nextReference []).Keeps run run session.machine
      result) : Sound start (session.perform run).2 := by
  have left {after : Machine}
      (leads : (Watch.innermost start session.nextReference []).Leads session.machine after) :
      Sound start { session with machine := after } :=
    ⟨leads.sound, leads.current.trans sound.outermost, fun reference unused =>
      leads.distances ▸ sound.unused reference unused⟩
  unfold Session.perform
  cases ended : run session.machine with
  | ok value after => exact left (keeps.2.ok ended).1
  | error stop after =>
    cases stop with
    | error error => exact left (keeps.2.error ended)
    | exhausted => exact left (keeps.2.error ended)

/-- What an accepted program is run on. -/
theorem Sound.program {source : String} {statements : List Statement} {after : Session}
    {distances : Distances} (sound : Sound start session)
    (read : session.readProgram source = (.ok statements, after))
    (resolved : resolveProgram statements = .ok distances) :
    Sound start (after.learn distances) ∧ Statement.AllPlaced
      ((after.learn distances).machine.table after.nextReference) [] statements := by
  obtain ⟨high, rfl, shaped, fresh⟩ := readProgram_read read
  have ⟨placed, only⟩ := resolveProgram_placed shaped fresh.distinct resolved
  have ⟨learned, covers⟩ := sound.learn fresh only
  exact ⟨learned, Statement.AllPlaced.mono statements covers placed⟩

/-- What an accepted lone expression is evaluated on. -/
theorem Sound.loneExpression {source : String} {expression : Expression} {after : Session}
    {distances : Distances} (sound : Sound start session)
    (read : session.readExpression source = (.ok expression, after))
    (resolved : resolveExpression expression = .ok distances) :
    Sound start (after.learn distances) ∧
      expression.Placed ((after.learn distances).machine.table after.nextReference) [] := by
  obtain ⟨high, rfl, shaped, fresh⟩ := readExpression_read read
  have ⟨placed, only⟩ := resolveExpression_placed shaped fresh.distinct resolved
  have ⟨learned, covers⟩ := sound.learn fresh only
  exact ⟨learned, Expression.Placed.mono expression covers placed⟩

theorem Sound.run {steps : List Step} (sound : Sound start (start.after steps)) (depth : Nat)
    (source : String) : Sound start ((start.after steps).run depth source).2 := by
  rcases run_cases depth (start.after steps) source with
    ⟨_, _, rejected⟩ | ⟨statements, _, _, read, resolved, accepted⟩
  · obtain ⟨high, later, isAfter⟩ := readProgram_next (start.after steps) source
    rw [rejected, isAfter]
    exact sound.skip later
  · have ⟨learned, placed⟩ := sound.program read resolved
    rw [accepted, interpret_eq]
    exact learned.perform (Watch.executeEvery_keeps (Watch.evaluator_trusts _ depth) statements
      (.program read resolved) learned.ready placed)

theorem Sound.evaluate {steps : List Step} (sound : Sound start (start.after steps)) (depth : Nat)
    (source : String) : Sound start ((start.after steps).evaluate depth source).2 := by
  rcases evaluate_cases depth (start.after steps) source with
    ⟨_, _, rejected⟩ | ⟨expression, _, _, read, resolved, accepted⟩
  · obtain ⟨high, later, isAfter⟩ := readExpression_next (start.after steps) source
    rw [rejected, isAfter]
    exact sound.skip later
  · have ⟨learned, placed⟩ := sound.loneExpression read resolved
    rw [accepted]
    exact learned.perform ((Watch.evaluator_trusts _ depth).evaluate
      (.loneExpression read resolved) learned.ready placed)

/-- Whatever the steps of a session, the machine is sound after them. -/
theorem after_sound (sound : Sound start start) (steps : List Step) :
    Sound start (start.after steps) := by
  -- the history tells the steps from the start, so they are counted in at the end
  suffices ∀ done, Sound start (start.after done) → Sound start (start.after (done ++ steps)) from
    this [] sound
  induction steps with
  | nil => exact fun done sound => done.append_nil.symm ▸ sound
  | cons step others inductionHypothesis =>
    intro done sound
    have last : start.after (done ++ [step]) = (start.after done).step step :=
      List.foldl_append
    rw [show done ++ step :: others = (done ++ [step]) ++ others from
      (List.append_assoc done [step] others).symm]
    refine inductionHypothesis _ (last ▸ ?_)
    cases step with
    | defineNative native => exact sound.defineNative native
    | run depth source => exact sound.run depth source
    | evaluate depth source => exact sound.evaluate depth source

end Session

end Lox
