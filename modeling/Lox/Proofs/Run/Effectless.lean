/-
An expression without effects leaves everything as it was and can be evaluated again. The rules
follow the parts of a node in two rounds at once; the depth carries the induction over the tree. A
round is cut short only where the depth runs out, which a depth as great as the tree prevents.
-/

import Lox.Proofs.Run.Rounds

namespace Lox

variable {α β : Type} {machine : Machine}

namespace Rounds

variable {start middle : Rounds machine} {short : Prop}

/-! ### Rounds that agree -/

/-- In both rounds a run ends with results of which `result` holds, or both times with one and the
same stop. Nothing but the heaps of the rounds is changed, and they are spared. Only if `short`
holds can the stop be that the depth ran out. -/
inductive Agree (start : Rounds machine) (short : Prop) (result : Rounds machine → α → α → Prop)
    (run runToo : Run α) : Prop
  | ok {later : Rounds machine} {value valueToo : α} : start.Later later →
    run (machine.withHeap start.first) = .ok value (machine.withHeap later.first) →
    runToo (machine.withHeap start.second) = .ok valueToo (machine.withHeap later.second) →
    result later value valueToo → Agree start short result run runToo
  | stop {later : Rounds machine} {stop : Stop} : start.Later later →
    run (machine.withHeap start.first) = .error stop (machine.withHeap later.first) →
    runToo (machine.withHeap start.second) = .error stop (machine.withHeap later.second) →
    (stop = .exhausted → short) → Agree start short result run runToo

namespace Agree

variable {result : Rounds machine → α → α → Prop} {run runToo : Run α}

theorem pure {value valueToo : α} (holds : result start value valueToo) :
    start.Agree short result (Pure.pure value) (Pure.pure valueToo) :=
  .ok (.refl start) rfl rfl holds

theorem fail (problem : RuntimeProblem) (line : Nat) :
    start.Agree short result (Run.fail problem line) (Run.fail problem line) :=
  .stop (.refl start) rfl rfl fun same => Stop.noConfusion same

theorem exhausted (isShort : short) :
    start.Agree short result (throw .exhausted) (throw .exhausted) :=
  .stop (.refl start) rfl rfl fun _ => isShort

theorem ofExcept {answer : Except RuntimeError α}
    (holds : ∀ value, answer = .ok value → result start value value) :
    start.Agree short result (Run.ofExcept answer) (Run.ofExcept answer) := by
  cases answer with
  | ok value => exact pure (holds value rfl)
  | error error => exact .stop (.refl start) rfl rfl fun same => Stop.noConfusion same

theorem ofExcept_bind {answer : Except RuntimeError β} {next nextToo : β → Run α}
    (rest : ∀ value, answer = .ok value → start.Agree short result (next value) (nextToo value)) :
    start.Agree short result (Run.ofExcept answer >>= next) (Run.ofExcept answer >>= nextToo) := by
  cases answer with
  | ok value => exact rest value rfl
  | error error => exact .stop (.refl start) rfl rfl fun same => Stop.noConfusion same

theorem allocate {add : Heap → Nat × Heap} {result : Rounds machine → Nat → Nat → Prop}
    (spares : ∀ heap : Heap, heap.Spares (add heap).2)
    (holds : result (start.extend (spares _) (spares _)) (add start.first).1 (add start.second).1) :
    start.Agree short result (Run.allocate add) (Run.allocate add) :=
  .ok ⟨spares _, spares _⟩ rfl rfl holds

/-- Less may be known of how the rounds end. -/
theorem mono {weaker : Rounds machine → α → α → Prop} {shorter : Prop}
    (agree : start.Agree short result run runToo)
    (results : ∀ {later value valueToo}, start.Later later → result later value valueToo →
      weaker later value valueToo)
    (stops : short → shorter) : start.Agree shorter weaker run runToo := by
  cases agree with
  | ok grows ended endedToo holds => exact .ok grows ended endedToo (results grows holds)
  | stop grows ended endedToo isShort =>
    exact .stop grows ended endedToo fun same => stops (isShort same)

/-- What is the same since a later time is the same since an earlier one. -/
theorem since {before : Rounds machine} {run runToo : Run Value} (grows : before.Later start)
    (agree : start.Agree short start.Same run runToo) :
    start.Agree short before.Same run runToo :=
  agree.mono (fun _ same => same.since grows) id

/-- Runs that go on agree if their parts do. -/
theorem bind {further : Rounds machine → β → β → Prop} {next nextToo : α → Run β}
    (agree : start.Agree short result run runToo)
    (rest : ∀ {middle : Rounds machine} {value valueToo}, start.Later middle →
      result middle value valueToo →
      middle.Agree short further (next value) (nextToo valueToo)) :
    start.Agree short further (run >>= next) (runToo >>= nextToo) := by
  cases agree with
  | ok grows ended endedToo holds =>
    cases rest grows holds with
    | ok growsToo ends endsToo holdsToo =>
      exact .ok (grows.trans growsToo) ((bind_ok ended).trans ends)
        ((bind_ok endedToo).trans endsToo) holdsToo
    | stop growsToo ends endsToo isShort =>
      exact .stop (grows.trans growsToo) ((bind_ok ended).trans ends)
        ((bind_ok endedToo).trans endsToo) isShort
  | stop grows ended endedToo isShort =>
    exact .stop grows (bind_error ended) (bind_error endedToo) isShort

/-- What goes on after the machine is looked at sees the heap of its round. -/
theorem get_bind {next nextToo : Machine → Run α}
    (rest : start.Agree short result (next (machine.withHeap start.first))
      (nextToo (machine.withHeap start.second))) :
    start.Agree short result (get >>= next) (get >>= nextToo) := by
  cases rest with
  | ok grows ended endedToo holds => exact .ok grows ended endedToo holds
  | stop grows ended endedToo isShort => exact .stop grows ended endedToo isShort

end Agree

/-! ### Variables -/

open Evaluator

theorem lookUp_agree (stands : machine.Stands .everything) (reference : Reference)
    (name : Identifier) :
    start.Agree short start.Same (lookUp reference name) (lookUp reference name) := by
  have chained := stands.heap.chained stands.current
  have outermost := stands.heap.outermost
  refine .get_bind ?_
  dsimp only [Machine.withHeap]
  cases machine.distances[reference]? with
  | some distance =>
    dsimp only
    rw [start.spared.getAt chained, start.sparedToo.getAt chained]
    exact .ofExcept fun _ found => .known (stands.heap.found (Frames.getAt_read? found))
  | none =>
    dsimp only
    rw [start.spared.getGlobal outermost, start.sparedToo.getGlobal outermost]
    exact .ofExcept fun _ found => .known (stands.heap.found (Frames.get_read? found))

/-! ### Functions and methods -/

theorem close_agree (declaration : FunctionDeclaration) :
    start.Agree short
      (fun later id idToo =>
        start.Same later (.callable (.function id)) (.callable (.function idToo)))
      (close declaration) (close declaration) :=
  .get_bind (.allocate (fun heap => .addFunction heap _)
    (.added (.ofFunction machine _ declaration) (.ofFunction machine _ declaration)))

theorem bound_agree {method : FunctionId} (present : method < machine.heap.functions.size)
    (receiver : InstanceId) :
    start.Agree short start.Same (bound method receiver) (bound method receiver) := by
  have bindMethod : start.Agree short
      (fun later id idToo => start.Same later (.callable (.method id)) (.callable (.method idToo)))
      (Run.allocate fun heap => heap.bindMethod method receiver)
      (Run.allocate fun heap => heap.bindMethod method receiver) :=
    .allocate (fun heap => .bindMethod heap method receiver)
      (.added (.ofMethod start.spared present receiver)
        (.ofMethod start.sparedToo present receiver))
  exact bindMethod.bind fun _ same => .pure same

theorem property_agree (stands : machine.Stands .everything) {before : Rounds machine}
    {object objectToo : Value} (same : before.Same start object objectToo) (name : Identifier) :
    start.Agree short start.Same (property object name) (property objectToo name) := by
  cases same with
  | added adds addsToo => cases adds <;> cases addsToo <;> exact .fail _ _
  | known isThere =>
    cases object with
    | object id =>
      refine .get_bind ?_
      dsimp only [Machine.withHeap]
      rw [start.spared.instanceAt, start.sparedToo.instanceAt, start.spared.method?,
        start.sparedToo.method?]
      split
      · rename_i isSet
        exact .pure (.known (stands.heap.field_instanceAt isSet))
      · split
        · rename_i found
          exact bound_agree (stands.heap.isMethod found).lt_size id
        · exact .fail _ _
    | _ => exact .fail _ _

theorem superMethod_agree (stands : machine.Stands .everything) (reference : Reference)
    (keyword method : Identifier) :
    start.Agree short start.Same (superMethod reference keyword method)
      (superMethod reference keyword method) := by
  have chained := stands.heap.chained stands.current
  refine .get_bind ?_
  dsimp only [Machine.withHeap]
  split
  · exact .fail _ _
  · rename_i distance _
    rw [start.spared.getAt chained, start.spared.getAt chained, start.sparedToo.getAt chained,
      start.sparedToo.getAt chained]
    refine .ofExcept_bind fun superclass _ => .ofExcept_bind fun receiver _ => ?_
    split
    · rw [start.spared.method?, start.sparedToo.method?]
      split
      · rename_i found
        exact bound_agree (stands.heap.isMethod found).lt_size _
      · exact .fail _ _
    · exact .fail _ _

/-! ### Expressions -/

/-- The node of an expression without effects agrees if the trees inside it do. -/
theorem evaluateNode_agree (stands : machine.Stands .everything) {evaluator : Evaluator}
    {expression : Expression} (isEffectless : expression.isEffectless)
    (inside : ∀ {part : Expression} {start : Rounds machine},
      Constituent.expression part ∈ (Constituent.expression expression).parts →
      part.isEffectless →
      start.Agree short start.Same (evaluator.evaluate part) (evaluator.evaluate part)) :
    start.Agree short start.Same (evaluator.evaluateNode expression)
      (evaluator.evaluateNode expression) := by
  cases expression with
  | literal literal => exact .pure (.known (literal.isPlain_value.stands _))
  | grouping inner => exact inside (.head _) isEffectless
  | unary operator line operand =>
    refine (inside (.head _) isEffectless).bind fun {_ value _} _ same => ?_
    rw [same.alike.unary]
    exact .ofExcept fun _ answer => .known ((operator.onEveryLine value).stands answer _)
  | binary operator line left right =>
    have both := Bool.and_eq_true_iff.mp isEffectless
    refine (inside (.head _) both.1).bind fun {_ first _} _ same => ?_
    refine (inside (.tail _ (.head _)) both.2).bind fun {_ second _} _ sameToo => ?_
    rw [same.alike.binary sameToo.alike (same.equals sameToo)]
    exact .ofExcept fun _ answer => .known ((operator.onEveryLine first second).stands answer _)
  | logical operator left right =>
    have both := Bool.and_eq_true_iff.mp isEffectless
    refine (inside (.head _) both.1).bind fun grows same => ?_
    rw [same.alike.isDecidedBy]
    split
    · exact .pure same
    · exact .since grows (inside (.tail _ (.head _)) both.2)
  | read reference name => exact lookUp_agree stands reference name
  | function declaration => exact (close_agree declaration).bind fun _ same => .pure same
  | get object name =>
    exact (inside (.head _) isEffectless).bind fun grows same =>
      .since grows (property_agree stands same name)
  | this reference keyword => exact lookUp_agree stands reference keyword
  | super reference keyword method => exact superMethod_agree stands reference keyword method
  | assign | call | set => exact absurd isEffectless Bool.false_ne_true

/-- An expression without effects is evaluated alike in both rounds: an induction on the depth. It
runs out only in a tree that is not smaller than it. -/
theorem evaluate_agree (stands : machine.Stands .everything) (depth : Nat) {expression : Expression}
    (isEffectless : expression.isEffectless) (start : Rounds machine) :
    start.Agree (depth ≤ sizeOf expression) start.Same (evaluate depth expression)
      (evaluate depth expression) := by
  induction depth generalizing expression start with
  | zero => exact .exhausted (Nat.zero_le _)
  | succ depth inductionHypothesis =>
    refine evaluateNode_agree stands isEffectless fun isPart isEffectless => ?_
    exact (inductionHypothesis isEffectless _).mono (fun _ same => same) fun isShort =>
      Nat.lt_of_le_of_lt isShort (Constituent.sizeOf_part isPart)

/-- Whatever the depth, an expression without effects spares what there was. -/
theorem evaluate_spares (stands : machine.Stands .everything) (depth : Nat)
    {expression : Expression} (isEffectless : expression.isEffectless) :
    ∃ heap, (evaluate depth expression).left machine = machine.withHeap heap ∧
      machine.heap.Spares heap := by
  have agree := evaluate_agree stands depth isEffectless
    ⟨machine.heap, machine.heap, .refl _, .refl _⟩
  cases agree with
  | ok grows ended _ _ => exact ⟨_, Run.left_ok ended, grows.first⟩
  | stop grows ended _ _ => exact ⟨_, Run.left_error ended, grows.first⟩

end Rounds

/-! ### Once and again -/

/-- An expression without effects leaves the machine as it is but for its heap, whether it has a
value or fails, and all that there was in the heap stays as it is. Evaluated again at once, it ends
in the same way: with the same error, or with a value of the same kind that holds in a condition
just if the first one does and is written alike. That value is the first one itself, if it was there
before; otherwise both times the same function was closed or the same method bound. With enough
depth, neither time is cut short.

All states that programs reach stand, and the distances need not be those of any program. -/
theorem effectless_repeats (machine : Machine) (stands : machine.Stands .everything)
    (expression : Expression) (isEffectless : expression.isEffectless) :
    ∃ enough, ∀ depth, ∃ heap heapToo : Heap,
      machine.heap.Spares heap ∧ heap.Spares heapToo ∧
      ((∃ value again,
        evaluate depth expression machine = .ok value (machine.withHeap heap) ∧
        evaluate depth expression (machine.withHeap heap) = .ok again (machine.withHeap heapToo) ∧
        (again = value ∧ value.Stands .everything machine.heap ∨
          ∃ addition, machine.Adds machine.heap heap addition value ∧
            machine.Adds heap heapToo addition again) ∧
        again.kind = value.kind ∧ again.isTruthy = value.isTruthy ∧
        heapToo.text again = heap.text value) ∨
      ∃ stop,
        evaluate depth expression machine = .error stop (machine.withHeap heap) ∧
        evaluate depth expression (machine.withHeap heap) =
          .error stop (machine.withHeap heapToo) ∧
        (stop = .exhausted → depth < enough)) := by
  refine ⟨sizeOf expression + 1, fun depth => ?_⟩
  obtain ⟨heap, left, spares⟩ := Rounds.evaluate_spares stands depth isEffectless
  have agree := Rounds.evaluate_agree stands depth isEffectless
    ⟨machine.heap, heap, .refl _, spares⟩
  cases agree with
  | @ok later value again grows ended endedToo same =>
    obtain rfl : later.first = heap := congrArg Machine.heap ((Run.left_ok ended).symm.trans left)
    refine ⟨later.first, later.second, spares, grows.second, .inl ⟨value, again, ended, endedToo,
      ?_, same.alike.kind, same.alike.isTruthy, same.text⟩⟩
    cases same with
    | known isThere => exact .inl ⟨rfl, isThere⟩
    | added adds addsToo => exact .inr ⟨_, adds, addsToo⟩
  | @stop later stop grows ended endedToo isShort =>
    obtain rfl : later.first = heap :=
      congrArg Machine.heap ((Run.left_error ended).symm.trans left)
    exact ⟨later.first, later.second, spares, grows.second,
      .inr ⟨stop, ended, endedToo, fun same => Nat.lt_succ_of_le (isShort same)⟩⟩

/-- The expression `true and fun () {}`. -/
def newFunction : Expression :=
  .logical .and (.literal (.boolean true)) (.function (.mk none [] []))

/-- A new function each time, at a new place, which is written alike. -/
theorem effectless_repeats_newFunction :
    newFunction.isEffectless ∧ (Machine.start none ⟨0⟩).Stands .everything ∧
    ∃ heap heapToo : Heap,
      (Machine.start none ⟨0⟩).heap.Spares heap ∧ heap.Spares heapToo ∧
      evaluate 2 newFunction (Machine.start none ⟨0⟩) =
        .ok (.callable (.function 0)) ((Machine.start none ⟨0⟩).withHeap heap) ∧
      evaluate 2 newFunction ((Machine.start none ⟨0⟩).withHeap heap) =
        .ok (.callable (.function 1)) ((Machine.start none ⟨0⟩).withHeap heapToo) ∧
      heapToo.text (.callable (.function 1)) = heap.text (.callable (.function 0)) := by
  have stands : (Machine.start none ⟨0⟩).Stands .everything := Machine.start_stands none ⟨0⟩
  refine ⟨rfl, stands, ?_⟩
  obtain ⟨_, repeats⟩ := effectless_repeats _ stands newFunction rfl
  obtain ⟨heap, heapToo, spares, sparesToo, ends⟩ := repeats 2
  refine ⟨heap, heapToo, spares, sparesToo, ?_⟩
  rcases ends with ⟨value, again, ended, endedToo, _, _, _, text⟩ | ⟨stop, ended, _⟩
  · have first : value = .callable (.function 0) := by
      cases ended
      rfl
    have second : again = .callable (.function 1) := by
      cases ended
      cases endedToo
      rfl
    subst first second
    exact ⟨ended, endedToo, text⟩
  · cases ended

end Lox
