/-
What it means that moments lead from one machine to another: from one moment to the next, and before
the first and behind the last one, nothing is done that moments tell of, no call is counted and no
field is set; and at each moment just what it tells is done. Runs are put together accordingly.
-/

import Lox.Proofs.Run.Reached
import Lox.Proofs.Run.Trace

namespace Lox

variable {α β : Type} {machine before middle after : Machine} {moments early late : List Moment}

/-! ### Fields -/

namespace Heap

/-- What a field of an instance holds, if it has been set. -/
def field? (heap : Heap) (id : InstanceId) (name : String) : Option Value :=
  (heap.instanceAt id).fields.get? name

theorem field?_congr {heap other : Heap} (same : other.instances = heap.instances)
    (id : InstanceId) (name : String) : other.field? id name = heap.field? id name := by
  unfold field? instanceAt
  rw [same]

/-- A new instance has no fields, and neither has one that is not there. -/
theorem field?_addInstance (heap : Heap) (classId : ClassId) (id : InstanceId) (name : String) :
    (heap.addInstance classId).2.field? id name = heap.field? id name := by
  unfold field? instanceAt addInstance
  rw [Array.getD_eq_getD_getElem?, Array.getD_eq_getD_getElem?, Array.getElem?_push]
  split
  · rename_i isNew
    rw [isNew, Array.getElem?_eq_none (Nat.le_refl _)]
    rfl
  · rfl

/-- A field that is set holds the value, and every other one what it held. -/
theorem field?_setField (heap : Heap) (receiver id : InstanceId) (name wanted : String)
    (value : Value) :
    (heap.setField receiver name value).field? id wanted =
      if id = receiver ∧ wanted = name ∧ receiver < heap.instances.size then some value
      else heap.field? id wanted := by
  unfold field? instanceAt setField
  rw [Array.getD_eq_getD_getElem?, Array.getD_eq_getD_getElem?, Array.getElem?_modify]
  by_cases same : receiver = id
  · subst same
    rw [if_pos rfl]
    cases found : heap.instances[receiver]? with
    | none =>
      have absent := Nat.not_lt.mpr (Array.getElem?_eq_none_iff.mp found)
      rw [if_neg fun whole => absent whole.2.2]
      rfl
    | some object =>
      have present := (Array.getElem?_eq_some_iff.mp found).1
      show (object.fields.write name value).get? wanted = _
      rw [Bindings.get?_write]
      simp only [true_and, present, and_true]
      rfl
  · rw [if_neg same, if_neg fun whole => same whole.1.symm]

end Heap

/-! ### Between two moments -/

namespace Machine

/-- As many calls are in progress as before, and every field is as it was. -/
structure Silent (before after : Machine) : Prop where
  callDepth : after.callDepth = before.callDepth
  field : ∀ id name, after.heap.field? id name = before.heap.field? id name

theorem Silent.refl (machine : Machine) : machine.Silent machine :=
  ⟨rfl, fun _ _ => rfl⟩

theorem Silent.trans (first : before.Silent middle) (second : middle.Silent after) :
    before.Silent after :=
  ⟨second.callDepth.trans first.callDepth,
    fun id name => (second.field id name).trans (first.field id name)⟩

theorem Silent.of_instances (sameDepth : after.callDepth = before.callDepth)
    (same : after.heap.instances = before.heap.instances) : before.Silent after :=
  ⟨sameDepth, Heap.field?_congr same⟩

theorem silent_addInstance (machine : Machine) (id : ClassId) :
    machine.Silent (machine.addInstance id) :=
  ⟨rfl, Heap.field?_addInstance _ _⟩

end Machine

/-- From the machine before it, the moment leads to its own: a call is counted or no longer counted,
a field is set, or nothing changes. -/
def Moment.Follows (before : Machine) : Moment → Prop
  | .begun callable arguments machine => machine = before.countCall ∧
    arguments.length = before.heap.arity callable ∧ before.callDepth < maximalCallDepth
  | .finished machine =>
    0 < before.callDepth ∧ machine = { before with callDepth := before.callDepth - 1 }
  | .stored receiver name value machine =>
    receiver < before.heap.instances.size ∧ machine = before.setField receiver name value
  | moment => moment.machine = before

/-- The moments lead from one machine to another, each of them standing, and nothing that moments
tell of happens in between. -/
inductive Machine.Goes : Machine → List Moment → Machine → Prop
  | quiet {before after : Machine} : before.Silent after → Goes before [] after
  | moment {before middle after : Machine} {moment : Moment} {moments : List Moment} :
    before.Silent middle → moment.Follows middle → moment.machine.Stands .everything →
    Goes moment.machine moments after → Goes before (moment :: moments) after

namespace Machine.Goes

theorem refl (machine : Machine) : machine.Goes [] machine :=
  .quiet (.refl machine)

/-- What is silent before the first moment may be more. -/
theorem after_silent (silent : before.Silent middle) (goes : middle.Goes moments after) :
    before.Goes moments after := by
  cases goes with
  | quiet further => exact .quiet (silent.trans further)
  | moment further follows stands rest => exact .moment (silent.trans further) follows stands rest

theorem trans (first : before.Goes early middle) (second : middle.Goes late after) :
    before.Goes (early ++ late) after := by
  induction first with
  | quiet silent => exact second.after_silent silent
  | moment silent follows stands _ inductionHypothesis =>
    exact .moment silent follows stands (inductionHypothesis second)

theorem then_silent (goes : before.Goes moments middle) (silent : middle.Silent after) :
    before.Goes moments after :=
  List.append_nil moments ▸ goes.trans (.quiet silent)

/-- A tree that begins or ends is noted on the machine as it is. -/
theorem note {moment : Moment} (follows : moment.Follows before)
    (stands : moment.machine.Stands .everything) (goes : moment.machine.Goes moments after) :
    before.Goes (moment :: moments) after :=
  .moment (.refl before) follows stands goes

/-- The moments before one of them lead to where it follows, with it they lead to its machine, and
the others lead on from there. -/
theorem upTo {moment : Moment} (goes : before.Goes (early ++ moment :: late) after) :
    ∃ middle, before.Goes early middle ∧ moment.Follows middle ∧
      before.Goes (early ++ [moment]) moment.machine ∧ moment.machine.Stands .everything ∧
      moment.machine.Goes late after := by
  induction early generalizing before with
  | nil =>
    cases goes with
    | moment silent follows stands rest =>
      exact ⟨_, .quiet silent, follows, .moment silent follows stands (.refl _), stands, rest⟩
  | cons first others inductionHypothesis =>
    cases goes with
    | moment silent follows stands rest =>
      obtain ⟨middle, before, isNext, upThere, stands', further⟩ := inductionHypothesis rest
      exact ⟨middle, .moment silent follows stands before, isNext,
        .moment silent follows stands upThere, stands', further⟩

end Machine.Goes

/-! ### Runs without moments -/

namespace Run

/-- The run neither leaves a call counted nor sets a field, whatever its end. -/
def Quiet (run : Run α) : Prop :=
  ∀ machine : Machine, machine.Silent (run.left machine)

namespace Quiet

variable {run : Run α} {next : α → Run β}

theorem pure (value : α) : Quiet (Pure.pure value) :=
  fun machine => .refl machine

theorem throw (stop : Stop) : Quiet (MonadExcept.throw stop : Run α) :=
  fun machine => .refl machine

theorem get : Quiet MonadState.get :=
  fun machine => .refl machine

theorem bind (first : run.Quiet) (rest : ∀ value, (next value).Quiet) : (run >>= next).Quiet := by
  intro machine
  rcases Restores.left_bind run next machine with ⟨value, left⟩ | left <;> rw [left]
  · exact (first machine).trans (rest value _)
  · exact first machine

theorem fail (problem : RuntimeProblem) (line : Nat) : (Run.fail problem line : Run α).Quiet :=
  throw _

theorem ofExcept (outcome : Except RuntimeError α) : (Run.ofExcept outcome).Quiet := by
  cases outcome with
  | ok value => exact pure value
  | error error => exact throw _

theorem changeHeap {change : Heap → Heap}
    (same : ∀ heap, (change heap).instances = heap.instances) : (Run.changeHeap change).Quiet :=
  fun machine => .of_instances rfl (same machine.heap)

theorem allocate {add : Heap → Nat × Heap}
    (same : ∀ heap, (add heap).2.instances = heap.instances) : (Run.allocate add).Quiet :=
  fun machine => .of_instances rfl (same machine.heap)

theorem define (name : String) (value : Value) : (Run.define name value).Quiet :=
  fun _ => .of_instances rfl rfl

theorem tick :
    Quiet (modify fun machine => { machine with clock := machine.clock.next } : Run Unit) :=
  fun _ => .of_instances rfl rfl

theorem write (text : String) : (Run.write text).Quiet := by
  intro machine
  obtain ⟨heap, current, callDepth, distances, sink, clock⟩ := machine
  unfold left Run.write
  dsimp only
  cases sink.write text.toUTF8 with
  | mk problem sink => cases problem <;> exact .of_instances rfl rfl

end Quiet

end Run

namespace Evaluator

open Run.Quiet

theorem lookUp_quiet (reference : Reference) (name : Identifier) :
    (lookUp reference name).Quiet := by
  refine get.bind fun machine => ?_
  dsimp only
  split <;> exact ofExcept _

theorem assign_quiet (reference : Reference) (name : Identifier) (value : Value) :
    (assign reference name value).Quiet := by
  refine bind ?_ fun _ => changeHeap fun _ => rfl
  refine get.bind fun machine => ?_
  dsimp only
  split <;> exact ofExcept _

theorem close_quiet (declaration : FunctionDeclaration) : (close declaration).Quiet :=
  get.bind fun _ => allocate fun _ => rfl

theorem bound_quiet (method : FunctionId) (receiver : InstanceId) :
    (bound method receiver).Quiet :=
  bind (allocate fun _ => rfl) fun _ => pure _

theorem property_quiet (object : Value) (name : Identifier) : (property object name).Quiet := by
  cases object with
  | object id =>
    refine get.bind fun machine => ?_
    dsimp only
    split
    · exact pure _
    · split
      · exact bound_quiet _ _
      · exact fail _ _
  | _ => exact fail _ _

theorem superMethod_quiet (reference : Reference) (keyword method : Identifier) :
    (superMethod reference keyword method).Quiet := by
  refine get.bind fun machine => ?_
  dsimp only
  split
  · exact fail _ _
  · refine bind (ofExcept _) fun superclass => bind (ofExcept _) fun receiver => ?_
    split
    · split
      · exact bound_quiet _ _
      · exact fail _ _
    · exact fail _ _

theorem givenBack_quiet (object : FunctionObject) (flow : Flow) :
    (Watch.givenBack object flow).Quiet := by
  unfold Watch.givenBack
  split
  · exact get.bind fun _ => ofExcept _
  · split <;> exact pure _

theorem methodTable_quiet (frame : FrameId) (methods : List FunctionDeclaration)
    (table : Bindings FunctionId) : (methodTable frame methods table).Quiet := by
  induction methods generalizing table with
  | nil => exact pure table
  | cons method others inductionHypothesis =>
    unfold methodTable
    split
    · exact bind (allocate fun _ => rfl) fun id => inductionHypothesis _
    · exact inductionHypothesis table

/-- What a class declaration does when its superclass is known. -/
theorem methodFrame_quiet (parent : Option ClassId) : (methodFrame parent).Quiet := by
  cases parent with
  | none => exact get.bind fun _ => pure _
  | some parent =>
    exact get.bind fun _ =>
      bind (allocate fun _ => rfl) fun _ => bind (changeHeap fun _ => rfl) fun _ => pure _

end Evaluator

/-! ### Runs with moments -/

namespace Run

/-- From the machine on, if it stands, the moments lead to whatever the run leaves. -/
def Traced (run : Run α) (machine : Machine) (moments : List Moment) : Prop :=
  machine.Stands .everything → machine.Goes moments (run.left machine)

theorem Quiet.traced {run : Run α} (quiet : run.Quiet) : run.Traced machine [] :=
  fun _ => .quiet (quiet machine)

namespace Traced

variable {run : Run α} {next : α → Run β} {rest : α → Machine → List Moment}
  {result : α → Heap → Prop}

/-- What goes on after a result is written down behind what came before. -/
theorem bind (first : run.Traced machine early)
    (proceeds : run.Proceeds .everything machine result)
    (goesOn : ∀ value after, machine.Chain .everything after → result value after.heap →
      (next value).Traced after (rest value after)) :
    (run >>= next).Traced machine (early ++ run.thereafter machine rest) := by
  intro stands
  have goes := first stands
  unfold thereafter
  cases ended : run machine with
  | ok value after =>
    have ⟨chain, holds⟩ := proceeds.ok stands ended
    rw [left_ok ended] at goes
    have left : (run >>= next).left machine = (next value).left after := by
      unfold Run.left
      rw [bind_ok ended]
    rw [left]
    exact goes.trans (goesOn value after chain holds (chain.stands stands))
  | error stop after =>
    rw [left_error ended] at goes
    rw [left_error (bind_error ended), List.append_nil]
    exact goes

theorem get_bind {next : Machine → Run β} (traced : (next machine).Traced machine moments) :
    (MonadState.get >>= next : Run β).Traced machine moments :=
  traced

/-- What goes on quietly is not written down. -/
theorem bind_quiet (first : run.Traced machine moments) (quiet : ∀ value, (next value).Quiet) :
    (run >>= next).Traced machine moments := by
  intro stands
  have goes := first stands
  rcases Restores.left_bind run next machine with ⟨value, left⟩ | left <;> rw [left]
  · exact goes.then_silent (quiet value _)
  · exact goes

/-- The first steps of a run, which change the machine silently. -/
theorem begin (middle : Machine) (following : Run α) (same : run machine = following middle)
    (silent : machine.Silent middle) (chain : machine.Chain .everything middle)
    (traced : following.Traced middle moments) : run.Traced machine moments := by
  intro stands
  have left : run.left machine = following.left middle := by
    unfold Run.left
    rw [same]
  rw [left]
  exact (traced (chain.stands stands)).after_silent silent

/-- A run in another frame, which is left again. -/
theorem within {frame : FrameId} (present : frame < machine.heap.frames.size)
    (traced : run.Traced { machine with current := frame } moments) :
    (Run.within frame run).Traced machine moments := by
  intro stands
  have goes := traced ⟨stands.heap, present⟩
  let inside : Machine := { machine with current := frame }
  have back : (run.left inside).Silent { run.left inside with current := machine.current } :=
    .of_instances rfl rfl
  have entered : machine.Silent inside := .of_instances rfl rfl
  rw [left_within]
  exact (goes.then_silent back).after_silent entered

end Traced

end Run

end Lox
