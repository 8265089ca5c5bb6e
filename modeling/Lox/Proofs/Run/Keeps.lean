/-
Runs that keep the machine sound. Such a run leaves a machine that has gone on, with the same
current frame and the same distances, whether it ends with a result or stops. The rules below follow
the primitives that runs are made of.
-/

import Lox.Proofs.Ensures
import Lox.Proofs.Run.Changes

namespace Lox

open Scope

variable {watch : Watch} {machine before middle after : Machine} {α β : Type}

/-- Looking at the machine changes nothing. -/
theorem Run.get_bind (next : Machine → Run α) (machine : Machine) :
    (MonadState.get >>= next) machine = next machine machine := rfl

/-! ### Where a run leads -/

/-- What a run does to the machine, whatever its end. -/
structure Watch.Leads (watch : Watch) (before after : Machine) : Prop where
  heap : before.heap.Precedes after.heap
  current : after.current = before.current
  distances : after.distances = before.distances
  sound : watch.Sound after

namespace Watch

theorem Leads.refl (sound : watch.Sound machine) : watch.Leads machine machine :=
  ⟨.refl _, rfl, rfl, sound⟩

theorem Leads.trans (early : watch.Leads before middle) (late : watch.Leads middle after) :
    watch.Leads before after :=
  ⟨early.heap.trans late.heap, late.current.trans early.current,
    late.distances.trans early.distances, late.sound⟩

/-- A change of the heap. -/
theorem Leads.ofHeap {heap : Heap} (precedes : machine.heap.Precedes heap)
    (sound : watch.Sound (machine.withHeap heap)) :
    watch.Leads machine (machine.withHeap heap) :=
  ⟨precedes, rfl, rfl, sound⟩

theorem Leads.carries (leads : watch.Leads before after) : watch.Carries watch before after :=
  ⟨rfl, Nat.le_refl _, leads.heap, fun _ _ => by rw [leads.distances],
    fun _ confined => confined⟩

theorem Leads.good (leads : watch.Leads before after) (sound : watch.Sound before)
    {value : Value} (good : watch.Good before value) : watch.Good after value :=
  leads.carries.good sound good

/-- The distances are the same, and so is what they say. -/
theorem Leads.table (leads : watch.Leads before after) :
    after.table watch.limit = before.table watch.limit := by
  unfold Machine.table
  rw [leads.distances]

/-- Only the heap and the distances matter. -/
theorem Carries.same (sameHeap : after.heap = before.heap)
    (sameDistances : after.distances = before.distances) : watch.Carries watch before after :=
  ⟨rfl, Nat.le_refl _, sameHeap ▸ .refl _, fun _ _ => by rw [sameDistances],
    fun _ confined => confined⟩

theorem Sound.same (sound : watch.Sound before) (sameHeap : after.heap = before.heap)
    (sameDistances : after.distances = before.distances) : watch.Sound after := by
  refine sound.carry (.same sameHeap sameDistances) ?_ sound.everywhere ?_ ?_ ?_ ?_ ?_ ?_ <;>
    rw [sameHeap]
  · exact sound.room
  · exact sound.keeps
  · exact fun bound => .inl bound
  · exact fun found isSet => .inl ⟨_, found, isSet⟩
  · exact fun found => .inl ⟨_, found, rfl⟩
  · exact fun found => .inl found
  · exact fun found => .inl found

/-! ### Where nodes are run -/

/-- The machine is sound, its current frame is that of the environment, and no name in the
environment is forbidden. -/
structure Ready (watch : Watch) (environment : Environment) (machine : Machine) : Prop where
  sound : watch.Sound machine
  aligned : environment.Aligned machine.heap machine.current
  inside : environment.parent? = none
  confined : watch.Confined environment

theorem Ready.later {environment : Environment} (ready : watch.Ready environment before)
    (leads : watch.Leads before after) : watch.Ready environment after := by
  refine ⟨leads.sound, ?_, ready.inside, ready.confined⟩
  rw [leads.current]
  exact ready.aligned.grow leads.heap

/-! ### Runs -/

/-- The run keeps the machine sound, and so does the other one, which does the same; a result
satisfies `result`. -/
def Keeps (watch : Watch) (run other : Run α) (before : Machine) (result : α → Machine → Prop) :
    Prop :=
  Alike run other before (fun value after => watch.Leads before after ∧ result value after)
    fun _ after => watch.Leads before after

namespace Keeps

variable {run other : Run α} {result : α → Machine → Prop}

theorem bind {next otherNext : α → Run β} {first : α → Machine → Prop}
    {second : β → Machine → Prop} (start : watch.Keeps run other before first)
    (rest : ∀ value after, run before = .ok value after → watch.Leads before after →
      first value after → watch.Keeps (next value) (otherNext value) after second) :
    watch.Keeps (run >>= next) (other >>= otherNext) before second := by
  refine Alike.bind (start.mono (fun _ _ holds => holds) fun _ _ leads => leads) ?_
  intro value after ended ⟨leads, holds⟩
  exact (rest value after ended leads holds).mono
    (fun _ _ ⟨further, holds⟩ => ⟨leads.trans further, holds⟩) fun _ _ further =>
      leads.trans further

theorem mono {weaker : α → Machine → Prop} (keeps : watch.Keeps run other before result)
    (results : ∀ value after, watch.Leads before after → result value after →
      weaker value after) : watch.Keeps run other before weaker :=
  Alike.mono keeps (fun value after ⟨leads, holds⟩ => ⟨leads, results value after leads holds⟩)
    fun _ _ leads => leads

/-- What is kept holds of a result that is reached. -/
theorem ok (keeps : watch.Keeps run other before result) {value : α}
    (ended : run before = .ok value after) : watch.Leads before after ∧ result value after :=
  keeps.2.ok ended

/-- The first steps of a run, which change the machine in a known way. -/
theorem begin (middle : Machine) (next otherNext : Run α) (same : run before = next middle)
    (sameOther : other before = otherNext middle) (leads : watch.Leads before middle)
    (keeps : watch.Keeps next otherNext middle result) : watch.Keeps run other before result := by
  have whole : Alike next otherNext middle
      (fun value after => watch.Leads before after ∧ result value after)
      fun _ after => watch.Leads before after :=
    Alike.mono keeps (fun _ _ ⟨further, holds⟩ => ⟨leads.trans further, holds⟩)
      fun _ _ further => leads.trans further
  refine ⟨sameOther.trans (whole.1.trans same.symm), ?_⟩
  have ensured := whole.2
  unfold Ensures at ensured ⊢
  rw [same]
  exact ensured

/-- A step that changes the machine in a known way. -/
theorem step {value : α} (ended : run before = .ok value after)
    (leads : watch.Leads before after) (holds : result value after) :
    watch.Keeps run run before result :=
  .refl (.of_ok ended ⟨leads, holds⟩)

theorem pure {value : α} (sound : watch.Sound before) (holds : result value before) :
    watch.Keeps (Pure.pure value) (Pure.pure value) before result :=
  step rfl (.refl sound) holds

theorem throw {stop : Stop} (sound : watch.Sound before) :
    watch.Keeps (MonadExcept.throw stop : Run α) (MonadExcept.throw stop) before result :=
  .refl (.of_error rfl (.refl sound))

theorem ofExcept {outcome : Except RuntimeError α} (sound : watch.Sound before)
    (holds : ∀ value, outcome = .ok value → result value before) :
    watch.Keeps (Run.ofExcept outcome) (Run.ofExcept outcome) before result := by
  cases outcome with
  | ok value => exact pure sound (holds value rfl)
  | error error => exact throw sound

/-- Looking at the machine changes nothing. -/
theorem get_bind {next otherNext : Machine → Run β} {second : β → Machine → Prop}
    (rest : watch.Keeps (next before) (otherNext before) before second) :
    watch.Keeps (MonadState.get >>= next) (MonadState.get >>= otherNext) before second :=
  rest

/-- What is done to the heap is done in both. -/
theorem changeHeap {change : Heap → Heap} {result : Unit → Machine → Prop}
    (leads : watch.Leads before (before.withHeap (change before.heap)))
    (holds : result () (before.withHeap (change before.heap))) :
    watch.Keeps (Run.changeHeap change) (Run.changeHeap change) before result :=
  step rfl leads holds

/-- Writing changes no more than the sink. -/
theorem write {text : String} {result : Unit → Machine → Prop} (sound : watch.Sound before)
    (holds : ∀ after : Machine, after.heap = before.heap → after.current = before.current →
      after.distances = before.distances → result () after) :
    watch.Keeps (Run.write text) (Run.write text) before result := by
  refine .refl ?_
  unfold Ensures Run.write
  obtain ⟨heap, current, callDepth, distances, sink, clock⟩ := before
  dsimp only
  cases sink.write text.toUTF8 with
  | mk problem sink =>
    cases problem with
    | none => exact ⟨⟨.refl _, rfl, rfl, sound.same rfl rfl⟩, holds _ rfl rfl rfl⟩
    | some problem => exact ⟨.refl _, rfl, rfl, sound.same rfl rfl⟩

/-- A run in another frame, which is left again. -/
theorem within {frame : FrameId}
    (keeps : watch.Keeps run other { before with current := frame } result)
    (keepsBack : ∀ value after, watch.Sound after → result value after →
      result value { after with current := before.current }) :
    watch.Keeps (Run.within frame run) (Run.within frame other) before result := by
  have back {after : Machine} (leads : watch.Leads { before with current := frame } after) :
      watch.Leads before { after with current := before.current } :=
    ⟨leads.heap, rfl, leads.distances, leads.sound.same rfl rfl⟩
  refine ⟨?_, ?_⟩
  · unfold Run.within
    dsimp only
    rw [keeps.1]
  · unfold Ensures Run.within
    dsimp only
    cases ended : run { before with current := frame } with
    | ok value after =>
      have ⟨leads, holds⟩ := keeps.2.ok ended
      exact ⟨back leads, keepsBack _ _ leads.sound holds⟩
    | error stop after => exact back (keeps.2.error ended)

/-- A run with one more call in progress, which is over then. -/
theorem inCall (keeps : watch.Keeps run other before.countCall result)
    (keepsBack : ∀ value after, watch.Sound after → result value after →
      result value { after with callDepth := after.callDepth - 1 }) :
    watch.Keeps (Run.inCall run) (Run.inCall other) before result := by
  have back {after : Machine} (leads : watch.Leads before.countCall after) :
      watch.Leads before { after with callDepth := after.callDepth - 1 } :=
    ⟨leads.heap, leads.current, leads.distances, leads.sound.same rfl rfl⟩
  refine ⟨?_, ?_⟩
  · unfold Run.inCall
    rw [show other { before with callDepth := before.callDepth + 1 } = _ from keeps.1]
    rfl
  · unfold Ensures Run.inCall
    cases ended : run { before with callDepth := before.callDepth + 1 } with
    | ok value after =>
      have ⟨leads, holds⟩ := keeps.2.ok ended
      exact ⟨back leads, keepsBack _ _ leads.sound holds⟩
    | error stop after => exact back (keeps.2.error ended)

end Keeps

end Watch

end Lox
