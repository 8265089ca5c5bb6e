/-
Every change that a run makes to the heap keeps the machine sound. What is there stays as good as it
was, so for each change only what is new needs to be looked at.
-/

import Lox.Proofs.Run.Sound

namespace Lox

open Scope

variable {watch later : Watch} {machine before after : Machine}

/-! ### What is new -/

/-- A machine that has gone on is sound if it was sound and what is new is good. -/
theorem Watch.Sound.carry (sound : watch.Sound before) (carries : watch.Carries later before after)
    (room : later.kept < after.heap.frames.size)
    (everywhere : later.kept = Heap.globalFrame → ∀ name, later.allowed name)
    (keeps : ∀ {name}, (after.heap.frames.read? later.kept name).isSome → later.allowed name)
    (values : ∀ {frame name value}, after.heap.frames.read? frame name = some value →
      before.heap.frames.read? frame name = some value ∨ later.Good after value)
    (fields : ∀ {id : InstanceId} {object name value}, after.heap.instances[id]? = some object →
      object.fields.get? name = some value →
      (∃ earlier, before.heap.instances[id]? = some earlier ∧
        earlier.fields.get? name = some value) ∨ later.Good after value)
    (instances : ∀ {id : InstanceId} {object}, after.heap.instances[id]? = some object →
      (∃ earlier, before.heap.instances[id]? = some earlier ∧
        earlier.classId = object.classId) ∨ object.classId < after.heap.classes.size)
    (classes : ∀ {id : ClassId} {object}, after.heap.classes[id]? = some object →
      before.heap.classes[id]? = some object ∨
        ((∀ parent, object.superclass = some parent → parent < after.heap.classes.size) ∧
          ∀ name method, object.methods.get? name = some method → later.Made after id method))
    (functions : ∀ {id : FunctionId} {object}, after.heap.functions[id]? = some object →
      before.heap.functions[id]? = some object ∨
        ∀ reference ∈ object.declaration.references, reference < later.limit) :
    later.Sound after where
  room := room
  outermost := by
    have same := carries.heap.enclosing (Nat.zero_lt_of_lt sound.room)
    exact same.trans sound.outermost
  everywhere := everywhere
  keeps := keeps
  values bound := by
    rcases values bound with wasBound | good
    · exact carries.good sound (sound.values wasBound)
    · exact good
  fields found isSet := by
    rcases fields found isSet with ⟨earlier, wasFound, wasSet⟩ | good
    · exact carries.good sound (sound.fields wasFound wasSet)
    · exact good
  instances found := by
    rcases instances found with ⟨earlier, wasFound, same⟩ | present
    · exact same ▸ carries.heap.lt_classes (sound.instances wasFound)
    · exact present
  parents found isParent := by
    rcases classes found with wasFound | ⟨present, _⟩
    · exact carries.heap.lt_classes (sound.parents wasFound isParent)
    · exact present _ isParent
  methods found own := by
    rcases classes found with wasFound | ⟨_, made⟩
    · exact carries.made sound (sound.methods wasFound own)
    · exact made _ _ own
  functions found reference member := by
    rcases functions found with wasFound | small
    · exact Nat.lt_of_lt_of_le (sound.functions wasFound reference member) carries.limit
    · exact small reference member

/-! ### Frames -/

namespace Frames

/-- What is bound in a new frame or elsewhere, after names were bound in the new frame. -/
theorem read?_defineAll_cases {heap : Heap} {frame id : FrameId} {name : String} {value : Value}
    (entries : List (String × Value))
    (bound : (heap.defineAll frame entries).frames.read? id name = some value) :
    heap.frames.read? id name = some value ∨ (id = frame ∧ (name, value) ∈ entries) := by
  induction entries generalizing heap with
  | nil => exact .inl bound
  | cons entry others inductionHypothesis =>
    rcases inductionHypothesis bound with wasBound | ⟨same, member⟩
    · rcases read?_write_cases wasBound with ⟨same, rfl, rfl⟩ | earlier
      · exact .inr ⟨same, List.mem_cons_self⟩
      · exact .inl earlier
    · exact .inr ⟨same, List.mem_cons_of_mem _ member⟩

end Frames

namespace Heap

@[simp] theorem defineAll_size (heap : Heap) (frame : FrameId) (entries : List (String × Value)) :
    (heap.defineAll frame entries).frames.size = heap.frames.size := by
  induction entries generalizing heap with
  | nil => rfl
  | cons entry others inductionHypothesis =>
    exact (inductionHypothesis _).trans (Frames.size_write _ _ _ _)

@[simp] theorem defineAll_functions (heap : Heap) (frame : FrameId)
    (entries : List (String × Value)) :
    (heap.defineAll frame entries).functions = heap.functions := by
  induction entries generalizing heap with
  | nil => rfl
  | cons entry others inductionHypothesis => exact inductionHypothesis _

@[simp] theorem defineAll_classes (heap : Heap) (frame : FrameId)
    (entries : List (String × Value)) :
    (heap.defineAll frame entries).classes = heap.classes := by
  induction entries generalizing heap with
  | nil => rfl
  | cons entry others inductionHypothesis => exact inductionHypothesis _

@[simp] theorem defineAll_instances (heap : Heap) (frame : FrameId)
    (entries : List (String × Value)) :
    (heap.defineAll frame entries).instances = heap.instances := by
  induction entries generalizing heap with
  | nil => rfl
  | cons entry others inductionHypothesis => exact inductionHypothesis _

@[simp] theorem defineAll_enclosing? (heap : Heap) (frame id : FrameId)
    (entries : List (String × Value)) :
    (heap.defineAll frame entries).frames.enclosing? id = heap.frames.enclosing? id := by
  induction entries generalizing heap with
  | nil => rfl
  | cons entry others inductionHypothesis =>
    exact (inductionHypothesis _).trans (Frames.enclosing?_write _ _ _ _ _)

/-- Binding further names leaves bound what was bound. -/
theorem defineAll_bound {heap : Heap} {frame id : FrameId} {name : String}
    (entries : List (String × Value)) (bound : (heap.frames.read? id name).isSome) :
    ((heap.defineAll frame entries).frames.read? id name).isSome := by
  induction entries generalizing heap with
  | nil => exact bound
  | cons entry others inductionHypothesis =>
    refine inductionHypothesis ?_
    show ((heap.frames.write frame entry.1 entry.2).read? id name).isSome
    rw [Frames.read?_write]
    split
    · rfl
    · exact bound

/-- Each of the names is bound. -/
theorem defineAll_binds {heap : Heap} {frame : FrameId} {name : String}
    (entries : List (String × Value)) (present : frame < heap.frames.size)
    (member : name ∈ entries.map Prod.fst) :
    ((heap.defineAll frame entries).frames.read? frame name).isSome := by
  induction entries generalizing heap with
  | nil => exact absurd member List.not_mem_nil
  | cons entry others inductionHypothesis =>
    rcases List.mem_cons.mp member with rfl | inOthers
    · refine defineAll_bound others ?_
      rw [show (heap.define frame entry.1 entry.2).frames.read? frame entry.1 = some entry.2 from
        Frames.read?_write_self present]
      rfl
    · refine inductionHypothesis ?_ inOthers
      rw [show (heap.define frame entry.1 entry.2).frames.size = heap.frames.size from
        Frames.size_write _ _ _ _]
      exact present

/-- An instance after a field was set is the one that was there, perhaps with the field. -/
theorem setField_cases {heap : Heap} {id other : InstanceId} {name : String} {value : Value}
    {object : InstanceObject}
    (found : (heap.setField id name value).instances[other]? = some object) :
    ∃ earlier, heap.instances[other]? = some earlier ∧
      (object = earlier ∨ object = { earlier with fields := earlier.fields.write name value }) := by
  unfold setField at found
  dsimp only at found
  rw [Array.getElem?_modify] at found
  split at found
  · obtain ⟨earlier, wasFound, rfl⟩ := Option.map_eq_some_iff.mp found
    exact ⟨earlier, wasFound, .inr rfl⟩
  · exact ⟨object, found, .inl rfl⟩

/-- A heap with a new frame that binds some names. -/
def openFrame (heap : Heap) (enclosing : FrameId) (entries : List (String × Value)) : Heap :=
  (heap.addFrame enclosing).2.defineAll heap.frames.size entries

theorem openFrame_size (heap : Heap) (enclosing : FrameId) (entries : List (String × Value)) :
    (heap.openFrame enclosing entries).frames.size = heap.frames.size + 1 := by
  unfold openFrame
  rw [defineAll_size]
  exact Frames.size_add _ _

theorem openFrame_functions (heap : Heap) (enclosing : FrameId)
    (entries : List (String × Value)) :
    (heap.openFrame enclosing entries).functions = heap.functions :=
  defineAll_functions _ _ entries

theorem openFrame_classes (heap : Heap) (enclosing : FrameId)
    (entries : List (String × Value)) :
    (heap.openFrame enclosing entries).classes = heap.classes :=
  defineAll_classes _ _ entries

theorem openFrame_instances (heap : Heap) (enclosing : FrameId)
    (entries : List (String × Value)) :
    (heap.openFrame enclosing entries).instances = heap.instances :=
  defineAll_instances _ _ entries

theorem openFrame_enclosing? (heap : Heap) (enclosing : FrameId)
    (entries : List (String × Value)) :
    (heap.openFrame enclosing entries).frames.enclosing? heap.frames.size = some enclosing := by
  unfold openFrame
  rw [defineAll_enclosing?]
  exact (Frames.enclosing?_add _ _ _).trans (if_pos rfl)

theorem Precedes.openFrame (heap : Heap) (enclosing : FrameId) (entries : List (String × Value)) :
    heap.Precedes (heap.openFrame enclosing entries) :=
  ((Precedes.refl heap).addFrame enclosing).defineAll entries (Nat.le_refl _)

/-- Each of the names is bound in the new frame. -/
theorem openFrame_binds (heap : Heap) (enclosing : FrameId) {entries : List (String × Value)}
    {name : String} (member : name ∈ entries.map Prod.fst) :
    ((heap.openFrame enclosing entries).frames.read? heap.frames.size name).isSome := by
  refine defineAll_binds entries ?_ member
  rw [show (heap.addFrame enclosing).2.frames.size = _ from Frames.size_add _ _]
  exact Nat.lt_succ_self _

/-- A name that is bound last in a new frame has its value there. -/
theorem openFrame_read? (heap : Heap) (enclosing : FrameId) (name : String) (value : Value) :
    (heap.openFrame enclosing [(name, value)]).frames.read? heap.frames.size name =
      some value :=
  Frames.read?_write_self (by
    rw [show (heap.addFrame enclosing).2.frames.size = _ from Frames.size_add _ _]
    exact Nat.lt_succ_self _)

theorem openFrame_read?_cases {heap : Heap} {enclosing id : FrameId}
    {entries : List (String × Value)} {name : String} {value : Value}
    (bound : (heap.openFrame enclosing entries).frames.read? id name = some value) :
    heap.frames.read? id name = some value ∨
      (id = heap.frames.size ∧ (name, value) ∈ entries) := by
  rcases Frames.read?_defineAll_cases entries bound with wasBound | new
  · exact .inl ((Frames.read?_add _ _ _ _).symm.trans wasBound)
  · exact .inr new

end Heap

namespace Watch.Sound

/-- A new frame that binds good values. -/
theorem openFrame_carry (sound : watch.Sound machine) {enclosing : FrameId}
    {entries : List (String × Value)} (good : ∀ entry ∈ entries, watch.Good machine entry.2)
    (carries : watch.Carries later machine
      (machine.withHeap (machine.heap.openFrame enclosing entries)))
    (room : later.kept < machine.heap.frames.size + 1)
    (everywhere : later.kept = Heap.globalFrame → ∀ name, later.allowed name)
    (keeps : ∀ {name}, ((machine.heap.openFrame enclosing entries).frames.read? later.kept
      name).isSome → later.allowed name) :
    later.Sound (machine.withHeap (machine.heap.openFrame enclosing entries)) := by
  refine sound.carry carries ?_ everywhere keeps ?_ ?_ ?_ ?_ ?_
  · show _ < (machine.heap.openFrame enclosing entries).frames.size
    rw [Heap.openFrame_size]
    exact room
  · intro frame name value bound
    rcases Heap.openFrame_read?_cases bound with wasBound | ⟨_, member⟩
    · exact .inl wasBound
    · exact .inr (carries.good sound (good _ member))
  · intro id object name value found isSet
    refine .inl ⟨object, ?_, isSet⟩
    exact Heap.openFrame_instances machine.heap enclosing entries ▸ found
  · intro id object found
    refine .inl ⟨object, ?_, rfl⟩
    exact Heap.openFrame_instances machine.heap enclosing entries ▸ found
  · intro id object found
    exact .inl (Heap.openFrame_classes machine.heap enclosing entries ▸ found)
  · intro id object found
    exact .inl (Heap.openFrame_functions machine.heap enclosing entries ▸ found)

theorem openFrame (sound : watch.Sound machine) (enclosing : FrameId)
    (entries : List (String × Value)) (good : ∀ entry ∈ entries, watch.Good machine entry.2) :
    watch.Sound (machine.withHeap (machine.heap.openFrame enclosing entries)) := by
  have precedes := Heap.Precedes.openFrame machine.heap enclosing entries
  refine sound.openFrame_carry good (.ofHeap watch precedes)
    (Nat.lt_succ_of_lt sound.room) sound.everywhere ?_
  intro name bound
  obtain ⟨value, bound⟩ := Option.isSome_iff_exists.mp bound
  rcases Heap.openFrame_read?_cases bound with wasBound | ⟨isNew, _⟩
  · exact sound.keeps (Option.isSome_iff_exists.mpr ⟨value, wasBound⟩)
  · exact absurd isNew (Nat.ne_of_lt sound.room)

/-- The new frame is the one to be watched from then on. -/
theorem openFrame_watched (sound : watch.Sound machine) (enclosing : FrameId)
    (entries : List (String × Value)) (good : ∀ entry ∈ entries, watch.Good machine entry.2)
    {allowed : String → Prop} (areAllowed : ∀ entry ∈ entries, allowed entry.1) :
    Watch.Sound ⟨watch.start, watch.limit, machine.heap.frames.size, allowed⟩
      (machine.withHeap (machine.heap.openFrame enclosing entries)) := by
  have carries : watch.Carries ⟨watch.start, watch.limit, machine.heap.frames.size, allowed⟩
      machine (machine.withHeap (machine.heap.openFrame enclosing entries)) := by
    refine ⟨rfl, Nat.le_refl _, .openFrame _ _ _, fun _ _ => rfl, ?_⟩
    intro environment frame aligned _ activation member isNew
    exact absurd isNew (Nat.ne_of_lt (aligned.frame_lt activation member).1)
  refine sound.openFrame_carry good carries (Nat.lt_succ_self _) ?_ ?_
  · exact fun isGlobal => absurd isGlobal (Nat.ne_of_gt (Nat.zero_lt_of_lt sound.room))
  · intro name bound
    obtain ⟨value, bound⟩ := Option.isSome_iff_exists.mp bound
    rcases Heap.openFrame_read?_cases bound with wasBound | ⟨_, member⟩
    · exact nomatch (Frames.read?_size _ _).symm.trans wasBound
    · exact areAllowed _ member

/-- A name is bound to a value that is good then, an allowed one if the frame is watched. -/
theorem define (sound : watch.Sound machine) {frame : FrameId} {name : String} {value : Value}
    (good : watch.Good (machine.withHeap (machine.heap.define frame name value)) value)
    (isVariable : IsVariable name) (isAllowed : frame = watch.kept → watch.allowed name) :
    watch.Sound (machine.withHeap (machine.heap.define frame name value)) := by
  have carries := Carries.ofHeap watch
    ((Heap.Precedes.refl machine.heap).define frame name value (.inl isVariable))
  refine sound.carry carries ?_ sound.everywhere ?_ ?_ ?_ ?_ ?_ ?_
  · exact Nat.lt_of_lt_of_le sound.room carries.heap.size
  · intro other bound
    obtain ⟨found, bound⟩ := Option.isSome_iff_exists.mp bound
    rcases Frames.read?_write_cases bound with ⟨same, rfl, _⟩ | wasBound
    · exact isAllowed same.symm
    · exact sound.keeps (Option.isSome_iff_exists.mpr ⟨found, wasBound⟩)
  · intro id other found bound
    rcases Frames.read?_write_cases bound with ⟨_, _, rfl⟩ | wasBound
    · exact .inr good
    · exact .inl wasBound
  · exact fun found isSet => .inl ⟨_, found, isSet⟩
  · exact fun found => .inl ⟨_, found, rfl⟩
  · exact fun found => .inl found
  · exact fun found => .inl found

/-! ### Objects -/

/-- A new function whose references are below the limit. -/
theorem addFunction (sound : watch.Sound machine) (object : FunctionObject)
    (small : ∀ reference ∈ object.declaration.references, reference < watch.limit) :
    watch.Sound (machine.withHeap (machine.heap.addFunction object).2) := by
  have carries := Carries.ofHeap watch
    ((Heap.Precedes.refl machine.heap).addFunction object)
  refine sound.carry carries sound.room sound.everywhere sound.keeps (fun bound => .inl bound)
    (fun found isSet => .inl ⟨_, found, isSet⟩) (fun found => .inl ⟨_, found, rfl⟩)
    (fun found => .inl found) ?_
  intro id other found
  rcases Heap.push_cases found with ⟨_, rfl⟩ | wasFound
  · exact .inr small
  · exact .inl wasFound

/-- A new instance of a class. -/
theorem addInstance (sound : watch.Sound machine) {classId : ClassId}
    (present : classId < machine.heap.classes.size) :
    watch.Sound (machine.addInstance classId) := by
  have carries := Carries.ofHeap watch
    ((Heap.Precedes.refl machine.heap).addInstance classId)
  refine sound.carry carries sound.room sound.everywhere sound.keeps (fun bound => .inl bound)
    ?_ ?_ (fun found => .inl found) (fun found => .inl found)
  · intro id object name value found isSet
    rcases Heap.push_cases found with ⟨_, rfl⟩ | wasFound
    · exact nomatch isSet
    · exact .inl ⟨object, wasFound, isSet⟩
  · intro id object found
    rcases Heap.push_cases found with ⟨_, rfl⟩ | wasFound
    · exact .inr present
    · exact .inl ⟨object, wasFound, rfl⟩

/-- A new class whose methods were made for it. -/
theorem addClass (sound : watch.Sound machine) {object : ClassObject}
    (parent : ∀ parent, object.superclass = some parent → parent < machine.heap.classes.size)
    (made : ∀ name method, object.methods.get? name = some method →
      watch.Made (machine.addClass object) machine.heap.classes.size method) :
    watch.Sound (machine.addClass object) := by
  have carries := Carries.ofHeap watch
    ((Heap.Precedes.refl machine.heap).addClass object)
  refine sound.carry carries sound.room sound.everywhere sound.keeps (fun bound => .inl bound)
    (fun found isSet => .inl ⟨_, found, isSet⟩) (fun found => .inl ⟨_, found, rfl⟩)
    ?_ (fun found => .inl found)
  intro id other found
  rcases Heap.push_cases found with ⟨rfl, rfl⟩ | wasFound
  · exact .inr ⟨fun _ isParent => carries.heap.lt_classes (parent _ isParent), made⟩
  · exact .inl wasFound

/-- A field is set to a good value. -/
theorem setField (sound : watch.Sound machine) {id : InstanceId} {name : String} {value : Value}
    (good : watch.Good machine value) :
    watch.Sound (machine.withHeap (machine.heap.setField id name value)) := by
  have carries := Carries.ofHeap watch
    ((Heap.Precedes.refl machine.heap).setField id name value)
  refine sound.carry carries sound.room sound.everywhere sound.keeps (fun bound => .inl bound)
    ?_ ?_ (fun found => .inl found) (fun found => .inl found)
  · intro other object wanted found isFound isSet
    obtain ⟨earlier, wasFound, isEarlier⟩ := Heap.setField_cases isFound
    rcases isEarlier with rfl | rfl
    · exact .inl ⟨object, wasFound, isSet⟩
    · dsimp only at isSet
      rw [Bindings.get?_write] at isSet
      split at isSet
      · cases isSet
        exact .inr (carries.good sound good)
      · exact .inl ⟨earlier, wasFound, isSet⟩
  · intro other object found
    obtain ⟨earlier, wasFound, isEarlier⟩ := Heap.setField_cases found
    rcases isEarlier with rfl | rfl
    · exact .inl ⟨object, wasFound, rfl⟩
    · exact .inl ⟨earlier, wasFound, rfl⟩

end Watch.Sound

end Lox
