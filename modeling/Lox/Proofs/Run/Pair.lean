/-
Two heaps side by side, of which one may have frames that the other has not. Functions, classes and
instances have the same places in both, so that values are the same; a function of the one is the
twin of that of the other. Frames have other places, and which of them belong together is a part of
the pair. From two frames that belong together, or from two that only lie inside such ones, the
chains outward run side by side as an alignment says.
-/

import Lox.Proofs.Machine.Growth
import Lox.Proofs.Machine.Looks
import Lox.Proofs.Run.Environment
import Lox.Proofs.Scope.Twin

namespace Lox

open Scope

/-! ### Chains of frames -/

namespace Frames

variable {frames before after : Frames} {id enclosing : FrameId}

/-- Every frame on the way outward is there. -/
def Chained (frames : Frames) (id : FrameId) : Prop :=
  ∀ distance outer, frames.ancestor? id distance = some outer → outer < frames.size

/-- There may be more frames; those that there were are enclosed as before. -/
structure Grows (before after : Frames) : Prop where
  size : before.size ≤ after.size
  enclosing : ∀ {id}, id < before.size → after.enclosing? id = before.enclosing? id

theorem Grows.refl (frames : Frames) : frames.Grows frames := ⟨Nat.le_refl _, fun _ => rfl⟩

theorem Grows.trans {middle : Frames} (early : before.Grows middle) (late : middle.Grows after) :
    before.Grows after :=
  ⟨Nat.le_trans early.size late.size, fun present =>
    (late.enclosing (Nat.lt_of_lt_of_le present early.size)).trans (early.enclosing present)⟩

theorem Grows.add (frames : Frames) (enclosing : Option FrameId) :
    frames.Grows (frames.add enclosing) where
  size := by
    rw [size_add]
    exact Nat.le_succ _
  enclosing present := by rw [enclosing?_add, if_neg (Nat.ne_of_lt present)]

theorem Grows.write (frames : Frames) (id : FrameId) (name : String) (value : Value) :
    frames.Grows (frames.write id name value) where
  size := Nat.le_of_eq (size_write _ _ _ _).symm
  enclosing _ := enclosing?_write _ _ _ _ _

theorem Chained.lt (chained : frames.Chained id) : id < frames.size :=
  chained 0 id rfl

theorem Chained.outer (chained : frames.Chained id)
    (enclosed : frames.enclosing? id = some enclosing) : frames.Chained enclosing := by
  refine fun distance outer isOuter => chained (distance + 1) outer ?_
  rw [ancestor?, enclosed]
  exact isOuter

/-- The way outward stays the same. -/
theorem Chained.ancestor? (chained : before.Chained id) (grows : before.Grows after)
    (distance : Nat) : after.ancestor? id distance = before.ancestor? id distance := by
  induction distance generalizing id with
  | zero => rfl
  | succ distance inductionHypothesis =>
    rw [Frames.ancestor?, Frames.ancestor?, grows.enclosing chained.lt]
    cases enclosed : before.enclosing? id with
    | none => rfl
    | some outer => exact inductionHypothesis (chained.outer enclosed)

theorem Chained.grow (chained : before.Chained id) (grows : before.Grows after) :
    after.Chained id := by
  intro distance outer isOuter
  rw [chained.ancestor? grows] at isOuter
  exact Nat.lt_of_lt_of_le (chained distance outer isOuter) grows.size

/-- One link out from a new frame. -/
theorem ancestor?_add (chained : frames.Chained enclosing) (distance : Nat) :
    (frames.add (some enclosing)).ancestor? frames.size (distance + 1) =
      frames.ancestor? enclosing distance := by
  rw [Frames.ancestor?, enclosing?_add, if_pos rfl]
  exact chained.ancestor? (.add _ _) distance

theorem Chained.add (chained : frames.Chained enclosing) :
    (frames.add (some enclosing)).Chained frames.size := by
  intro distance outer isOuter
  cases distance with
  | zero =>
    cases isOuter
    rw [size_add]
    exact Nat.lt_succ_self _
  | succ distance =>
    rw [ancestor?_add chained] at isOuter
    exact Nat.lt_of_lt_of_le (chained distance outer isOuter) (Grows.add _ _).size

end Frames

/-! ### What is added to a heap -/

namespace Heap

theorem function_addFunction (heap : Heap) (object : FunctionObject)
    (id : FunctionId) : (heap.addFunction object).2.function id =
      if id = heap.functions.size then object else heap.function id := by
  unfold Heap.function Heap.addFunction
  rw [Array.getD_eq_getD_getElem?, Array.getD_eq_getD_getElem?, Array.getElem?_push]
  split <;> rfl

theorem classAt_addClass (heap : Heap) (object : ClassObject) (id : ClassId) :
    (heap.addClass object).2.classAt id =
      if id = heap.classes.size then object else heap.classAt id := by
  unfold classAt addClass
  rw [Array.getD_eq_getD_getElem?, Array.getD_eq_getD_getElem?, Array.getElem?_push]
  split <;> rfl

theorem instanceAt_addInstance (heap : Heap) (classId : ClassId) (id : InstanceId) :
    (heap.addInstance classId).2.instanceAt id =
      if id = heap.instances.size then ⟨classId, .empty⟩ else heap.instanceAt id := by
  unfold instanceAt addInstance
  rw [Array.getD_eq_getD_getElem?, Array.getD_eq_getD_getElem?, Array.getElem?_push]
  split <;> rfl

/-- What an instance has for a field after one was set is what was set or what it had. -/
theorem field_setField_cases {heap : Heap} {id other : InstanceId} {name wanted : String}
    {value found : Value}
    (isSet : ((heap.setField id name value).instanceAt other).fields.get? wanted = some found) :
    found = value ∨ (heap.instanceAt other).fields.get? wanted = some found := by
  unfold instanceAt setField at isSet
  rw [Array.getD_eq_getD_getElem?, Array.getElem?_modify] at isSet
  unfold instanceAt
  rw [Array.getD_eq_getD_getElem?]
  split at isSet
  · cases there : heap.instances[other]? with
    | none =>
      rw [there] at isSet
      exact .inr isSet
    | some object =>
      rw [there] at isSet
      have isSet : (object.fields.write name value).get? wanted = some found := isSet
      rw [Bindings.get?_write] at isSet
      split at isSet
      · exact .inl (Option.some.inj isSet).symm
      · exact .inr isSet
  · exact .inr isSet

end Heap

/-! ### Pairs -/

/-- Two heaps, on machines that know some distances, and which frames of theirs belong together. -/
structure Pair (known knownToo : Distances) where
  left : Heap
  right : Heap
  frames : FrameId → FrameId → Prop

namespace Pair

variable {known knownToo : Distances}

/-- The chains outward from two frames run side by side. -/
structure Linked (pair : Pair known knownToo) (alignment : Alignment)
    (frame frameToo : FrameId) : Prop where
  left : pair.left.frames.Chained frame
  right : pair.right.frames.Chained frameToo
  counterparts : ∀ {distance other}, alignment distance other →
    Option.Rel pair.frames (pair.left.frames.ancestor? frame distance)
      (pair.right.frames.ancestor? frameToo other)

/-- The functions at a place are twins, as the frames are that they are closed over. The frame of
an initializer holds its receiver. -/
def Runs (pair : Pair known knownToo) (id : FunctionId) : Prop :=
  ∃ alignment object objectToo, pair.left.functions[id]? = some object ∧
    pair.right.functions[id]? = some objectToo ∧
    pair.Linked alignment object.closure objectToo.closure ∧
    Twin (.known known knownToo) alignment
      (.function object.declaration objectToo.declaration) ∧
    (object.isInitializer = true → alignment 0 0)

/-- The methods at a place are twins once they have a receiver, whose frame lies around them. -/
def Binds (pair : Pair known knownToo) (id : FunctionId) : Prop :=
  ∃ alignment object objectToo, pair.left.functions[id]? = some object ∧
    pair.right.functions[id]? = some objectToo ∧
    pair.Linked alignment object.closure objectToo.closure ∧
    Twin (.known known knownToo) alignment.inside
      (.function object.declaration objectToo.declaration)

/-- A function that the value is does the same on both sides. -/
def Usable (pair : Pair known knownToo) : Value → Prop
  | .callable (.function id) => pair.Runs id
  | .callable (.method id) => pair.Runs id
  | _ => True

/-- What holds of two heaps side by side. -/
structure Holds (pair : Pair known knownToo) : Prop where
  globals : pair.frames Heap.globalFrame Heap.globalFrame
  present : ∀ {frame frameToo}, pair.frames frame frameToo →
    frame < pair.left.frames.size ∧ frameToo < pair.right.frames.size
  unique : ∀ {frame frameToo other otherToo}, pair.frames frame frameToo →
    pair.frames other otherToo → (frame = other ↔ frameToo = otherToo)
  reads : ∀ {frame frameToo}, pair.frames frame frameToo → ∀ name,
    pair.right.frames.read? frameToo name = pair.left.frames.read? frame name
  values : ∀ {frame frameToo name value}, pair.frames frame frameToo →
    pair.left.frames.read? frame name = some value → pair.Usable value
  size : pair.right.functions.size = pair.left.functions.size
  resembles : ∀ id, (pair.left.function id).Resembles (pair.right.function id)
  classes : pair.right.classes = pair.left.classes
  instances : pair.right.instances = pair.left.instances
  natives : pair.right.natives = pair.left.natives
  fields : ∀ {id name value}, (pair.left.instanceAt id).fields.get? name = some value →
    pair.Usable value
  methods : ∀ {id name method}, (pair.left.classAt id).methods.get? name = some method →
    pair.Binds method

/-- Objects look the same in both heaps. -/
theorem Holds.looks {pair : Pair known knownToo} (holds : pair.Holds) :
    pair.left.Resembles pair.right :=
  ⟨holds.resembles, holds.classes, holds.instances, holds.natives⟩

/-- A pair has grown into another one. -/
structure Later (pair later : Pair known knownToo) : Prop where
  left : pair.left.frames.Grows later.left.frames
  right : pair.right.frames.Grows later.right.frames
  frames : ∀ {frame frameToo}, pair.frames frame frameToo → later.frames frame frameToo
  bound : ∀ {frame name}, (pair.left.frames.read? frame name).isSome →
    (later.left.frames.read? frame name).isSome
  functions : ∀ {id : FunctionId} {object}, pair.left.functions[id]? = some object →
    later.left.functions[id]? = some object
  functionsToo : ∀ {id : FunctionId} {object}, pair.right.functions[id]? = some object →
    later.right.functions[id]? = some object

theorem rel_mono {belong belongToo : FrameId → FrameId → Prop} {frame frameToo : Option FrameId}
    (weaker : ∀ {frame frameToo}, belong frame frameToo → belongToo frame frameToo)
    (rel : Option.Rel belong frame frameToo) : Option.Rel belongToo frame frameToo := by
  cases rel with
  | none => exact .none
  | some belong => exact .some (weaker belong)

namespace Later

variable {pair middle later : Pair known knownToo}

theorem refl (pair : Pair known knownToo) : pair.Later pair :=
  ⟨.refl _, .refl _, id, id, id, id⟩

theorem trans (early : pair.Later middle) (late : middle.Later later) : pair.Later later :=
  ⟨early.left.trans late.left, early.right.trans late.right,
    fun belong => late.frames (early.frames belong), fun bound => late.bound (early.bound bound),
    fun found => late.functions (early.functions found),
    fun found => late.functionsToo (early.functionsToo found)⟩

theorem linked (grows : pair.Later later) {alignment : Alignment} {frame frameToo : FrameId}
    (linked : pair.Linked alignment frame frameToo) : later.Linked alignment frame frameToo := by
  refine ⟨linked.left.grow grows.left, linked.right.grow grows.right, fun aligned => ?_⟩
  rw [linked.left.ancestor? grows.left, linked.right.ancestor? grows.right]
  exact rel_mono grows.frames (linked.counterparts aligned)

theorem runs (grows : pair.Later later) {id : FunctionId} (runs : pair.Runs id) :
    later.Runs id := by
  obtain ⟨alignment, object, objectToo, found, foundToo, linked, twin, here⟩ := runs
  exact ⟨alignment, object, objectToo, grows.functions found, grows.functionsToo foundToo,
    grows.linked linked, twin, here⟩

theorem binds (grows : pair.Later later) {id : FunctionId} (binds : pair.Binds id) :
    later.Binds id := by
  obtain ⟨alignment, object, objectToo, found, foundToo, linked, twin⟩ := binds
  exact ⟨alignment, object, objectToo, grows.functions found, grows.functionsToo foundToo,
    grows.linked linked, twin⟩

theorem usable (grows : pair.Later later) {value : Value} (usable : pair.Usable value) :
    later.Usable value := by
  cases value with
  | callable callable =>
    cases callable with
    | function id => exact grows.runs usable
    | method id => exact grows.runs usable
    | _ => trivial
  | _ => trivial

end Later

namespace Linked

variable {pair : Pair known knownToo} {alignment : Alignment} {frame frameToo : FrameId}

/-- Two frames that belong together. -/
theorem here (linked : pair.Linked alignment frame frameToo) (here : alignment 0 0) :
    pair.frames frame frameToo := by
  have both : Option.Rel pair.frames (some frame) (some frameToo) := linked.counterparts here
  cases both with
  | some belong => exact belong

end Linked

/-! ### A frame more -/

/-- The pair with a frame more on both sides; the new ones belong together. -/
def addFrame (pair : Pair known knownToo) (enclosing enclosingToo : FrameId) :
    Pair known knownToo where
  left := (pair.left.addFrame enclosing).2
  right := (pair.right.addFrame enclosingToo).2
  frames frame frameToo := pair.frames frame frameToo ∨
    frame = pair.left.frames.size ∧ frameToo = pair.right.frames.size

/-- The pair with a frame more on the right side, which belongs to none. -/
def addRight (pair : Pair known knownToo) (enclosing : FrameId) : Pair known knownToo :=
  { pair with right := (pair.right.addFrame enclosing).2 }

/-- The pair with a frame more on the left side, which belongs to none. -/
def addLeft (pair : Pair known knownToo) (enclosing : FrameId) : Pair known knownToo :=
  { pair with left := (pair.left.addFrame enclosing).2 }

section

variable (pair : Pair known knownToo) (enclosing enclosingToo : FrameId)

theorem later_addFrame : pair.Later (pair.addFrame enclosing enclosingToo) :=
  ⟨.add _ _, .add _ _, .inl, fun bound => (Frames.read?_add _ _ _ _).symm ▸ bound, id, id⟩

theorem later_addRight : pair.Later (pair.addRight enclosing) :=
  ⟨.refl _, .add _ _, id, id, id, id⟩

theorem later_addLeft : pair.Later (pair.addLeft enclosing) :=
  ⟨.add _ _, .refl _, id, fun bound => (Frames.read?_add _ _ _ _).symm ▸ bound, id, id⟩

end

variable {pair : Pair known knownToo} {alignment : Alignment} {enclosing enclosingToo : FrameId}

theorem Linked.addFrame (linked : pair.Linked alignment enclosing enclosingToo) :
    (pair.addFrame enclosing enclosingToo).Linked alignment.inside pair.left.frames.size
      pair.right.frames.size := by
  refine ⟨linked.left.add, linked.right.add, fun {distance other} aligned => ?_⟩
  cases distance with
  | zero =>
    cases other with
    | zero => exact .some (.inr ⟨rfl, rfl⟩)
    | succ other => exact aligned.elim
  | succ distance =>
    cases other with
    | zero => exact aligned.elim
    | succ other =>
      show Option.Rel _ ((pair.left.frames.add _).ancestor? _ _)
        ((pair.right.frames.add _).ancestor? _ _)
      rw [Frames.ancestor?_add linked.left, Frames.ancestor?_add linked.right]
      exact rel_mono .inl (linked.counterparts aligned)

theorem Linked.addRight (linked : pair.Linked alignment enclosing enclosingToo) :
    (pair.addRight enclosingToo).Linked alignment.skipRight enclosing pair.right.frames.size := by
  refine ⟨linked.left, linked.right.add, fun {distance other} aligned => ?_⟩
  cases other with
  | zero => exact aligned.elim
  | succ other =>
    show Option.Rel _ _ ((pair.right.frames.add _).ancestor? _ _)
    rw [Frames.ancestor?_add linked.right]
    exact linked.counterparts aligned

theorem Linked.addLeft (linked : pair.Linked alignment enclosing enclosingToo) :
    (pair.addLeft enclosing).Linked alignment.skipLeft pair.left.frames.size enclosingToo := by
  refine ⟨linked.left.add, linked.right, fun {distance other} aligned => ?_⟩
  cases distance with
  | zero => exact aligned.elim
  | succ distance =>
    show Option.Rel _ ((pair.left.frames.add _).ancestor? _ _) _
    rw [Frames.ancestor?_add linked.left]
    exact linked.counterparts aligned

namespace Holds

/-- Where frames alone are other ones than before. -/
theorem addFrame (holds : pair.Holds) (enclosing enclosingToo : FrameId) :
    (pair.addFrame enclosing enclosingToo).Holds := by
  have grows := pair.later_addFrame enclosing enclosingToo
  have old {frame frameToo : FrameId} (belong : pair.frames frame frameToo) :
      frame ≠ pair.left.frames.size ∧ frameToo ≠ pair.right.frames.size :=
    ⟨Nat.ne_of_lt (holds.present belong).1, Nat.ne_of_lt (holds.present belong).2⟩
  refine { holds with
    globals := .inl holds.globals
    present := ?_, unique := ?_, reads := ?_, values := ?_
    fields := fun isSet => grows.usable (holds.fields isSet)
    methods := fun found => grows.binds (holds.methods found) }
  · rintro frame frameToo (belong | ⟨rfl, rfl⟩)
    · exact ⟨Nat.lt_of_lt_of_le (holds.present belong).1 grows.left.size,
        Nat.lt_of_lt_of_le (holds.present belong).2 grows.right.size⟩
    · exact ⟨by simp [Pair.addFrame, Heap.addFrame], by simp [Pair.addFrame, Heap.addFrame]⟩
  · rintro frame frameToo other otherToo (belong | ⟨rfl, rfl⟩) (belongOther | ⟨rfl, rfl⟩)
    · exact holds.unique belong belongOther
    · exact iff_of_false (old belong).1 (old belong).2
    · exact iff_of_false (old belongOther).1.symm (old belongOther).2.symm
    · exact iff_of_true rfl rfl
  · rintro frame frameToo (belong | ⟨rfl, rfl⟩) name
    · exact (Frames.read?_add _ _ _ _).trans
        ((holds.reads belong name).trans (Frames.read?_add _ _ _ _).symm)
    · show (pair.right.frames.add _).read? _ _ = (pair.left.frames.add _).read? _ _
      rw [Frames.read?_add, Frames.read?_add, Frames.read?_size, Frames.read?_size]
  · rintro frame frameToo name value (belong | ⟨rfl, rfl⟩) bound
    all_goals
      have wasBound : pair.left.frames.read? _ name = some value :=
        (Frames.read?_add _ _ _ _).symm.trans bound
    · exact grows.usable (holds.values belong wasBound)
    · exact nomatch (Frames.read?_size _ _).symm.trans wasBound

theorem addRight (holds : pair.Holds) (enclosing : FrameId) : (pair.addRight enclosing).Holds := by
  have grows := pair.later_addRight enclosing
  exact { holds with
    present := fun belong => ⟨(holds.present belong).1,
      Nat.lt_of_lt_of_le (holds.present belong).2 grows.right.size⟩
    reads := fun belong name => (Frames.read?_add _ _ _ _).trans (holds.reads belong name)
    values := fun belong bound => grows.usable (holds.values belong bound)
    fields := fun isSet => grows.usable (holds.fields isSet)
    methods := fun found => grows.binds (holds.methods found) }

theorem addLeft (holds : pair.Holds) (enclosing : FrameId) : (pair.addLeft enclosing).Holds := by
  have grows := pair.later_addLeft enclosing
  exact { holds with
    present := fun belong => ⟨Nat.lt_of_lt_of_le (holds.present belong).1 grows.left.size,
      (holds.present belong).2⟩
    reads := fun belong name => (holds.reads belong name).trans (Frames.read?_add _ _ _ _).symm
    values := fun belong bound => grows.usable
      (holds.values belong ((Frames.read?_add _ _ _ _).symm.trans bound))
    fields := fun isSet => grows.usable (holds.fields isSet)
    methods := fun found => grows.binds (holds.methods found) }

end Holds

/-! ### A name bound -/

/-- The pair with a name bound on both sides. -/
def define (pair : Pair known knownToo) (frame frameToo : FrameId) (name : String)
    (value : Value) : Pair known knownToo :=
  { pair with
    left := pair.left.define frame name value
    right := pair.right.define frameToo name value }

variable {frame frameToo : FrameId} {name : String} {value : Value}

theorem later_define (pair : Pair known knownToo) (frame frameToo : FrameId) (name : String)
    (value : Value) : pair.Later (pair.define frame frameToo name value) := by
  refine ⟨.write _ _ _ _, .write _ _ _ _, id, fun {other wanted} bound => ?_, id, id⟩
  show ((pair.left.frames.write frame name value).read? other wanted).isSome
  rw [Frames.read?_write]
  split
  · rfl
  · exact bound

/-- A value that is usable may be bound in frames that belong together. -/
theorem Holds.define (holds : pair.Holds) (belong : pair.frames frame frameToo) (name : String)
    (usable : pair.Usable value) : (pair.define frame frameToo name value).Holds := by
  have grows := pair.later_define frame frameToo name value
  refine { holds with
    present := fun belong => ⟨Nat.lt_of_lt_of_le (holds.present belong).1 grows.left.size,
      Nat.lt_of_lt_of_le (holds.present belong).2 grows.right.size⟩
    reads := fun {other otherToo} belongOther wanted => ?_
    values := fun {other otherToo} wanted found belongOther bound => ?_
    fields := fun isSet => grows.usable (holds.fields isSet)
    methods := fun found => grows.binds (holds.methods found) }
  · have ⟨present, presentToo⟩ := holds.present belongOther
    show (pair.right.frames.write _ _ _).read? _ _ = (pair.left.frames.write _ _ _).read? _ _
    rw [Frames.read?_write, Frames.read?_write, Frames.isSome_frame? present,
      Frames.isSome_frame? presentToo, holds.reads belongOther]
    simp only [holds.unique belong belongOther]
  · rcases Frames.read?_write_cases bound with ⟨_, _, rfl⟩ | wasBound
    · exact grows.usable usable
    · exact grows.usable (holds.values belongOther wasBound)

/-- Usable values may be bound one after the other. -/
theorem Holds.defineAll (holds : pair.Holds) (belong : pair.frames frame frameToo)
    (entries : List (String × Value)) (usable : ∀ entry ∈ entries, pair.Usable entry.2) :
    ∃ later : Pair known knownToo, pair.Later later ∧ later.Holds ∧
      later.left = pair.left.defineAll frame entries ∧
      later.right = pair.right.defineAll frameToo entries := by
  induction entries generalizing pair with
  | nil => exact ⟨pair, .refl pair, holds, rfl, rfl⟩
  | cons entry others inductionHypothesis =>
    have grows := pair.later_define frame frameToo entry.1 entry.2
    obtain ⟨later, growsToo, holdsToo, left, right⟩ := inductionHypothesis
      (holds.define belong entry.1 (usable entry List.mem_cons_self)) (grows.frames belong)
      fun other member => grows.usable (usable other (List.mem_cons_of_mem _ member))
    exact ⟨later, grows.trans growsToo, holdsToo, left, right⟩

/-! ### A function more -/

/-- The pair with a function more on both sides. -/
def addFunction (pair : Pair known knownToo) (object objectToo : FunctionObject) :
    Pair known knownToo :=
  { pair with
    left := (pair.left.addFunction object).2
    right := (pair.right.addFunction objectToo).2 }

theorem later_addFunction (pair : Pair known knownToo) (object objectToo : FunctionObject) :
    pair.Later (pair.addFunction object objectToo) :=
  ⟨.refl _, .refl _, id, id, Heap.push_some, Heap.push_some⟩

variable {object objectToo : FunctionObject}

theorem Holds.addFunction (holds : pair.Holds) (resembles : object.Resembles objectToo) :
    (pair.addFunction object objectToo).Holds := by
  have grows := pair.later_addFunction object objectToo
  refine { holds with
    values := fun belong bound => grows.usable (holds.values belong bound)
    size := ?_
    resembles := fun id => ?_
    fields := fun isSet => grows.usable (holds.fields isSet)
    methods := fun found => grows.binds (holds.methods found) }
  · show (pair.right.functions.push _).size = (pair.left.functions.push _).size
    rw [Array.size_push, Array.size_push, holds.size]
  · show ((pair.left.addFunction _).2.function id).Resembles
      ((pair.right.addFunction _).2.function id)
    rw [Heap.function_addFunction, Heap.function_addFunction, holds.size]
    split
    · exact resembles
    · exact holds.resembles id

/-- The new functions have the same place. -/
theorem Holds.added (holds : pair.Holds) (object objectToo : FunctionObject) :
    (pair.addFunction object objectToo).left.functions[pair.left.functions.size]? = some object ∧
      (pair.addFunction object objectToo).right.functions[pair.left.functions.size]? =
        some objectToo := by
  refine ⟨Array.getElem?_push_size, ?_⟩
  rw [← holds.size]
  exact Array.getElem?_push_size

/-! ### A bound method -/

/-- The pair with a method that is given its receiver on both sides. -/
def bindMethod (pair : Pair known knownToo) (method : FunctionId) (receiver : InstanceId) :
    Pair known knownToo :=
  ((pair.addFrame (pair.left.function method).closure (pair.right.function method).closure).define
      pair.left.frames.size pair.right.frames.size "this" (.object receiver)).addFunction
    { pair.left.function method with closure := pair.left.frames.size }
    { pair.right.function method with closure := pair.right.frames.size }

theorem later_bindMethod (pair : Pair known knownToo) (method : FunctionId)
    (receiver : InstanceId) : pair.Later (pair.bindMethod method receiver) :=
  ((pair.later_addFrame _ _).trans (later_define _ _ _ _ _)).trans (later_addFunction _ _ _)

/-- With its receiver a method may be called. -/
theorem Holds.bindMethod (holds : pair.Holds) {method : FunctionId} (binds : pair.Binds method)
    (receiver : InstanceId) : (pair.bindMethod method receiver).Holds ∧
      (pair.bindMethod method receiver).Runs pair.left.functions.size := by
  obtain ⟨alignment, object, objectToo, found, foundToo, linked, twin⟩ := binds
  obtain rfl := Heap.function_of_some found
  obtain rfl := Heap.function_of_some foundToo
  have belong : (pair.addFrame (pair.left.function method).closure
      (pair.right.function method).closure).frames pair.left.frames.size pair.right.frames.size :=
    .inr ⟨rfl, rfl⟩
  have opened : ((pair.addFrame (pair.left.function method).closure
      (pair.right.function method).closure).define pair.left.frames.size pair.right.frames.size
      "this" (.object receiver)).Holds :=
    (holds.addFrame _ _).define belong "this" trivial
  have resembles := holds.resembles method
  refine ⟨opened.addFunction ⟨resembles.name, resembles.arity, resembles.isInitializer⟩, ?_⟩
  obtain ⟨isThere, isThereToo⟩ := opened.added
    { pair.left.function method with closure := pair.left.frames.size }
    { pair.right.function method with closure := pair.right.frames.size }
  refine ⟨alignment.inside, _, _, isThere, isThereToo, ?_, twin, fun _ => trivial⟩
  exact (later_addFunction _ _ _).linked ((later_define _ _ _ _ _).linked linked.addFrame)

/-! ### Classes and instances -/

/-- The pair with a class more on both sides. -/
def addClass (pair : Pair known knownToo) (object : ClassObject) : Pair known knownToo :=
  { pair with left := (pair.left.addClass object).2, right := (pair.right.addClass object).2 }

theorem later_addClass (pair : Pair known knownToo) (object : ClassObject) :
    pair.Later (pair.addClass object) :=
  ⟨.refl _, .refl _, id, id, id, id⟩

theorem Holds.addClass (holds : pair.Holds) {object : ClassObject}
    (made : ∀ {name method}, object.methods.get? name = some method → pair.Binds method) :
    (pair.addClass object).Holds := by
  have grows := pair.later_addClass object
  refine { holds with
    values := fun belong bound => grows.usable (holds.values belong bound)
    classes := congrArg (fun classes : Array ClassObject => classes.push object) holds.classes
    fields := fun isSet => grows.usable (holds.fields isSet)
    methods := fun {id name method} found => grows.binds ?_ }
  rw [show (pair.addClass object).left.classAt id = _ from Heap.classAt_addClass _ _ _] at found
  split at found
  · exact made found
  · exact holds.methods found

/-- The pair with an instance more on both sides. -/
def addInstance (pair : Pair known knownToo) (classId : ClassId) : Pair known knownToo :=
  { pair with
    left := (pair.left.addInstance classId).2
    right := (pair.right.addInstance classId).2 }

theorem later_addInstance (pair : Pair known knownToo) (classId : ClassId) :
    pair.Later (pair.addInstance classId) :=
  ⟨.refl _, .refl _, id, id, id, id⟩

theorem Holds.addInstance (holds : pair.Holds) (classId : ClassId) :
    (pair.addInstance classId).Holds := by
  have grows := pair.later_addInstance classId
  refine { holds with
    values := fun belong bound => grows.usable (holds.values belong bound)
    instances := congrArg (fun instances : Array InstanceObject => instances.push ⟨classId, .empty⟩)
      holds.instances
    fields := fun {id name value} isSet => grows.usable ?_
    methods := fun found => grows.binds (holds.methods found) }
  rw [show (pair.addInstance classId).left.instanceAt id = _ from
    Heap.instanceAt_addInstance _ _ _] at isSet
  split at isSet
  · exact nomatch isSet
  · exact holds.fields isSet

/-- The pair with a field set on both sides. -/
def setField (pair : Pair known knownToo) (id : InstanceId) (name : String) (value : Value) :
    Pair known knownToo :=
  { pair with
    left := pair.left.setField id name value
    right := pair.right.setField id name value }

theorem later_setField (pair : Pair known knownToo) (place : InstanceId) (name : String)
    (value : Value) : pair.Later (pair.setField place name value) :=
  ⟨.refl _, .refl _, id, id, id, id⟩

theorem Holds.setField (holds : pair.Holds) (id : InstanceId) (name : String)
    (usable : pair.Usable value) : (pair.setField id name value).Holds := by
  have grows := pair.later_setField id name value
  refine { holds with
    values := fun belong bound => grows.usable (holds.values belong bound)
    instances := ?_
    fields := fun {other wanted found} isSet => grows.usable ?_
    methods := fun found => grows.binds (holds.methods found) }
  · unfold Pair.setField Heap.setField
    dsimp only
    rw [holds.instances]
  · rcases Heap.field_setField_cases isSet with rfl | wasSet
    · exact usable
    · exact holds.fields wasSet

end Pair

end Lox
