/-
What holds of the machine throughout a session of accepted sources. Every function value was closed
over an environment that the heap bears out, and its text is placed rightly in it; every method in a
class was made by the execution of the declaration of the class. Next to that, one frame is watched:
it binds no other names than those allowed.
-/

import Lox.Proofs.Run.History

namespace Lox

open Scope

/-! ### What is watched -/

/-- What a run has to keep to: the session whose history it is part of, the limit below which all
references are, and a frame with the names it may bind. -/
structure Watch where
  start : Session
  limit : Reference
  kept : FrameId
  allowed : String → Prop

/-- What the machine knows about references below a limit. -/
def Machine.table (machine : Machine) (limit : Reference) : Table := fun reference distance =>
  reference < limit ∧ machine.distances[reference]? = distance

namespace Watch

variable (watch : Watch) (machine : Machine)

/-- The activations with the watched frame have no other names than those allowed. -/
def Confined (environment : Environment) : Prop :=
  ∀ activation ∈ environment, activation.frame = watch.kept →
    ∀ name, activation.names.contains name = true → watch.allowed name

/-- A function is closed over the frame of an environment in which its text is placed rightly. -/
def Fits (environment : Environment) (function : FunctionId) : Prop :=
  environment.parent? = none ∧ ∃ object, machine.heap.functions[function]? = some object ∧
    environment.Aligned machine.heap object.closure ∧
    object.declaration.Placed (machine.table watch.limit) environment.scopes

/-- A method is closed over the frame of an environment in which its text, with the scope of `this`
around it, is placed rightly; the superclass of its class is that of the environment. -/
def MethodFits (environment : Environment) (declaring : ClassId) (method : FunctionId) : Prop :=
  (∃ object, machine.heap.functions[method]? = some object ∧
    environment.Aligned machine.heap object.closure ∧
    object.declaration.Placed (machine.table watch.limit) (only "this" :: environment.scopes)) ∧
  ∃ found, machine.heap.classes[declaring]? = some found ∧ found.superclass = environment.parent?

/-- A function was closed over an environment, and fits it. -/
def Closed (function : FunctionId) : Prop :=
  ∃ environment origin, Happens watch.start (.closing environment function origin) ∧
    origin.Precedes machine ∧ watch.Fits machine environment function ∧
    watch.Confined environment

/-- A method was made by the declaration of a class, and fits the environment of it. -/
def Made (declaring : ClassId) (method : FunctionId) : Prop :=
  ∃ environment origin, Happens watch.start (.method environment declaring method origin) ∧
    origin.Precedes machine ∧ watch.MethodFits machine environment declaring method ∧
    watch.Confined environment

/-- A value refers to something that there is; a function was closed over an environment. -/
def Good : Value → Prop
  | .callable (.function id) => watch.Closed machine id
  | .callable (.method id) => watch.Closed machine id
  | .callable (.constructor id) => id < machine.heap.classes.size
  | .object id => id < machine.heap.instances.size
  | _ => True

/-- What holds of the machine. -/
structure Sound : Prop where
  room : watch.kept < machine.heap.frames.size
  outermost : machine.heap.frames.enclosing? Heap.globalFrame = none
  everywhere : watch.kept = Heap.globalFrame → ∀ name, watch.allowed name
  keeps : ∀ {name}, (machine.heap.frames.read? watch.kept name).isSome → watch.allowed name
  values : ∀ {frame name value}, machine.heap.frames.read? frame name = some value →
    watch.Good machine value
  fields : ∀ {id : InstanceId} {object name value}, machine.heap.instances[id]? = some object →
    object.fields.get? name = some value → watch.Good machine value
  instances : ∀ {id : InstanceId} {object}, machine.heap.instances[id]? = some object →
    object.classId < machine.heap.classes.size
  parents : ∀ {id : ClassId} {object parent}, machine.heap.classes[id]? = some object →
    object.superclass = some parent → parent < machine.heap.classes.size
  methods : ∀ {id : ClassId} {object name method}, machine.heap.classes[id]? = some object →
    object.methods.get? name = some method → watch.Made machine id method
  functions : ∀ {id : FunctionId} {object}, machine.heap.functions[id]? = some object →
    ∀ reference ∈ object.declaration.references, reference < watch.limit

end Watch

/-! ### Going on -/

/-- The machine has gone on, and what is watched may have changed with it. -/
structure Watch.Carries (watch later : Watch) (before after : Machine) : Prop where
  start : later.start = watch.start
  limit : watch.limit ≤ later.limit
  heap : before.heap.Precedes after.heap
  distances : ∀ reference < watch.limit,
    after.distances[reference]? = before.distances[reference]?
  confined : ∀ {environment frame}, Environment.Aligned before.heap environment frame →
    watch.Confined environment → later.Confined environment

namespace Watch.Carries

variable {watch later : Watch} {before after : Machine}

/-- A change of the heap alone. -/
theorem ofHeap (watch : Watch) {heap : Heap} (precedes : before.heap.Precedes heap) :
    watch.Carries watch before (before.withHeap heap) :=
  ⟨rfl, Nat.le_refl _, precedes, fun _ _ => rfl, fun _ confined => confined⟩

theorem table (carries : watch.Carries later before after) {reference : Reference}
    {distance : Option Nat} (known : before.table watch.limit reference distance) :
    after.table later.limit reference distance :=
  ⟨Nat.lt_of_lt_of_le known.1 carries.limit, (carries.distances reference known.1).trans known.2⟩

/-- What came before the machine still does. -/
theorem origin (carries : watch.Carries later before after) (sound : watch.Sound before)
    {origin : Machine} (precedes : origin.Precedes before) : origin.Precedes after where
  heap := precedes.heap.trans carries.heap
  distances found reference member :=
    (precedes.distances found reference member).trans (carries.distances reference
      (sound.functions (precedes.heap.functions found) reference member)).symm

theorem fits (carries : watch.Carries later before after) {environment : Environment}
    {function : FunctionId} (fits : watch.Fits before environment function) :
    later.Fits after environment function := by
  obtain ⟨inside, object, found, aligned, placed⟩ := fits
  refine ⟨inside, object, carries.heap.functions found, aligned.grow carries.heap, ?_⟩
  exact FunctionDeclaration.Placed.mono _ (fun _ _ _ => carries.table) placed

theorem closed (carries : watch.Carries later before after) (sound : watch.Sound before)
    {function : FunctionId} (closed : watch.Closed before function) :
    later.Closed after function := by
  obtain ⟨environment, origin, happened, precedes, fits, confined⟩ := closed
  have ⟨_, _, _, aligned, _⟩ := fits
  exact ⟨environment, origin, carries.start ▸ happened, carries.origin sound precedes,
    carries.fits fits, carries.confined aligned confined⟩

theorem made (carries : watch.Carries later before after) (sound : watch.Sound before)
    {declaring : ClassId} {method : FunctionId} (made : watch.Made before declaring method) :
    later.Made after declaring method := by
  obtain ⟨environment, origin, happened, precedes, ⟨⟨object, found, aligned, placed⟩,
    declared, isClass, parent⟩, confined⟩ := made
  refine ⟨environment, origin, carries.start ▸ happened, carries.origin sound precedes,
    ⟨⟨object, carries.heap.functions found, aligned.grow carries.heap, ?_⟩, declared,
      carries.heap.classes isClass, parent⟩, carries.confined aligned confined⟩
  exact FunctionDeclaration.Placed.mono _ (fun _ _ _ => carries.table) placed

end Watch.Carries

namespace Heap.Precedes

variable {before after : Heap}

theorem lt_classes (precedes : before.Precedes after) {id : ClassId}
    (present : id < before.classes.size) : id < after.classes.size :=
  (Array.getElem?_eq_some_iff.mp
    (precedes.classes (Array.getElem?_eq_getElem present))).1

theorem lt_instances (precedes : before.Precedes after) {id : InstanceId}
    (present : id < before.instances.size) : id < after.instances.size := by
  obtain ⟨later, found, _⟩ := precedes.instances (Array.getElem?_eq_getElem present)
  exact (Array.getElem?_eq_some_iff.mp found).1

end Heap.Precedes

/-- A good value stays good. -/
theorem Watch.Carries.good {watch later : Watch} {before after : Machine}
    (carries : watch.Carries later before after) (sound : watch.Sound before) {value : Value}
    (good : watch.Good before value) : later.Good after value := by
  cases value with
  | callable callable =>
    cases callable with
    | native id => trivial
    | function id => exact carries.closed sound good
    | constructor id => exact carries.heap.lt_classes good
    | method id => exact carries.closed sound good
  | object id => exact carries.heap.lt_instances good
  | _ => trivial

end Lox
