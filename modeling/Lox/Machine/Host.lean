/-
Functions of the host. A host function is told its arguments and looks at what the heap shows of
them; it may set fields, and it answers with a value or fails with a message. It makes no objects,
and each value that it hands on it was given or found there: so much is assumed of all of them.
-/

import Lox.Value

namespace Lox

/-! ### What a host function does -/

/-- What a heap shows to the host: neither frames nor the bodies of functions. -/
structure HostView where
  /-- How values are written. -/
  text : Value → String
  arity : Callable → Nat
  field? : InstanceId → String → Option Value
  classOf : InstanceId → ClassId
  superclass? : ClassId → Option ClassId
  method? : ClassId → String → Option FunctionId

/-- A field of an instance, and the value that it is set to. -/
structure FieldStore where
  receiver : InstanceId
  name : String
  value : Value
deriving Repr

/-- What a host function does: it sets fields, one after the other, and then answers with a value or
fails with a message. -/
structure HostEffect where
  stores : List FieldStore
  answer : Except String Value

/-! ### What is assumed of it -/

/-- The value is complete in itself, or it is one of the arguments, or it is found from these on: in
a field of an instance, as the class of an instance or as the superclass of a class. -/
inductive HostView.Reaches (view : HostView) (arguments : List Value) : Value → Prop
  | plain {value} : value.IsPlain → Reaches view arguments value
  | argument {value} : value ∈ arguments → Reaches view arguments value
  | field {id name value} : Reaches view arguments (.object id) →
    view.field? id name = some value → Reaches view arguments value
  | classOf {id} : Reaches view arguments (.object id) →
    Reaches view arguments (.callable (.constructor (view.classOf id)))
  | superclass {id parent} : Reaches view arguments (.callable (.constructor id)) →
    view.superclass? id = some parent → Reaches view arguments (.callable (.constructor parent))

/-- The values that are stored and answered, and the instances in which they are stored, are within
reach. -/
structure HostEffect.HandsOn (effect : HostEffect) (view : HostView) (arguments : List Value) :
    Prop where
  receivers : ∀ store ∈ effect.stores, view.Reaches arguments (.object store.receiver)
  values : ∀ store ∈ effect.stores, view.Reaches arguments store.value
  answer : ∀ {value}, effect.answer = .ok value → view.Reaches arguments value

/-- A host function, which hands on only what is within its reach. -/
structure HostFunction where
  effect : HostView → List Value → HostEffect
  handsOn : ∀ view arguments, (effect view arguments).HandsOn view arguments

/-! ### Host functions that set no fields -/

/-- An answer that is put together without the heap: a plain value, or one of the arguments. -/
inductive HostAnswer where
  | nil
  | boolean (value : Bool)
  | number (value : Float)
  | string (contents : String)
  | argument (index : Nat)
deriving Repr

/-- The value of a host function's answer. An argument that there is not is `nil`. -/
def HostAnswer.value (arguments : List Value) : HostAnswer → Value
  | .nil => .nil
  | .boolean value => .boolean value
  | .number value => .number value
  | .string contents => .string contents
  | .argument index => arguments.getD index .nil

theorem HostAnswer.reaches (view : HostView) (arguments : List Value) (answer : HostAnswer) :
    view.Reaches arguments (answer.value arguments) := by
  cases answer with
  | argument index =>
    show view.Reaches arguments (arguments.getD index .nil)
    rw [List.getD_eq_getElem?_getD]
    cases given : arguments[index]? with
    | none => exact .plain trivial
    | some value => exact .argument (List.mem_of_getElem? given)
  | _ => exact .plain trivial

/-- A host function that only answers, told how values are written. -/
def HostFunction.ofAnswer (answer : (Value → String) → List Value → Except String HostAnswer) :
    HostFunction where
  effect view arguments := ⟨[], (answer view.text arguments).map (·.value arguments)⟩
  handsOn view arguments := by
    refine ⟨nofun, nofun, fun {value} given => ?_⟩
    cases found : answer view.text arguments with
    | error message =>
      rw [found] at given
      exact nomatch given
    | ok answer =>
      rw [found] at given
      cases given
      exact answer.reaches view arguments

instance : Coe ((Value → String) → List Value → Except String HostAnswer) HostFunction :=
  ⟨.ofAnswer⟩

end Lox
