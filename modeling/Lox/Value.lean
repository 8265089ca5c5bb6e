/-
The values of a running program. A function, a class, an instance is known by its place in the heap,
so two of them are the same value exactly when they are the same object; all other values are
compared by what they are.
-/

namespace Lox

/-! ### Values -/

/-- The place of a frame in the heap. -/
abbrev FrameId := Nat

/-- The place of a function in the heap. -/
abbrev FunctionId := Nat

/-- The place of a class in the heap. -/
abbrev ClassId := Nat

/-- The place of an instance in the heap. -/
abbrev InstanceId := Nat

/-- The place of a native function in the heap. -/
abbrev NativeId := Nat

/-- A value that can be called. -/
inductive Callable where
  | native (id : NativeId)
  | function (id : FunctionId)
  | constructor (id : ClassId)
  /-- A method with its receiver. -/
  | method (id : FunctionId)
deriving Repr, DecidableEq

/-- What an expression evaluates to. -/
inductive Value where
  | nil
  | boolean (value : Bool)
  | number (value : Float)
  | string (contents : String)
  | callable (callable : Callable)
  | object (id : InstanceId)
deriving Repr, Inhabited

namespace Value

/-- The value is complete in itself: it is no place in the heap. -/
def IsPlain : Value → Prop
  | .callable _ | .object _ => False
  | _ => True

/-- Whether a condition with the value holds: only `nil` and `false` do not. -/
def isTruthy : Value → Bool
  | .nil => false
  | .boolean value => value
  | _ => true

/-- Whether two values are equal. Numbers are equal as numbers are, so one that is not a number
differs from itself. -/
def equals : Value → Value → Bool
  | .nil, .nil => true
  | .boolean left, .boolean right => left == right
  | .number left, .number right => left == right
  | .string left, .string right => left == right
  | .callable left, .callable right => left == right
  | .object left, .object right => left == right
  | _, _ => false

end Value

/-! ### Order -/

/-- How two numbers are ordered, if they are. -/
def orderNumbers (left right : Float) : Option Ordering :=
  if left < right then some .lt
  else if right < left then some .gt
  else if left == right then some .eq
  else none

/-- How two values are ordered: numbers by size, strings by their characters, `false` before `true`.
The outer option is empty for values that are not compared at all, the inner one for numbers without
an order. -/
def Value.order? : Value → Value → Option (Option Ordering)
  | .number left, .number right => some (orderNumbers left right)
  | .string left, .string right => some (some (compare left right))
  | .boolean left, .boolean right => some (some (compare left right))
  | _, _ => none

end Lox
