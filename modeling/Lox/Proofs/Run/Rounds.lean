/-
An expression without effects is evaluated twice. The two rounds are followed side by side, each on
a heap of its own that spares the one they have in common; so they read the same, decide the same
and fail alike. What a round gives is a value that there was before, or something new; then the
other round gives something new of the same kind, and neither is equal to anything else. The rules
below follow the parts of a node, and the depth carries the induction over the tree.
-/

import Lox.Proofs.Run.Reached
import Lox.Proofs.Run.Spared

namespace Lox

/-! ### What is new -/

/-- What an expression without effects can add: a function that it closes, or a method that it binds
to a receiver. -/
inductive Addition where
  | closure (declaration : FunctionDeclaration)
  | method (method : FunctionId) (receiver : InstanceId)

/-- Between two heaps the value was added, at a new place. A closure has the current frame around
it; a bound method is the function of the machine in a new frame that binds nothing but `this`. -/
inductive Machine.Adds (machine : Machine) (before after : Heap) : Addition → Value → Prop
  | closure {declaration : FunctionDeclaration} {id : FunctionId} :
    before.functions.size ≤ id →
    after.functions[id]? = some ⟨declaration, machine.current, false⟩ →
    Adds machine before after (.closure declaration) (.callable (.function id))
  | method {method : FunctionId} {receiver : InstanceId} {id : FunctionId} {frame : FrameId} :
    before.functions.size ≤ id → before.frames.size ≤ frame →
    after.functions[id]? = some { machine.heap.function method with closure := frame } →
    after.frames.frame? frame = some ⟨Bindings.empty.write "this" (.object receiver),
      some (machine.heap.function method).closure⟩ →
    Adds machine before after (.method method receiver) (.callable (.method id))

/-- The text of what can be added. -/
def Machine.additionText (machine : Machine) : Addition → String
  | .closure declaration => Heap.functionText ⟨declaration, machine.current, false⟩
  | .method method _ => Heap.functionText (machine.heap.function method)

/-- The place of the function that a value is, or of the one that is bound in it. -/
def Value.function? : Value → Option FunctionId
  | .callable (.function id) | .callable (.method id) => some id
  | _ => none

/-- Values that are not the same function are equal only if neither is a function. -/
theorem Value.equals_of_apart {left right : Value} (apart : left.function? ≠ right.function?) :
    left.equals right = false := by
  cases left with
  | callable callable =>
    cases right with
    | callable other =>
      show (callable == other) = false
      refine beq_false_of_ne fun same => ?_
      cases same
      exact apart rfl
    | _ => rfl
  | _ => cases right <;> first | rfl | exact absurd rfl apart

namespace Machine.Adds

variable {machine : Machine} {before middle after : Heap} {addition : Addition}
  {value other : Value}

/-- What is new after more was added is new. -/
theorem since (spares : before.Spares middle) (adds : machine.Adds middle after addition value) :
    machine.Adds before after addition value := by
  cases adds with
  | closure isNew found => exact .closure (Nat.le_trans spares.functions_size isNew) found
  | method isNew isNewFrame found isFrame =>
    exact .method (Nat.le_trans spares.functions_size isNew)
      (Nat.le_trans spares.frames_size isNewFrame) found isFrame

theorem text (adds : machine.Adds before after addition value) :
    after.text value = machine.additionText addition := by
  cases adds with
  | closure _ found => exact congrArg Heap.functionText (Heap.function_of_some found)
  | method _ _ found _ =>
    exact (congrArg Heap.functionText (Heap.function_of_some found)).trans rfl

/-- What was added is a function at a place that is new. -/
theorem function? (adds : machine.Adds before after addition value) :
    ∃ id, value.function? = some id ∧ before.functions.size ≤ id ∧ id < after.functions.size := by
  cases adds with
  | closure isNew found => exact ⟨_, rfl, isNew, (Array.getElem?_eq_some_iff.mp found).1⟩
  | method isNew _ found _ => exact ⟨_, rfl, isNew, (Array.getElem?_eq_some_iff.mp found).1⟩

/-- What was added is no function that was there. -/
theorem apart (adds : machine.Adds before after addition value)
    (older : ∀ id, other.function? = some id → id < before.functions.size) :
    other.function? ≠ value.function? := by
  obtain ⟨id, isFunction, isNew, _⟩ := adds.function?
  exact fun same => Nat.not_lt.mpr isNew (older id (same.trans isFunction))

/-- A function that is closed is added. -/
theorem ofFunction (machine : Machine) (heap : Heap) (declaration : FunctionDeclaration) :
    machine.Adds heap (heap.addFunction ⟨declaration, machine.current, false⟩).2
      (.closure declaration) (.callable (.function heap.functions.size)) :=
  .closure (Nat.le_refl _) Array.getElem?_push_size

/-- A method that is bound is added. -/
theorem ofMethod {heap : Heap} (spares : machine.heap.Spares heap) {method : FunctionId}
    (present : method < machine.heap.functions.size) (receiver : InstanceId) :
    machine.Adds heap (heap.bindMethod method receiver).2 (.method method receiver)
      (.callable (.method heap.functions.size)) := by
  refine .method (Nat.le_refl _) (Nat.le_refl heap.frames.size) ?_ ?_
  · rw [← spares.function present]
    exact heap.bindMethod_function? method receiver
  · rw [← spares.function present]
    show ((heap.frames.add (some (heap.function method).closure)).write heap.frames.size "this"
      (.object receiver)).frame? heap.frames.size = _
    rw [Frames.frame?_write, if_pos rfl, Frames.frame?_add, if_pos rfl]
    rfl

end Machine.Adds

/-- Where a value that refers to something is a function, there is a function. -/
theorem Value.Stands.lt_of_function? {dialect : Dialect} {heap : Heap} {value : Value}
    (stands : value.Stands dialect heap) {id : FunctionId}
    (isFunction : value.function? = some id) : id < heap.functions.size := by
  match value, stands, isFunction with
  | .callable (.function _), ⟨_, found, _⟩, rfl => exact (Array.getElem?_eq_some_iff.mp found).1
  | .callable (.method _), ⟨isMethod, _⟩, rfl => exact isMethod.lt_size

/-! ### What operators take for the same -/

/-- Only equality can tell the values from one another. -/
inductive Value.Alike : Value → Value → Prop
  | refl (value : Value) : Alike value value
  | callables (callable callableToo : Callable) :
    Alike (.callable callable) (.callable callableToo)

/-- The kinds of values. -/
inductive Value.Kind where
  | nil
  | boolean
  | number
  | string
  | callable
  | object
deriving Repr, DecidableEq

/-- The kind of a value. -/
def Value.kind : Value → Kind
  | .nil => .nil
  | .boolean _ => .boolean
  | .number _ => .number
  | .string _ => .string
  | .callable _ => .callable
  | .object _ => .object

namespace Value.Alike

variable {left leftToo right rightToo value valueToo : Value}

theorem kind (alike : value.Alike valueToo) : valueToo.kind = value.kind := by
  cases alike <;> rfl

theorem isTruthy (alike : value.Alike valueToo) : valueToo.isTruthy = value.isTruthy := by
  cases alike <;> rfl

theorem isDecidedBy (alike : value.Alike valueToo) (operator : LogicalOperator) :
    operator.isDecidedBy valueToo = operator.isDecidedBy value := by
  cases operator with
  | or => exact alike.isTruthy
  | and => exact congrArg Bool.not alike.isTruthy

theorem unary (alike : value.Alike valueToo) (operator : UnaryOperator) (line : Nat) :
    operator.apply line valueToo = operator.apply line value := by
  cases alike <;> cases operator <;> rfl

/-- What does not take callable values takes none for another. -/
theorem congr {Answer : Type} {operation : Value → Value → Answer}
    (onLeft : ∀ callable callableToo right,
      operation (.callable callableToo) right = operation (.callable callable) right)
    (onRight : ∀ left callable callableToo,
      operation left (.callable callableToo) = operation left (.callable callable))
    (alike : left.Alike leftToo) (alikeToo : right.Alike rightToo) :
    operation leftToo rightToo = operation left right := by
  cases alike <;> cases alikeToo
  · rfl
  · exact onRight _ _ _
  · exact onLeft _ _ _
  · exact (onLeft _ _ _).trans (onRight _ _ _)

theorem binary (alike : left.Alike leftToo) (alikeToo : right.Alike rightToo)
    (same : leftToo.equals rightToo = left.equals right) (operator : BinaryOperator) (line : Nat) :
    operator.apply line leftToo rightToo = operator.apply line left right := by
  have ordered : leftToo.order? rightToo = left.order? right :=
    alike.congr (fun _ _ _ => rfl) (fun left _ _ => by cases left <;> rfl) alikeToo
  have onNumbers (operation : Float → Float → Except RuntimeError Float) :
      onNumbers line operation leftToo rightToo = onNumbers line operation left right :=
    alike.congr (fun _ _ _ => rfl) (fun left _ _ => by cases left <;> rfl) alikeToo
  cases operator with
  | add => exact alike.congr (fun _ _ _ => rfl) (fun left _ _ => by cases left <;> rfl) alikeToo
  | subtract | multiply | divide => exact onNumbers _
  | equal => exact congrArg (Except.ok ∘ Value.boolean) same
  | notEqual => exact congrArg (Except.ok ∘ Value.boolean ∘ Bool.not) same
  | greater | greaterEqual | less | lessEqual =>
    unfold BinaryOperator.apply inOrder
    rw [ordered]

end Value.Alike

/-! ### Rounds -/

/-- The heaps of two rounds. Each spares the heap of the machine, to which both have added what they
are the only ones to know. -/
structure Rounds (machine : Machine) where
  first : Heap
  second : Heap
  spared : machine.heap.Spares first
  sparedToo : machine.heap.Spares second

namespace Rounds

variable {machine : Machine} {start middle later : Rounds machine} {value valueToo : Value}

/-- Both rounds have gone on, and spared what there was. -/
structure Later (start later : Rounds machine) : Prop where
  first : start.first.Spares later.first
  second : start.second.Spares later.second

theorem Later.refl (start : Rounds machine) : start.Later start :=
  ⟨.refl _, .refl _⟩

theorem Later.trans (early : start.Later middle) (late : middle.Later later) : start.Later later :=
  ⟨early.first.trans late.first, early.second.trans late.second⟩

/-- The rounds after each has added something. -/
def extend (start : Rounds machine) {first second : Heap} (spares : start.first.Spares first)
    (sparesToo : start.second.Spares second) : Rounds machine :=
  ⟨first, second, start.spared.trans spares, start.sparedToo.trans sparesToo⟩

/-- The rounds give the same value, which refers to something that both have in common, or each has
added the same thing. -/
inductive Same (start later : Rounds machine) : Value → Value → Prop
  | known {value : Value} : value.Stands .everything machine.heap → Same start later value value
  | added {addition : Addition} {value valueToo : Value} :
    machine.Adds start.first later.first addition value →
    machine.Adds start.second later.second addition valueToo → Same start later value valueToo

namespace Same

variable {left leftToo right rightToo : Value}

theorem since (grows : start.Later middle) (same : middle.Same later value valueToo) :
    start.Same later value valueToo := by
  cases same with
  | known stands => exact .known stands
  | added adds addsToo => exact .added (adds.since grows.first) (addsToo.since grows.second)

theorem alike (same : start.Same later value valueToo) : value.Alike valueToo := by
  cases same with
  | known _ => exact .refl value
  | added adds addsToo =>
    cases adds <;> cases addsToo <;> exact .callables _ _

/-- Values that are the same in both rounds are written alike. -/
theorem text (same : start.Same later value valueToo) :
    later.second.text valueToo = later.first.text value := by
  cases same with
  | known stands => rw [later.spared.text stands, later.sparedToo.text stands]
  | added adds addsToo => rw [adds.text, addsToo.text]

/-- The functions that the values are were there when the values were. -/
theorem older (same : start.Same later value valueToo) :
    (∀ id, value.function? = some id → id < later.first.functions.size) ∧
      ∀ id, valueToo.function? = some id → id < later.second.functions.size := by
  cases same with
  | known stands =>
    exact ⟨fun id isFunction => Nat.lt_of_lt_of_le (stands.lt_of_function? isFunction)
        later.spared.functions_size,
      fun id isFunction => Nat.lt_of_lt_of_le (stands.lt_of_function? isFunction)
        later.sparedToo.functions_size⟩
  | added adds addsToo =>
    obtain ⟨id, isId, _, present⟩ := adds.function?
    obtain ⟨idToo, isIdToo, _, presentToo⟩ := addsToo.function?
    exact ⟨fun _ isFunction => Option.some.inj (isId.symm.trans isFunction) ▸ present,
      fun _ isFunction => Option.some.inj (isIdToo.symm.trans isFunction) ▸ presentToo⟩

/-- Whether two values are equal is the same in both rounds, since one that is new is equal to none
that was there before it. -/
theorem equals (same : start.Same middle left leftToo)
    (sameToo : middle.Same later right rightToo) :
    leftToo.equals rightToo = left.equals right := by
  cases sameToo with
  | added adds addsToo =>
    rw [Value.equals_of_apart (adds.apart same.older.1),
      Value.equals_of_apart (addsToo.apart same.older.2)]
  | known stands =>
    cases same with
    | known _ => rfl
    | added adds addsToo =>
      have known : start.Same start right right := .known stands
      rw [Value.equals_of_apart (adds.apart known.older.1).symm,
        Value.equals_of_apart (addsToo.apart known.older.2).symm]

end Same

end Rounds

end Lox
