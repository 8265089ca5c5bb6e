/-
With which problems a node can stop a run, and at which of its tokens. What a node does by itself,
when the trees inside it have been run, stops with no other error than these and those of the
output.
-/

import Lox.Proofs.Grammar.Kept
import Lox.Proofs.Run.Classes

namespace Lox

open Constituent (Throughout)

/-! ### Problems of nodes -/

/-- The problems of an operator between its operands. -/
def BinaryOperator.problems : BinaryOperator → List RuntimeProblem
  | .add => [.type .addends]
  | .subtract | .multiply => [.type .operands]
  | .divide => [.type .operands, .divisionByZero]
  | .equal | .notEqual => []
  | .greater | .greaterEqual | .less | .lessEqual => [.type .unordered]

/-- The problem is one of calls: of what is called, of its arguments, or of calls in progress. -/
def RuntimeProblem.IsOfCall : RuntimeProblem → Prop
  | .notCallable | .arityMismatch _ _ | .native _ | .stackOverflow => True
  | _ => False

namespace Constituent

/-- The node can stop a run with the problem, which is reported at the token. -/
inductive Raises : Constituent → RuntimeProblem → Token → Prop
  | negate {line : Nat} {operand : Expression} :
    Raises (.expression (.unary .negate line operand)) (.type .operand) (Mark.minus.tokenOn line)
  | binary {operator : BinaryOperator} {line : Nat} {left right : Expression}
    {problem : RuntimeProblem} : problem ∈ operator.problems →
    Raises (.expression (.binary operator line left right)) problem (operator.mark.tokenOn line)
  | read {reference : Reference} {name : Identifier} :
    Raises (.expression (.read reference name)) (.undefinedVariable name.name) name.token
  | assign {reference : Reference} {name : Identifier} {value : Expression} :
    Raises (.expression (.assign reference name value)) (.undefinedVariable name.name) name.token
  | call {callee : Expression} {line : Nat} {arguments : List Expression}
    {problem : RuntimeProblem} : problem.IsOfCall →
    Raises (.expression (.call callee line arguments)) problem (Mark.rightParen.tokenOn line)
  | notAnInstance {object : Expression} {name : Identifier} :
    Raises (.expression (.get object name)) .notAnInstance name.token
  | property {object : Expression} {name : Identifier} :
    Raises (.expression (.get object name)) (.undefinedProperty name.name) name.token
  | noFields {object value : Expression} {name : Identifier} :
    Raises (.expression (.set object name value)) .noFields name.token
  | this {reference : Reference} {keyword : Identifier} :
    Raises (.expression (.this reference keyword)) (.undefinedVariable keyword.name)
      (keyword.sign .thisWord)
  /-- Of the occurrence, the superclass and the receiver any may turn out to be bound nowhere. -/
  | super {reference : Reference} {keyword method : Identifier} {word : String} :
    word ∈ [keyword.name, "super", "this"] →
    Raises (.expression (.super reference keyword method)) (.undefinedVariable word)
      (keyword.sign .superWord)
  | superOutsideMethod {reference : Reference} {keyword method : Identifier} :
    Raises (.expression (.super reference keyword method)) (.type .superOutsideMethod)
      (keyword.sign .superWord)
  | superMethod {reference : Reference} {keyword method : Identifier} :
    Raises (.expression (.super reference keyword method)) (.undefinedProperty method.name)
      method.token
  | superclass {name parent : Identifier} {reference : Reference}
    {methods : List FunctionDeclaration} :
    Raises (.statement (.declareClass name (some (.read reference parent)) methods))
      (.type .superclass) parent.token
  | declareClass {name : Identifier} {superclass : Option Expression}
    {methods : List FunctionDeclaration} :
    Raises (.statement (.declareClass name superclass methods)) (.undefinedVariable name.name)
      name.token

/-- What holds of every token that is kept in a tree holds of those at which it raises problems. -/
theorem Raises.holds {holds : Token → Prop} {part : Constituent} {problem : RuntimeProblem}
    {token : Token} (raises : part.Raises problem token)
    (keeps : Throughout (Keeps holds) part) : holds token := by
  cases raises with
  | superMethod => exact keeps.here.2.1
  | superclass =>
    -- the token stands in the superclass, which is a part of the declaration
    exact (keeps.part (.tail _ (.head _))).here.1
  | _ => exact keeps.here.1

/-- The node can stop a run with the problem on the line. -/
def RaisesOn (part : Constituent) (problem : RuntimeProblem) (line : Nat) : Prop :=
  ∃ token, part.Raises problem token ∧ token.line = line

end Constituent

/-! ### Runs that stop with some problems only -/

/-- If the run was stopped by a problem at a line, it is one of those. -/
def Stop.IsOf (own : RuntimeProblem → Nat → Prop) : Stop → Prop
  | .error (.located problem line) => own problem line
  | _ => True

/-- From the machine on, the run stops with no other problems than those. -/
def Run.FailsOnly {α : Type} (own : RuntimeProblem → Nat → Prop) (run : Run α)
    (machine : Machine) : Prop :=
  Ensures run machine (fun _ _ => True) fun stop _ => stop.IsOf own

section

variable {α β : Type} {own : RuntimeProblem → Nat → Prop} {machine : Machine}

namespace Run.FailsOnly

theorem pure {value : α} : (Pure.pure value : Run α).FailsOnly own machine :=
  Ensures.pure trivial

theorem fail {problem : RuntimeProblem} {line : Nat} (isOwn : own problem line) :
    (Run.fail problem line : Run α).FailsOnly own machine :=
  Ensures.throw isOwn

theorem exhausted : (throw .exhausted : Run α).FailsOnly own machine :=
  Ensures.throw trivial

theorem ofExcept {outcome : Except RuntimeError α}
    (only : ∀ error, outcome = .error error → (Stop.error error).IsOf own) :
    (Run.ofExcept outcome).FailsOnly own machine := by
  cases outcome with
  | ok value => exact pure
  | error error => exact Ensures.throw (only error rfl)

theorem bind {run : Run α} {next : α → Run β} (first : run.FailsOnly own machine)
    (rest : ∀ value after, (next value).FailsOnly own after) :
    (run >>= next).FailsOnly own machine :=
  Ensures.bind first fun value after _ _ => rest value after

theorem get_bind {next : Machine → Run β} (rest : (next machine).FailsOnly own machine) :
    (MonadState.get >>= next : Run β).FailsOnly own machine :=
  rest

theorem changeHeap {change : Heap → Heap} : (Run.changeHeap change).FailsOnly own machine :=
  Ensures.of_ok rfl trivial

theorem allocate {add : Heap → Nat × Heap} : (Run.allocate add).FailsOnly own machine :=
  Ensures.of_ok rfl trivial

theorem define {name : String} {value : Value} : (Run.define name value).FailsOnly own machine :=
  Ensures.of_ok rfl trivial

/-- Output that cannot be written is no problem at a line. -/
theorem write {text : String} : (Run.write text).FailsOnly own machine := by
  unfold FailsOnly Ensures Run.write
  obtain ⟨heap, current, callDepth, distances, sink, clock⟩ := machine
  dsimp only
  cases sink.write text.toUTF8 with
  | mk problem sink => cases problem <;> trivial

end Run.FailsOnly

/-! ### Operators -/

theorem UnaryOperator.apply_error {operator : UnaryOperator} {line : Nat} {operand : Value}
    {error : RuntimeError} (failed : operator.apply line operand = .error error) :
    operator = .negate ∧ error = .located (.type .operand) line := by
  cases operator with
  | not => exact nomatch failed
  | negate =>
    cases operand with
    | number value => exact nomatch failed
    | _ => exact ⟨rfl, (Except.error.inj failed).symm⟩

theorem addValues_error {line : Nat} {left right : Value} {error : RuntimeError}
    (failed : addValues line left right = .error error) :
    error = .located (.type .addends) line := by
  unfold addValues at failed
  split at failed
  · exact nomatch failed
  · exact nomatch failed
  · exact (Except.error.inj failed).symm

theorem onNumbers_error {line : Nat} {operation : Float → Float → Except RuntimeError Float}
    {left right : Value} {error : RuntimeError}
    (failed : onNumbers line operation left right = .error error) :
    error = .located (.type .operands) line ∨
      ∃ first second, operation first second = .error error := by
  unfold onNumbers at failed
  split at failed
  · rename_i first second
    cases answered : operation first second with
    | ok value =>
      rw [answered] at failed
      exact nomatch failed
    | error problem =>
      rw [answered] at failed
      cases failed
      exact .inr ⟨first, second, answered⟩
  · exact .inl (Except.error.inj failed).symm

theorem quotient_error {line : Nat} {left right : Float} {error : RuntimeError}
    (failed : quotient line left right = .error error) : error = .located .divisionByZero line := by
  unfold quotient at failed
  split at failed
  · exact (Except.error.inj failed).symm
  · exact nomatch failed

theorem inOrder_error {line : Nat} {orders : List Ordering} {left right : Value}
    {error : RuntimeError} (failed : inOrder line orders left right = .error error) :
    error = .located (.type .unordered) line := by
  unfold inOrder at failed
  split at failed
  · exact nomatch failed
  · exact nomatch failed
  · exact (Except.error.inj failed).symm

/-- An operator stops with one of its problems, on its line. -/
theorem BinaryOperator.apply_error {operator : BinaryOperator} {line : Nat} {left right : Value}
    {error : RuntimeError} (failed : operator.apply line left right = .error error) :
    ∃ problem ∈ operator.problems, error = .located problem line := by
  cases operator with
  | add => exact ⟨_, List.mem_cons_self, addValues_error failed⟩
  | subtract | multiply =>
    rcases onNumbers_error failed with rfl | ⟨_, _, isNumber⟩
    · exact ⟨_, List.mem_cons_self, rfl⟩
    · exact nomatch isNumber
  | divide =>
    rcases onNumbers_error failed with rfl | ⟨_, _, divided⟩
    · exact ⟨_, List.mem_cons_self, rfl⟩
    · exact ⟨_, List.mem_cons_of_mem _ List.mem_cons_self, quotient_error divided⟩
  | equal | notEqual => exact nomatch failed
  | greater | greaterEqual | less | lessEqual =>
    exact ⟨_, List.mem_cons_self, inOrder_error failed⟩

/-! ### Variables -/

namespace Frames

variable {frames : Frames} {id : FrameId} {distance : Nat} {name : String} {line : Nat}
  {error : RuntimeError}

theorem get_error (failed : frames.get id name line = .error error) :
    error = .located (.undefinedVariable name) line := by
  unfold get at failed
  split at failed
  · exact nomatch failed
  · exact (Except.error.inj failed).symm

theorem getAt_error (failed : frames.getAt id distance name line = .error error) :
    error = .located (.undefinedVariable name) line := by
  unfold getAt at failed
  split at failed
  · exact nomatch failed
  · exact (Except.error.inj failed).symm

theorem holder_error (failed : frames.holder id name line = .error error) :
    error = .located (.undefinedVariable name) line := by
  unfold holder at failed
  split at failed
  · exact nomatch failed
  · exact (Except.error.inj failed).symm

theorem holderAt_error (failed : frames.holderAt id distance name line = .error error) :
    error = .located (.undefinedVariable name) line := by
  unfold holderAt at failed
  split at failed
  · exact nomatch failed
  · exact (Except.error.inj failed).symm

end Frames

namespace Evaluator

open Run.FailsOnly

variable {name : Identifier}

theorem lookUp_failsOnly (reference : Reference)
    (isOwn : own (.undefinedVariable name.name) name.line) :
    (lookUp reference name).FailsOnly own machine := by
  refine get_bind ?_
  dsimp only
  split
  · exact ofExcept fun _ failed => Frames.getAt_error failed ▸ isOwn
  · exact ofExcept fun _ failed => Frames.get_error failed ▸ isOwn

theorem assign_failsOnly (reference : Reference) (value : Value)
    (isOwn : own (.undefinedVariable name.name) name.line) :
    (assign reference name value).FailsOnly own machine := by
  refine bind (get_bind ?_) fun _ _ => changeHeap
  dsimp only
  split
  · exact ofExcept fun _ failed => Frames.holderAt_error failed ▸ isOwn
  · exact ofExcept fun _ failed => Frames.holder_error failed ▸ isOwn

/-! ### Properties -/

theorem close_failsOnly (declaration : FunctionDeclaration) :
    (close declaration).FailsOnly own machine :=
  get_bind allocate

theorem bound_failsOnly (method : FunctionId) (receiver : InstanceId) :
    (bound method receiver).FailsOnly own machine :=
  allocate.bind fun _ _ => pure

theorem property_failsOnly (object : Value) (noInstance : own .notAnInstance name.line)
    (noProperty : own (.undefinedProperty name.name) name.line) :
    (property object name).FailsOnly own machine := by
  cases object with
  | object id =>
    refine get_bind ?_
    dsimp only
    split
    · exact pure
    · split
      · exact bound_failsOnly _ _
      · exact fail noProperty
  | _ => exact fail noInstance

theorem superMethod_failsOnly (reference : Reference) {keyword method : Identifier}
    (isUnbound : ∀ word ∈ [keyword.name, "super", "this"],
      own (.undefinedVariable word) keyword.line)
    (isOutside : own (.type .superOutsideMethod) keyword.line)
    (noMethod : own (.undefinedProperty method.name) method.line) :
    (superMethod reference keyword method).FailsOnly own machine := by
  refine get_bind ?_
  dsimp only
  split
  · exact fail (isUnbound _ (.head _))
  · refine bind (ofExcept fun _ failed => ?_) fun superclass _ =>
      bind (ofExcept fun _ failed => ?_) fun receiver _ => ?_
    · exact Frames.getAt_error failed ▸ isUnbound _ (.tail _ (.head _))
    · exact Frames.getAt_error failed ▸ isUnbound _ (.tail _ (.tail _ (.head _)))
    split
    · split
      · exact bound_failsOnly _ _
      · exact fail noMethod
    · exact fail isOutside

/-! ### Native functions and classes -/

theorem storeAll_failsOnly (stores : List FieldStore) :
    (storeAll stores).FailsOnly own machine := by
  induction stores generalizing machine with
  | nil => exact pure
  | cons store others inductionHypothesis =>
    exact changeHeap.bind fun _ _ => inductionHypothesis

theorem carryOut_failsOnly (effect : HostEffect) {line : Nat}
    (isOwn : ∀ message, own (.native message) line) :
    (carryOut effect line).FailsOnly own machine := by
  refine (storeAll_failsOnly _).bind fun _ _ => ?_
  split
  · exact pure
  · exact fail (isOwn _)

theorem callNative_failsOnly (id : NativeId) (arguments : List Value) {line : Nat}
    (isOwn : ∀ message, own (.native message) line) :
    (callNative id arguments line).FailsOnly own machine := by
  refine get_bind ?_
  split
  · exact Ensures.of_ok rfl trivial
  · exact carryOut_failsOnly _ isOwn

theorem methodFrame_failsOnly (parent : Option ClassId) :
    (methodFrame parent).FailsOnly own machine := by
  cases parent with
  | none => exact get_bind pure
  | some parent => exact get_bind (allocate.bind fun _ _ => changeHeap.bind fun _ _ => pure)

theorem methodTable_failsOnly (frame : FrameId) (methods : List FunctionDeclaration)
    (table : Bindings FunctionId) : (methodTable frame methods table).FailsOnly own machine := by
  induction methods generalizing table machine with
  | nil => exact pure
  | cons method others inductionHypothesis =>
    unfold methodTable
    split
    · exact allocate.bind fun _ _ => inductionHypothesis _
    · exact inductionHypothesis _

theorem makeMethods_failsOnly (word : String) (parent : Option ClassId)
    (methods : List FunctionDeclaration) :
    (makeMethods word parent methods).FailsOnly own machine :=
  define.bind fun _ _ => (methodFrame_failsOnly parent).bind fun _ _ =>
    methodTable_failsOnly _ methods .empty

theorem finishClass_failsOnly (parent : Option ClassId) (table : Bindings FunctionId)
    (isOwn : own (.undefinedVariable name.name) name.line) :
    (Watch.finishClass name parent table).FailsOnly own machine :=
  allocate.bind fun _ _ => get_bind
    ((ofExcept fun _ failed => Frames.holder_error failed ▸ isOwn).bind fun _ _ => changeHeap)

end Evaluator

end

end Lox
