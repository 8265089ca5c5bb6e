/-
A printed tree tells the tree. Its form says at its head which node it is of, so two trees of one
form have the same nodes all the way down, and differ at most in what is not printed: references,
lines, and how numbers of one text are represented. This takes that names are spelled as names are,
and that there are no strings, which are printed without their quotes and could look like anything.
-/

import Lox.Proofs.Tree.Readable
import Lox.Proofs.Tree.Twin

namespace Lox

/-! ### Nodes -/

/-- Which literal it is, but for the number. -/
inductive LiteralKind where
  | number | string
  | boolean (value : Bool)
  | nil

/-- Which node of a tree it is. -/
inductive Node where
  | literal (kind : LiteralKind)
  | grouping
  | unary (operator : UnaryOperator)
  | binary (operator : BinaryOperator)
  | logical (operator : LogicalOperator)
  | read | assign | call | function | get | set | this | super
  | evaluation | print | variable | block | conditional | loop
  | control (control : LoopControl)
  | giveBack | declareClass

def Literal.kind : Literal → LiteralKind
  | .number _ => .number
  | .string _ => .string
  | .boolean value => .boolean value
  | .nil => .nil

def Expression.node : Expression → Node
  | .literal value => .literal value.kind
  | .grouping _ => .grouping
  | .unary operator _ _ => .unary operator
  | .binary operator _ _ _ => .binary operator
  | .logical operator _ _ => .logical operator
  | .read _ _ => .read
  | .assign _ _ _ => .assign
  | .call _ _ _ => .call
  | .function _ => .function
  | .get _ _ => .get
  | .set _ _ _ => .set
  | .this _ _ => .this
  | .super _ _ _ => .super

def Statement.node : Statement → Node
  | .expression _ => .evaluation
  | .print _ => .print
  | .declareVariable _ _ => .variable
  | .block _ => .block
  | .conditional _ _ _ => .conditional
  | .loop _ _ _ => .loop
  | .control which _ => .control which
  | .declareFunction _ => .function
  | .giveBack _ _ => .giveBack
  | .declareClass _ _ _ => .declareClass

/-- The node that an atom is of. -/
def atomNode? (text : String) : Option Node :=
  match Mark.reserved? text with
  | some .trueWord => some (.literal (.boolean true))
  | some .falseWord => some (.literal (.boolean false))
  | some .nilWord => some (.literal .nil)
  | some .thisWord => some .this
  | some _ => none
  | none => if text.toList.head?.any Source.startsName then some .read else some (.literal .number)

/-- The node that a list is of, by its head word and, where these share one, by its members. -/
def listNode? (word : String) (members : List Form) : Option Node :=
  match word, members with
  | "group", _ => some .grouping
  | "!", _ => some (.unary .not)
  | "-", [_] => some (.unary .negate)
  | "-", _ => some (.binary .subtract)
  | "+", _ => some (.binary .add)
  | "*", _ => some (.binary .multiply)
  | "/", _ => some (.binary .divide)
  | "==", _ => some (.binary .equal)
  | "!=", _ => some (.binary .notEqual)
  | ">", _ => some (.binary .greater)
  | ">=", _ => some (.binary .greaterEqual)
  | "<", _ => some (.binary .less)
  | "<=", _ => some (.binary .lessEqual)
  | "and", _ => some (.logical .and)
  | "or", _ => some (.logical .or)
  | "=", .atom _ :: _ => some .assign
  | "=", _ => some .set
  | "call", _ => some .call
  | "fun", _ => some .function
  | ".", _ => some .get
  | "super", _ => some .super
  | ";", _ => some .evaluation
  | "print", _ => some .print
  | "var", _ => some .variable
  | "block", _ => some .block
  | "if", _ => some .conditional
  | "while", _ => some .loop
  | "break", _ => some (.control .break)
  | "continue", _ => some (.control .continue)
  | "return", _ => some .giveBack
  | "class", _ => some .declareClass
  | _, _ => none

/-- The node that a form is of. -/
def Form.node? : Form → Option Node
  | .atom text => atomNode? text
  | .list (.atom word :: members) => listNode? word members
  | .list _ => none

theorem Statement.node_form (tree : Statement) : tree.form.node? = some tree.node := by
  cases tree with
  | declareVariable name initializer => cases initializer <;> rfl
  | conditional condition thenBranch elseBranch => cases elseBranch <;> rfl
  | loop condition body increment => cases increment <;> rfl
  | control control keyword => cases control <;> rfl
  | declareFunction declaration =>
    obtain ⟨name, parameters, body⟩ := declaration
    rfl
  | giveBack keyword value => cases value <;> rfl
  | declareClass name superclass methods => cases superclass <;> rfl
  | _ => rfl

/-! ### Atoms -/

/-- A reserved word begins as a name does. -/
theorem startsName_of_reserved {word : String} {mark : Mark}
    (isReserved : Mark.reserved? word = some mark) :
    word.toList.head?.any Source.startsName = true := by
  have all : ∀ mark ∈ Mark.reserved, mark.spelling.toList.head?.any Source.startsName = true := by
    decide
  rw [← Mark.spelling_of_reserved? isReserved]
  exact all mark (List.mem_of_find?_eq_some isReserved)

theorem treeText_noName {value : Float} (finite : (Literal.number value).IsPlain) :
    (Number.treeText value).toList.head?.any Source.startsName = false := by
  obtain ⟨negative, _, ⟨digits, decimals, rfl, nonempty, _, areDigits, _⟩, isText⟩ :=
    treeText_plain finite
  rw [isText]
  cases negative with
  | true => rfl
  | false =>
    cases digits with
    | nil => exact absurd rfl nonempty
    | cons digit digits =>
      refine Bool.eq_false_iff.mpr fun starts => ?_
      exact Bool.eq_false_iff.mp (Source.isDigit_of_startsName starts)
        (areDigits digit List.mem_cons_self)

theorem atomNode?_name {name : Identifier} (isName : name.IsName) :
    atomNode? name.name = some .read := by
  obtain ⟨first, rest, isText, starts, _, unreserved⟩ := isName.spelled
  unfold atomNode?
  rw [unreserved]
  refine if_pos ?_
  rw [isText]
  exact starts

theorem atomNode?_number {value : Float} (finite : (Literal.number value).IsPlain) :
    atomNode? (Number.treeText value) = some (.literal .number) := by
  have noName := treeText_noName finite
  have unreserved : Mark.reserved? (Number.treeText value) = none := by
    cases isReserved : Mark.reserved? (Number.treeText value) with
    | none => rfl
    | some mark => exact absurd (startsName_of_reserved isReserved) (Bool.eq_false_iff.mp noName)
  unfold atomNode?
  rw [unreserved]
  exact if_neg (Bool.eq_false_iff.mp noName)

theorem Expression.node_form (tree : Expression)
    (readable : (Constituent.expression tree).Readable) : tree.form.node? = some tree.node := by
  obtain ⟨worded, plain⟩ := readable
  cases tree with
  | literal value =>
    cases value with
    | number value => exact atomNode?_number plain
    | string contents => exact plain.elim
    | boolean value => cases value <;> rfl
    | nil => rfl
  | unary operator line operand => cases operator <;> rfl
  | binary operator line left right => cases operator <;> rfl
  | logical operator left right => cases operator <;> rfl
  | read reference name => exact atomNode?_name worded
  | function declaration =>
    obtain ⟨name, parameters, body⟩ := declaration
    rfl
  | _ => rfl

/-! ### Likeness -/

/-- The parts are the same but for references, lines, and numbers of the same text. -/
inductive Likeness : Parts → Prop
  | number {value valueToo} : Number.treeText value = Number.treeText valueToo →
    Likeness (.expression (.literal (.number value)) (.literal (.number valueToo)))
  | literal {literal} : Likeness (.expression (.literal literal) (.literal literal))
  | grouping {inner innerToo} : Likeness (.expression inner innerToo) →
    Likeness (.expression (.grouping inner) (.grouping innerToo))
  | unary {operator line lineToo operand operandToo} : Likeness (.expression operand operandToo) →
    Likeness (.expression (.unary operator line operand) (.unary operator lineToo operandToo))
  | binary {operator line lineToo left leftToo right rightToo} :
    Likeness (.expression left leftToo) → Likeness (.expression right rightToo) →
    Likeness
      (.expression (.binary operator line left right) (.binary operator lineToo leftToo rightToo))
  | logical {operator left leftToo right rightToo} :
    Likeness (.expression left leftToo) → Likeness (.expression right rightToo) →
    Likeness (.expression (.logical operator left right) (.logical operator leftToo rightToo))
  | read {reference referenceToo word line lineToo} :
    Likeness (.expression (.read reference ⟨word, line⟩) (.read referenceToo ⟨word, lineToo⟩))
  | assign {reference referenceToo word line lineToo value valueToo} :
    Likeness (.expression value valueToo) →
    Likeness (.expression (.assign reference ⟨word, line⟩ value)
      (.assign referenceToo ⟨word, lineToo⟩ valueToo))
  | call {callee calleeToo line lineToo arguments argumentsToo} :
    Likeness (.expression callee calleeToo) → Likeness (.expressions arguments argumentsToo) →
    Likeness (.expression (.call callee line arguments) (.call calleeToo lineToo argumentsToo))
  | anonymous {declaration declarationToo} : Likeness (.function declaration declarationToo) →
    Likeness (.expression (.function declaration) (.function declarationToo))
  | get {object objectToo word line lineToo} : Likeness (.expression object objectToo) →
    Likeness (.expression (.get object ⟨word, line⟩) (.get objectToo ⟨word, lineToo⟩))
  | set {object objectToo word line lineToo value valueToo} :
    Likeness (.expression object objectToo) → Likeness (.expression value valueToo) →
    Likeness (.expression (.set object ⟨word, line⟩ value)
      (.set objectToo ⟨word, lineToo⟩ valueToo))
  | this {reference referenceToo word line lineToo} :
    Likeness (.expression (.this reference ⟨word, line⟩) (.this referenceToo ⟨word, lineToo⟩))
  | super {reference referenceToo word line lineToo method place placeToo} :
    Likeness (.expression (.super reference ⟨word, line⟩ ⟨method, place⟩)
      (.super referenceToo ⟨word, lineToo⟩ ⟨method, placeToo⟩))
  | noExpressions : Likeness (.expressions [] [])
  | moreExpressions {first firstToo others othersToo} :
    Likeness (.expression first firstToo) → Likeness (.expressions others othersToo) →
    Likeness (.expressions (first :: others) (firstToo :: othersToo))
  | function {body bodyToo} {name nameToo : Option Identifier}
    {parameters parametersToo : List Identifier} :
    name.map Identifier.name = nameToo.map Identifier.name →
    parameters.map Identifier.name = parametersToo.map Identifier.name →
    Likeness (.statements body bodyToo) →
    Likeness (.function (.mk name parameters body) (.mk nameToo parametersToo bodyToo))
  | noFunctions : Likeness (.functions [] [])
  | moreFunctions {first firstToo others othersToo} :
    Likeness (.function first firstToo) → Likeness (.functions others othersToo) →
    Likeness (.functions (first :: others) (firstToo :: othersToo))
  | evaluation {inner innerToo} : Likeness (.expression inner innerToo) →
    Likeness (.statement (.expression inner) (.expression innerToo))
  | print {inner innerToo} : Likeness (.expression inner innerToo) →
    Likeness (.statement (.print inner) (.print innerToo))
  | uninitialized {word line lineToo} :
    Likeness (.statement (.declareVariable ⟨word, line⟩ none)
      (.declareVariable ⟨word, lineToo⟩ none))
  | initialized {word line lineToo value valueToo} : Likeness (.expression value valueToo) →
    Likeness (.statement (.declareVariable ⟨word, line⟩ (some value))
      (.declareVariable ⟨word, lineToo⟩ (some valueToo)))
  | block {statements statementsToo} : Likeness (.statements statements statementsToo) →
    Likeness (.statement (.block statements) (.block statementsToo))
  | ifThen {condition conditionToo thenBranch thenToo} :
    Likeness (.expression condition conditionToo) → Likeness (.statement thenBranch thenToo) →
    Likeness (.statement (.conditional condition thenBranch none)
      (.conditional conditionToo thenToo none))
  | ifElse {condition conditionToo thenBranch thenToo elseBranch elseToo} :
    Likeness (.expression condition conditionToo) → Likeness (.statement thenBranch thenToo) →
    Likeness (.statement elseBranch elseToo) →
    Likeness (.statement (.conditional condition thenBranch (some elseBranch))
      (.conditional conditionToo thenToo (some elseToo)))
  | loop {condition conditionToo body bodyToo} :
    Likeness (.expression condition conditionToo) → Likeness (.statement body bodyToo) →
    Likeness (.statement (.loop condition body none) (.loop conditionToo bodyToo none))
  | loopWith {condition conditionToo body bodyToo increment incrementToo} :
    Likeness (.expression condition conditionToo) → Likeness (.statement body bodyToo) →
    Likeness (.statement increment incrementToo) →
    Likeness (.statement (.loop condition body (some increment))
      (.loop conditionToo bodyToo (some incrementToo)))
  | control {control word line lineToo} :
    Likeness (.statement (.control control ⟨word, line⟩) (.control control ⟨word, lineToo⟩))
  | declareFunction {declaration declarationToo} :
    Likeness (.function declaration declarationToo) →
    Likeness (.statement (.declareFunction declaration) (.declareFunction declarationToo))
  | giveNothing {word line lineToo} :
    Likeness (.statement (.giveBack ⟨word, line⟩ none) (.giveBack ⟨word, lineToo⟩ none))
  | giveBack {word line lineToo value valueToo} : Likeness (.expression value valueToo) →
    Likeness (.statement (.giveBack ⟨word, line⟩ (some value))
      (.giveBack ⟨word, lineToo⟩ (some valueToo)))
  | declareClass {word line lineToo methods methodsToo} :
    Likeness (.functions methods methodsToo) →
    Likeness (.statement (.declareClass ⟨word, line⟩ none methods)
      (.declareClass ⟨word, lineToo⟩ none methodsToo))
  | declareSubclass {word line lineToo superclass superclassToo methods methodsToo} :
    Likeness (.expression superclass superclassToo) → Likeness (.functions methods methodsToo) →
    Likeness (.statement (.declareClass ⟨word, line⟩ (some superclass) methods)
      (.declareClass ⟨word, lineToo⟩ (some superclassToo) methodsToo))
  | noStatements : Likeness (.statements [] [])
  | moreStatements {first firstToo others othersToo} :
    Likeness (.statement first firstToo) → Likeness (.statements others othersToo) →
    Likeness (.statements (first :: others) (firstToo :: othersToo))

/-! ### Readable parts side by side -/

namespace Constituent

/-- The parts of both lists can be read back. -/
def BothReadable (parts partsToo : List Constituent) : Prop :=
  (∀ part ∈ parts, Throughout Readable part) ∧ ∀ part ∈ partsToo, Throughout Readable part

namespace BothReadable

variable {part partToo : Constituent} {others othersToo : List Constituent}

theorem intro (readable : Throughout Readable part) (readableToo : Throughout Readable partToo) :
    BothReadable [part] [partToo] :=
  ⟨List.forall_mem_singleton.mpr readable, List.forall_mem_singleton.mpr readableToo⟩

theorem head (both : BothReadable (part :: others) (partToo :: othersToo)) :
    BothReadable [part] [partToo] :=
  .intro (both.1 part List.mem_cons_self) (both.2 partToo List.mem_cons_self)

theorem tail (both : BothReadable (part :: others) (partToo :: othersToo)) :
    BothReadable others othersToo :=
  ⟨(List.forall_mem_cons.mp both.1).2, (List.forall_mem_cons.mp both.2).2⟩

theorem behind {first firstToo : List Constituent}
    (both : BothReadable (first ++ others) (firstToo ++ othersToo)) :
    BothReadable others othersToo :=
  ⟨(List.forall_mem_append.mp both.1).2, (List.forall_mem_append.mp both.2).2⟩

theorem here (both : BothReadable [part] [partToo]) : part.Readable ∧ partToo.Readable :=
  ⟨(both.1 part List.mem_cons_self).here, (both.2 partToo List.mem_cons_self).here⟩

/-- What is inside readable parts is readable. -/
theorem parts (both : BothReadable [part] [partToo]) : BothReadable part.parts partToo.parts :=
  ⟨fun _ isPart => (both.1 part List.mem_cons_self).part isPart,
    fun _ isPart => (both.2 partToo List.mem_cons_self).part isPart⟩

end BothReadable

end Constituent

/-! ### Parts of forms -/

open Constituent (BothReadable)

theorem Form.headed_inj {word wordToo : String} {members membersToo : List Form}
    (same : Form.headed word members = Form.headed wordToo membersToo) : members = membersToo :=
  (List.cons.inj (Form.list.inj same)).2

theorem Expression.node_eq {tree treeToo : Expression}
    (both : BothReadable [.expression tree] [.expression treeToo])
    (same : tree.form = treeToo.form) : tree.node = treeToo.node := by
  have nodes := congrArg Form.node? same
  rw [tree.node_form both.here.1, treeToo.node_form both.here.2] at nodes
  exact Option.some.inj nodes

theorem Statement.node_eq {tree treeToo : Statement} (same : tree.form = treeToo.form) :
    tree.node = treeToo.node := by
  have nodes := congrArg Form.node? same
  rw [tree.node_form, treeToo.node_form] at nodes
  exact Option.some.inj nodes

theorem parameters_form (parameters : List Identifier) :
    parameters.map Identifier.form = (parameters.map Identifier.name).map Form.atom :=
  (List.map_map ..).symm

theorem parameters_inj {parameters parametersToo : List Identifier}
    (same : parameters.map Identifier.form = parametersToo.map Identifier.form) :
    parameters.map Identifier.name = parametersToo.map Identifier.name := by
  rw [parameters_form, parameters_form] at same
  exact List.map_injective_iff.mpr (fun _ _ => Form.atom.inj) same

/-- Every method is written as a list, so none is the sign of a superclass. -/
theorem FunctionDeclaration.forms_ne_atom {methods : List FunctionDeclaration} {text : String}
    {others : List Form} (same : FunctionDeclaration.forms methods = .atom text :: others) :
    False := by
  match methods with
  | [] => exact nomatch same
  | .mk _ _ _ :: _ => exact nomatch (List.cons.inj same).1

/-! ### Forms that tell their trees -/

/-- The form of the tree tells the tree: every readable tree with the same form is like it. -/
def Expression.Tells (tree : Expression) : Prop :=
  ∀ treeToo, BothReadable [.expression tree] [.expression treeToo] → tree.form = treeToo.form →
    Likeness (.expression tree treeToo)

def Expression.AllTell (trees : List Expression) : Prop :=
  ∀ treesToo, BothReadable (trees.map .expression) (treesToo.map .expression) →
    Expression.forms trees = Expression.forms treesToo → Likeness (.expressions trees treesToo)

/-- The form of the function tells the function, whatever word stands at its head. -/
def FunctionDeclaration.Tells (declaration : FunctionDeclaration) : Prop :=
  ∀ declarationToo head, BothReadable [.function declaration] [.function declarationToo] →
    declaration.form head = declarationToo.form head →
    Likeness (.function declaration declarationToo)

def FunctionDeclaration.AllTell (methods : List FunctionDeclaration) : Prop :=
  ∀ methodsToo, BothReadable (methods.map .function) (methodsToo.map .function) →
    FunctionDeclaration.forms methods = FunctionDeclaration.forms methodsToo →
    Likeness (.functions methods methodsToo)

def Statement.Tells (tree : Statement) : Prop :=
  ∀ treeToo, BothReadable [.statement tree] [.statement treeToo] → tree.form = treeToo.form →
    Likeness (.statement tree treeToo)

def Statement.AllTell (trees : List Statement) : Prop :=
  ∀ treesToo, BothReadable (trees.map .statement) (treesToo.map .statement) →
    Statement.forms trees = Statement.forms treesToo → Likeness (.statements trees treesToo)

/-! ### Expressions -/

-- In each case the form tells the node of both trees first, and with it which members of the form
-- are whose parts.

namespace Expression.Tells

variable {reference : Reference} {line : Nat} {name : Identifier}

theorem literal (value : Literal) : (Expression.literal value).Tells := by
  intro treeToo both same
  have nodes := Expression.node_eq both same
  cases treeToo with
  | literal valueToo =>
    have kinds : value.kind = valueToo.kind := Node.literal.inj nodes
    cases value with
    | number value =>
      cases valueToo with
      | number valueToo => exact .number (Form.atom.inj same)
      | _ => exact nomatch kinds
    | string contents => exact both.here.1.2.elim
    | boolean value =>
      cases valueToo with
      | boolean valueToo =>
        obtain rfl := LiteralKind.boolean.inj kinds
        exact .literal
      | _ => exact nomatch kinds
    | nil =>
      cases valueToo with
      | nil => exact .literal
      | _ => exact nomatch kinds
  | _ => exact nomatch nodes

theorem grouping {inner : Expression} (tells : inner.Tells) :
    (Expression.grouping inner).Tells := by
  intro treeToo both same
  have nodes := Expression.node_eq both same
  cases treeToo with
  | grouping innerToo =>
    obtain ⟨sameInner, _⟩ := List.cons.inj (Form.headed_inj same)
    exact .grouping (tells innerToo both.parts.head sameInner)
  | _ => exact nomatch nodes

theorem unary {operator : UnaryOperator} {operand : Expression} (tells : operand.Tells) :
    (Expression.unary operator line operand).Tells := by
  intro treeToo both same
  have nodes := Expression.node_eq both same
  cases treeToo with
  | unary operatorToo _ operandToo =>
    obtain rfl := Node.unary.inj nodes
    obtain ⟨sameOperand, _⟩ := List.cons.inj (Form.headed_inj same)
    exact .unary (tells operandToo both.parts.head sameOperand)
  | _ => exact nomatch nodes

theorem binary {operator : BinaryOperator} {left right : Expression} (ofLeft : left.Tells)
    (ofRight : right.Tells) : (Expression.binary operator line left right).Tells := by
  intro treeToo both same
  have nodes := Expression.node_eq both same
  cases treeToo with
  | binary operatorToo _ leftToo rightToo =>
    obtain rfl := Node.binary.inj nodes
    obtain ⟨sameLeft, others⟩ := List.cons.inj (Form.headed_inj same)
    obtain ⟨sameRight, _⟩ := List.cons.inj others
    exact .binary (ofLeft leftToo both.parts.head sameLeft)
      (ofRight rightToo both.parts.tail.head sameRight)
  | _ => exact nomatch nodes

theorem logical {operator : LogicalOperator} {left right : Expression} (ofLeft : left.Tells)
    (ofRight : right.Tells) : (Expression.logical operator left right).Tells := by
  intro treeToo both same
  have nodes := Expression.node_eq both same
  cases treeToo with
  | logical operatorToo leftToo rightToo =>
    obtain rfl := Node.logical.inj nodes
    obtain ⟨sameLeft, others⟩ := List.cons.inj (Form.headed_inj same)
    obtain ⟨sameRight, _⟩ := List.cons.inj others
    exact .logical (ofLeft leftToo both.parts.head sameLeft)
      (ofRight rightToo both.parts.tail.head sameRight)
  | _ => exact nomatch nodes

theorem read : (Expression.read reference name).Tells := by
  intro treeToo both same
  have nodes := Expression.node_eq both same
  obtain ⟨word, _⟩ := name
  cases treeToo with
  | read _ nameToo =>
    obtain rfl : word = nameToo.name := Form.atom.inj same
    exact .read
  | _ => exact nomatch nodes

theorem assign {value : Expression} (tells : value.Tells) :
    (Expression.assign reference name value).Tells := by
  intro treeToo both same
  have nodes := Expression.node_eq both same
  obtain ⟨word, _⟩ := name
  cases treeToo with
  | assign _ nameToo valueToo =>
    obtain ⟨sameName, others⟩ := List.cons.inj (Form.headed_inj same)
    obtain ⟨sameValue, _⟩ := List.cons.inj others
    obtain rfl : word = nameToo.name := Form.atom.inj sameName
    exact .assign (tells valueToo both.parts.head sameValue)
  | _ => exact nomatch nodes

theorem call {callee : Expression} {arguments : List Expression} (ofCallee : callee.Tells)
    (ofArguments : Expression.AllTell arguments) :
    (Expression.call callee line arguments).Tells := by
  intro treeToo both same
  have nodes := Expression.node_eq both same
  cases treeToo with
  | call calleeToo _ argumentsToo =>
    obtain ⟨sameCallee, sameArguments⟩ := List.cons.inj (Form.headed_inj same)
    exact .call (ofCallee calleeToo both.parts.head sameCallee)
      (ofArguments argumentsToo both.parts.tail sameArguments)
  | _ => exact nomatch nodes

theorem function {declaration : FunctionDeclaration} (tells : declaration.Tells) :
    (Expression.function declaration).Tells := by
  intro treeToo both same
  have nodes := Expression.node_eq both same
  cases treeToo with
  | function declarationToo => exact .anonymous (tells declarationToo "fun" both.parts.head same)
  | _ => exact nomatch nodes

theorem get {object : Expression} (tells : object.Tells) : (Expression.get object name).Tells := by
  intro treeToo both same
  have nodes := Expression.node_eq both same
  obtain ⟨word, _⟩ := name
  cases treeToo with
  | get objectToo nameToo =>
    obtain ⟨sameObject, others⟩ := List.cons.inj (Form.headed_inj same)
    obtain rfl : word = nameToo.name := Form.atom.inj (List.cons.inj others).1
    exact .get (tells objectToo both.parts.head sameObject)
  | _ => exact nomatch nodes

theorem set {object value : Expression} (ofObject : object.Tells) (ofValue : value.Tells) :
    (Expression.set object name value).Tells := by
  intro treeToo both same
  have nodes := Expression.node_eq both same
  obtain ⟨word, _⟩ := name
  cases treeToo with
  | set objectToo nameToo valueToo =>
    obtain ⟨sameTarget, others⟩ := List.cons.inj (Form.headed_inj same)
    obtain ⟨sameValue, _⟩ := List.cons.inj others
    obtain ⟨sameObject, names⟩ := List.cons.inj (Form.headed_inj sameTarget)
    obtain rfl : word = nameToo.name := Form.atom.inj (List.cons.inj names).1
    exact .set (ofObject objectToo both.parts.head sameObject)
      (ofValue valueToo both.parts.tail.head sameValue)
  | _ => exact nomatch nodes

theorem this : (Expression.this reference name).Tells := by
  intro treeToo both same
  have nodes := Expression.node_eq both same
  obtain ⟨word, _⟩ := name
  cases treeToo with
  | this _ keywordToo =>
    obtain rfl : word = keywordToo.name := both.here.1.1.trans both.here.2.1.symm
    exact .this
  | _ => exact nomatch nodes

theorem super {method : Identifier} : (Expression.super reference name method).Tells := by
  intro treeToo both same
  have nodes := Expression.node_eq both same
  obtain ⟨word, _⟩ := name
  obtain ⟨method, _⟩ := method
  cases treeToo with
  | super _ keywordToo methodToo =>
    obtain rfl : word = keywordToo.name := both.here.1.1.1.trans both.here.2.1.1.symm
    obtain rfl : method = methodToo.name := Form.atom.inj (List.cons.inj (Form.headed_inj same)).1
    exact .super
  | _ => exact nomatch nodes

end Expression.Tells

theorem Expression.AllTell.nil : Expression.AllTell [] := by
  intro treesToo both same
  cases treesToo with
  | nil => exact .noExpressions
  | cons treeToo othersToo => exact nomatch same

theorem Expression.AllTell.cons {tree : Expression} {others : List Expression}
    (first : tree.Tells) (rest : Expression.AllTell others) :
    Expression.AllTell (tree :: others) := by
  intro treesToo both same
  cases treesToo with
  | nil => exact nomatch same
  | cons treeToo othersToo =>
    obtain ⟨sameTree, sameOthers⟩ := List.cons.inj same
    exact .moreExpressions (first treeToo both.head sameTree) (rest othersToo both.tail sameOthers)

/-! ### Functions -/

theorem FunctionDeclaration.Tells.mk {name : Option Identifier} {parameters : List Identifier}
    {body : List Statement} (ofBody : Statement.AllTell body) :
    (FunctionDeclaration.mk name parameters body).Tells := by
  rintro ⟨nameToo, parametersToo, bodyToo⟩ head both same
  have isBody (sameBody : Statement.forms body = Statement.forms bodyToo) :
      Likeness (.statements body bodyToo) :=
    ofBody bodyToo both.parts.behind sameBody
  have members := Form.headed_inj same
  cases name with
  | none =>
    cases nameToo with
    | none =>
      obtain ⟨sameParameters, sameBody⟩ := List.cons.inj members
      exact .function rfl (parameters_inj (Form.list.inj sameParameters)) (isBody sameBody)
    | some nameToo => exact nomatch (List.cons.inj members).1
  | some name =>
    cases nameToo with
    | none => exact nomatch (List.cons.inj members).1
    | some nameToo =>
      obtain ⟨sameName, others⟩ := List.cons.inj members
      obtain ⟨sameParameters, sameBody⟩ := List.cons.inj others
      exact .function (congrArg some (Form.atom.inj sameName))
        (parameters_inj (Form.list.inj sameParameters)) (isBody sameBody)

theorem FunctionDeclaration.AllTell.nil : FunctionDeclaration.AllTell [] := by
  intro methodsToo both same
  cases methodsToo with
  | nil => exact .noFunctions
  | cons methodToo othersToo => exact nomatch same

theorem FunctionDeclaration.AllTell.cons {method : FunctionDeclaration}
    {others : List FunctionDeclaration} (first : method.Tells)
    (rest : FunctionDeclaration.AllTell others) :
    FunctionDeclaration.AllTell (method :: others) := by
  intro methodsToo both same
  cases methodsToo with
  | nil => exact nomatch same
  | cons methodToo othersToo =>
    obtain ⟨sameMethod, sameOthers⟩ := List.cons.inj same
    exact .moreFunctions (first methodToo "method" both.head sameMethod)
      (rest othersToo both.tail sameOthers)

/-! ### Statements -/

namespace Statement.Tells

variable {name keyword : Identifier}

theorem expression {inner : Expression} (tells : inner.Tells) :
    (Statement.expression inner).Tells := by
  intro treeToo both same
  have nodes := Statement.node_eq same
  cases treeToo with
  | expression innerToo =>
    obtain ⟨sameInner, _⟩ := List.cons.inj (Form.headed_inj same)
    exact .evaluation (tells innerToo both.parts.head sameInner)
  | _ => exact nomatch nodes

theorem print {inner : Expression} (tells : inner.Tells) : (Statement.print inner).Tells := by
  intro treeToo both same
  have nodes := Statement.node_eq same
  cases treeToo with
  | print innerToo =>
    obtain ⟨sameInner, _⟩ := List.cons.inj (Form.headed_inj same)
    exact .print (tells innerToo both.parts.head sameInner)
  | _ => exact nomatch nodes

theorem declareVariable {initializer : Option Expression}
    (tells : ∀ value ∈ initializer, value.Tells) :
    (Statement.declareVariable name initializer).Tells := by
  intro treeToo both same
  have nodes := Statement.node_eq same
  obtain ⟨word, _⟩ := name
  cases treeToo with
  | declareVariable nameToo initializerToo =>
    cases initializer <;> cases initializerToo <;>
      obtain ⟨sameName, others⟩ := List.cons.inj (Form.headed_inj same) <;>
      obtain rfl : word = nameToo.name := Form.atom.inj sameName
    case none.none => exact .uninitialized
    case some.some value valueToo =>
      exact .initialized (tells value rfl valueToo both.parts.tail.head (List.cons.inj others).1)
    all_goals exact nomatch others
  | _ => exact nomatch nodes

theorem block {statements : List Statement} (tell : Statement.AllTell statements) :
    (Statement.block statements).Tells := by
  intro treeToo both same
  have nodes := Statement.node_eq same
  cases treeToo with
  | block statementsToo => exact .block (tell statementsToo both.parts (Form.headed_inj same))
  | _ => exact nomatch nodes

theorem conditional {condition : Expression} {thenBranch : Statement}
    {elseBranch : Option Statement} (ofCondition : condition.Tells) (ofThen : thenBranch.Tells)
    (ofElse : ∀ branch ∈ elseBranch, branch.Tells) :
    (Statement.conditional condition thenBranch elseBranch).Tells := by
  intro treeToo both same
  have nodes := Statement.node_eq same
  cases treeToo with
  | conditional conditionToo thenToo elseToo =>
    cases elseBranch <;> cases elseToo <;>
      obtain ⟨sameCondition, branches⟩ := List.cons.inj (Form.headed_inj same) <;>
      obtain ⟨sameThen, others⟩ := List.cons.inj branches
    case none.none =>
      exact .ifThen (ofCondition conditionToo both.parts.head sameCondition)
        (ofThen thenToo both.parts.tail.head sameThen)
    case some.some elseBranch elseToo =>
      exact .ifElse (ofCondition conditionToo both.parts.head sameCondition)
        (ofThen thenToo both.parts.tail.head sameThen)
        (ofElse elseBranch rfl elseToo both.parts.tail.tail.head (List.cons.inj others).1)
    all_goals exact nomatch others
  | _ => exact nomatch nodes

theorem loop {condition : Expression} {body : Statement} {increment : Option Statement}
    (ofCondition : condition.Tells) (ofBody : body.Tells)
    (ofIncrement : ∀ last ∈ increment, last.Tells) :
    (Statement.loop condition body increment).Tells := by
  intro treeToo both same
  have nodes := Statement.node_eq same
  cases treeToo with
  | loop conditionToo bodyToo incrementToo =>
    cases increment <;> cases incrementToo <;>
      obtain ⟨sameCondition, parts⟩ := List.cons.inj (Form.headed_inj same) <;>
      obtain ⟨sameBody, others⟩ := List.cons.inj parts
    case none.none =>
      exact .loop (ofCondition conditionToo both.parts.head sameCondition)
        (ofBody bodyToo both.parts.tail.head sameBody)
    case some.some increment incrementToo =>
      exact .loopWith (ofCondition conditionToo both.parts.head sameCondition)
        (ofBody bodyToo both.parts.tail.head sameBody)
        (ofIncrement increment rfl incrementToo both.parts.tail.tail.head (List.cons.inj others).1)
    all_goals exact nomatch others
  | _ => exact nomatch nodes

theorem control {which : LoopControl} : (Statement.control which keyword).Tells := by
  intro treeToo both same
  have nodes := Statement.node_eq same
  obtain ⟨word, _⟩ := keyword
  cases treeToo with
  | control whichToo keywordToo =>
    obtain rfl := Node.control.inj nodes
    obtain rfl : word = keywordToo.name := both.here.1.1.trans both.here.2.1.symm
    exact .control
  | _ => exact nomatch nodes

theorem declareFunction {declaration : FunctionDeclaration} (tells : declaration.Tells) :
    (Statement.declareFunction declaration).Tells := by
  intro treeToo both same
  have nodes := Statement.node_eq same
  cases treeToo with
  | declareFunction declarationToo =>
    exact .declareFunction (tells declarationToo "fun" both.parts.head same)
  | _ => exact nomatch nodes

theorem giveBack {value : Option Expression} (tells : ∀ given ∈ value, given.Tells) :
    (Statement.giveBack keyword value).Tells := by
  intro treeToo both same
  have nodes := Statement.node_eq same
  obtain ⟨word, _⟩ := keyword
  cases treeToo with
  | giveBack keywordToo valueToo =>
    obtain rfl : word = keywordToo.name := both.here.1.1.trans both.here.2.1.symm
    cases value <;> cases valueToo <;> have members := Form.headed_inj same
    case none.none => exact .giveNothing
    case some.some value valueToo =>
      exact .giveBack (tells value rfl valueToo both.parts.head (List.cons.inj members).1)
    all_goals exact nomatch members
  | _ => exact nomatch nodes

/-- Without a superclass the methods are next to the name, and none of them is its sign. -/
theorem declareClass {superclass : Option Expression} {methods : List FunctionDeclaration}
    (ofSuperclass : ∀ parent ∈ superclass, parent.Tells)
    (ofMethods : FunctionDeclaration.AllTell methods) :
    (Statement.declareClass name superclass methods).Tells := by
  intro treeToo both same
  have nodes := Statement.node_eq same
  obtain ⟨word, _⟩ := name
  cases treeToo with
  | declareClass nameToo superclassToo methodsToo =>
    cases superclass <;> cases superclassToo <;>
      obtain ⟨sameName, behind⟩ := List.cons.inj (Form.headed_inj same) <;>
      obtain rfl : word = nameToo.name := Form.atom.inj sameName
    case none.none => exact .declareClass (ofMethods methodsToo both.parts.tail behind)
    case none.some => exact (FunctionDeclaration.forms_ne_atom behind).elim
    case some.none => exact (FunctionDeclaration.forms_ne_atom behind.symm).elim
    case some.some parent parentToo =>
      obtain ⟨sameParent, sameMethods⟩ := List.cons.inj (List.cons.inj behind).2
      exact .declareSubclass (ofSuperclass parent rfl parentToo both.parts.tail.head sameParent)
        (ofMethods methodsToo both.parts.tail.tail sameMethods)
  | _ => exact nomatch nodes

end Statement.Tells

theorem Statement.AllTell.nil : Statement.AllTell [] := by
  intro treesToo both same
  cases treesToo with
  | nil => exact .noStatements
  | cons treeToo othersToo => exact nomatch same

theorem Statement.AllTell.cons {tree : Statement} {others : List Statement} (first : tree.Tells)
    (rest : Statement.AllTell others) : Statement.AllTell (tree :: others) := by
  intro treesToo both same
  cases treesToo with
  | nil => exact nomatch same
  | cons treeToo othersToo =>
    obtain ⟨sameTree, sameOthers⟩ := List.cons.inj same
    exact .moreStatements (first treeToo both.head sameTree) (rest othersToo both.tail sameOthers)

/-! ### The tree of a form -/

theorem forall_mem_some {α : Type} {holds : α → Prop} {value : α} (isSo : holds value) :
    ∀ other ∈ some value, holds other := by
  rintro _ ⟨⟩
  exact isSo

mutual

/-- Readable trees of one form are alike. -/
theorem Expression.tells : (tree : Expression) → tree.Tells
  | .literal value => .literal value
  | .grouping inner => .grouping inner.tells
  | .unary _ _ operand => .unary operand.tells
  | .binary _ _ left right => .binary left.tells right.tells
  | .logical _ left right => .logical left.tells right.tells
  | .read _ _ => .read
  | .assign _ _ value => .assign value.tells
  | .call callee _ arguments => .call callee.tells (Expression.allTell arguments)
  | .function declaration => .function declaration.tells
  | .get object _ => .get object.tells
  | .set object _ value => .set object.tells value.tells
  | .this _ _ => .this
  | .super _ _ _ => .super

theorem Expression.allTell : (trees : List Expression) → Expression.AllTell trees
  | [] => .nil
  | tree :: others => .cons tree.tells (Expression.allTell others)

theorem FunctionDeclaration.tells : (declaration : FunctionDeclaration) → declaration.Tells
  | .mk _ _ body => .mk (Statement.allTell body)

theorem FunctionDeclaration.allTell : (methods : List FunctionDeclaration) →
    FunctionDeclaration.AllTell methods
  | [] => .nil
  | method :: others => .cons method.tells (FunctionDeclaration.allTell others)

theorem Statement.tells : (tree : Statement) → tree.Tells
  | .expression inner => .expression inner.tells
  | .print inner => .print inner.tells
  | .declareVariable _ none => .declareVariable nofun
  | .declareVariable _ (some value) => .declareVariable (forall_mem_some value.tells)
  | .block statements => .block (Statement.allTell statements)
  | .conditional condition thenBranch none =>
    .conditional condition.tells thenBranch.tells nofun
  | .conditional condition thenBranch (some elseBranch) =>
    .conditional condition.tells thenBranch.tells (forall_mem_some elseBranch.tells)
  | .loop condition body none => .loop condition.tells body.tells nofun
  | .loop condition body (some increment) =>
    .loop condition.tells body.tells (forall_mem_some increment.tells)
  | .control _ _ => .control
  | .declareFunction declaration => .declareFunction declaration.tells
  | .giveBack _ none => .giveBack nofun
  | .giveBack _ (some value) => .giveBack (forall_mem_some value.tells)
  | .declareClass _ none methods =>
    .declareClass nofun (FunctionDeclaration.allTell methods)
  | .declareClass _ (some superclass) methods =>
    .declareClass (forall_mem_some superclass.tells)
      (FunctionDeclaration.allTell methods)

theorem Statement.allTell : (trees : List Statement) → Statement.AllTell trees
  | [] => .nil
  | tree :: others => .cons tree.tells (Statement.allTell others)

end

/-! ### The form of like trees -/

/-- Both parts have the same form. -/
def Parts.SameForm : Parts → Prop
  | .expression left right => left.form = right.form
  | .expressions left right => Expression.forms left = Expression.forms right
  | .function left right => ∀ head, left.form head = right.form head
  | .functions left right => FunctionDeclaration.forms left = FunctionDeclaration.forms right
  | .statement left right => left.form = right.form
  | .statements left right => Statement.forms left = Statement.forms right

/-- What is not the same about like trees is not printed. -/
theorem Likeness.sameForm {parts : Parts} (like : Likeness parts) : parts.SameForm := by
  induction like with
  | number sameText => exact congrArg Form.atom sameText
  | @function _ _ name nameToo _ _ sameName sameParameters _ sameBody =>
    have isName : name.map Identifier.form = nameToo.map Identifier.form := by
      have forms (name : Option Identifier) :
          name.map Identifier.form = (name.map Identifier.name).map Form.atom :=
        (Option.map_map ..).symm
      rw [forms, forms, sameName]
    intro head
    rw [FunctionDeclaration.form, FunctionDeclaration.form, isName, parameters_form,
      parameters_form, sameParameters, sameBody]
  | _ =>
    simp_all only [Parts.SameForm, Expression.form, Expression.forms, FunctionDeclaration.forms,
      Statement.form, Statement.forms, Identifier.form]

end Lox
