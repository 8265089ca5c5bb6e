/-
Trees that can be read when they are printed: their names are spelled as names are in a source, and
they have no strings, which are printed without their quotes and could look like anything. Whatever
is inside such a tree is readable as well, and their forms are legible.
-/

import Lox.Proofs.Number.Texts
import Lox.Proofs.Source.Written
import Lox.Proofs.Tree.Legible
import Lox.Proofs.Tree.Parts
import Mathlib.Logic.Relation

namespace Lox

/-! ### Everything inside a tree -/

namespace Constituent

/-- The part is the whole itself, or is inside it at some depth. -/
abbrev Within : Constituent → Constituent → Prop :=
  Relation.ReflTransGen fun whole part => part ∈ whole.parts

/-- Something holds of the whole and of everything inside it. -/
def Throughout (holds : Constituent → Prop) (whole : Constituent) : Prop :=
  ∀ part, Within whole part → holds part

variable {holds : Constituent → Prop} {whole : Constituent}

namespace Throughout

theorem here (throughout : Throughout holds whole) : holds whole :=
  throughout whole .refl

theorem part {part : Constituent} (throughout : Throughout holds whole)
    (isPart : part ∈ whole.parts) :
    Throughout holds part :=
  fun inner within => throughout inner (.head isPart within)

/-- What holds of a whole and throughout its parts holds throughout it. -/
theorem intro (here : holds whole) (parts : ∀ part ∈ whole.parts, Throughout holds part) :
    Throughout holds whole := by
  intro inner within
  rcases within.cases_head with rfl | ⟨part, isPart, within⟩
  · exact here
  · exact parts part isPart inner within

end Throughout

end Constituent

/-! ### What can be read back -/

/-- The name is spelled as names are in a source. -/
def Identifier.IsName (name : Identifier) : Prop :=
  Source.Lexeme .identifier name.name.toList

/-- The literal is no string, and a number only if it is finite. -/
def Literal.IsPlain : Literal → Prop
  | .number value => ∃ negative significand exponent,
    Number.Parts.ofFloat value = .finite negative significand exponent
  | .string _ => False
  | .boolean _ => True
  | .nil => True

namespace Constituent

/-- If the part is a literal, it is plain. -/
def Plain : Constituent → Prop
  | .expression (.literal literal) => literal.IsPlain
  | _ => True

/-- The words that stand in this part alone are spelled as they are in a source. -/
def Worded : Constituent → Prop
  | .expression (.read _ name) => name.IsName
  | .expression (.assign _ name _) => name.IsName
  | .expression (.get _ name) => name.IsName
  | .expression (.set _ name _) => name.IsName
  | .expression (.this _ keyword) => keyword.name = Mark.thisWord.spelling
  | .expression (.super _ keyword method) =>
    keyword.name = Mark.superWord.spelling ∧ method.IsName
  | .statement (.declareVariable name _) => name.IsName
  | .statement (.control control keyword) => keyword.name = control.spelling
  | .statement (.giveBack keyword _) => keyword.name = Mark.returnWord.spelling
  | .statement (.declareClass name _ _) => name.IsName
  | .function (.mk name parameters _) =>
    (∀ word ∈ name, word.IsName) ∧ ∀ parameter ∈ parameters, parameter.IsName
  | _ => True

/-- The words of the part are spelled as in a source, and it is no string. -/
def Readable (part : Constituent) : Prop :=
  part.Worded ∧ part.Plain

end Constituent

/-! ### Atoms -/

/-- What a name is made of. -/
theorem Identifier.IsName.spelled {name : Identifier} (isName : name.IsName) :
    ∃ first rest, name.name.toList = first :: rest ∧ Source.startsName first = true ∧
      (∀ char ∈ rest, Source.continuesName char = true) ∧ Mark.reserved? name.name = none := by
  unfold IsName at isName
  generalize isText : name.name.toList = text at isName
  cases isName with
  | name starts continues unreserved =>
    rw [← isText, String.ofList_toList] at unreserved
    exact ⟨_, _, rfl, starts, continues, unreserved⟩

/-- The text of a finite number is digits, a point and digits, behind a sign or none. -/
theorem treeText_plain {value : Float} (finite : (Literal.number value).IsPlain) :
    ∃ negative text, Number.IsPointed text ∧
      (Number.treeText value).toList = Number.signed negative text := by
  obtain ⟨negative, significand, exponent, isFinite⟩ := finite
  obtain ⟨text, isPointed, isText⟩ := Number.treeText_finite isFinite
  exact ⟨negative, text, isPointed, isText⟩

theorem Identifier.IsName.isAtom {name : Identifier} (isName : name.IsName) :
    Form.IsAtom name.name := by
  obtain ⟨first, rest, isText, starts, continues, _⟩ := isName.spelled
  have atom {char : Char} (continues : Source.continuesName char = true) :
      Form.continuesAtom char = true :=
    Form.continuesAtom_of rfl rfl rfl continues
  unfold Form.IsAtom
  rw [isText]
  refine ⟨List.cons_ne_nil _ _, fun char member => atom ?_⟩
  rcases List.mem_cons.mp member with rfl | inRest
  · exact Source.continuesName_of_startsName starts
  · exact continues char inRest

theorem treeText_isAtom {value : Float} (finite : (Literal.number value).IsPlain) :
    Form.IsAtom (Number.treeText value) := by
  obtain ⟨negative, _, ⟨digits, decimals, rfl, nonempty, _, areDigits, areDecimals⟩, isText⟩ :=
    treeText_plain finite
  have digit {char : Char} (isDigit : char.isDigit = true) : Form.continuesAtom char = true :=
    Form.continuesAtom_of rfl rfl rfl isDigit
  have pointed : ∀ char ∈ digits ++ '.' :: decimals, Form.continuesAtom char = true := by
    intro char member
    rcases List.mem_append.mp member with isDigit | isBehind
    · exact digit (areDigits char isDigit)
    · rcases List.mem_cons.mp isBehind with rfl | isDecimal
      · rfl
      · exact digit (areDecimals char isDecimal)
  unfold Form.IsAtom
  rw [isText]
  cases negative with
  | true => exact ⟨List.cons_ne_nil _ _, List.forall_mem_cons.mpr ⟨rfl, pointed⟩⟩
  | false => exact ⟨List.append_ne_nil_of_left_ne_nil nonempty _, pointed⟩

theorem UnaryOperator.isAtom (operator : UnaryOperator) : Form.IsAtom operator.spelling := by
  cases operator <;> decide

theorem BinaryOperator.isAtom (operator : BinaryOperator) : Form.IsAtom operator.spelling := by
  cases operator <;> decide

theorem LogicalOperator.isAtom (operator : LogicalOperator) : Form.IsAtom operator.spelling := by
  cases operator <;> decide

theorem LoopControl.isAtom (control : LoopControl) : Form.IsAtom control.spelling := by
  cases control <;> decide

/-! ### Legible trees -/

open Constituent (Throughout Readable)

/-- The parameters of a function are legible. -/
theorem parameters_legible {parameters : List Identifier}
    (areNames : ∀ parameter ∈ parameters, parameter.IsName) :
    (Form.list (parameters.map Identifier.form)).Legible := by
  show Form.AllLegible (parameters.map Identifier.form)
  induction parameters with
  | nil => trivial
  | cons parameter parameters inductionHypothesis =>
    obtain ⟨isName, others⟩ := List.forall_mem_cons.mp areNames
    exact ⟨isName.isAtom, inductionHypothesis others⟩

mutual

theorem Expression.form_legible : (tree : Expression) →
    Throughout Readable (.expression tree) → tree.form.Legible
  | .literal value, readable => by
    have plain : value.IsPlain := readable.here.2
    cases value with
    | number value => exact treeText_isAtom plain
    | string contents => exact plain.elim
    | boolean value =>
      cases value with
      | true => exact (by decide : Form.IsAtom "true")
      | false => exact (by decide : Form.IsAtom "false")
    | nil => exact (by decide : Form.IsAtom "nil")
  | .grouping inner, readable =>
    ⟨(by decide : Form.IsAtom "group"), inner.form_legible (readable.part List.mem_cons_self),
      trivial⟩
  | .unary operator _ operand, readable =>
    ⟨operator.isAtom,
      operand.form_legible (readable.part List.mem_cons_self), trivial⟩
  | .binary operator _ left right, readable =>
    ⟨operator.isAtom,
      left.form_legible (readable.part List.mem_cons_self),
      right.form_legible (readable.part (.tail _ List.mem_cons_self)), trivial⟩
  | .logical operator left right, readable =>
    ⟨operator.isAtom,
      left.form_legible (readable.part List.mem_cons_self),
      right.form_legible (readable.part (.tail _ List.mem_cons_self)), trivial⟩
  | .read _ _, readable => Identifier.IsName.isAtom readable.here.1
  | .assign _ _ value, readable =>
    ⟨(by decide : Form.IsAtom "="), Identifier.IsName.isAtom readable.here.1,
      value.form_legible (readable.part List.mem_cons_self), trivial⟩
  | .call callee _ arguments, readable =>
    ⟨(by decide : Form.IsAtom "call"), callee.form_legible (readable.part List.mem_cons_self),
      Expression.forms_legible arguments fun _ member =>
        readable.part (.tail _ (List.mem_map_of_mem member))⟩
  | .function declaration, readable =>
    declaration.form_legible "fun" (by decide) (readable.part List.mem_cons_self)
  | .get object _, readable =>
    ⟨(by decide : Form.IsAtom "."), object.form_legible (readable.part List.mem_cons_self),
      Identifier.IsName.isAtom readable.here.1, trivial⟩
  | .set object _ value, readable =>
    ⟨(by decide : Form.IsAtom "="),
      ⟨(by decide : Form.IsAtom "."), object.form_legible (readable.part List.mem_cons_self),
        Identifier.IsName.isAtom readable.here.1, trivial⟩,
      value.form_legible (readable.part (.tail _ List.mem_cons_self)), trivial⟩
  | .this _ _, _ => (by decide : Form.IsAtom "this")
  | .super _ _ _, readable =>
    ⟨(by decide : Form.IsAtom "super"), Identifier.IsName.isAtom readable.here.1.2, trivial⟩

theorem Expression.forms_legible : (trees : List Expression) →
    (∀ tree ∈ trees, Throughout Readable (.expression tree)) →
    Form.AllLegible (Expression.forms trees)
  | [], _ => trivial
  | tree :: others, readable =>
    ⟨tree.form_legible (readable tree List.mem_cons_self),
      Expression.forms_legible others fun other member =>
        readable other (List.mem_cons_of_mem tree member)⟩

theorem FunctionDeclaration.form_legible : (declaration : FunctionDeclaration) →
    (head : String) → Form.IsAtom head → Throughout Readable (.function declaration) →
    (declaration.form head).Legible
  | .mk name parameters body, head, isAtom, readable => by
    have areParameters : ∀ parameter ∈ parameters, parameter.IsName := readable.here.1.2
    have areStatements := Statement.forms_legible body fun statement member =>
      readable.part (List.mem_append_right _ (List.mem_map_of_mem member))
    cases name with
    | none => exact ⟨isAtom, parameters_legible areParameters, areStatements⟩
    | some name =>
      have isName : name.IsName := readable.here.1.1 name rfl
      exact ⟨isAtom, isName.isAtom, parameters_legible areParameters, areStatements⟩

theorem FunctionDeclaration.forms_legible : (methods : List FunctionDeclaration) →
    (∀ method ∈ methods, Throughout Readable (.function method)) →
    Form.AllLegible (FunctionDeclaration.forms methods)
  | [], _ => trivial
  | method :: others, readable =>
    ⟨method.form_legible "method" (by decide) (readable method List.mem_cons_self),
      FunctionDeclaration.forms_legible others fun other member =>
        readable other (List.mem_cons_of_mem method member)⟩

theorem Statement.form_legible : (tree : Statement) →
    Throughout Readable (.statement tree) → tree.form.Legible
  | .expression inner, readable =>
    ⟨(by decide : Form.IsAtom ";"), inner.form_legible (readable.part List.mem_cons_self), trivial⟩
  | .print inner, readable =>
    ⟨(by decide : Form.IsAtom "print"), inner.form_legible (readable.part List.mem_cons_self),
      trivial⟩
  | .declareVariable _ none, readable =>
    ⟨(by decide : Form.IsAtom "var"), Identifier.IsName.isAtom readable.here.1, trivial⟩
  | .declareVariable _ (some value), readable =>
    ⟨(by decide : Form.IsAtom "var"), Identifier.IsName.isAtom readable.here.1,
      value.form_legible (readable.part (.tail _ List.mem_cons_self)), trivial⟩
  | .block statements, readable =>
    ⟨(by decide : Form.IsAtom "block"), Statement.forms_legible statements fun _ member =>
      readable.part (List.mem_map_of_mem member)⟩
  | .conditional condition thenBranch none, readable =>
    ⟨(by decide : Form.IsAtom "if"), condition.form_legible (readable.part List.mem_cons_self),
      thenBranch.form_legible (readable.part (.tail _ List.mem_cons_self)), trivial⟩
  | .conditional condition thenBranch (some elseBranch), readable =>
    ⟨(by decide : Form.IsAtom "if"), condition.form_legible (readable.part List.mem_cons_self),
      thenBranch.form_legible (readable.part (.tail _ List.mem_cons_self)),
      elseBranch.form_legible (readable.part (.tail _ (.tail _ List.mem_cons_self))), trivial⟩
  | .loop condition body none, readable =>
    ⟨(by decide : Form.IsAtom "while"), condition.form_legible (readable.part List.mem_cons_self),
      body.form_legible (readable.part (.tail _ List.mem_cons_self)), trivial⟩
  | .loop condition body (some increment), readable =>
    ⟨(by decide : Form.IsAtom "while"), condition.form_legible (readable.part List.mem_cons_self),
      body.form_legible (readable.part (.tail _ List.mem_cons_self)),
      increment.form_legible (readable.part (.tail _ (.tail _ List.mem_cons_self))), trivial⟩
  | .control control _, _ => ⟨control.isAtom, trivial⟩
  | .declareFunction declaration, readable =>
    declaration.form_legible "fun" (by decide) (readable.part List.mem_cons_self)
  | .giveBack _ none, _ => ⟨(by decide : Form.IsAtom "return"), trivial⟩
  | .giveBack _ (some value), readable =>
    ⟨(by decide : Form.IsAtom "return"), value.form_legible (readable.part List.mem_cons_self),
      trivial⟩
  | .declareClass _ none methods, readable =>
    ⟨(by decide : Form.IsAtom "class"), Identifier.IsName.isAtom readable.here.1,
      FunctionDeclaration.forms_legible methods fun _ member =>
        readable.part (.tail _ (List.mem_map_of_mem member))⟩
  | .declareClass _ (some superclass) methods, readable =>
    ⟨(by decide : Form.IsAtom "class"), Identifier.IsName.isAtom readable.here.1,
      (by decide : Form.IsAtom "<"),
      superclass.form_legible (readable.part (.tail _ List.mem_cons_self)),
      FunctionDeclaration.forms_legible methods fun _ member =>
        readable.part (.tail _ (.tail _ (List.mem_map_of_mem member)))⟩

theorem Statement.forms_legible : (trees : List Statement) →
    (∀ tree ∈ trees, Throughout Readable (.statement tree)) →
    Form.AllLegible (Statement.forms trees)
  | [], _ => trivial
  | tree :: others, readable =>
    ⟨tree.form_legible (readable tree List.mem_cons_self),
      Statement.forms_legible others fun other member =>
        readable other (List.mem_cons_of_mem tree member)⟩

end

end Lox
