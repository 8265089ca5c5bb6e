/-
What is printed of a program tells the program. Its words are those of its tokens, so the trees that
are read from tokens of a source can be read back, and so can everything inside them.
-/

import Lox.Proofs.Grammar.Kept
import Lox.Proofs.Tree.Printed

namespace Lox

open Constituent (Throughout Worded Plain)

namespace Grammar

/-! ### What is read -/

/-- Every one of the tokens is a token of some source. -/
def FromSources (tokens : List Token) : Prop :=
  ∀ token ∈ tokens, ∃ source, token ∈ (Source.scan source).1

theorem FromSources.spelled {tokens : List Token} (fromSources : FromSources tokens) :
    ∀ token ∈ tokens, token.IsSpelled := by
  intro token member
  obtain ⟨source, isToken⟩ := fromSources token member
  exact Source.scan_lexeme isToken

/-- A tree that is read from tokens of sources, or is inside one. Statements may stand among ones
that cannot be read. -/
inductive Produced : Constituent → Prop
  | statement {tokens low statement} : FromSources tokens →
    .ok statement ∈ (parseItems tokens low).1 → Produced (.statement statement)
  | expression {tokens low expression high} : FromSources tokens →
    parseExpression tokens low = (.ok expression, high) → Produced (.expression expression)
  | part {whole part} : Produced whole → part ∈ whole.parts → Produced part

/-- Every word of what is read is spelled as it is in a source. -/
theorem Produced.worded {part : Constituent} (parsed : Produced part) : Throughout Worded part := by
  have worded {read : Constituent} (keeps : Throughout (Constituent.Keeps Token.IsSpelled) read) :
      Throughout Worded read :=
    fun inner within => (keeps inner within).worded
  have spelled (token : Token) (isSpelled : token.IsSpelled) : token.IsSpelled := isSpelled
  induction parsed with
  | statement fromSources read => exact worded (attempts_keep spelled _ _ fromSources.spelled read)
  | expression fromSources read =>
    exact worded (parseExpression_keeps spelled fromSources.spelled read)
  | part _ isPart worded => exact worded.part isPart

theorem Produced.readable {part : Constituent} (parsed : Produced part)
    (plain : Throughout Plain part) : Throughout Constituent.Readable part :=
  fun inner within => ⟨parsed.worded inner within, plain inner within⟩

/-! ### The text of what is read -/

/-- Trees without strings whose numbers are finite are printed the same only if they are the same,
but for references, lines, and numbers that are printed the same. -/
theorem text_tells_tree :
    (∀ first second : Statement, Produced (.statement first) → Produced (.statement second) →
      Throughout Plain (.statement first) → Throughout Plain (.statement second) →
      (first.text = second.text ↔ Likeness (.statement first second))) ∧
    (∀ first second : Expression, Produced (.expression first) → Produced (.expression second) →
      Throughout Plain (.expression first) → Throughout Plain (.expression second) →
      (first.text = second.text ↔ Likeness (.expression first second))) := by
  constructor
  · intro first second parsed parsedToo plain plainToo
    have readable := parsed.readable plain
    have readableToo := parsedToo.readable plainToo
    have forms : first.text = second.text ↔ first.form = second.form :=
      Form.text_inj (first.form_legible readable) (second.form_legible readableToo)
    exact forms.trans
      ⟨first.tells second (.intro readable readableToo), fun like => like.sameForm⟩
  · intro first second parsed parsedToo plain plainToo
    have readable := parsed.readable plain
    have readableToo := parsedToo.readable plainToo
    have forms : first.text = second.text ↔ first.form = second.form :=
      Form.text_inj (first.form_legible readable) (second.form_legible readableToo)
    exact forms.trans
      ⟨first.tells second (.intro readable readableToo), fun like => like.sameForm⟩

/-- A sum on one line, and the same sum on two lines with a point in its number. -/
theorem text_tells_tree_sum :
    ∃ first second : Statement, ∃ left right : Expression,
      (Produced (.statement first) ∧ Produced (.statement second) ∧
        Throughout Plain (.statement first) ∧ Throughout Plain (.statement second) ∧
        first.text = "(print (+ a 1.0))" ∧ second.text = "(print (+ a 1.0))" ∧
        Likeness (.statement first second)) ∧
      (Produced (.expression left) ∧ Produced (.expression right) ∧
        Throughout Plain (.expression left) ∧ Throughout Plain (.expression right) ∧
        left.text = "(+ a 1.0)" ∧ right.text = "(+ a 1.0)" ∧
        Likeness (.expression left right)) := by
  have fromSources (source : String) : FromSources (Source.scan source).1 :=
    fun _ member => ⟨source, member⟩
  have parsed : Produced (.statement (.print (.binary .add 1 (.read 0 ⟨"a", 1⟩)
      (.literal (.number (Source.numberValue ("1".toList, []))))))) :=
    @Produced.statement _ 0 _ (fromSources "print a + 1;") (List.mem_of_getElem? (i := 0) rfl)
  have parsedToo : Produced (.statement (.print (.binary .add 2 (.read 5 ⟨"a", 1⟩)
      (.literal (.number (Source.numberValue ("1".toList, "0".toList))))))) :=
    @Produced.statement _ 5 _ (fromSources "print a\n + 1.0;") (List.mem_of_getElem? (i := 0) rfl)
  have plain {line lineToo : Nat} {reference : Reference} {value : Float}
      (isPlain : (Literal.number value).IsPlain) :
      Throughout Plain (.statement (.print (.binary .add line (.read reference ⟨"a", lineToo⟩)
        (.literal (.number value))))) :=
    .intro trivial (List.forall_mem_singleton.mpr (.intro trivial (List.forall_mem_cons.mpr
      ⟨.intro trivial nofun, List.forall_mem_singleton.mpr (.intro isPlain nofun)⟩)))
  have isPlain : (Literal.number (Source.numberValue ("1".toList, []))).IsPlain :=
    ⟨false, 2 ^ 52, -52, by decide +kernel⟩
  have isPlainToo : (Literal.number (Source.numberValue ("1".toList, "0".toList))).IsPlain :=
    ⟨false, 2 ^ 52, -52, by decide +kernel⟩
  have isPart {inner : Expression} :
      Constituent.expression inner ∈ (Constituent.statement (.print inner)).parts :=
    List.mem_cons_self
  refine ⟨_, _, _, _, ⟨parsed, parsedToo, plain isPlain, plain isPlainToo,
      by decide +kernel, by decide +kernel, ?_⟩, parsed.part isPart, parsedToo.part isPart,
    (plain isPlain).part isPart, (plain isPlainToo).part isPart,
      by decide +kernel, by decide +kernel, ?_⟩
  · exact (text_tells_tree.1 _ _ parsed parsedToo (plain isPlain) (plain isPlainToo)).mp
      (by decide +kernel)
  · exact (text_tells_tree.2 _ _ (parsed.part isPart) (parsedToo.part isPart)
      ((plain isPlain).part isPart) ((plain isPlainToo).part isPart)).mp (by decide +kernel)

end Grammar

end Lox
