/-
Number literals of a source, as a listing of its tokens writes them and as a printed tree does. No
literal is negative, so a tree shows each with a point and digits on both sides of it. A listing
agrees with that as long as the number is below `2 ^ 63`, and has no point from there on.
-/

import Lox.Proofs.Grammar.Complete
import Lox.Proofs.Number.Texts
import Lox.Proofs.Source.Lexeme
import Lox.Tree.Form

namespace Lox

open Number

/-! ### Literals -/

/-- A number literal stands for a number without a sign. -/
theorem nonnegative_of_mem_scan {source : String} {token : Token} {value : Float}
    (member : token ∈ (Source.scan source).1) (isNumber : token.kind = .number value) :
    Nonnegative value := by
  obtain ⟨kind, lexeme, line⟩ := token
  obtain rfl : kind = .number value := isNumber
  rcases Source.scan_lexeme member with isEnd | isLexeme
  · exact nomatch isEnd
  · generalize isText : (⟨.number value, lexeme, line⟩ : Token).lexeme.toList = text at isLexeme
    cases isLexeme
    exact nonnegative_ofScientific _ _

namespace Grammar

/-- The derivation of an expression that is just a number. -/
def numberAlone (value : Float) (lexeme : String) (line : Nat) (ending : Ending) :
    Derivation .loneExpression :=
  .wholeExpression (.plainExpression <|
    .soleOperand <| .soleOperand <| .soleOperand <| .soleOperand <| .soleOperand <| .soleOperand <|
      .plainCall <| .plainPrimary <| .numberLiteral value lexeme line) ending

/-- A number and the end behind it are read as the literal. -/
theorem parseExpression_number {token last : Token} {value : Float}
    (isNumber : token.kind = .number value) (isEnd : last.isEnd = true) (low : Reference) :
    parseExpression [token, last] low = (.ok (.literal (.number value)), low) := by
  obtain ⟨kind, lexeme, line⟩ := token
  obtain ⟨kindToo, lexemeToo, lineToo⟩ := last
  obtain rfl : kind = .number value := isNumber
  cases kindToo with
  | endOfInput =>
    exact (numberAlone value lexeme line ⟨lexemeToo, lineToo⟩).parseExpression_tokens low trivial
  | _ => exact nomatch isEnd

end Grammar

/-! ### Texts -/

/-- A number that is finite is listed as a tree shows it, and then with a point and digits on both
sides of it, if and only if it is below `2 ^ 63`. A tree shows it with a point whatever it is. -/
theorem number_listed {source : String} {token last : Token} {value : Float} {negative : Bool}
    {significand : Nat} {exponent : Int} (low : Reference)
    (member : token ∈ (Source.scan source).1) (isNumber : token.kind = .number value)
    (finite : Parts.ofFloat value = .finite negative significand exponent)
    (isEnd : last.isEnd = true) :
    ∃ literal, Grammar.parseExpression [token, last] low = (.ok literal, low) ∧
      IsPointed literal.text.toList ∧
      (token.kind.literalText = literal.text ↔ wholePart significand exponent < 2 ^ 63) ∧
      (IsPointed token.kind.literalText.toList ↔ wholePart significand exponent < 2 ^ 63) := by
  obtain rfl := (nonnegative_of_mem_scan member isNumber).parts finite
  have shown : (Expression.literal (.number value)).text = treeText value := String.ofList_toList
  obtain ⟨text, isPointed, isText⟩ := treeText_finite finite
  rw [show signed false text = text from rfl] at isText
  refine ⟨_, Grammar.parseExpression_number isNumber isEnd low, ?_, ?_⟩
  · rw [shown, isText]
    exact isPointed
  rw [shown, isNumber]
  show (tokenText value = treeText value ↔ _) ∧ (IsPointed (tokenText value).toList ↔ _)
  rcases Nat.lt_or_ge (wholePart significand exponent) (2 ^ 63) with small | large
  · have same := tokenText_small finite small
    exact ⟨iff_of_true same small, iff_of_true (by rwa [same, isText]) small⟩
  · have noPoint : ¬IsPointed (tokenText value).toList := by
      rintro ⟨digits, decimals, isDigits, _⟩
      refine tokenText_large finite large ?_
      rw [isDigits]
      exact List.mem_append_right digits List.mem_cons_self
    refine ⟨iff_of_false (fun same => noPoint ?_) (Nat.not_lt.mpr large),
      iff_of_false noPoint (Nat.not_lt.mpr large)⟩
    rwa [same, isText]

/-- The greatest integer of sixty-four bits with a sign is rounded to `2 ^ 63`. -/
theorem number_listed_rounded :
    ∃ token ∈ (Source.scan "9223372036854775807").1,
      token.kind = .number (Source.numberValue ("9223372036854775807".toList, [])) ∧
      Parts.ofFloat (Source.numberValue ("9223372036854775807".toList, [])) =
        .finite false (2 ^ 52) 11 ∧
      ∃ literal, Grammar.parseExpression [token, ⟨.endOfInput, "", 1⟩] 0 = (.ok literal, 0) ∧
        IsPointed literal.text.toList ∧
        (token.kind.literalText = literal.text ↔ wholePart (2 ^ 52) 11 < 2 ^ 63) ∧
        (IsPointed token.kind.literalText.toList ↔ wholePart (2 ^ 52) 11 < 2 ^ 63) :=
  have scanned : (Source.scan "9223372036854775807").1 =
      [⟨.number (Source.numberValue ("9223372036854775807".toList, [])), "9223372036854775807", 1⟩,
        ⟨.endOfInput, "", 1⟩] := rfl
  have finite : Parts.ofFloat (Source.numberValue ("9223372036854775807".toList, [])) =
      .finite false (2 ^ 52) 11 := by decide +kernel
  ⟨_, scanned ▸ List.mem_cons_self, rfl, finite,
    number_listed 0 (scanned ▸ List.mem_cons_self) rfl finite rfl⟩

/-- So not every number is listed as a tree shows it, nor with a point. -/
theorem not_every_number_listed :
    ¬∀ (source : String) (token : Token) (value : Float) (negative : Bool) (significand : Nat)
      (exponent : Int), token ∈ (Source.scan source).1 → token.kind = .number value →
      Parts.ofFloat value = .finite negative significand exponent →
      token.kind.literalText = (Expression.literal (.number value)).text ∧
        IsPointed token.kind.literalText.toList := by
  intro all
  have scanned : (Source.scan "9223372036854775808").1 =
      [⟨.number (Source.numberValue ("9223372036854775808".toList, [])), "9223372036854775808", 1⟩,
        ⟨.endOfInput, "", 1⟩] := rfl
  have finite : Parts.ofFloat (Source.numberValue ("9223372036854775808".toList, [])) =
      .finite false (2 ^ 52) 11 := by decide +kernel
  obtain ⟨_, digits, decimals, isDigits, _⟩ :=
    all "9223372036854775808" _ _ _ _ _ (scanned ▸ List.mem_cons_self) rfl finite
  refine tokenText_large finite (by decide) ?_
  rw [show (tokenText (Source.numberValue ("9223372036854775808".toList, []))).toList =
    digits ++ '.' :: decimals from isDigits]
  exact List.mem_append_right digits List.mem_cons_self

end Lox
