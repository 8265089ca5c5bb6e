/-
This file reads the tokens of a source text off its pieces. A token stands on the line on which it
ends. What is no part of the language is reported in its place and reading goes on behind it, so one
pass finds every error; the end of the text closes the list.
-/

import Lox.Source.Piece

namespace Lox.Source

/-! ### Lexical errors -/

/-- What is wrong with a piece of source text. -/
inductive LexicalProblem where
  | strayCharacter (char : Char)
  | openString
  | openComment
deriving Repr, DecidableEq

/-- The text of a lexical problem. -/
def LexicalProblem.text : LexicalProblem → String
  | .strayCharacter char => "Unexpected character: " ++ String.singleton char
  | .openString => "Unterminated string."
  | .openComment => "Unterminated block comment."

/-- A lexical problem and the line it is reported on. -/
structure LexicalError where
  line : Nat
  problem : LexicalProblem
deriving Repr, DecidableEq

/-! ### Reading pieces -/

/-- The number of line ends in a text. -/
def newlines (text : List Char) : Nat :=
  text.count '\n'

/-- A token, or an error where no token could be read. -/
abbrev Item := Except LexicalError Token

/-- What a piece that begins on the line `line` contributes. A block comment that is never closed is
reported where it opens, a string where the text ends. -/
def Piece.item? (line : Nat) : Piece → Option Item
  | .token kind text => some (.ok ⟨kind, String.ofList text, line + newlines text⟩)
  | .blank _ => none
  | .comment _ => none
  | .stray char => some (.error ⟨line, .strayCharacter char⟩)
  | .openString text => some (.error ⟨line + newlines text, .openString⟩)
  | .openComment _ => some (.error ⟨line, .openComment⟩)

/-- The items of the pieces of a text that begins on the line `line`. -/
def readPieces (line : Nat) : List Piece → List Item
  | [] => [.ok ⟨.endOfInput, "", line⟩]
  | piece :: rest =>
    let others := readPieces (line + newlines piece.text) rest
    match piece.item? line with
    | some item => item :: others
    | none => others

/-- Only a piece that is a token is read as one. -/
theorem Piece.token_of_item? {line : Nat} {piece : Piece} {token : Token}
    (isItem : piece.item? line = some (.ok token)) :
    ∃ kind text, piece = .token kind text ∧
      token = ⟨kind, String.ofList text, line + newlines text⟩ := by
  cases piece with
  | token kind text =>
    cases isItem
    exact ⟨kind, text, rfl, rfl⟩
  | _ => cases isItem

/-- A token that is read is the end, or it is read off one of the pieces. -/
theorem token_of_mem_readPieces {line : Nat} {pieces : List Piece} {token : Token}
    (member : .ok token ∈ readPieces line pieces) :
    ∃ start, line ≤ start ∧ (token = ⟨.endOfInput, "", start⟩ ∨
      ∃ piece ∈ pieces, piece.item? start = some (.ok token)) := by
  induction pieces generalizing line with
  | nil =>
    cases List.mem_singleton.mp member
    exact ⟨line, Nat.le_refl line, .inl rfl⟩
  | cons piece rest inductionHypothesis =>
    have later (inRest : .ok token ∈ readPieces (line + newlines piece.text) rest) :
        ∃ start, line ≤ start ∧ (token = ⟨.endOfInput, "", start⟩ ∨
          ∃ other ∈ piece :: rest, other.item? start = some (.ok token)) := by
      obtain ⟨start, behind, isRead⟩ := inductionHypothesis inRest
      refine ⟨start, Nat.le_trans (Nat.le_add_right line _) behind, isRead.imp_right ?_⟩
      exact fun ⟨other, isOther, isItem⟩ => ⟨other, List.mem_cons_of_mem piece isOther, isItem⟩
    rw [readPieces] at member
    split at member
    · rename_i item isItem
      rcases List.mem_cons.mp member with rfl | inRest
      · exact ⟨line, Nat.le_refl line, .inr ⟨piece, List.mem_cons_self, isItem⟩⟩
      · exact later inRest
    · exact later member

/-- The tokens and lexical errors of a source text, in order. -/
def items (source : String) : List Item :=
  readPieces 1 (split source.toList)

/-! ### Tokens and errors apart -/

/-- The tokens among the items. -/
def tokensOf (items : List Item) : List Token :=
  items.filterMap Except.toOption

theorem mem_tokensOf {items : List Item} {token : Token} :
    token ∈ tokensOf items ↔ .ok token ∈ items := by
  refine ⟨fun member => ?_, fun member => List.mem_filterMap.mpr ⟨_, member, rfl⟩⟩
  obtain ⟨item, inItems, isToken⟩ := List.mem_filterMap.mp member
  cases item with
  | error error => exact nomatch isToken
  | ok found =>
    cases isToken
    exact inItems

/-- The errors among the items. -/
def errorsOf (items : List Item) : List LexicalError :=
  items.filterMap fun
    | .ok _ => none
    | .error error => some error

/-- The tokens of a source text next to its lexical errors. -/
def scan (source : String) : List Token × List LexicalError :=
  let items := items source
  (tokensOf items, errorsOf items)

end Lox.Source
