/-
This file cuts a source text into pieces: tokens, blanks, comments, and the three things that are no
part of the language. Every character belongs to exactly one piece, so the pieces put together are
the text again, and what a piece is depends only on the characters from its first one on.
-/

import Lox.Token

namespace Lox.Source

/-! ### Characters -/

/-- The first character of a name. Names are written in ASCII. -/
def startsName (char : Char) : Bool :=
  char.isAlpha || char == '_'

/-- A later character of a name. -/
def continuesName (char : Char) : Bool :=
  char.isAlphanum || char == '_'

/-- A character that separates tokens and is otherwise ignored. -/
def isBlank (char : Char) : Bool :=
  char == ' ' || char == '\t' || char == '\r' || char == '\n'

/-! ### Numbers -/

/-- The digits of a number literal at the start of the text: before the point and after it. A point
without a digit behind it is not part of the number. -/
def numberDigits (text : List Char) : List Char × List Char :=
  let digits := text.takeWhile Char.isDigit
  match text.dropWhile Char.isDigit with
  | '.' :: rest => (digits, rest.takeWhile Char.isDigit)
  | _ => (digits, [])

/-- The characters of a number literal with the given digits. -/
def numberText : List Char × List Char → List Char
  | (digits, []) => digits
  | (digits, decimals) => digits ++ '.' :: decimals

/-- The natural number with the given decimal digits. -/
def decimalValue (digits : List Char) : Nat :=
  digits.foldl (fun value digit => 10 * value + (digit.toNat - '0'.toNat)) 0

/-- The number nearest to the decimal with the given digits. -/
def numberValue : List Char × List Char → Float
  | (digits, decimals) =>
    Float.ofScientific (decimalValue (digits ++ decimals)) true decimals.length

/-! ### Pieces -/

/-- A piece of source text. -/
inductive Piece where
  | token (kind : TokenKind) (text : List Char)
  | blank (char : Char)
  | comment (text : List Char)
  /-- A character with which no token begins. -/
  | stray (char : Char)
  /-- A string literal that is never closed. -/
  | openString (text : List Char)
  /-- A block comment that is never closed. -/
  | openComment (text : List Char)
deriving Repr

/-- The characters of a piece. -/
def Piece.text : Piece → List Char
  | .token _ text => text
  | .blank char => [char]
  | .comment text => text
  | .stray char => [char]
  | .openString text => text
  | .openComment text => text

/-- A piece that is the given mark. -/
def Piece.ofMark (mark : Mark) : Piece :=
  .token (.mark mark) mark.spelling.toList

/-- The mark `double` if an equals sign follows, otherwise the mark `single`. -/
def withEqual (single double : Mark) : List Char → Piece
  | '=' :: _ => .ofMark double
  | _ => .ofMark single

/-- The number of characters up to the end of the first closing sign of a block comment, added to
those already passed. -/
def commentLength (passed : Nat) : List Char → Option Nat
  | [] => none
  | '*' :: '/' :: _ => some (passed + 2)
  | _ :: rest => commentLength (passed + 1) rest

/-- The piece that begins with a slash. A block comment ends at the first closing sign after its
opening one: comments do not nest. -/
def slashPiece : List Char → Piece
  | '/' :: rest => .comment ('/' :: '/' :: rest.takeWhile (· != '\n'))
  | '*' :: rest =>
    match commentLength 0 rest with
    | some length => .comment ('/' :: '*' :: rest.take length)
    | none => .openComment ('/' :: '*' :: rest)
  | _ => .ofMark .slash

/-- The piece that begins with a double quote. There are no escapes, and a string may run over
several lines. -/
def stringPiece (rest : List Char) : Piece :=
  let contents := rest.takeWhile (· != '"')
  match rest.dropWhile (· != '"') with
  | [] => .openString ('"' :: rest)
  | _ :: _ => .token (.string (String.ofList contents)) ('"' :: contents ++ ['"'])

/-- The piece that begins with a letter: a reserved word or a name. -/
def wordPiece (first : Char) (rest : List Char) : Piece :=
  let text := first :: rest.takeWhile continuesName
  match Mark.reserved? (String.ofList text) with
  | some mark => .token (.mark mark) text
  | none => .token .identifier text

/-- The piece that begins with a digit. -/
def numberPiece (text : List Char) : Piece :=
  let digits := numberDigits text
  .token (.number (numberValue digits)) (numberText digits)

/-- The mark that a character is, whatever follows it. -/
def loneMark? : Char → Option Mark
  | '(' => some .leftParen
  | ')' => some .rightParen
  | '\x7b' => some .leftBrace
  | '\x7d' => some .rightBrace
  | ',' => some .comma
  | '.' => some .dot
  | '-' => some .minus
  | '+' => some .plus
  | ';' => some .semicolon
  | '*' => some .star
  | _ => none

/-- The piece that begins with the character `first`, which `rest` follows. -/
def Piece.first (first : Char) (rest : List Char) : Piece :=
  match loneMark? first with
  | some mark => .ofMark mark
  | none =>
    if first = '!' then withEqual .bang .bangEqual rest
    else if first = '=' then withEqual .equal .equalEqual rest
    else if first = '<' then withEqual .less .lessEqual rest
    else if first = '>' then withEqual .greater .greaterEqual rest
    else if first = '/' then slashPiece rest
    else if first = '"' then stringPiece rest
    else if isBlank first then .blank first
    else if first.isDigit then numberPiece (first :: rest)
    else if startsName first then wordPiece first rest
    else .stray first

/-- The pieces of a text whose first `covered` characters belong to a piece already taken. -/
def splitAfter : Nat → List Char → List Piece
  | _, [] => []
  | covered + 1, _ :: rest => splitAfter covered rest
  | 0, first :: rest =>
    let piece := Piece.first first rest
    piece :: splitAfter (piece.text.length - 1) rest

/-- The pieces of a text, in order. -/
def split (text : List Char) : List Piece :=
  splitAfter 0 text

/-- Every piece of a text is what begins with a character of it. -/
theorem first_of_mem_splitAfter {covered : Nat} {text : List Char} {piece : Piece}
    (member : piece ∈ splitAfter covered text) :
    ∃ first rest, piece = Piece.first first rest := by
  induction text generalizing covered with
  | nil => cases covered <;> exact absurd member List.not_mem_nil
  | cons first rest inductionHypothesis =>
    cases covered with
    | succ covered => exact inductionHypothesis member
    | zero =>
      rcases List.mem_cons.mp member with rfl | inRest
      · exact ⟨first, rest, rfl⟩
      · exact inductionHypothesis inRest

end Lox.Source
