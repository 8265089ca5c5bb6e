/-
Quoted texts, as messages show the names of files. Between double quotes stand the characters that
can be told apart by sight; the others, double quotes and backslashes are written as escapes.
-/

import Lox.Text.DefaultIgnorable
import Lox.Text.GraphemeExtend
import Lox.Text.Unprintable

namespace Lox.Text.Quoted

/-- The escape of a character by its code point, in hexadecimal digits. -/
def codeEscape (char : Char) : List Char :=
  '\\' :: 'u' :: '\x7b' :: Nat.toDigits 16 char.toNat ++ ['\x7d']

/-- The letter behind the backslash of a character with a short escape. -/
def shortEscape? : Char → Option Char
  | '\x00' => some '0'
  | '\t' => some 't'
  | '\n' => some 'n'
  | '\r' => some 'r'
  | '\x22' => some '\x22'
  | '\\' => some '\\'
  | _ => none

/-- Whether a character can be told apart by sight, wherever in a text it stands. -/
def isVisible (char : Char) : Bool :=
  !(isCombining char || isUnprintable char || isDefaultIgnorable char)

/-- A character inside a quoted text. -/
def escape (char : Char) : List Char :=
  match shortEscape? char with
  | some letter => ['\\', letter]
  | none => if isVisible char then [char] else codeEscape char

/-- A text in double quotes. -/
def quote (text : String) : String :=
  String.ofList ('\x22' :: text.toList.flatMap escape ++ ['\x22'])

end Lox.Text.Quoted
