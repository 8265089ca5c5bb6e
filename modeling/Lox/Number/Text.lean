/-
This file writes numbers. There are four written forms: the one a program prints, the one that lists
a number token, the one in a printed tree, and the one in JSON. They share the shortest decimal and
differ in where positional notation ends, in the least number of fraction digits and in the names of
what is not finite.
-/

import Lox.Number.Shortest

namespace Lox.Number

/-! ### Layouts of a decimal -/

/-- The sign of a negative number. -/
def signed (negative : Bool) (text : List Char) : List Char :=
  if negative then '-' :: text else text

/-- All digits in their places, with as many zeros as that takes and a point only where digits
follow it. -/
def positional (decimal : Decimal) : List Char :=
  let digits := Nat.toDigits 10 decimal.digits
  if 0 ≤ decimal.place then
    digits ++ List.replicate decimal.place.toNat '0'
  else
    let places := (-decimal.place).toNat
    if places < digits.length then
      digits.take (digits.length - places) ++ '.' :: digits.drop (digits.length - places)
    else
      '0' :: '.' :: List.replicate (places - digits.length) '0' ++ digits

/-- One digit, the others after a point, and no point when there are none. -/
def mantissa (decimal : Decimal) : List Char :=
  match Nat.toDigits 10 decimal.digits with
  | [] => []
  | [digit] => [digit]
  | digit :: others => digit :: '.' :: others

/-- A whole number with one zero after the point. -/
def whole (number : Nat) : List Char :=
  Nat.toDigits 10 number ++ ['.', '0']

/-- An integer in decimal digits, with a minus sign if it is negative. -/
def integer : Int → List Char
  | .ofNat number => Nat.toDigits 10 number
  | .negSucc number => '-' :: Nat.toDigits 10 (number + 1)

/-- The text with a point and a zero added when it has no point. -/
def withPoint (text : List Char) : List Char :=
  if text.contains '.' then text else text ++ ['.', '0']

/-- Whether the first digit of a decimal stands in one of the places from `lowest` to `highest`. -/
def Decimal.leadsWithin (decimal : Decimal) (lowest highest : Int) : Bool :=
  lowest ≤ decimal.leadingPlace && decimal.leadingPlace ≤ highest

/-! ### The four written forms -/

/-- What `print` writes: positional from a thousandth up to ten million and for zero, otherwise one
digit before the point, at least one after it, and `E` with the exponent. -/
def display (number : Float) : String :=
  match Parts.ofFloat number with
  | .notANumber => "NaN"
  | .infinite negative => String.ofList (signed negative "Infinity".toList)
  | .finite negative significand exponent =>
    let decimal := shortest significand exponent .away
    String.ofList <| signed negative <|
      if decimal.digits = 0 ∨ decimal.leadsWithin (-3) 6 then positional decimal
      else withPoint (mantissa decimal) ++ 'E' :: integer decimal.leadingPlace

/-- The shortest decimal in positional notation, whatever its size. -/
def plain : Parts → List Char
  | .notANumber => "NaN".toList
  | .infinite negative => signed negative "inf".toList
  | .finite negative significand exponent =>
    signed negative (positional (shortest significand exponent .away))

/-- How a token listing writes a number: a whole number below `2 ^ 63` in all its digits with a
zero after the point and no sign on zero, any other number plainly. -/
def tokenText (number : Float) : String :=
  match Parts.ofFloat number with
  | .finite negative significand exponent =>
    let whole? := isWhole significand exponent && wholePart significand exponent < power 2 63
    String.ofList <|
      if whole? then signed (negative && significand != 0) (whole (wholePart significand exponent))
      else plain (.finite negative significand exponent)
  | parts => String.ofList (plain parts)

/-- How a printed tree writes a number: a whole number in all its digits with a zero after the
point, any other number plainly. -/
def treeText (number : Float) : String :=
  match Parts.ofFloat number with
  | .finite negative significand exponent =>
    String.ofList <|
      if isWhole significand exponent then
        signed negative (whole (wholePart significand exponent))
      else plain (.finite negative significand exponent)
  | parts => String.ofList (plain parts)

/-- How JSON writes a number: positional with a point from the fifth place after it to the sixteenth
digit before it, otherwise with `e` and a signed exponent, and `null` for what is not finite. -/
def jsonText (number : Float) : String :=
  match Parts.ofFloat number with
  | .finite negative significand exponent =>
    let decimal := shortest significand exponent .even
    String.ofList <| signed negative <|
      if decimal.digits = 0 ∨ decimal.leadsWithin (-5) 15 then withPoint (positional decimal)
      else
        let power := integer decimal.leadingPlace
        mantissa decimal ++ 'e' :: (if 0 ≤ decimal.leadingPlace then '+' :: power else power)
  | _ => "null"

end Lox.Number
