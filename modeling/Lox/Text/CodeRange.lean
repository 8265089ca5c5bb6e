/-
Sets of characters, given as ranges of code points. A table of ranges is read from its first one on,
so it needs no order; the tables here are in order all the same, and no two of their ranges touch.
-/

namespace Lox.Text

/-- The first and the last code point of a range. -/
abbrev CodeRange := Nat × Nat

/-- Whether a code point lies in a range. -/
def CodeRange.holds (range : CodeRange) (code : Nat) : Bool :=
  range.1 ≤ code && code ≤ range.2

/-- Whether a character lies in one of the ranges. -/
def isIn (ranges : List CodeRange) (char : Char) : Bool :=
  ranges.any fun range => range.holds char.toNat

end Lox.Text
