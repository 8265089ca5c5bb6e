/-
This file finds the shortest decimal of a number: among the decimals that read back as the number,
one with the fewest digits, and of those the nearest. A number is a binary fraction, so the decimals
that read back fill an interval whose ends are known exactly, and the search is integer arithmetic:
on each decimal grid, from coarse to fine, only the two neighbours of the number can lie in it.
-/

namespace Lox.Number

/-! ### Powers -/

/-- A power with a whole exponent; one below zero counts as zero. -/
def power (base : Nat) (exponent : Int) : Nat :=
  Nat.pow base exponent.toNat

/-! ### The parts of a number -/

/-- A number taken apart. A finite one has the magnitude `significand * 2 ^ exponent`. -/
inductive Parts where
  | notANumber
  | infinite (negative : Bool)
  | finite (negative : Bool) (significand : Nat) (exponent : Int)
deriving Repr, DecidableEq

/-- The fields of the binary64 format: one sign bit, eleven bits of exponent, fifty-two of fraction.
Exponent zero marks the subnormal numbers, which have no hidden bit. -/
def Parts.ofBits (bits : Nat) : Parts :=
  let negative := bits / power 2 63 % 2 == 1
  let field : Nat := bits / power 2 52 % power 2 11
  let fraction : Nat := bits % power 2 52
  if field = 2047 then
    if fraction = 0 then .infinite negative else .notANumber
  else if field = 0 then .finite negative fraction (-1074)
  else .finite negative (power 2 52 + fraction) ((field : Int) - 1075)

/-- The parts of a number. -/
def Parts.ofFloat (number : Float) : Parts :=
  .ofBits number.toBits.toNat

/-! ### Decimals -/

/-- The decimal `digits * 10 ^ place`; `place` is that of its last digit. -/
structure Decimal where
  digits : Nat
  place : Int
deriving Repr, DecidableEq

/-- The place of the first digit. -/
def Decimal.leadingPlace (decimal : Decimal) : Int :=
  decimal.place + ((Nat.toDigits 10 decimal.digits).length - 1 : Nat)

/-- Which neighbour an exact half goes to. -/
inductive Tie where
  | away
  | even
deriving Repr, DecidableEq

/-! ### The interval of a number on a decimal grid -/

/-- A magnitude and the ends of the interval that reads back as it, all in units of one decimal grid
and over one denominator. -/
structure Scaled where
  low : Nat
  middle : Nat
  high : Nat
  denominator : Nat
  /-- Whether the ends themselves read back, which they do when the significand is even. -/
  closed : Bool
deriving Repr, DecidableEq

/-- Half the gap to the next number lies above a magnitude, and half the gap to the previous one
below it. The gap below a power of two is half the gap above it, except for the least ones. -/
def Scaled.onGrid (significand : Nat) (exponent place : Int) : Scaled :=
  let scale := power 2 (exponent - 2) * power 10 (-place)
  let below := if significand = power 2 52 ∧ exponent > -1074 then 1 else 2
  { low := (4 * significand - below) * scale
    middle := 4 * significand * scale
    high := (4 * significand + 2) * scale
    denominator := power 2 (2 - exponent) * power 10 place
    closed := significand % 2 == 0 }

/-- Whether the grid point `point`, at or below the middle, reads back. -/
def Scaled.reachesDown (scaled : Scaled) (point : Nat) : Bool :=
  let position := point * scaled.denominator
  if scaled.closed then scaled.low ≤ position else scaled.low < position

/-- Whether the grid point `point`, above the middle, reads back. -/
def Scaled.reachesUp (scaled : Scaled) (point : Nat) : Bool :=
  let position := point * scaled.denominator
  if scaled.closed then position ≤ scaled.high else position < scaled.high

/-- Of the two grid points around the middle, the nearer; `below` is the lower of them. -/
def Scaled.nearer (scaled : Scaled) (tie : Tie) (below : Nat) : Nat :=
  let down := scaled.middle - below * scaled.denominator
  let up := (below + 1) * scaled.denominator - scaled.middle
  if down < up then below
  else if up < down then below + 1
  else match tie with
    | .away => below + 1
    | .even => if below % 2 == 0 then below else below + 1

/-- The grid point that reads back, if there is one: of two, the nearer. -/
def Scaled.point? (scaled : Scaled) (tie : Tie) : Option Nat :=
  let below := scaled.middle / scaled.denominator
  match scaled.reachesDown below, scaled.reachesUp (below + 1) with
  | false, false => none
  | true, false => some below
  | false, true => some (below + 1)
  | true, true => some (scaled.nearer tie below)

/-! ### The search -/

/-- The first grid, from `place` downward, with a point that reads back. When `grids` of them have
none, the point below on the last grid stands in. -/
def search (significand : Nat) (exponent : Int) (tie : Tie) : Nat → Int → Decimal
  | 0, place =>
    let scaled := Scaled.onGrid significand exponent place
    ⟨scaled.middle / scaled.denominator, place⟩
  | grids + 1, place =>
    match (Scaled.onGrid significand exponent place).point? tie with
    | some point => ⟨point, place⟩
    | none => search significand exponent tie grids (place - 1)

/-- A place whose unit exceeds the magnitude: `2 ^ bits` exceeds it, and `0.30103` is a little more
than the decimal logarithm of two. -/
def coarsePlace (significand : Nat) (exponent : Int) : Int :=
  let bits : Int := significand.log2 + 1 + exponent
  bits * 30103 / 100000 + 1

/-- The shortest decimal of a magnitude. Seventeen digits always read back, so twenty grids are
enough. -/
def shortest (significand : Nat) (exponent : Int) (tie : Tie) : Decimal :=
  if significand = 0 then ⟨0, 0⟩
  else search significand exponent tie 20 (coarsePlace significand exponent)

/-! ### Whole numbers -/

/-- Whether the magnitude `significand * 2 ^ exponent` is a whole number. -/
def isWhole (significand : Nat) (exponent : Int) : Bool :=
  significand % power 2 (-exponent) == 0

/-- The whole part of the magnitude `significand * 2 ^ exponent`. -/
def wholePart (significand : Nat) (exponent : Int) : Nat :=
  significand * power 2 exponent / power 2 (-exponent)

end Lox.Number
