/-
Where the last digit of the shortest decimal stands. A whole number that lies in the interval of a
number is that number, for the interval reaches no further than half a unit of the last binary place
to either side. So the shortest decimal of a number that is not whole has digits behind the point,
and that of a large whole number, which is a decimal without them, has none.
-/

import Lox.Number.Shortest
import Mathlib.Algebra.Order.Group.Nat
import Mathlib.Tactic.Positivity
import Mathlib.Tactic.Ring
import Mathlib.Tactic.SplitIfs

namespace Lox.Number

variable {significand : Nat} {exponent place : Int} {tie : Tie}

/-! ### Powers -/

theorem power_of_nonpos {base : Nat} (nonpos : exponent ≤ 0) : power base exponent = 1 := by
  unfold power
  rw [Int.toNat_of_nonpos nonpos]
  exact Nat.pow_zero base

theorem power_natCast (base exponent : Nat) : power base exponent = base ^ exponent := rfl

theorem power_pos {base : Nat} (positive : 0 < base) (exponent : Int) : 0 < power base exponent :=
  Nat.pow_pos positive

/-! ### Grid points in the interval -/

namespace Scaled

variable {scaled : Scaled} {point : Nat}

/-- The grid point lies in the interval. -/
def Contains (scaled : Scaled) (point : Nat) : Prop :=
  scaled.low ≤ point * scaled.denominator ∧ point * scaled.denominator ≤ scaled.high

theorem contains_of_reachesDown (high : scaled.middle ≤ scaled.high)
    (reaches : scaled.reachesDown (scaled.middle / scaled.denominator) = true) :
    scaled.Contains (scaled.middle / scaled.denominator) := by
  refine ⟨?_, Nat.le_trans (Nat.div_mul_le_self _ _) high⟩
  unfold reachesDown at reaches
  split at reaches <;> simp only [decide_eq_true_eq] at reaches <;> omega

theorem contains_of_reachesUp (positive : 0 < scaled.denominator) (low : scaled.low ≤ scaled.middle)
    (reaches : scaled.reachesUp (scaled.middle / scaled.denominator + 1) = true) :
    scaled.Contains (scaled.middle / scaled.denominator + 1) := by
  have behind : scaled.middle < (scaled.middle / scaled.denominator + 1) * scaled.denominator :=
    (Nat.div_lt_iff_lt_mul positive).mp (Nat.lt_succ_self _)
  refine ⟨Nat.le_trans low (Nat.le_of_lt behind), ?_⟩
  unfold reachesUp at reaches
  split at reaches <;> simp only [decide_eq_true_eq] at reaches <;> omega

theorem nearer_cases (scaled : Scaled) (tie : Tie) (below : Nat) :
    scaled.nearer tie below = below ∨ scaled.nearer tie below = below + 1 := by
  unfold nearer
  cases tie <;> dsimp only <;> split_ifs <;> simp only [true_or, or_true]

/-- A grid point that is found lies in the interval. -/
theorem contains_of_point? (positive : 0 < scaled.denominator) (low : scaled.low ≤ scaled.middle)
    (high : scaled.middle ≤ scaled.high) (found : scaled.point? tie = some point) :
    scaled.Contains point := by
  unfold point? at found
  dsimp only at found
  split at found
  · cases found
  · rename_i down _
    cases found
    exact contains_of_reachesDown high down
  · rename_i _ up
    cases found
    exact contains_of_reachesUp positive low up
  · rename_i down up
    cases found
    rcases nearer_cases scaled tie (scaled.middle / scaled.denominator) with isDown | isUp
    · rw [isDown]
      exact contains_of_reachesDown high down
    · rw [isUp]
      exact contains_of_reachesUp positive low up

/-- On a grid with units of one, some point is found. -/
theorem point?_ne_none (unit : scaled.denominator = 1) (low : scaled.low < scaled.middle) :
    scaled.point? tie ≠ none := by
  have down : scaled.reachesDown (scaled.middle / scaled.denominator) = true := by
    unfold reachesDown
    rw [unit, Nat.div_one, Nat.mul_one]
    split <;> simp only [decide_eq_true_eq] <;> omega
  unfold point?
  dsimp only
  rw [down]
  split <;> simp_all

end Scaled

/-! ### Whole numbers and grids -/

theorem isWhole_iff :
    isWhole significand exponent = true ↔ power 2 (-exponent) ∣ significand := by
  unfold isWhole
  rw [beq_iff_eq, Nat.dvd_iff_mod_eq_zero]

/-- What is not whole has places behind its binary point. -/
theorem exists_places (notWhole : isWhole significand exponent = false) :
    ∃ places : Nat, exponent = -places ∧ 0 < places ∧ ¬2 ^ places ∣ significand := by
  have notDivided : ¬power 2 (-exponent) ∣ significand := fun divides =>
    absurd (isWhole_iff.mpr divides) (by rw [notWhole]; exact Bool.false_ne_true)
  have negative : exponent < 0 := by
    by_contra notNegative
    refine notDivided ?_
    rw [power_of_nonpos (by omega)]
    exact Nat.one_dvd significand
  obtain ⟨places, isPlaces⟩ := Int.eq_ofNat_of_zero_le (show 0 ≤ -exponent by omega)
  refine ⟨places, by omega, by omega, ?_⟩
  rwa [isPlaces] at notDivided

/-- No whole number reads back as a number that is not whole. -/
theorem point?_of_notWhole (notWhole : isWhole significand exponent = false) (nonneg : 0 ≤ place) :
    (Scaled.onGrid significand exponent place).point? tie = none := by
  obtain ⟨places, rfl, positive, notDivided⟩ := exists_places notWhole
  obtain ⟨zeros, rfl⟩ := Int.eq_ofNat_of_zero_le nonneg
  have scale : power 2 (-(places : Int) - 2) * power 10 (-(zeros : Int)) = 1 := by
    rw [power_of_nonpos (by omega), power_of_nonpos (by omega)]
  have denominator : (Scaled.onGrid significand (-places) zeros).denominator =
      4 * (2 ^ places * 10 ^ zeros) := by
    show power 2 (2 - -(places : Int)) * power 10 (zeros : Int) = _
    rw [show 2 - -(places : Int) = ((places + 2 : Nat) : Int) by omega, power_natCast,
      power_natCast, Nat.pow_add]
    ring
  have middle : (Scaled.onGrid significand (-places) zeros).middle = 4 * significand := by
    show 4 * significand * _ = _
    rw [scale, Nat.mul_one]
  have high : (Scaled.onGrid significand (-places) zeros).high = 4 * significand + 2 := by
    show (4 * significand + 2) * _ = _
    rw [scale, Nat.mul_one]
  have low : 4 * significand - 2 ≤ (Scaled.onGrid significand (-places) zeros).low ∧
      (Scaled.onGrid significand (-places) zeros).low ≤ 4 * significand := by
    unfold Scaled.onGrid
    dsimp only
    rw [scale, Nat.mul_one]
    split <;> omega
  cases found : (Scaled.onGrid significand (-places) zeros).point? tie with
  | none => rfl
  | some point =>
    obtain ⟨above, below⟩ := Scaled.contains_of_point?
      (by rw [denominator]; positivity) (by rw [middle]; exact low.2) (by omega) found
    -- the ends of the interval are less than a unit of the grid of whole numbers away
    rw [denominator, show point * (4 * (2 ^ places * 10 ^ zeros)) =
      4 * (2 ^ places * (10 ^ zeros * point)) by ring] at above below
    exact absurd ⟨10 ^ zeros * point, by omega⟩ notDivided

/-- A whole number that is no fraction of small parts is a point of the grid of whole numbers. -/
theorem point?_of_large (positive : 0 < significand) (large : 2 ≤ exponent) :
    (Scaled.onGrid significand exponent 0).point? tie ≠ none := by
  have scale : 0 < power 2 (exponent - 2) * power 10 (-0) :=
    Nat.mul_pos (power_pos Nat.two_pos _) (power_pos (by decide) _)
  refine Scaled.point?_ne_none ?_ (Nat.mul_lt_mul_of_pos_right ?_ scale)
  · show power 2 (2 - exponent) * power 10 0 = 1
    rw [power_of_nonpos (by omega), power_of_nonpos (Int.le_refl 0)]
  · split <;> omega

/-! ### The search -/

/-- When no grid of whole numbers has a point, the search goes on behind the decimal point. -/
theorem search_place_neg (none : ∀ place, 0 ≤ place →
      (Scaled.onGrid significand exponent place).point? tie = none) (grids : Nat)
    (reaches : place < grids) : (search significand exponent tie grids place).place < 0 := by
  induction grids generalizing place with
  | zero => exact reaches
  | succ grids inductionHypothesis =>
    rw [search]
    split
    · rename_i point found
      by_contra notNegative
      exact absurd (none place (Int.not_lt.mp notNegative)) (by rw [found]; exact nofun)
    · exact inductionHypothesis (by omega)

/-- When the grid of whole numbers has a point, the search ends there at the latest. -/
theorem search_place_nonneg (some : (Scaled.onGrid significand exponent 0).point? tie ≠ none)
    (grids : Nat) (nonneg : 0 ≤ place) :
    0 ≤ (search significand exponent tie grids place).place := by
  induction grids generalizing place with
  | zero => exact nonneg
  | succ grids inductionHypothesis =>
    rw [search]
    split
    · exact nonneg
    · rename_i isNone
      have notZero : place ≠ 0 := by
        rintro rfl
        exact some isNone
      exact inductionHypothesis (by omega)

/-- The shortest decimal of a number that is not whole has digits behind its point. -/
theorem shortest_place_neg (bound : significand < 2 ^ 53)
    (notWhole : isWhole significand exponent = false) :
    (shortest significand exponent tie).place < 0 := by
  have nonzero : significand ≠ 0 := by
    rintro rfl
    exact absurd (isWhole_iff.mpr (Nat.dvd_zero _)) (by rw [notWhole]; exact Bool.false_ne_true)
  have digits : significand.log2 < 53 := (Nat.log2_lt nonzero).mpr bound
  obtain ⟨places, isPlaces, positive, _⟩ := exists_places notWhole
  unfold shortest
  rw [if_neg nonzero]
  refine search_place_neg (fun _ => point?_of_notWhole notWhole) 20 ?_
  unfold coarsePlace
  dsimp only
  omega

/-- The shortest decimal of a large whole number has none. -/
theorem shortest_place_nonneg (positive : 0 < significand) (large : 2 ≤ exponent) :
    0 ≤ (shortest significand exponent tie).place := by
  unfold shortest
  rw [if_neg (Nat.pos_iff_ne_zero.mp positive)]
  refine search_place_nonneg (point?_of_large positive large) 20 ?_
  unfold coarsePlace
  dsimp only
  omega

end Lox.Number
