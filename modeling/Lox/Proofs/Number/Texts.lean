/-
The texts of finite numbers. A printed tree writes every one of them with a point and digits on both
sides of it. A token listing writes the same as long as the whole part is below `2 ^ 63`; from there
on it falls back to the shortest decimal, which then has neither a point nor all the digits.
-/

import Lox.Number.Text
import Lox.Proofs.Number.Sign
import Lox.Proofs.Number.Shortest

namespace Lox.Number

variable {number : Float} {negative : Bool} {significand : Nat} {exponent : Int}

/-! ### Texts with a point -/

/-- The text is digits, a point and digits. -/
def IsPointed (text : List Char) : Prop :=
  ∃ digits decimals, text = digits ++ '.' :: decimals ∧ digits ≠ [] ∧ decimals ≠ [] ∧
    (∀ char ∈ digits, char.isDigit = true) ∧ ∀ char ∈ decimals, char.isDigit = true

theorem isDigit_of_mem_toDigits {number : Nat} :
    ∀ char ∈ Nat.toDigits 10 number, char.isDigit = true :=
  fun _ member => Nat.isDigit_of_mem_toDigits (by decide) (by decide) member

theorem isDigit_of_mem_replicate {count : Nat} :
    ∀ char ∈ List.replicate count '0', char.isDigit = true := by
  intro char member
  rw [List.eq_of_mem_replicate member]
  rfl

theorem whole_isPointed (number : Nat) : IsPointed (whole number) :=
  ⟨Nat.toDigits 10 number, ['0'], rfl, Nat.toDigits_ne_nil, List.cons_ne_nil _ _,
    isDigit_of_mem_toDigits, List.forall_mem_singleton.mpr rfl⟩

/-- A decimal that has digits behind the point is written with it. -/
theorem positional_isPointed {decimal : Decimal} (behind : decimal.place < 0) :
    IsPointed (positional decimal) := by
  have positive : 0 < (-decimal.place).toNat := by omega
  unfold positional
  dsimp only
  rw [if_neg (Int.not_le.mpr behind)]
  split
  · rename_i fewer
    refine ⟨_, _, rfl, ?_, ?_, fun char member => ?_, fun char member => ?_⟩
    · rw [Ne, List.take_eq_nil_iff]
      exact not_or.mpr ⟨by omega, Nat.toDigits_ne_nil⟩
    · rw [Ne, List.drop_eq_nil_iff]
      omega
    · exact isDigit_of_mem_toDigits char (List.mem_of_mem_take member)
    · exact isDigit_of_mem_toDigits char (List.mem_of_mem_drop member)
  · refine ⟨['0'], _, rfl, List.cons_ne_nil _ _, ?_, List.forall_mem_singleton.mpr rfl,
      fun char member => ?_⟩
    · exact List.append_ne_nil_of_right_ne_nil _ Nat.toDigits_ne_nil
    · rcases List.mem_append.mp member with isZero | isDigit
      · exact isDigit_of_mem_replicate char isZero
      · exact isDigit_of_mem_toDigits char isDigit

/-- One that has none is written without it. -/
theorem positional_noPoint {decimal : Decimal} (whole : 0 ≤ decimal.place) :
    '.' ∉ positional decimal := by
  unfold positional
  dsimp only
  rw [if_pos whole]
  intro member
  rcases List.mem_append.mp member with isDigit | isZero
  · exact absurd (isDigit_of_mem_toDigits '.' isDigit) (by decide)
  · exact absurd (isDigit_of_mem_replicate '.' isZero) (by decide)

/-! ### Finite numbers -/

/-- A number has at most fifty-three binary digits. -/
theorem significand_lt (finite : Parts.ofFloat number = .finite negative significand exponent) :
    significand < 2 ^ 53 := by
  have fraction : number.toBits.toNat % power 2 52 < 2 ^ 52 := Nat.mod_lt _ (by decide)
  have hidden : power 2 52 = 2 ^ 52 := rfl
  unfold Parts.ofFloat Parts.ofBits at finite
  dsimp only at finite
  split_ifs at finite <;> cases finite <;> omega

/-- A number that reaches `2 ^ 63` is a large whole number. -/
theorem exponent_ge (finite : Parts.ofFloat number = .finite negative significand exponent)
    (large : 2 ^ 63 ≤ wholePart significand exponent) : 2 ≤ exponent ∧ 0 < significand := by
  have bound := significand_lt finite
  have fewer : wholePart significand exponent ≤ significand * power 2 exponent :=
    Nat.div_le_self _ _
  constructor
  · by_contra small
    have factor : power 2 exponent ≤ 2 ^ 1 := Nat.pow_le_pow_right Nat.two_pos (by omega)
    have product : significand * power 2 exponent ≤ significand * 2 ^ 1 :=
      Nat.mul_le_mul_left significand factor
    omega
  · by_contra isZero
    obtain rfl := Nat.eq_zero_of_not_pos isZero
    rw [Nat.zero_mul] at fewer
    omega

theorem plain_isPointed (finite : Parts.ofFloat number = .finite negative significand exponent)
    (notWhole : isWhole significand exponent = false) :
    IsPointed (positional (shortest significand exponent .away)) :=
  positional_isPointed (shortest_place_neg (significand_lt finite) notWhole)

/-- A printed tree writes a finite number with a point and digits on both sides of it. -/
theorem treeText_finite (finite : Parts.ofFloat number = .finite negative significand exponent) :
    ∃ text, IsPointed text ∧ (treeText number).toList = signed negative text := by
  unfold treeText
  rw [finite]
  dsimp only
  rw [String.toList_ofList]
  cases isWhole? : isWhole significand exponent with
  | true => exact ⟨_, whole_isPointed _, if_pos rfl⟩
  | false => exact ⟨_, plain_isPointed finite isWhole?, if_neg Bool.false_ne_true⟩

/-- A token listing writes a number as a tree does while its whole part is below `2 ^ 63`. -/
theorem tokenText_small (finite : Parts.ofFloat number = .finite false significand exponent)
    (small : wholePart significand exponent < 2 ^ 63) : tokenText number = treeText number := by
  unfold tokenText treeText
  rw [finite]
  dsimp only
  rw [show decide (wholePart significand exponent < power 2 63) = true from decide_eq_true small,
    Bool.and_true, Bool.false_and]

/-- From there on it writes no point. -/
theorem tokenText_large (finite : Parts.ofFloat number = .finite false significand exponent)
    (large : 2 ^ 63 ≤ wholePart significand exponent) : '.' ∉ (tokenText number).toList := by
  obtain ⟨exponent_ge, positive⟩ := exponent_ge finite large
  unfold tokenText
  rw [finite]
  dsimp only
  rw [show decide (wholePart significand exponent < power 2 63) = false from
    decide_eq_false (Nat.not_lt.mpr large), Bool.and_false, if_neg Bool.false_ne_true,
    String.toList_ofList]
  exact positional_noPoint (shortest_place_nonneg positive exponent_ge)

end Lox.Number
