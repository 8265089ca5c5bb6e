/-
The sign of a number that is read from digits. A decimal without a sign is rounded to a number
without one: rounding, multiplying and dividing keep the sign bit clear, and so does taking a number
apart and putting it together again. So no literal is a negative zero.
-/

import Lox.Number.Shortest
import Mathlib.Tactic.SplitIfs

namespace Lox.Number

open Float.Model (UnpackedFloat Format)
open Float.Model.UnpackedFloat hiding normalize ofScientific

/-! ### Numbers taken apart -/

/-- The sign of the number, if it has one, is plus. -/
def Unsigned : UnpackedFloat → Prop
  | .infinity sign => sign = .positive
  | .notANumber => True
  | .zero sign => sign = .positive
  | .finite sign _ _ _ => sign = .positive

namespace Unsigned

variable {condition : Prop} [Decidable condition]

theorem dite {holds : condition → UnpackedFloat} {fails : ¬condition → UnpackedFloat}
    (unsigned : ∀ isTrue, Unsigned (holds isTrue))
    (unsignedToo : ∀ isFalse, Unsigned (fails isFalse)) :
    Unsigned (if isTrue : condition then holds isTrue else fails isTrue) := by
  split
  · exact unsigned _
  · exact unsignedToo _

theorem ite {number numberToo : UnpackedFloat} (unsigned : Unsigned number)
    (unsignedToo : Unsigned numberToo) : Unsigned (if condition then number else numberToo) :=
  dite (fun _ => unsigned) fun _ => unsignedToo

end Unsigned

variable {format : Format}

theorem roundWithAccuracy_unsigned (mantissa : Nat) (exponent : Int) (accuracy : Accuracy) :
    Unsigned (roundWithAccuracy format .positive mantissa exponent accuracy) :=
  .dite (fun _ => rfl) fun _ => rfl

theorem ofNat_unsigned (number : Nat) : Unsigned (UnpackedFloat.ofNat format number) := by
  unfold UnpackedFloat.ofNat ofInt UnpackedFloat.normalize
  split
  · rename_i isLess
    rw [Int.compare_eq_lt] at isLess
    omega
  · rfl
  · exact roundWithAccuracy_unsigned _ _ _

theorem mul_unsigned {first second : UnpackedFloat} (unsigned : Unsigned first)
    (unsignedToo : Unsigned second) : Unsigned (mul format first second) := by
  cases first <;> cases second <;> dsimp only [Unsigned] at unsigned unsignedToo <;> subst_vars
  all_goals first
    | trivial
    | exact roundWithAccuracy_unsigned _ _ _

theorem div_unsigned {first second : UnpackedFloat} (unsigned : Unsigned first)
    (unsignedToo : Unsigned second) : Unsigned (div format first second) := by
  cases first <;> cases second <;> dsimp only [Unsigned] at unsigned unsignedToo <;> subst_vars
  all_goals first
    | trivial
    | exact roundWithAccuracy_unsigned _ _ _

theorem ofScientific_unsigned (significand : Nat) (exponent : Int) :
    Unsigned (UnpackedFloat.ofScientific format significand exponent) :=
  .dite (fun _ => rfl) fun _ => .ite rfl (.ite rfl (.ite (mul_unsigned rfl rfl)
    (div_unsigned rfl rfl)))

/-! ### The sign bit -/

theorem unpackSign_packComponents (sign : Sign) (exponent : BitVec format.exponentBits)
    (mantissa : BitVec format.mantissaBitsWithoutImplicit) :
    unpackSign (packComponents format sign exponent mantissa) = sign.toBitVec := by
  ext place isPlace
  obtain rfl : place = 0 := by omega
  unfold unpackSign packComponents
  simp [BitVec.getLsbD_append, BitVec.getElem_append]

/-- Put together, a number without a sign has a clear sign bit. -/
theorem unpackSign_pack {number : UnpackedFloat} (unsigned : Unsigned number) :
    unpackSign (pack format number) = 0#1 := by
  cases number with
  | notANumber => exact unpackSign_packComponents .positive _ _
  | infinity sign | zero sign =>
    obtain rfl : sign = .positive := unsigned
    exact unpackSign_packComponents .positive _ _
  | finite sign mantissa exponent =>
    obtain rfl : sign = .positive := unsigned
    unfold pack
    dsimp only
    split_ifs <;> exact unpackSign_packComponents .positive _ _

/-- Taken apart, bits with a clear sign bit have no sign. -/
theorem unpack_unsigned {bits : BitVec format.numBits} (isClear : unpackSign bits = 0#1) :
    Unsigned (unpack format bits) := by
  have sign : Sign.ofBitVec (unpackSign bits) = .positive := by rw [isClear]; rfl
  exact .ite (.ite sign trivial) (.ite (.dite (fun _ => sign) fun _ => sign) sign)

/-! ### Numbers -/

/-- The sign bit of the number is clear. -/
def Nonnegative (number : Float) : Prop :=
  @unpackSign Format.binary64 number.toBits.toBitVec = 0#1

theorem nonnegative_powers :
    ∀ power ∈ Float.exactlyRepresentablePowersOfTen, Nonnegative power := by
  unfold Nonnegative
  decide

/-- What is rounded from a decimal is not negative. -/
theorem nonnegative_ofScientific (digits places : Nat) :
    Nonnegative (Float.ofScientific digits true places) := by
  unfold Float.ofScientific
  split
  · rw [if_pos rfl]
    refine unpackSign_pack (div_unsigned (unpack_unsigned ?_) (unpack_unsigned ?_))
    · exact unpackSign_pack (ofNat_unsigned _)
    · exact nonnegative_powers _ (Array.getElem_mem _)
  · exact unpackSign_pack (ofScientific_unsigned _ _)

/-- A number with a clear sign bit has no minus sign. -/
theorem Nonnegative.parts {number : Float} (nonnegative : Nonnegative number) {negative : Bool}
    {significand : Nat} {exponent : Int}
    (finite : Parts.ofFloat number = .finite negative significand exponent) : negative = false := by
  have isClear : number.toBits.toNat / power 2 63 % 2 = 0 := by
    have bit : (number.toBits.toNat >>> 63) % 2 = 0 := congrArg BitVec.toNat nonnegative
    rwa [Nat.shiftRight_eq_div_pow] at bit
  unfold Parts.ofFloat Parts.ofBits at finite
  rw [isClear] at finite
  dsimp only at finite
  split_ifs at finite <;> cases finite <;> rfl

end Lox.Number
