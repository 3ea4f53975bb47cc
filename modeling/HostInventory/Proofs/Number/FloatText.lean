import HostInventory.Number.Binary64
import Mathlib

/-!
What cutting a binary64 number to an integer gives: the number without its fraction, told from the
sign, the mantissa and the exponent that its bits stand for.
-/
namespace HostInventory.FloatText

open Float.Model (UnpackedFloat)
open Float.Model.Format (binary64)
open Shortest (Binary)

variable {x : Float} {whole : Int}

/-- The number that a floating point number is; infinities and what is no number have none. -/
def number? : UnpackedFloat → Option ℚ
  | .zero _ => some 0
  | .finite sign mantissa exponent _ => some (sign.apply mantissa * 2 ^ exponent)
  | .infinity _ | .notANumber => none

/-- The integer next to a number on the side of zero. -/
def towardsZero (number : ℚ) : Int := if 0 ≤ number then ⌊number⌋ else ⌈number⌉

/-- An integer is a floating point number without its fraction. -/
def IsCut (x : Float) (whole : Int) : Prop :=
  ∃ number, number? x.toModel.unpack = some number ∧ whole = towardsZero number

theorem toNat_unpackMantissa (bits : UInt64) :
    (@UnpackedFloat.unpackMantissa binary64 bits.toBitVec).toNat =
      bits.toNat % Nat.pow 2 52 := by
  simp [UnpackedFloat.unpackMantissa]

theorem toNat_unpackExponent (bits : UInt64) :
    (@UnpackedFloat.unpackExponent binary64 bits.toBitVec).toNat =
      (bits.toNat >>> 52) % 2048 := by
  simp [UnpackedFloat.unpackExponent]

theorem ofBitVec_unpackSign (x : Float) :
    UnpackedFloat.Sign.ofBitVec (@UnpackedFloat.unpackSign binary64 x.toBits.toBitVec) =
      if isNegative x then .negative else .positive := by
  have bit : (@UnpackedFloat.unpackSign binary64 x.toBits.toBitVec).toNat =
      (x.toBits.toNat >>> 63) % 2 := by
    simp [UnpackedFloat.unpackSign]
  have small := x.toBits.toNat_lt
  rw [Nat.shiftRight_eq_div_pow] at bit
  have clear : @UnpackedFloat.unpackSign binary64 x.toBits.toBitVec = 0#1 ↔
      ¬ Nat.pow 2 63 ≤ x.toBits.toNat := by
    rw [← BitVec.toNat_inj, bit, BitVec.toNat_ofNat]
    change _ ↔ ¬ 2 ^ 63 ≤ _
    omega
  unfold UnpackedFloat.Sign.ofBitVec isNegative
  by_cases large : Nat.pow 2 63 ≤ x.toBits.toNat
  · rw [if_neg (clear.not_left.mpr large), if_pos (decide_eq_true large)]
  · rw [if_pos (clear.mpr large), if_neg (by simpa using large)]

def unit (x : Float) : Int := if isNegative x then -1 else 1

theorem apply_sign (x : Float) (n : Int) :
    (if isNegative x then UnpackedFloat.Sign.negative else .positive).apply n = unit x * n := by
  unfold unit
  cases isNegative x with
  | true => exact (Int.neg_one_mul n).symm
  | false => exact (Int.one_mul n).symm

/-- A number that is neither infinite nor none is its signed significand at its scale. -/
theorem number?_unpack (isNumber : x.isNaN = false) (isFinite : x.isInf = false) :
    number? x.toModel.unpack =
      some ((unit x * (Binary.ofBits x.toBits).significand : Int) *
        (2 : ℚ) ^ (Binary.ofBits x.toBits).exponent) := by
  have mantissa := toNat_unpackMantissa x.toBits
  have exponent := toNat_unpackExponent x.toBits
  have signed := ofBitVec_unpackSign x
  change (UnpackedFloat.unpack binary64 x.toBits.toBitVec).isNaN = false at isNumber
  change (UnpackedFloat.unpack binary64 x.toBits.toBitVec).isInf = false at isFinite
  change number? (UnpackedFloat.unpack binary64 x.toBits.toBitVec) = _
  revert isNumber isFinite
  fun_cases UnpackedFloat.unpack binary64 x.toBits.toBitVec with
  | case1 =>
    intro _ infinite
    cases infinite
  | case2 =>
    intro none
    cases none
  | case3 part field bit sign full least zero =>
    intro _ _
    have none : x.toBits.toNat % Nat.pow 2 52 = 0 := by
      rw [← mantissa]
      exact congrArg BitVec.toNat zero
    have low : x.toBits.toNat >>> 52 % 2048 = 0 := by
      rw [← exponent]
      exact congrArg BitVec.toNat least
    simp only [number?, Binary.ofBits, low, none, if_true, Nat.cast_zero, mul_zero, Int.cast_zero,
      zero_mul]
  | case4 part field scale bit sign full least some =>
    intro _ _
    have low : x.toBits.toNat >>> 52 % 2048 = 0 := by
      rw [← exponent]
      exact congrArg BitVec.toNat least
    have same : scale + 1 = -1074 := by
      change (field.toNat : Int) - (1023 + 52 : Nat) + 1 = -1074
      rw [least]
      rfl
    simp only [number?, Binary.ofBits, low, if_true, same]
    rw [show part.toNat = _ from mantissa, show sign = _ from signed, apply_sign]
  | case5 part field scale bit sign full least =>
    intro _ _
    have high : x.toBits.toNat >>> 52 % 2048 ≠ 0 := by
      rw [← exponent]
      exact fun zero => least (BitVec.eq_of_toNat_eq zero)
    have same : scale = (x.toBits.toNat >>> 52 % 2048 : Nat) - 1075 := by
      rw [← exponent]
      rfl
    have whole : (1#1 ++ part).toNat = Nat.pow 2 52 + x.toBits.toNat % Nat.pow 2 52 := by
      rw [← mantissa, BitVec.toNat_append]
      exact (Nat.shiftLeft_add_eq_or_of_lt part.isLt 1).symm
    simp only [number?, Binary.ofBits, high, if_false, same]
    rw [whole, show sign = _ from signed, apply_sign]

theorem floor_scaled (n : Nat) (e : Int) :
    (n : Int) * (Nat.pow 2 e.toNat : Nat) / (Nat.pow 2 (-e).toNat : Nat) = ⌊(n : ℚ) * 2 ^ e⌋ := by
  rw [← Int.natCast_mul, ← Rat.floor_intCast_div_natCast]
  congr 1
  obtain ⟨k, rfl | rfl⟩ := e.eq_nat_or_neg
  · simp
  · simp [div_eq_mul_inv]

theorem towardsZero_of_nonneg {number : ℚ} (natural : 0 ≤ number) : towardsZero number = ⌊number⌋ :=
  if_pos natural

theorem towardsZero_neg {number : ℚ} (natural : 0 ≤ number) :
    towardsZero (-number) = -⌊number⌋ := by
  unfold towardsZero
  split
  · next flat =>
    have zero : number = 0 := le_antisymm (neg_nonneg.mp flat) natural
    simp [zero]
  · exact Int.ceil_neg

theorem number?_of_isNaN (none : x.isNaN = true) : number? x.toModel.unpack = .none := by
  change x.toModel.unpack.isNaN = true at none
  cases unpacked : x.toModel.unpack with
  | notANumber => rfl
  | infinity | zero | finite =>
    rw [unpacked] at none
    cases none

theorem number?_of_isInf (infinite : x.isInf = true) : number? x.toModel.unpack = .none := by
  change x.toModel.unpack.isInf = true at infinite
  cases unpacked : x.toModel.unpack with
  | infinity => rfl
  | notANumber | zero | finite =>
    rw [unpacked] at infinite
    cases infinite

/-- What is cut to an integer is a number, and the integer is the number without its fraction. -/
theorem truncate_eq_ok_iff : truncate x = .ok whole ↔ IsCut x whole := by
  unfold truncate IsCut
  cases isNumber : x.isNaN with
  | true =>
    rw [number?_of_isNaN isNumber]
    exact iff_of_false nofun fun ⟨_, absent, _⟩ => nomatch absent
  | false =>
    cases isFinite : x.isInf with
    | true =>
      rw [number?_of_isInf isFinite]
      exact iff_of_false nofun fun ⟨_, absent, _⟩ => nomatch absent
    | false =>
      have natural : 0 ≤ ((Binary.ofBits x.toBits).significand : ℚ) *
          2 ^ (Binary.ofBits x.toBits).exponent :=
        mul_nonneg (Nat.cast_nonneg _) (zpow_nonneg (by norm_num) _)
      rw [number?_unpack isNumber isFinite]
      simp only [floor_scaled, unit, Option.some.injEq, exists_eq_left']
      cases isNegative x with
      | true =>
        have cut := towardsZero_neg natural
        simp [cut, eq_comm]
      | false =>
        have cut := towardsZero_of_nonneg natural
        simp [cut, eq_comm]

end HostInventory.FloatText
