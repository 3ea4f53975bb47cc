import HostInventory.Number.Binary64
import Mathlib.Algebra.Order.Ring.Nat

/-!
Rounding to the nearest integer and to the nearest binary64 number: how far it goes, that it keeps
the order, what it leaves as it is, and from where on it reaches a power of two.
-/
namespace HostInventory.Rounding

variable {den : Nat}

theorem roundedQuotient_eq (num den : Nat) :
    roundedQuotient num den =
      if 2 * (num % den) > den ∨ (2 * (num % den) = den ∧ num / den % 2 = 1) then num / den + 1
      else num / den := rfl

theorem div_le_roundedQuotient (num den : Nat) : num / den ≤ roundedQuotient num den := by
  rw [roundedQuotient_eq]
  split
  · exact Nat.le_succ _
  · exact Nat.le_refl _

theorem roundedQuotient_le (num den : Nat) : roundedQuotient num den ≤ num / den + 1 := by
  rw [roundedQuotient_eq]
  split
  · exact Nat.le_refl _
  · exact Nat.le_succ _

theorem roundedQuotient_mono {first second : Nat} (le : first ≤ second) (den : Nat) :
    roundedQuotient first den ≤ roundedQuotient second den := by
  have quotients : first / den ≤ second / den := Nat.div_le_div_right le
  rcases Nat.lt_or_eq_of_le quotients with below | same
  · calc roundedQuotient first den ≤ first / den + 1 := roundedQuotient_le first den
      _ ≤ second / den := below
      _ ≤ roundedQuotient second den := div_le_roundedQuotient second den
  · -- The same whole part: what is left over decides, and it is no less for the second number.
    have firstParts := Nat.div_add_mod first den
    have secondParts := Nat.div_add_mod second den
    rw [same] at firstParts
    rw [roundedQuotient_eq, roundedQuotient_eq, same]
    split <;> split <;> omega

theorem roundedQuotient_mul (some : 0 < den) (k : Nat) : roundedQuotient (k * den) den = k := by
  rw [roundedQuotient_eq, Nat.mul_mod_left, Nat.mul_div_cancel k some, if_neg]
  omega

theorem roundedQuotient_near (some : 0 < den) (num : Nat) :
    2 * num ≤ 2 * (roundedQuotient num den * den) + den ∧
      2 * (roundedQuotient num den * den) ≤ 2 * num + den := by
  have parts := Nat.div_add_mod num den
  have small := Nat.mod_lt num some
  rw [Nat.mul_comm] at parts
  rw [roundedQuotient_eq]
  split
  · rw [Nat.add_mul, Nat.one_mul]
    omega
  · omega

theorem lt_roundedQuotient_iff {num half k : Nat} (some : 0 < half) (odd : k % 2 = 1) :
    k < roundedQuotient num (2 * half) ↔ k * (2 * half) + half ≤ num := by
  have parts : 2 * half * (num / (2 * half)) + num % (2 * half) = num := Nat.div_add_mod _ _
  have small : num % (2 * half) < 2 * half := Nat.mod_lt _ (by omega)
  rcases Nat.lt_trichotomy (num / (2 * half)) k with below | same | above
  · have rounded := roundedQuotient_le num (2 * half)
    have next : 2 * half * (num / (2 * half) + 1) ≤ 2 * half * k := Nat.mul_le_mul_left _ below
    rw [Nat.mul_add_one] at next
    rw [Nat.mul_comm k]
    omega
  · have down : 2 * half * (num / (2 * half)) = k * (2 * half) := by rw [same, Nat.mul_comm]
    rw [roundedQuotient_eq, same]
    split
    next up => omega
    next stays => omega
  · have rounded := div_le_roundedQuotient num (2 * half)
    have next : 2 * half * (k + 1) ≤ 2 * half * (num / (2 * half)) := Nat.mul_le_mul_left _ above
    rw [Nat.mul_add_one] at next
    rw [Nat.mul_comm k]
    omega

theorem pow_le_toSignificand {n m : Nat} (large : 54 ≤ m) (reaches : 2 ^ m ≤ n) :
    2 ^ m ≤ toSignificand n := by
  have nonzero : n ≠ 0 := by
    rintro rfl
    exact absurd reaches (Nat.not_le.mpr (Nat.two_pow_pos m))
  have log : m ≤ n.log2 := (Nat.le_log2 nonzero).mpr reaches
  have split : 2 ^ n.log2 = 2 ^ 52 * 2 ^ (n.log2 + 1 - 53) := by
    rw [← Nat.pow_add]
    congr 1
    omega
  have quotient : 2 ^ 52 ≤ n / 2 ^ (n.log2 + 1 - 53) := by
    rw [Nat.le_div_iff_mul_le (Nat.two_pow_pos _), ← split]
    exact Nat.log2_self_le nonzero
  calc 2 ^ m ≤ 2 ^ n.log2 := Nat.pow_le_pow_right (by decide) log
    _ = 2 ^ 52 * 2 ^ (n.log2 + 1 - 53) := split
    _ ≤ n / 2 ^ (n.log2 + 1 - 53) * 2 ^ (n.log2 + 1 - 53) := Nat.mul_le_mul_right _ quotient
    _ ≤ toSignificand n := Nat.mul_le_mul_right _ (div_le_roundedQuotient _ _)

theorem toSignificand_le {n m : Nat} (large : 53 ≤ m) (below : n < 2 ^ m) :
    toSignificand n ≤ 2 ^ m := by
  have quotient : n / 2 ^ (n.log2 + 1 - 53) < 2 ^ 53 := by
    rw [Nat.div_lt_iff_lt_mul (Nat.two_pow_pos _), ← Nat.pow_add]
    have self : n < 2 ^ (n.log2 + 1) := Nat.lt_log2_self
    exact Nat.lt_of_lt_of_le self (Nat.pow_le_pow_right (by decide) (by omega))
  have excess : 53 + (n.log2 + 1 - 53) ≤ m := by
    by_cases nonzero : n = 0
    · subst nonzero
      exact large
    · have log : n.log2 < m := (Nat.log2_lt nonzero).mpr below
      omega
  calc toSignificand n ≤ 2 ^ 53 * 2 ^ (n.log2 + 1 - 53) :=
        Nat.mul_le_mul_right _ (Nat.le_trans (roundedQuotient_le _ _) quotient)
    _ = 2 ^ (53 + (n.log2 + 1 - 53)) := (Nat.pow_add _ _ _).symm
    _ ≤ 2 ^ m := Nat.pow_le_pow_right (by decide) excess

/-- The nearest number reaches a power of two from half a unit of the last place below it on. -/
theorem pow_le_toSignificand_iff {n m : Nat} (large : 54 ≤ m) :
    2 ^ m ≤ toSignificand n ↔ 2 ^ m - 2 ^ (m - 54) ≤ n := by
  by_cases reaches : 2 ^ m ≤ n
  · exact iff_of_true (pow_le_toSignificand large reaches)
      (Nat.le_trans (Nat.sub_le _ _) reaches)
  have power : 2 ^ m = 2 ^ 53 * (2 * 2 ^ (m - 54)) := by
    rw [← Nat.pow_succ', ← Nat.pow_add]
    congr 1
    omega
  have some : 0 < 2 ^ (m - 54) := Nat.two_pow_pos _
  -- Below half of the power nothing is rounded up to it; above, all numbers are rounded to the same
  -- unit, and the power lies one unit above an odd number of them.
  by_cases half : n < 2 ^ (m - 1)
  · have doubled : 2 ^ m = 2 * 2 ^ (m - 1) := by
      rw [← Nat.pow_succ']
      congr 1
      omega
    have small := toSignificand_le (by omega) half
    have unit : 2 ^ (m - 54) ≤ 2 ^ (m - 1) := Nat.pow_le_pow_right (by decide) (by omega)
    have positive : 0 < 2 ^ (m - 1) := Nat.two_pow_pos _
    omega
  · have nonzero : n ≠ 0 := by
      rintro rfl
      exact half (Nat.two_pow_pos _)
    have low : m - 1 ≤ n.log2 := (Nat.le_log2 nonzero).mpr (Nat.not_lt.mp half)
    have high : n.log2 < m := (Nat.log2_lt nonzero).mpr (Nat.not_le.mp reaches)
    have unit : 2 ^ (n.log2 + 1 - 53) = 2 * 2 ^ (m - 54) := by
      rw [← Nat.pow_succ']
      congr 1
      omega
    have rounded : toSignificand n = roundedQuotient n (2 * 2 ^ (m - 54)) * (2 * 2 ^ (m - 54)) := by
      change roundedQuotient n (2 ^ (n.log2 + 1 - 53)) * 2 ^ (n.log2 + 1 - 53) = _
      rw [unit]
    have odd : (2 ^ 53 - 1) % 2 = 1 := by decide
    rw [rounded, power, Nat.mul_le_mul_right_iff (by omega)]
    have up : 2 ^ 53 - 1 < roundedQuotient n (2 * 2 ^ (m - 54)) ↔
        (2 ^ 53 - 1) * (2 * 2 ^ (m - 54)) + 2 ^ (m - 54) ≤ n :=
      lt_roundedQuotient_iff some odd
    omega

theorem toSignificand_eq_self {n : Nat} (small : n < 2 ^ 53) : toSignificand n = n := by
  have none : n.log2 + 1 - 53 = 0 := by
    by_cases nonzero : n = 0
    · subst nonzero
      rfl
    · have log : n.log2 < 53 := (Nat.log2_lt nonzero).mpr small
      omega
  have one : Nat.pow 2 0 = 1 := rfl
  have same := roundedQuotient_mul Nat.one_pos n
  rw [Nat.mul_one] at same
  rw [toSignificand, none, one, Nat.mul_one, same]

end HostInventory.Rounding
