import HostInventory.Number.Measures
import HostInventory.Proofs.Action
import HostInventory.Proofs.Number.Rounding
import HostInventory.Proofs.Number.Calendar
import HostInventory.Proofs.Number.Numeral

/-!
How far sizes, dates and durations have texts. A size is written up to where its nearest binary64
number is too large to be divided by 1024; a date is written in the years that a calendar with 32
bits for its year can hold; a duration is written as long as its days can be.
-/
namespace HostInventory

namespace Size

/-- The number of the bit that no size with a text has. -/
def topBit : Nat := 1034

theorem bound_eq : bound = 2 ^ topBit := by
  unfold bound
  generalize literal : 1034 = bits
  have same : topBit = bits := literal
  rw [same]
  rfl

/-- The least size that has no text: the nearest binary64 number has the top bit. -/
def limit : Nat := 2 ^ topBit - 2 ^ (topBit - 54)

theorem bound_le_toSignificand_iff (n : Nat) : bound ≤ Rounding.toSignificand n ↔ limit ≤ n := by
  have large : 54 ≤ topBit := by decide
  rw [bound_eq]
  exact Rounding.pow_le_toSignificand_iff large

theorem le_limit : 1024 ≤ limit := by
  have some : 10 ≤ topBit - 54 := by decide
  have doubled : 2 ^ (topBit - 54) * 2 ≤ 2 ^ topBit := by
    rw [← Nat.pow_succ]
    exact Nat.pow_le_pow_right (by decide) (by decide)
  have least : 2 ^ 10 ≤ 2 ^ (topBit - 54) := Nat.pow_le_pow_right (by decide) some
  unfold limit
  omega

theorem isOk_format_iff {kilobytes : Int} (short : Numeral.IsShort kilobytes) :
    (format kilobytes).isOk = true ↔ kilobytes < limit := by
  unfold format
  by_cases few : kilobytes < 1024
  · have reached := le_limit
    rw [if_pos few, Numeral.text?_eq_ok_iff.mpr ⟨short, rfl⟩]
    exact iff_of_true rfl (by omega)
  · rw [if_neg few]
    have some : 0 ≤ kilobytes := by omega
    obtain ⟨n, rfl⟩ := Int.eq_ofNat_of_zero_le some
    simp only [Int.toNat_natCast]
    by_cases much : bound ≤ Rounding.toSignificand n
    · rw [if_pos much]
      have reached := (bound_le_toSignificand_iff n).mp much
      exact iff_of_false nofun (by omega)
    · rw [if_neg much]
      have below := mt (bound_le_toSignificand_iff n).mpr much
      refine iff_of_true ?_ (by omega)
      split
      · rfl
      split
      · rfl
      split
      · rfl
      · rfl

end Size

namespace Duration

/-- The least number of days that are too many to be written. -/
def dayLimit : Nat := Nat.pow 10 Numeral.digitLimit

theorem dayLimit_pos : 0 < dayLimit := by
  have most (digits : Nat) : 0 < Nat.pow 10 digits := Nat.pow_pos (by decide)
  unfold dayLimit
  exact most _

theorem isShort_iff {days : Int} (some : 0 < days) : Numeral.IsShort days ↔ days < dayLimit := by
  unfold Numeral.IsShort dayLimit
  generalize Nat.pow 10 Numeral.digitLimit = most
  omega

theorem isOk_format_iff (seconds : Int) :
    (format seconds).isOk = true ↔ seconds < 86400 * dayLimit := by
  have least := dayLimit_pos
  have parts := Int.fmod_add_fdiv_mul seconds 86400
  have low := Int.fmod_nonneg_of_pos seconds (by decide : (0 : Int) < 86400)
  have high := Int.fmod_lt_of_pos seconds (by decide : (0 : Int) < 86400)
  unfold format
  by_cases some : 0 < Int.fdiv seconds 86400
  · have written : (Numeral.text? (Int.fdiv seconds 86400)).isOk = true ↔
        Int.fdiv seconds 86400 < dayLimit := by
      rw [Action.isOk_iff, Numeral.exists_text?_iff, isShort_iff some]
    have shown (clock : String) :
        (do return (← Numeral.text? (Int.fdiv seconds 86400)) ++ " days, " ++ clock :
          Except Failure String).isOk = (Numeral.text? (Int.fdiv seconds 86400)).isOk := by
      cases Numeral.text? (Int.fdiv seconds 86400) with
      | ok days => rfl
      | error failure => rfl
    simp only [if_pos some, shown, written]
    omega
  · simp only [if_neg some]
    exact iff_of_true rfl (by omega)

end Duration

namespace Date

/-- The first second of the first year. -/
def earliest : Int := -67768040609740800

/-- The last second of the last year. -/
def latest : Int := 67767976233532799

theorem year_bounds (days : Int) :
    (-2147481748 ≤ (ofDays days).year ↔ -784352321872 ≤ days) ∧
      ((ofDays days).year ≤ 2147483647 ↔ days ≤ 784351576776) := by
  obtain ⟨valid, number⟩ := ofDays_spec days
  have before := valid.year_le_iff (-2147481749)
  have within := valid.year_le_iff 2147483647
  rw [number] at before within
  have first : daysBeforeYear (-2147481749 + 1) = -784352321872 := rfl
  have last : daysBeforeYear (2147483647 + 1) = 784351576777 := rfl
  omega

/-- A time is written if the clock, the calendar and the text can hold it. -/
theorem isOk_format_iff_fits (seconds : Int) :
    (format seconds).isOk = true ↔
      Word.fits 64 seconds = true ∧
        Word.fits 32 ((ofDays (Int.fdiv seconds 86400)).year - 1900) = true ∧
        Word.fits 32 (ofDays (Int.fdiv seconds 86400)).year = true := by
  unfold format
  cases Word.fits 64 seconds with
  | false => exact iff_of_false nofun fun ⟨clock, _⟩ => nomatch clock
  | true =>
    dsimp only
    generalize ofDays (Int.fdiv seconds 86400) = date
    cases Word.fits 32 (date.year - 1900) with
    | false => exact iff_of_false nofun fun ⟨_, calendar, _⟩ => nomatch calendar
    | true =>
      cases Word.fits 32 date.year with
      | false => exact iff_of_false nofun fun ⟨_, _, text⟩ => nomatch text
      | true => exact iff_of_true rfl ⟨rfl, rfl, rfl⟩

theorem isOk_format_iff (seconds : Int) :
    (format seconds).isOk = true ↔ earliest ≤ seconds ∧ seconds ≤ latest := by
  have parts := Int.fmod_add_fdiv_mul seconds 86400
  have low := Int.fmod_nonneg_of_pos seconds (by decide : (0 : Int) < 86400)
  have high := Int.fmod_lt_of_pos seconds (by decide : (0 : Int) < 86400)
  obtain ⟨first, last⟩ := year_bounds (Int.fdiv seconds 86400)
  have clock : Word.reach 64 = 9223372036854775808 := rfl
  have calendar : Word.reach 32 = 2147483648 := rfl
  rw [isOk_format_iff_fits]
  unfold Word.fits earliest latest
  rw [decide_eq_true_iff, decide_eq_true_iff, decide_eq_true_iff, clock, calendar]
  omega

end Date

end HostInventory
