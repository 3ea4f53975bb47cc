import HostInventory.Number.Measures
import Mathlib.Tactic.IntervalCases

/-!
The Gregorian calendar: leap years, the lengths of months and years, and the number of a day. Main
statement: every day has a date, and the date has the number of the day.
-/
namespace HostInventory.Date

/-- Every fourth year, but of the full centuries only every fourth. -/
def IsLeap (year : Int) : Prop := year % 4 = 0 ∧ (year % 100 ≠ 0 ∨ year % 400 = 0)

instance (year : Int) : Decidable (IsLeap year) :=
  inferInstanceAs (Decidable (year % 4 = 0 ∧ (year % 100 ≠ 0 ∨ year % 400 = 0)))

def yearLength (year : Int) : Nat := if IsLeap year then 366 else 365

def monthLength (year : Int) (month : Nat) : Nat :=
  if month = 2 then if IsLeap year then 29 else 28
  else if month = 4 ∨ month = 6 ∨ month = 9 ∨ month = 11 then 30
  else 31

/-- The days of a year before a month; the first month is number one. -/
def daysBeforeMonth (year : Int) (month : Nat) : Nat :=
  ((List.range' 1 (month - 1)).map (monthLength year)).sum

/-- The days from 1 January 1970 to the first day of a year, of which 477 are leap days before 1970. -/
def daysBeforeYear (year : Int) : Int :=
  365 * (year - 1970) + ((year - 1) / 4 - (year - 1) / 100 + (year - 1) / 400 - 477)

/-- The days from 1 January 1970 to a date. -/
def Day.number (date : Day) : Int :=
  daysBeforeYear date.year + daysBeforeMonth date.year date.month + (date.day - 1)

structure Day.IsValid (date : Day) : Prop where
  month : 1 ≤ date.month ∧ date.month ≤ 12
  day : 1 ≤ date.day ∧ date.day ≤ monthLength date.year date.month

variable {year : Int} {month day : Nat} {date : Day}

theorem isValid_mk (first : 1 ≤ month) (last : month ≤ 12) (some : 1 ≤ day)
    (few : day ≤ monthLength year month) : Day.IsValid ⟨year, month, day⟩ :=
  ⟨⟨first, last⟩, some, few⟩

theorem daysBeforeYear_succ (year : Int) :
    daysBeforeYear (year + 1) = daysBeforeYear year + yearLength year := by
  unfold daysBeforeYear yearLength
  by_cases leap : IsLeap year
  · rw [if_pos leap]
    unfold IsLeap at leap
    omega
  · rw [if_neg leap]
    unfold IsLeap at leap
    omega

example : daysBeforeYear 1970 = 0 := by decide

theorem daysBeforeYear_le {first second : Int} (le : first ≤ second) :
    daysBeforeYear first ≤ daysBeforeYear second := by
  unfold daysBeforeYear
  omega

theorem daysBeforeMonth_add_le (first : 1 ≤ month) (last : month ≤ 12) (year : Int) :
    daysBeforeMonth year month + monthLength year month ≤ yearLength year := by
  by_cases leap : IsLeap year
  · interval_cases month
    all_goals simp [daysBeforeMonth, List.range', monthLength, yearLength, leap]
  · interval_cases month
    all_goals simp [daysBeforeMonth, List.range', monthLength, yearLength, leap]

namespace Day.IsValid

theorem number_mem (valid : date.IsValid) :
    daysBeforeYear date.year ≤ date.number ∧ date.number < daysBeforeYear (date.year + 1) := by
  have inYear := daysBeforeMonth_add_le valid.month.1 valid.month.2 date.year
  have inMonth := valid.day
  rw [daysBeforeYear_succ, number]
  omega

theorem year_le_iff (valid : date.IsValid) (year : Int) :
    date.year ≤ year ↔ date.number < daysBeforeYear (year + 1) := by
  obtain ⟨begins, ends⟩ := valid.number_mem
  constructor
  · intro early
    have next : date.year + 1 ≤ year + 1 := by omega
    exact Int.lt_of_lt_of_le ends (daysBeforeYear_le next)
  · intro before
    by_contra late
    have later : daysBeforeYear (year + 1) ≤ daysBeforeYear date.year :=
      daysBeforeYear_le (Int.not_le.mp late)
    omega

end Day.IsValid

theorem daysBeforeMonth_fromMarch {month : Nat} (inYear : month < 10) (year : Int) :
    daysBeforeMonth year (month + 3) = 31 + monthLength year 2 + (153 * month + 2) / 5 := by
  have january : monthLength year 1 = 31 := rfl
  unfold daysBeforeMonth
  interval_cases month
  all_goals
    simp only [Nat.zero_add, Nat.reduceAdd, Nat.reduceSub, List.range', List.map_cons, List.map_nil,
      List.sum_cons, List.sum_nil, january]
    simp [monthLength]
  all_goals omega

theorem monthLength_february (year : Int) : monthLength year 2 + 337 = yearLength year := by
  by_cases leap : IsLeap year
  · simp [monthLength, yearLength, leap]
  · simp [monthLength, yearLength, leap]

theorem monthLength_fromMarch {month : Nat} (inYear : month < 10) (year : Int) :
    (153 * month + 2) / 5 + monthLength year (month + 3) = (153 * (month + 1) + 2) / 5 := by
  interval_cases month <;> rfl

/-- The date of a day of a year that begins in March. -/
def fromMarch (year : Int) (day : Nat) : Day :=
  let month := if (5 * day + 2) / 153 < 10 then (5 * day + 2) / 153 + 3 else (5 * day + 2) / 153 - 9
  ⟨year + (if month ≤ 2 then 1 else 0), month, day - (153 * ((5 * day + 2) / 153) + 2) / 5 + 1⟩

theorem fromMarch_of_early {day : Nat} (early : day < 306) (year : Int) :
    fromMarch year day = ⟨year, (5 * day + 2) / 153 + 3,
      day - (153 * ((5 * day + 2) / 153) + 2) / 5 + 1⟩ := by
  have month : (5 * day + 2) / 153 < 10 := by omega
  simp [fromMarch, month]

theorem fromMarch_of_january {day : Nat} (late : 306 ≤ day) (early : day < 337) (year : Int) :
    fromMarch year day = ⟨year + 1, 1, day - 305⟩ := by
  have month : (5 * day + 2) / 153 = 10 := by omega
  simp only [fromMarch, month, Day.mk.injEq]
  refine ⟨rfl, rfl, ?_⟩
  omega

theorem fromMarch_of_february {day : Nat} (late : 337 ≤ day) (inYear : day ≤ 365) (year : Int) :
    fromMarch year day = ⟨year + 1, 2, day - 336⟩ := by
  have month : (5 * day + 2) / 153 = 11 := by omega
  simp only [fromMarch, month, Day.mk.injEq]
  refine ⟨rfl, rfl, ?_⟩
  omega

/-- The last day of a year that begins in March is a leap day. -/
theorem isValid_fromMarch {day : Nat} (inYear : day ≤ 365) (leapDay : day = 365 → IsLeap (year + 1)) :
    (fromMarch year day).IsValid := by
  -- January and February end such a year: from there on the date is in the next one
  by_cases march : day < 306
  · rw [fromMarch_of_early march]
    have month : (5 * day + 2) / 153 < 10 := by omega
    have length := monthLength_fromMarch month year
    refine isValid_mk ?_ ?_ ?_ ?_ <;> omega
  by_cases january : day < 337
  · rw [fromMarch_of_january (Nat.not_lt.mp march) january]
    have length : monthLength (year + 1) 1 = 31 := rfl
    refine isValid_mk ?_ ?_ ?_ ?_ <;> omega
  · rw [fromMarch_of_february (Nat.not_lt.mp january) inYear]
    have length := monthLength_february (year + 1)
    have room : day ≤ 364 + if IsLeap (year + 1) then 1 else 0 := by
      by_cases last : day = 365
      · rw [if_pos (leapDay last), last]
      · omega
    have days : yearLength (year + 1) = 365 + if IsLeap (year + 1) then 1 else 0 := by
      unfold yearLength
      split <;> rfl
    refine isValid_mk ?_ ?_ ?_ ?_ <;> omega

/-- March begins 306 days before the next year does. -/
theorem number_fromMarch {day : Nat} (inYear : day ≤ 365) :
    (fromMarch year day).number = daysBeforeYear (year + 1) - 306 + day := by
  by_cases march : day < 306
  · rw [fromMarch_of_early march, Day.number, daysBeforeYear_succ, ← monthLength_february]
    have month : (5 * day + 2) / 153 < 10 := by omega
    have before := daysBeforeMonth_fromMarch month year
    dsimp only
    rw [before]
    omega
  by_cases january : day < 337
  · rw [fromMarch_of_january (Nat.not_lt.mp march) january, Day.number]
    have before : daysBeforeMonth (year + 1) 1 = 0 := rfl
    dsimp only
    rw [before]
    omega
  · rw [fromMarch_of_february (Nat.not_lt.mp january) inYear, Day.number]
    have before : daysBeforeMonth (year + 1) 2 = 31 := rfl
    dsimp only
    rw [before]
    omega

/-- The year of a day of an era, both counted from zero and from March. -/
def yearOfEra (day : Nat) : Nat := (day - day / 1460 + day / 36524 - day / 146096) / 365

/-- The days of an era before one of its four hundred years. -/
def daysBefore (year : Nat) : Nat := 365 * year + year / 4 - year / 100

theorem ofDays_eq (days : Int) :
    ofDays days =
      let day := (Int.fmod (days + 719468) 146097).toNat
      fromMarch (Int.fdiv (days + 719468) 146097 * 400 + yearOfEra day)
        (day - daysBefore (yearOfEra day)) := rfl

/-- A day of an era by its century, its leap cycle and its year. The last day of a year is left over
from a leap cycle, and the last one of an era from its centuries. -/
theorem yearOfEra_eq {century cycle year day : Nat} (centuries : century ≤ 3) (cycles : cycle ≤ 24)
    (years : year ≤ 3) (inYear : day ≤ 365)
    (leapDay : day = 365 → year = 3 ∧ (cycle = 24 → century = 3)) :
    yearOfEra (36524 * century + 1461 * cycle + 365 * year + day) =
      100 * century + 4 * cycle + year := by
  have inCentury : 1461 * cycle + 365 * year + day < 36524 ∨
      1461 * cycle + 365 * year + day = 36524 ∧ century = 3 := by
    by_cases last : day = 365
    · obtain ⟨rfl, endsEra⟩ := leapDay last
      by_cases full : cycle = 24
      · exact .inr ⟨by omega, endsEra full⟩
      · omega
    · omega
  generalize whole : 36524 * century + 1461 * cycle + 365 * year + day = n
  have skipped : n / 36524 = century + n / 146096 := by
    rcases inCentury with within | ⟨last, rfl⟩
    · have first : n / 146096 = 0 := by omega
      omega
    · omega
  obtain ⟨rest, left⟩ : ∃ rest, rest = (24 * century + cycle + 365 * year + day) / 1460 := ⟨_, rfl⟩
  have leaps : n / 1460 = 25 * century + cycle + rest := by omega
  have part : rest ≤ day ∧ day - rest < 365 := by
    clear inCentury skipped leaps
    by_cases last : day = 365
    · obtain ⟨rfl, _⟩ := leapDay last
      omega
    · omega
  have years : n - (25 * century + cycle + rest) + (century + n / 146096) - n / 146096 =
      365 * (100 * century + 4 * cycle + year) + (day - rest) := by
    generalize n / 146096 = eras at skipped ⊢
    omega
  rw [yearOfEra, leaps, skipped, years, Nat.mul_add_div (by decide), Nat.div_eq_of_lt part.2,
    Nat.add_zero]

theorem exists_parts {n : Nat} (inEra : n < 146097) :
    ∃ century ≤ 3, ∃ cycle ≤ 24, ∃ year ≤ 3, ∃ day ≤ 365,
      36524 * century + 1461 * cycle + 365 * year + day = n ∧
        (day = 365 → year = 3 ∧ (cycle = 24 → century = 3)) := by
  obtain ⟨century, inCentury⟩ : ∃ century, century = min (n / 36524) 3 := ⟨_, rfl⟩
  obtain ⟨rest, left⟩ : ∃ rest, rest = n - 36524 * century := ⟨_, rfl⟩
  obtain ⟨year, inCycle⟩ : ∃ year, year = min (rest % 1461 / 365) 3 := ⟨_, rfl⟩
  refine ⟨century, by omega, rest / 1461, by omega, year, by omega, rest % 1461 - 365 * year,
    by omega, by omega, ?_⟩
  intro last
  exact ⟨by omega, fun full => by omega⟩

theorem daysBeforeYear_era (era : Int) {century cycle year : Nat} (centuries : century ≤ 3)
    (cycles : cycle ≤ 24) (years : year ≤ 3) :
    daysBeforeYear (era * 400 + (100 * century + 4 * cycle + year : Nat) + 1) - 306 =
      era * 146097 + (36524 * century + 1461 * cycle + 365 * year : Nat) - 719468 := by
  unfold daysBeforeYear
  rw [Int.add_sub_cancel]
  generalize whole : era * 400 + (100 * century + 4 * cycle + year : Nat) = n
  have cyclesBefore : n / 4 = 100 * era + 25 * century + cycle := by omega
  have centuriesBefore : n / 100 = 4 * era + century := by omega
  have erasBefore : n / 400 = era := by omega
  omega

theorem daysBefore_eq {century cycle year : Nat} (cycles : cycle ≤ 24) (years : year ≤ 3) :
    daysBefore (100 * century + 4 * cycle + year) =
      36524 * century + 1461 * cycle + 365 * year := by
  have leaps : (100 * century + 4 * cycle + year) / 4 = 25 * century + cycle := by omega
  have skipped : (100 * century + 4 * cycle + year) / 100 = century := by omega
  rw [daysBefore, leaps, skipped]
  omega

/-- The last year of a leap cycle runs into a leap year, unless the century ends with it. -/
theorem isLeap_era (era : Int) {century cycle : Nat} (cycles : cycle ≤ 24)
    (endsEra : cycle = 24 → century = 3) :
    IsLeap (era * 400 + (100 * century + 4 * cycle + 3 : Nat) + 1) := by
  unfold IsLeap
  by_cases full : cycle = 24
  · have last := endsEra full
    omega
  · omega

/-- Every day has a date. -/
theorem ofDays_spec (days : Int) : (ofDays days).IsValid ∧ (ofDays days).number = days := by
  have low := Int.fmod_nonneg_of_pos (days + 719468) (by decide : (0 : Int) < 146097)
  have high := Int.fmod_lt_of_pos (days + 719468) (by decide : (0 : Int) < 146097)
  have parts := Int.fmod_add_fdiv_mul (days + 719468) 146097
  rw [ofDays_eq]
  generalize Int.fdiv (days + 719468) 146097 = era at parts ⊢
  generalize Int.fmod (days + 719468) 146097 = inEra at low high parts ⊢
  obtain ⟨n, rfl⟩ := Int.eq_ofNat_of_zero_le low
  obtain ⟨century, centuries, cycle, cycles, year, years, day, inYear, whole, leapDay⟩ :=
    exists_parts (show n < 146097 by omega)
  have started : n - daysBefore (100 * century + 4 * cycle + year) = day := by
    rw [daysBefore_eq cycles years]
    omega
  have begins := daysBeforeYear_era era centuries cycles years
  dsimp only [Int.toNat_natCast]
  rw [← whole, yearOfEra_eq centuries cycles years inYear leapDay, whole, started]
  constructor
  · refine isValid_fromMarch inYear fun last => ?_
    obtain ⟨rfl, endsEra⟩ := leapDay last
    exact isLeap_era era cycles endsEra
  · rw [number_fromMarch inYear, begins]
    omega

end HostInventory.Date
