import HostInventory.Proofs.Number.Calendar
import HostInventory.Proofs.Number.DurationText

/-!
What the texts of durations and of dates say, before and after the epoch. The days of a duration are
written from one day on, and the time of day behind them always is. A date is that of the calendar.
-/
namespace HostInventory

open HostInventory.Action (outcome_bind_eq_ok)
open Duration (clockOf clockText clockText_eq dayMark toList_clockOf toList_twoDigits twoDigits
  twoPlaces)

structure TimeOfDay where
  hours : Fin 24
  minutes : Fin 60
  seconds : Fin 60

namespace TimeOfDay

/-- The seconds since midnight. -/
def inDay (time : TimeOfDay) : Nat := (time.hours * 60 + time.minutes) * 60 + time.seconds

def letters (time : TimeOfDay) : List Char :=
  twoPlaces time.hours ++ ':' :: (twoPlaces time.minutes ++ ':' :: twoPlaces time.seconds)

def ofSeconds (n : Nat) : TimeOfDay :=
  ⟨⟨n % 86400 / 3600, by omega⟩, ⟨n % 3600 / 60, by omega⟩, ⟨n % 60, by omega⟩⟩

theorem inDay_ofSeconds (n : Nat) : (ofSeconds n).inDay = n % 86400 := by
  change (n % 86400 / 3600 * 60 + n % 3600 / 60) * 60 + n % 60 = n % 86400
  omega

theorem letters_ofSeconds (n : Nat) : (ofSeconds n).letters = (clockOf n).toList :=
  (toList_clockOf n).symm

theorem eq_days_add (seconds : Int) :
    seconds = 86400 * Int.fdiv seconds 86400 + (ofSeconds (Int.fmod seconds 86400).toNat).inDay := by
  have low := Int.fmod_nonneg_of_pos seconds (by decide : (0 : Int) < 86400)
  have high := Int.fmod_lt_of_pos seconds (by decide : (0 : Int) < 86400)
  have parts := Int.fmod_add_fdiv_mul seconds 86400
  rw [inDay_ofSeconds]
  omega

end TimeOfDay

/-- A text gives the whole days of a number of seconds, if there are any, and the time of day. -/
def Duration.Tells (shown : String) (seconds : Int) : Prop :=
  ∃ (days : Int) (time : TimeOfDay), seconds = 86400 * days + time.inDay ∧
    shown.toList = (if 0 < days then (toString days).toList ++ dayMark else []) ++ time.letters

/-- A text gives the date and the time of day of a number of seconds since the epoch. -/
def Date.Tells (shown : String) (seconds : Int) : Prop :=
  ∃ (date : Date.Day) (time : TimeOfDay), date.IsValid ∧
    seconds = 86400 * date.number + time.inDay ∧
    shown.toList = (toString date.year).toList ++ '-' :: (twoPlaces date.month ++
      '-' :: (twoPlaces date.day ++ ' ' :: time.letters))

variable {shown : String} {seconds : Int}

theorem Duration.tells_of_format (made : Duration.format seconds = .ok shown) :
    Duration.Tells shown seconds := by
  refine ⟨Int.fdiv seconds 86400, .ofSeconds (Int.fmod seconds 86400).toNat,
    TimeOfDay.eq_days_add seconds, ?_⟩
  rw [Duration.format_eq] at made
  rw [TimeOfDay.letters_ofSeconds]
  by_cases long : 0 < Int.fdiv seconds 86400
  · rw [if_pos long] at made ⊢
    obtain ⟨days, written, made⟩ := outcome_bind_eq_ok.mp made
    obtain ⟨_, rfl⟩ := Numeral.text?_eq_ok_iff.mp written
    cases made
    rw [String.toList_append, String.toList_append]
    rfl
  · rw [if_neg long] at made ⊢
    cases made
    rfl

namespace Date

theorem format_eq_ok (made : format seconds = .ok shown) :
    shown = Numeral.text (ofDays (Int.fdiv seconds 86400)).year ++ "-" ++
      twoDigits (ofDays (Int.fdiv seconds 86400)).month ++ "-" ++
      twoDigits (ofDays (Int.fdiv seconds 86400)).day ++ " " ++
      clockOf (Int.fmod seconds 86400).toNat := by
  have inDay : Int.fmod (Int.fmod seconds 86400) 86400 = Int.fmod seconds 86400 :=
    Int.fmod_fmod seconds 86400
  have clock := clockText_eq (Int.fmod seconds 86400)
  rw [inDay] at clock
  unfold format at made
  dsimp only at made
  rw [clock] at made
  split at made
  · cases made
  split at made
  · cases made
  split at made
  · cases made
  · exact (Except.ok.inj made).symm

theorem monthLength_le (year : Int) (month : Nat) : monthLength year month ≤ 31 := by
  unfold monthLength
  split
  · split <;> decide
  · split <;> decide

theorem tells_of_format (made : format seconds = .ok shown) : Tells shown seconds := by
  obtain ⟨valid, number⟩ := ofDays_spec (Int.fdiv seconds 86400)
  have text := format_eq_ok made
  generalize ofDays (Int.fdiv seconds 86400) = date at valid number text
  have month : date.month < 100 := by
    have last := valid.month.2
    omega
  have day : date.day < 100 := by
    have last := valid.day.2
    have most := monthLength_le date.year date.month
    omega
  refine ⟨date, .ofSeconds (Int.fmod seconds 86400).toNat, valid, ?_, ?_⟩
  · rw [number]
    exact TimeOfDay.eq_days_add seconds
  · rw [text, TimeOfDay.letters_ofSeconds]
    simp only [String.toList_append, toList_twoDigits month, toList_twoDigits day, Numeral.text]
    simp

end Date

end HostInventory
