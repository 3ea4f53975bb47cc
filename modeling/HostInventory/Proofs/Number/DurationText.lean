import HostInventory.Proofs.Number.Duration
import HostInventory.Proofs.Number.Limits

/-!
Durations as they are shown: the days, if there are any, and a clock of two digits each. Main
statement: with a dash for the words behind the days, the text is read back as the seconds that it
was made from, so that different durations are shown differently.
-/
namespace HostInventory

namespace Text

/-- A text with `new` in place of each `old`, found from left to right. -/
def replaceAll (old new s : List Char) : List Char :=
  match s with
  | [] => []
  | c :: rest =>
    if old.isPrefixOf (c :: rest) then new ++ replaceAll old new (rest.drop (old.length - 1))
    else c :: replaceAll old new rest
termination_by s.length
decreasing_by
  · rw [List.length_drop, List.length_cons]
    omega
  · exact Nat.lt_succ_self _

variable {c : Char} {old new before rest : List Char}

theorem replaceAll_append (none : c ∉ before) (rest : List Char) :
    replaceAll (c :: old) new (before ++ rest) = before ++ replaceAll (c :: old) new rest := by
  induction before with
  | nil => rfl
  | cons d before ih =>
    rw [List.mem_cons, not_or] at none
    obtain ⟨other, none⟩ := none
    rw [List.cons_append, replaceAll, if_neg, ih none, List.cons_append]
    simp [other]

theorem replaceAll_of_not_mem (none : c ∉ rest) : replaceAll (c :: old) new rest = rest := by
  have same : replaceAll (c :: old) new (rest ++ []) = rest ++ replaceAll (c :: old) new [] :=
    replaceAll_append none []
  rwa [replaceAll, List.append_nil] at same

theorem replaceAll_old (rest : List Char) :
    replaceAll (c :: old) new (c :: old ++ rest) = new ++ replaceAll (c :: old) new rest := by
  rw [List.cons_append, replaceAll, if_pos]
  · simp
  · rw [← List.cons_append]
    exact List.isPrefixOf_iff_prefix.mpr (List.prefix_append _ _)

end Text

namespace Duration

open Text

def dayMark : List Char := " days, ".toList

/-- The text of a duration with a dash behind its days. -/
def dashed (shown : String) : String := String.ofList (replaceAll dayMark ['-'] shown.toList)

def twoPlaces (n : Nat) : List Char := [(n / 10).digitChar, (n % 10).digitChar]

/-- The days in front of a shown duration, from one day on. -/
def dayPart (seconds : Nat) : List Char :=
  if 86400 ≤ seconds then Nat.toDigits 10 (seconds / 86400) ++ dayMark else []

/-- A number of seconds as a text. -/
structure IsShownAs (seconds : Nat) (shown : String) : Prop where
  /-- Behind the days the clock has two digits for each of its parts. -/
  parts : ∃ hours < 24, ∃ minutes < 60, ∃ rest < 60, shown.toList = dayPart seconds ++
    (twoPlaces hours ++ ':' :: (twoPlaces minutes ++ ':' :: twoPlaces rest))
  readsBack : ∀ default, secondsOr default (dashed shown) = .ok seconds

variable {n seconds : Nat} {shown : String}

theorem length_twoPlaces (n : Nat) : (twoPlaces n).length = 2 := rfl

namespace Figures

def plain (digits : List Nat) (some : digits ≠ []) (areDigits : ∀ d ∈ digits, d < 10) : Figures where
  letters := digits.map Nat.digitChar
  some := mt List.map_eq_nil_iff.mp some
  areDigits := List.forall_mem_map.mpr fun d mem =>
    isDigit_iff.mpr ⟨d, Numeral.digit?_digitChar (areDigits d mem)⟩

theorem number_plain {digits : List Nat} (some : digits ≠ []) (areDigits : ∀ d ∈ digits, d < 10) :
    (plain digits some areDigits).number = Numeral.value digits := by
  have read : (digits.map Nat.digitChar).filterMap digit? = digits := by
    have same : ∀ d ∈ digits, (digit? ∘ Nat.digitChar) d = .some d :=
      fun d mem => Numeral.digit?_digitChar (areDigits d mem)
    rw [List.filterMap_map, List.filterMap_congr same, List.filterMap_some]
  rw [Numeral.value_eq_ofDigits, number, Figures.digits, plain, read]

theorem exists_toDigits (n : Nat) :
    ∃ figures : Figures, figures.letters = Nat.toDigits 10 n ∧ figures.number = n := by
  obtain ⟨digits, shown, areDigits, denote⟩ := Numeral.exists_digits n
  have some : digits ≠ [] := by
    rintro rfl
    exact Nat.toDigits_ne_nil shown
  exact ⟨plain digits some areDigits, shown.symm, (number_plain some areDigits).trans denote⟩

theorem exists_twoPlaces (small : n < 100) :
    ∃ figures : Figures, figures.letters = twoPlaces n ∧ figures.number = n := by
  have areDigits : ∀ d ∈ [n / 10, n % 10], d < 10 := by
    intro d mem
    rcases List.mem_pair.mp mem with rfl | rfl
    · omega
    · omega
  have denote : Numeral.value [n / 10, n % 10] = n := by
    change 10 * (10 * 0 + n / 10) + n % 10 = n
    omega
  exact ⟨plain _ (List.cons_ne_nil _ _) areDigits, rfl, (number_plain _ areDigits).trans denote⟩

theorem not_mem_letters (figures : Figures) {c : Char} (other : isDigit c = false) :
    c ∉ figures.letters := by
  intro mem
  rw [figures.areDigits c mem] at other
  cases other

end Figures

theorem toList_twoDigits (small : n < 100) : (twoDigits n).toList = twoPlaces n := by
  have shown := Numeral.toList_text_natCast n
  by_cases one : n < 10
  · rw [twoDigits, if_pos (by omega), String.toList_append, shown, Nat.toDigits_of_lt_base one,
      twoPlaces, Nat.div_eq_of_lt one, Nat.mod_eq_of_lt one]
    rfl
  · rw [twoDigits, if_neg (by omega), shown, Nat.toDigits_eq_if (by decide), if_neg one,
      Nat.toDigits_of_lt_base (by omega)]
    rfl

/-- The clock of a number of seconds, which is shown without the days in it. -/
def clockOf (seconds : Nat) : String :=
  clockText (seconds % 86400 / 3600 : Nat) (seconds % 3600 / 60 : Nat) (seconds % 60 : Nat)

theorem toList_clockOf (seconds : Nat) :
    (clockOf seconds).toList = twoPlaces (seconds % 86400 / 3600) ++
      ':' :: (twoPlaces (seconds % 3600 / 60) ++ ':' :: twoPlaces (seconds % 60)) := by
  have hours : seconds % 86400 / 3600 < 100 := by omega
  have minutes : seconds % 3600 / 60 < 100 := by omega
  have rest : seconds % 60 < 100 := by omega
  simp only [clockOf, clockText, String.toList_append, toList_twoDigits hours,
    toList_twoDigits minutes, toList_twoDigits rest]
  simp

theorem clockText_eq (seconds : Int) :
    clockText (Int.fdiv (Int.fmod seconds 86400) 3600) (Int.fdiv (Int.fmod seconds 3600) 60)
      (Int.fmod seconds 60) = clockOf (Int.fmod seconds 86400).toNat := by
  have left (n : Int) (natural : 0 ≤ n) : Int.fmod seconds n = seconds % n :=
    Int.fmod_eq_emod_of_nonneg seconds natural
  have part (m n : Int) (natural : 0 ≤ n) : Int.fdiv m n = m / n :=
    Int.fdiv_eq_ediv_of_nonneg m natural
  rw [clockOf, left 86400 (by decide), left 3600 (by decide), left 60 (by decide),
    part _ 3600 (by decide), part _ 60 (by decide)]
  have inDay : ((seconds % 86400).toNat : Int) = seconds % 86400 :=
    Int.toNat_of_nonneg (Int.emod_nonneg _ (by decide))
  congr 1
  · omega
  · omega
  · omega

theorem format_eq (seconds : Int) :
    format seconds =
      if 0 < Int.fdiv seconds 86400 then do
        let shown ← Numeral.text? (Int.fdiv seconds 86400)
        return shown ++ " days, " ++ clockOf (Int.fmod seconds 86400).toNat
      else .ok (clockOf (Int.fmod seconds 86400).toNat) := by
  rw [← clockText_eq]
  rfl

theorem clockOf_mod (seconds : Nat) : clockOf (seconds % 86400) = clockOf seconds := by
  have hours : seconds % 86400 % 86400 = seconds % 86400 := Nat.mod_mod seconds 86400
  have minutes : seconds % 86400 % 3600 = seconds % 3600 := Nat.mod_mod_of_dvd seconds (by decide)
  have rest : seconds % 86400 % 60 = seconds % 60 := Nat.mod_mod_of_dvd seconds (by decide)
  rw [clockOf, hours, minutes, rest, clockOf]

theorem format_natCast (seconds : Nat) :
    format seconds =
      if 86400 ≤ seconds then do
        let shown ← Numeral.text? (seconds / 86400 : Nat)
        return shown ++ " days, " ++ clockOf seconds
      else .ok (clockOf seconds) := by
  have days : Int.fdiv seconds 86400 = (seconds / 86400 : Nat) := (Int.ofNat_fdiv _ _).symm
  have inDay : Int.fmod seconds 86400 = (seconds % 86400 : Nat) := (Int.ofNat_fmod _ _).symm
  rw [format_eq, days, inDay, Int.toNat_natCast, clockOf_mod]
  by_cases long : 86400 ≤ seconds
  · rw [if_pos (by omega), if_pos long]
  · rw [if_neg (by omega), if_neg long]

theorem exists_format (short : Numeral.IsShort (seconds / 86400 : Nat)) :
    ∃ shown, format seconds = .ok shown := by
  rw [format_natCast, Numeral.text?_eq_ok_iff.mpr ⟨short, rfl⟩]
  split
  · exact ⟨_, rfl⟩
  · exact ⟨_, rfl⟩

/-- A text is made only of days that are short enough, and has them in front from one day on. -/
theorem parts_of_format (made : format seconds = .ok shown) :
    Numeral.IsShort (seconds / 86400 : Nat) ∧
      shown.toList = dayPart seconds ++ (clockOf seconds).toList := by
  rw [format_natCast] at made
  rw [dayPart]
  by_cases long : 86400 ≤ seconds
  · rw [if_pos long] at made ⊢
    obtain ⟨days, written, made⟩ := Action.outcome_bind_eq_ok.mp made
    obtain ⟨short, rfl⟩ := Numeral.text?_eq_ok_iff.mp written
    cases made
    refine ⟨short, ?_⟩
    rw [String.toList_append, String.toList_append, Numeral.toList_text_natCast]
    rfl
  · rw [if_neg long] at made ⊢
    cases made
    have none : seconds / 86400 = 0 := Nat.div_eq_of_lt (Nat.not_le.mp long)
    exact ⟨none ▸ Numeral.isShort_zero, rfl⟩

theorem toList_dashed (days : Option Figures) (hours minutes rest : Figures)
    (parts : shown.toList = (days.elim [] fun figures => figures.letters ++ dayMark) ++
      (Clock.hours hours minutes rest).letters) :
    (dashed shown).toList = (Written.mk days (.hours hours minutes rest) none).letters := by
  have space : isDigit ' ' = false := by decide
  have clock : ' ' ∉ (Clock.hours hours minutes rest).letters := by
    simp [Clock.letters, hours.not_mem_letters space, minutes.not_mem_letters space,
      rest.not_mem_letters space]
  have mark : dayMark = ' ' :: "days, ".toList := rfl
  rw [dashed, String.toList_ofList, parts]
  cases days with
  | none =>
    rw [Option.elim_none, List.nil_append, mark, replaceAll_of_not_mem clock]
    simp [Written.letters, tail]
  | some figures =>
    rw [Option.elim_some, List.append_assoc, mark,
      replaceAll_append (figures.not_mem_letters space), replaceAll_old,
      replaceAll_of_not_mem clock]
    simp [Written.letters, tail]

theorem tooLong?_eq_none_iff {duration : Written} :
    duration.tooLong? = none ↔
      ∀ figures ∈ duration.figures, figures.letters.length ≤ Numeral.digitLimit := by
  simp [Written.tooLong?, Figures.isTooLong]

theorem exists_days (seconds : Nat) :
    ∃ days : Option Figures,
      (days.elim [] fun figures => figures.letters ++ dayMark) = dayPart seconds ∧
      days.elim 0 Figures.number = seconds / 86400 ∧
      ∀ figures ∈ days, figures.letters = Nat.toDigits 10 (seconds / 86400) := by
  rw [dayPart]
  by_cases long : 86400 ≤ seconds
  · obtain ⟨figures, letters, number⟩ := Figures.exists_toDigits (seconds / 86400)
    refine ⟨some figures, ?_, number, ?_⟩
    · rw [if_pos long, Option.elim_some, letters]
    · rintro other ⟨⟩
      exact letters
  · refine ⟨none, ?_, ?_, ?_⟩
    · rw [if_neg long, Option.elim_none]
    · exact (Nat.div_eq_of_lt (Nat.not_le.mp long)).symm
    · rintro other ⟨⟩

/-- A duration that is shown is one that is read, and none of its parts is too long. -/
theorem exists_duration (made : format seconds = .ok shown) :
    ∃ duration : Written, Shows (dashed shown) duration ∧ duration.tooLong? = none ∧
      duration.value = seconds := by
  obtain ⟨short, parts⟩ := parts_of_format made
  obtain ⟨days, front, dayCount, dayLetters⟩ := exists_days seconds
  obtain ⟨hours, hourLetters, hourCount⟩ :=
    Figures.exists_twoPlaces (show seconds % 86400 / 3600 < 100 by omega)
  obtain ⟨minutes, minuteLetters, minuteCount⟩ :=
    Figures.exists_twoPlaces (show seconds % 3600 / 60 < 100 by omega)
  obtain ⟨rest, restLetters, restCount⟩ :=
    Figures.exists_twoPlaces (show seconds % 60 < 100 by omega)
  have letters : (dashed shown).toList = (Written.mk days (.hours hours minutes rest) none).letters := by
    apply toList_dashed
    rw [parts, front, toList_clockOf, Clock.letters, hourLetters, minuteLetters, restLetters]
  refine ⟨⟨days, .hours hours minutes rest, none⟩, ⟨[], [], isBlanks_nil, isBlanks_nil, ?_⟩, ?_, ?_⟩
  · rw [letters, List.nil_append, List.append_nil]
  · have two : 2 ≤ Numeral.digitLimit := by decide
    have dayLength : ∀ figures ∈ days, figures.letters.length ≤ Numeral.digitLimit := by
      intro figures mem
      rw [dayLetters figures mem]
      exact Numeral.length_toDigits_le short
    refine tooLong?_eq_none_iff.mpr ?_
    simp only [Written.figures, List.forall_mem_append, Option.mem_toList]
    refine ⟨dayLength, ?_⟩
    simpa [Clock.hours?, Clock.minutes?, Clock.last, hourLetters, minuteLetters, restLetters,
      length_twoPlaces] using two
  · change (((days.elim 0 Figures.number * 24 + hours.number) * 60 + minutes.number) * 60 +
      rest.number : Nat) = (seconds : Int)
    rw [dayCount, hourCount, minuteCount, restCount]
    omega

theorem secondsOr_dashed (made : format seconds = .ok shown) (default : Int) :
    secondsOr default (dashed shown) = .ok seconds := by
  obtain ⟨duration, shows, short, value⟩ := exists_duration made
  rw [secondsOr_of_shows default shows]
  exact reading_eq_ok.mpr ⟨short, value.symm⟩

theorem isShownAs_of_format (made : format seconds = .ok shown) : IsShownAs seconds shown where
  parts := by
    refine ⟨seconds % 86400 / 3600, by omega, seconds % 3600 / 60, by omega, seconds % 60,
      by omega, ?_⟩
    rw [(parts_of_format made).2, toList_clockOf]
  readsBack := secondsOr_dashed made

/-- Each number of seconds from zero on has a text unless its days have too many digits; the text has
the parts of the number and is read back as it, so no other number has the same text. -/
theorem format_shows_seconds :
    (∀ seconds : Int, 0 ≤ seconds → Numeral.IsShort (seconds / 86400) →
      ∃ shown, format seconds = .ok shown ∧ IsShownAs seconds.toNat shown) ∧
    ∀ (first second : Int) (shown : String), 0 ≤ first → 0 ≤ second →
      format first = .ok shown → format second = .ok shown → first = second := by
  refine ⟨?_, ?_⟩
  · intro seconds natural short
    obtain ⟨seconds, rfl⟩ := Int.eq_ofNat_of_zero_le natural
    obtain ⟨shown, made⟩ := exists_format short
    exact ⟨shown, made, isShownAs_of_format made⟩
  · intro first second shown someFirst someSecond madeFirst madeSecond
    obtain ⟨first, rfl⟩ := Int.eq_ofNat_of_zero_le someFirst
    obtain ⟨second, rfl⟩ := Int.eq_ofNat_of_zero_le someSecond
    exact Except.ok.inj ((secondsOr_dashed madeFirst 0).symm.trans (secondsOr_dashed madeSecond 0))

theorem format_shows_seconds_twoDays :
    format 183845 = .ok "2 days, 03:04:05" ∧ IsShownAs 183845 "2 days, 03:04:05" ∧
      format 11045 ≠ .ok "2 days, 03:04:05" := by
  have made : format 183845 = .ok "2 days, 03:04:05" := rfl
  have short : Numeral.IsShort (183845 / 86400) := Numeral.isShort_of_oneDigit (by decide)
  obtain ⟨shown, same, isShown⟩ := format_shows_seconds.1 183845 (by decide) short
  obtain rfl := Except.ok.inj (made.symm.trans same)
  refine ⟨made, isShown, ?_⟩
  intro other
  have equal := format_shows_seconds.2 183845 11045 _ (by decide) (by decide) made other
  exact absurd equal (by decide)

end Duration

end HostInventory
