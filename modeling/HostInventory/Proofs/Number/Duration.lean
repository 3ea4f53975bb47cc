import HostInventory.Number.Measures
import HostInventory.Proofs.Number.Numeral

/-!
Durations as they are written, `[D-][[D:]D:]D[.D]`, where each `D` is one digit or more, of any
scripts. Main statement: exactly these texts, with blanks around them or not, are read as durations,
and each gives the seconds that it denotes, unless a field is too long to be read.
-/
namespace HostInventory.Duration

open Text

/-- One digit or more. -/
structure Figures where
  letters : List Char
  some : letters ≠ []
  areDigits : ∀ c ∈ letters, isDigit c = true

namespace Figures

def digits (figures : Figures) : List Nat := figures.letters.filterMap digit?

def number (figures : Figures) : Nat := Nat.ofDigits 10 figures.digits.reverse

def isTooLong (figures : Figures) : Bool := Numeral.digitLimit < figures.letters.length

end Figures

/-- A duration without its days and its fraction. -/
inductive Clock where
  | seconds (seconds : Figures)
  | minutes (minutes seconds : Figures)
  | hours (hours minutes seconds : Figures)

namespace Clock

def letters : Clock → List Char
  | seconds s => s.letters
  | minutes m s => m.letters ++ ':' :: s.letters
  | hours h m s => h.letters ++ ':' :: (m.letters ++ ':' :: s.letters)

def hours? : Clock → Option Figures
  | hours h _ _ => some h
  | _ => none

def minutes? : Clock → Option Figures
  | seconds _ => none
  | minutes m _ | hours _ m _ => some m

def last : Clock → Figures
  | seconds s | minutes _ s | hours _ _ s => s

def fields (days : List Nat) (clock : Clock) : Fields :=
  ⟨days, clock.hours?.elim [] Figures.digits, clock.minutes?.elim [] Figures.digits,
    clock.last.digits⟩

end Clock

def tail (fraction : Option Figures) : List Char :=
  fraction.elim [] fun figures => '.' :: figures.letters

/-- A duration as it is written. -/
structure Written where
  days : Option Figures
  clock : Clock
  fraction : Option Figures

namespace Written

def letters (duration : Written) : List Char :=
  (duration.days.elim [] fun figures => figures.letters ++ ['-']) ++
    (duration.clock.letters ++ tail duration.fraction)

def figures (duration : Written) : List Figures :=
  duration.days.toList ++ (duration.clock.hours?.toList ++
    (duration.clock.minutes?.toList ++ [duration.clock.last]))

/-- The seconds that a duration denotes; what is not there counts as nought. -/
def value (duration : Written) : Int :=
  let days := duration.days.elim 0 Figures.number
  let hours := duration.clock.hours?.elim 0 Figures.number
  let minutes := duration.clock.minutes?.elim 0 Figures.number
  (((days * 24 + hours) * 60 + minutes) * 60 + duration.clock.last.number : Nat)

def tooLong? (duration : Written) : Option Figures := duration.figures.find? Figures.isTooLong

def fields (duration : Written) : Fields :=
  duration.clock.fields (duration.days.elim [] Figures.digits)

end Written

/-- A text shows a duration: it is the duration, with blanks around it or without. -/
def Shows (s : String) (duration : Written) : Prop :=
  ∃ before after, IsBlanks before ∧ IsBlanks after ∧
    s.toList = before ++ duration.letters ++ after

variable {s rest : List Char} {figures : Figures} {fields : Fields} {days : List Nat}

/-- A run of digits ends where the text does, or before a character that is none. -/
def Stops (rest : List Char) : Prop := ∀ c ∈ rest.head?, isDigit c = false

theorem digitRun_append (figures : Figures) (stops : Stops rest) :
    digitRun (figures.letters ++ rest) = (figures.digits, rest) := by
  have parts := takeWhile_append_stop figures.areDigits stops
  rw [digitRun, parts.1, parts.2]
  rfl

theorem length_digits (figures : Figures) : figures.digits.length = figures.letters.length := by
  have all : ∀ letters : List Char, (∀ c ∈ letters, isDigit c = true) →
      (letters.filterMap digit?).length = letters.length := by
    intro letters areDigits
    induction letters with
    | nil => rfl
    | cons c letters ih =>
      obtain ⟨digit, areDigits⟩ := List.forall_mem_cons.mp areDigits
      obtain ⟨d, read⟩ := isDigit_iff.mp digit
      rw [List.filterMap_cons_some read, List.length_cons, ih areDigits, List.length_cons]
  exact all figures.letters figures.areDigits

theorem digits_ne_nil (figures : Figures) : figures.digits.isEmpty = false := by
  have some := List.length_pos_iff.mpr figures.some
  rw [← length_digits] at some
  simpa using List.length_pos_iff.mp some

theorem stops_cons {c : Char} (other : digit? c = none) : Stops (c :: rest) := by
  rintro d ⟨⟩
  simp [isDigit, other]

theorem stops_nil : Stops [] := by
  rintro c ⟨⟩

theorem exists_figures (run : (digitRun s).1.isEmpty = false) :
    ∃ figures : Figures, s = figures.letters ++ (digitRun s).2 ∧ (digitRun s).1 = figures.digits := by
  have areDigits : ∀ c ∈ s.takeWhile isDigit, isDigit c = true := by
    intro c mem
    exact List.mem_takeWhile_imp mem
  have some : s.takeWhile isDigit ≠ [] := by
    intro none
    simp [digitRun, none] at run
  exact ⟨⟨s.takeWhile isDigit, some, areDigits⟩, List.takeWhile_append_dropWhile.symm, rfl⟩

theorem isFraction_iff :
    isFraction s = true ↔
      ∃ fraction : Option Figures, s = tail fraction := by
  constructor
  · intro fraction
    unfold isFraction at fraction
    split at fraction
    · exact ⟨none, rfl⟩
    · next digits =>
      simp only [Bool.and_eq_true, Bool.not_eq_true', List.all_eq_true] at fraction
      exact ⟨.some ⟨digits, by simpa using fraction.1, fraction.2⟩, rfl⟩
    · cases fraction
  · rintro ⟨fraction, rfl⟩
    cases fraction with
    | none => rfl
    | some figures =>
      have areDigits := List.all_eq_true.mpr figures.areDigits
      simp [isFraction, tail, figures.some, areDigits]

theorem stops_tail (fraction : Option Figures) : Stops (tail fraction) := by
  cases fraction with
  | none => exact stops_nil
  | some figures => exact stops_cons (by decide)

theorem clock?_letters (days : List Nat) (clock : Clock) (fraction : Option Figures) :
    clock? days (clock.letters ++ tail fraction) = some (clock.fields days) := by
  have isFraction : isFraction (tail fraction) = true := isFraction_iff.mpr ⟨fraction, rfl⟩
  have stops : Stops (tail fraction) := stops_tail fraction
  have colon (rest : List Char) : Stops (':' :: rest) := stops_cons (by decide)
  cases clock with
  | seconds s =>
    simp only [clock?, Clock.letters, digitRun_append s stops, digits_ne_nil]
    cases fraction with
    | none => rfl
    | some figures =>
      simp only [tail, Option.elim] at isFraction ⊢
      simp [isFraction, Clock.fields, Clock.hours?, Clock.minutes?, Clock.last]
  | minutes m s =>
    simp only [clock?, Clock.letters, List.append_assoc, List.cons_append,
      digitRun_append m (colon _), digitRun_append s stops, digits_ne_nil]
    cases fraction with
    | none => rfl
    | some figures =>
      simp only [tail, Option.elim] at isFraction ⊢
      simp [isFraction, Clock.fields, Clock.hours?, Clock.minutes?, Clock.last]
  | hours h m s =>
    simp only [clock?, Clock.letters, List.append_assoc, List.cons_append,
      digitRun_append h (colon _), digitRun_append m (colon _), digitRun_append s stops,
      digits_ne_nil, isFraction]
    rfl

theorem exists_clock (read : clock? days s = some fields) :
    ∃ (clock : Clock) (fraction : Option Figures),
      s = clock.letters ++ tail fraction ∧ fields = clock.fields days := by
  unfold clock? at read
  simp only at read
  split at read
  · cases read
  next some =>
  obtain ⟨first, text, digits⟩ := exists_figures (Bool.not_eq_true _ ▸ some)
  rw [digits] at read
  generalize (digitRun s).2 = rest at text read
  split at read
  · next rest =>
    split at read
    · cases read
    next some =>
    obtain ⟨second, more, digits⟩ := exists_figures (Bool.not_eq_true _ ▸ some)
    rw [digits] at read
    generalize (digitRun rest).2 = after at more read
    split at read
    · next after =>
      split at read
      · cases read
      next some =>
      obtain ⟨third, last, digits⟩ := exists_figures (Bool.not_eq_true _ ▸ some)
      rw [digits] at read
      split at read
      · next ends =>
        cases read
        obtain ⟨fraction, ends⟩ := isFraction_iff.mp ends
        refine ⟨.hours first second third, fraction, ?_, rfl⟩
        rw [text, more, last, ends]
        simp [Clock.letters]
      · cases read
    · split at read
      · next ends =>
        cases read
        obtain ⟨fraction, ends⟩ := isFraction_iff.mp ends
        refine ⟨.minutes first second, fraction, ?_, rfl⟩
        rw [text, more, ends]
        simp [Clock.letters]
      · cases read
  · split at read
    · next ends =>
      cases read
      obtain ⟨fraction, ends⟩ := isFraction_iff.mp ends
      refine ⟨.seconds first, fraction, ?_, rfl⟩
      rw [text, ends]
      rfl
    · cases read

/-- Without a dash after its first number a text has no days. -/
theorem fields?_of_head? (head : (digitRun s).2.head? ≠ some '-') : fields? s = clock? [] s := by
  unfold fields?
  simp only
  split
  · next rest later =>
    rw [later] at head
    exact absurd rfl head
  · rfl

theorem head?_digitRun_clock (clock : Clock) (fraction : Option Figures) :
    (digitRun (clock.letters ++ tail fraction)).2.head? ≠ some '-' := by
  have colon (rest : List Char) : Stops (':' :: rest) := stops_cons (by decide)
  cases clock with
  | seconds s =>
    rw [Clock.letters, digitRun_append s (stops_tail fraction)]
    cases fraction with
    | none => exact nofun
    | some figures => simp [tail]
  | minutes m s =>
    rw [Clock.letters, List.append_assoc, List.cons_append, digitRun_append m (colon _)]
    simp
  | hours h m s =>
    rw [Clock.letters, List.append_assoc, List.cons_append, digitRun_append h (colon _)]
    simp

theorem fields?_letters (duration : Written) : fields? duration.letters = some duration.fields := by
  obtain ⟨days, clock, fraction⟩ := duration
  cases days with
  | none =>
    rw [Written.letters, Option.elim_none, List.nil_append,
      fields?_of_head? (head?_digitRun_clock clock fraction), clock?_letters]
    rfl
  | some days =>
    have dash : Stops ('-' :: (clock.letters ++ tail fraction)) := stops_cons (by decide)
    have run := digitRun_append days dash
    simp only [fields?, Written.letters, Option.elim_some, List.append_assoc, List.cons_append,
      List.nil_append, run, digits_ne_nil, clock?_letters]
    rfl

theorem exists_written (read : fields? s = some fields) :
    ∃ duration : Written, s = duration.letters ∧ fields = duration.fields := by
  unfold fields? at read
  simp only at read
  split at read
  · next rest later =>
    split at read
    · cases read
    next some =>
    obtain ⟨days, text, digits⟩ := exists_figures (Bool.not_eq_true _ ▸ some)
    obtain ⟨clock, fraction, rest, fields⟩ := exists_clock read
    refine ⟨⟨.some days, clock, fraction⟩, ?_, ?_⟩
    · rw [text, later, rest]
      simp [Written.letters]
    · rw [fields, digits]
      rfl
  · obtain ⟨clock, fraction, text, fields⟩ := exists_clock read
    exact ⟨⟨none, clock, fraction⟩, text, fields⟩

/-- A value that needs some numbers to be read. -/
def reading (numbers : List Figures) (value : Int) : Except Failure Int :=
  match numbers.find? Figures.isTooLong with
  | some figures => .error (.tooManyDigits figures.letters.length)
  | none => .ok value

theorem reading_bind (first later : List Figures) (value : Int) (next : Int → Int) :
    (reading first value >>= fun value => reading later (next value)) =
      reading (first ++ later) (next value) := by
  simp only [reading, List.find?_append]
  cases first.find? Figures.isTooLong with
  | none => rfl
  | some figures => rfl

theorem reading_map (numbers : List Figures) (value : Int) (next : Int → Int) :
    (reading numbers value >>= fun value => pure (next value)) = reading numbers (next value) := by
  simp only [reading]
  cases numbers.find? Figures.isTooLong with
  | none => rfl
  | some figures => rfl

theorem fieldValue_digits (figures : Figures) :
    fieldValue figures.digits = reading [figures] figures.number := by
  rw [fieldValue, length_digits, Numeral.value_eq_ofDigits]
  by_cases long : Numeral.digitLimit < figures.letters.length
  · simp [reading, Figures.isTooLong, long, Nat.not_le.mpr long]
  · simp [reading, Figures.isTooLong, long, Nat.not_lt.mp long, Figures.number]

theorem fieldValue_elim (figures : Option Figures) :
    fieldValue (figures.elim [] Figures.digits) =
      reading figures.toList (figures.elim 0 Figures.number : Nat) := by
  cases figures with
  | none => rfl
  | some figures => exact fieldValue_digits figures

theorem seconds?_fields (duration : Written) :
    duration.fields.seconds? = reading duration.figures duration.value := by
  simp only [Fields.seconds?, Written.fields, Clock.fields, fieldValue_elim, fieldValue_digits]
  simp only [reading_map, reading_bind]
  simp [Written.figures, Written.value]

theorem Figures.isWord (figures : Figures) : IsWord figures.letters :=
  isWord_of_digits figures.some figures.areDigits

theorem exists_first (duration : Written) :
    ∃ (figures : Figures) (rest : List Char), duration.letters = figures.letters ++ rest := by
  obtain ⟨days, clock, fraction⟩ := duration
  cases days with
  | some days => exact ⟨days, '-' :: (clock.letters ++ tail fraction), by simp [Written.letters]⟩
  | none =>
    cases clock with
    | seconds s => exact ⟨s, tail fraction, rfl⟩
    | minutes m s =>
      exact ⟨m, ':' :: (s.letters ++ tail fraction), by simp [Written.letters, Clock.letters]⟩
    | hours h m s =>
      exact ⟨h, ':' :: (m.letters ++ ':' :: (s.letters ++ tail fraction)),
        by simp [Written.letters, Clock.letters]⟩

theorem exists_last (duration : Written) :
    ∃ (front : List Char) (figures : Figures), duration.letters = front ++ figures.letters := by
  obtain ⟨days, clock, fraction⟩ := duration
  have front : ∃ front : List Char, clock.letters = front ++ clock.last.letters := by
    cases clock with
    | seconds s => exact ⟨[], rfl⟩
    | minutes m s => exact ⟨m.letters ++ [':'], by simp [Clock.letters, Clock.last]⟩
    | hours h m s =>
      exact ⟨h.letters ++ ':' :: m.letters ++ [':'], by simp [Clock.letters, Clock.last]⟩
  obtain ⟨front, text⟩ := front
  let before := days.elim [] fun figures => figures.letters ++ ['-']
  cases fraction with
  | none => exact ⟨before ++ front, clock.last, by simp [before, Written.letters, tail, text]⟩
  | some figures =>
    exact ⟨before ++ clock.letters ++ ['.'], figures, by simp [before, Written.letters, tail]⟩

theorem isTrimmed_letters (duration : Written) : IsTrimmed duration.letters := by
  obtain ⟨first, rest, begins⟩ := exists_first duration
  obtain ⟨front, last, ends⟩ := exists_last duration
  refine ⟨?_, ?_, ?_⟩
  · simp [begins, first.some]
  · rw [begins, List.head?_append_of_ne_nil _ first.some]
    exact first.isWord.isTrimmed.first
  · rw [ends, List.getLast?_append_of_ne_nil _ last.some]
    exact last.isWord.isTrimmed.last

theorem secondsOr_of_shows {s : String} {duration : Written} (default : Int)
    (shows : Shows s duration) :
    secondsOr default s = reading duration.figures duration.value := by
  obtain ⟨before, after, front, back, text⟩ := shows
  rw [secondsOr, text, stripChars_around (isTrimmed_letters duration) front back, fields?_letters]
  exact seconds?_fields duration

theorem secondsOr_of_not_shows {s : String} (default : Int) (none : ∀ duration, ¬ Shows s duration) :
    secondsOr default s = .ok default := by
  rw [secondsOr]
  cases read : fields? (stripChars s.toList) with
  | none => rfl
  | some fields =>
    obtain ⟨duration, text, _⟩ := exists_written read
    obtain ⟨before, after, front, back, around⟩ := exists_stripChars s.toList
    exact absurd ⟨before, after, front, back, text ▸ around⟩ (none duration)

theorem reading_eq_ok {numbers : List Figures} {value n : Int} :
    reading numbers value = .ok n ↔ numbers.find? Figures.isTooLong = none ∧ n = value := by
  rw [reading]
  cases numbers.find? Figures.isTooLong with
  | none => simp [eq_comm]
  | some figures => simp

theorem reading_eq_error {numbers : List Figures} {value : Int} {failure : Failure} :
    reading numbers value = .error failure ↔
      ∃ figures, numbers.find? Figures.isTooLong = some figures ∧
        failure = .tooManyDigits figures.letters.length := by
  rw [reading]
  cases numbers.find? Figures.isTooLong with
  | none => simp
  | some figures => simp [eq_comm]

theorem secondsOr_cases (default : Int) (s : String) :
    (∃ duration, Shows s duration ∧
      secondsOr default s = reading duration.figures duration.value) ∨
    (∀ duration, ¬ Shows s duration) ∧ secondsOr default s = .ok default := by
  by_cases some : ∃ duration, Shows s duration
  · obtain ⟨duration, shows⟩ := some
    exact .inl ⟨duration, shows, secondsOr_of_shows default shows⟩
  · have none := not_exists.mp some
    exact .inr ⟨none, secondsOr_of_not_shows default none⟩

theorem secondsOr_eq_ok {default n : Int} {s : String} :
    secondsOr default s = .ok n ↔
      (∃ duration, Shows s duration ∧ duration.tooLong? = none ∧ n = duration.value) ∨
        (∀ duration, ¬ Shows s duration) ∧ n = default := by
  constructor
  · intro read
    rcases secondsOr_cases default s with ⟨duration, shows, denotes⟩ | ⟨none, same⟩
    · obtain ⟨short, same⟩ := reading_eq_ok.mp (denotes.symm.trans read)
      exact .inl ⟨duration, shows, short, same⟩
    · rw [same] at read
      cases read
      exact .inr ⟨none, rfl⟩
  · rintro (⟨duration, shows, short, same⟩ | ⟨none, rfl⟩)
    · rw [secondsOr_of_shows default shows]
      exact reading_eq_ok.mpr ⟨short, same⟩
    · exact secondsOr_of_not_shows n none

theorem secondsOr_eq_error {default : Int} {s : String} {failure : Failure} :
    secondsOr default s = .error failure ↔
      ∃ duration figures, Shows s duration ∧ duration.tooLong? = some figures ∧
        failure = .tooManyDigits figures.letters.length := by
  constructor
  · intro failed
    rcases secondsOr_cases default s with ⟨duration, shows, denotes⟩ | ⟨none, same⟩
    · obtain ⟨figures, long, same⟩ := reading_eq_error.mp (denotes.symm.trans failed)
      exact ⟨duration, figures, shows, long, same⟩
    · rw [same] at failed
      cases failed
  · rintro ⟨duration, figures, shows, long, same⟩
    rw [secondsOr_of_shows default shows]
    exact reading_eq_error.mpr ⟨figures, long, same⟩

/-- A text that shows a duration is read as the seconds that it denotes, or refused for the first
of its numbers that has too many digits; every other text gives the default. -/
theorem secondsOr_eq_iff (default : Int) (s : String) :
    (∀ n, secondsOr default s = .ok n ↔
      (∃ duration, Shows s duration ∧ duration.tooLong? = none ∧ n = duration.value) ∨
        (∀ duration, ¬ Shows s duration) ∧ n = default) ∧
    (∀ failure, secondsOr default s = .error failure ↔
      ∃ duration figures, Shows s duration ∧ duration.tooLong? = some figures ∧
        failure = .tooManyDigits figures.letters.length) ∧
    ∀ failure, secondsOr default s = .error failure → failure.isValue = true := by
  refine ⟨fun n => secondsOr_eq_ok, fun failure => secondsOr_eq_error, ?_⟩
  intro failure failed
  obtain ⟨_, _, _, _, rfl⟩ := secondsOr_eq_error.mp failed
  rfl

example : secondsOr 7 "1-\u0662:03.9" = .ok 86523 := by
  rfl

end HostInventory.Duration
