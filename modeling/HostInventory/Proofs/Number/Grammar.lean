import HostInventory.Proofs.Number.Numeral

/-!
Which texts are integers: digits of any scripts with a sign in front or none, in which one
underscore may stand between two digits. Main statement: exactly these texts, with blanks around
them or not, are read as integers if they have at most 4300 digits, and each gives the number that
it denotes.
-/
namespace HostInventory.Numeral

open Text

/-- Digits, the highest first, with an underscore between two of them or none, and what they stand
for. -/
inductive Grouped : List Char → List Nat → Prop
  | last {c : Char} {d : Nat} : digit? c = some d → Grouped [c] [d]
  | next {c : Char} {d : Nat} {letters : List Char} {digits : List Nat} : digit? c = some d →
      Grouped letters digits → Grouped (c :: letters) (d :: digits)
  | apart {c : Char} {d : Nat} {letters : List Char} {digits : List Nat} : digit? c = some d →
      Grouped letters digits → Grouped (c :: '_' :: letters) (d :: digits)

inductive Sign where
  | unsigned
  | plus
  | minus
  deriving DecidableEq, Repr

namespace Sign

def letters : Sign → List Char
  | unsigned => []
  | plus => ['+']
  | minus => ['-']

def apply (sign : Sign) (magnitude : Nat) : Int :=
  match sign with
  | unsigned | plus => magnitude
  | minus => -(magnitude : Int)

end Sign

/-- A text is an integer, and which one, in base ten. -/
def Denotes (s : List Char) (n : Int) : Prop :=
  ∃ (sign : Sign) (letters : List Char) (digits : List Nat), Grouped letters digits ∧
    digits.length ≤ digitLimit ∧ s = sign.letters ++ letters ∧
      n = sign.apply (Nat.ofDigits 10 digits.reverse)

/-- A text shows an integer: it is the integer, with blanks around it or without. -/
def Shows (s : String) (n : Int) : Prop :=
  ∃ before letters after, IsBlanks before ∧ IsBlanks after ∧
    s.toList = before ++ letters ++ after ∧ Denotes letters n

variable {s rest : List Char} {digits : List Nat} {c : Char} {n : Int} {shown : String}

theorem Grouped.of_groupedDigits? (read : groupedDigits? s = some digits) : Grouped s digits := by
  fun_induction groupedDigits? s generalizing digits with
  | case1 => cases read
  | case2 c =>
    obtain ⟨d, digit, rfl⟩ := Option.map_eq_some_iff.mp read
    exact .last digit
  | case3 c rest ih =>
    obtain ⟨d, digit, read⟩ := Option.bind_eq_some_iff.mp read
    obtain ⟨later, others, read⟩ := Option.bind_eq_some_iff.mp read
    cases read
    exact .apart digit (ih others)
  | case4 c rest _ _ ih =>
    obtain ⟨d, digit, read⟩ := Option.bind_eq_some_iff.mp read
    obtain ⟨later, others, read⟩ := Option.bind_eq_some_iff.mp read
    cases read
    exact .next digit (ih others)

theorem Grouped.exists_first (grouped : Grouped s digits) :
    ∃ c rest d, s = c :: rest ∧ digit? c = some d := by
  cases grouped with
  | last digit | next digit _ | apart digit _ => exact ⟨_, _, _, rfl, digit⟩

theorem Grouped.first_ne (grouped : Grouped (c :: rest) digits) {other : Char}
    (noDigit : digit? other = none) : c ≠ other := by
  rintro rfl
  obtain ⟨first, later, d, same, digit⟩ := grouped.exists_first
  cases same
  rw [noDigit] at digit
  cases digit

theorem Grouped.groupedDigits? (grouped : Grouped s digits) :
    Numeral.groupedDigits? s = some digits := by
  induction grouped with
  | last digit => simp [Numeral.groupedDigits?, digit]
  | apart digit _ ih => simp [Numeral.groupedDigits?, digit, ih]
  | next digit later ih =>
    -- the digits that follow begin with none, so the reader does not pass over an underscore
    obtain ⟨first, rest, d, rfl, _⟩ := later.exists_first
    have other : first ≠ '_' := later.first_ne (by decide)
    simp [Numeral.groupedDigits?, digit, ih, other]

theorem groupedDigits?_eq_some_iff : groupedDigits? s = some digits ↔ Grouped s digits :=
  ⟨Grouped.of_groupedDigits?, Grouped.groupedDigits?⟩

theorem isBlank_of_digit? {d : Nat} (digit : digit? c = some d) : isBlank c = false :=
  isBlank_of_isDigit (isDigit_iff.mpr ⟨d, digit⟩)

theorem Grouped.isWord (grouped : Grouped s digits) : IsWord s := by
  obtain ⟨first, rest, _, same, _⟩ := grouped.exists_first
  refine ⟨same ▸ List.cons_ne_nil first rest, ?_⟩
  clear same
  induction grouped with
  | last digit => simpa using isBlank_of_digit? digit
  | next digit _ ih => exact List.forall_mem_cons.mpr ⟨isBlank_of_digit? digit, ih⟩
  | apart digit _ ih =>
    have underscore : isBlank '_' = false := by decide
    exact List.forall_mem_cons.mpr
      ⟨isBlank_of_digit? digit, List.forall_mem_cons.mpr ⟨underscore, ih⟩⟩

theorem magnitude?_eq_some_iff {magnitude : Nat} :
    magnitude? s = some magnitude ↔
      ∃ digits, Grouped s digits ∧ digits.length ≤ digitLimit ∧
        magnitude = Nat.ofDigits 10 digits.reverse := by
  refine Option.bind_eq_some_iff.trans (exists_congr fun digits => ?_)
  rw [groupedDigits?_eq_some_iff, ← value_eq_ofDigits]
  refine and_congr_right fun _ => ?_
  by_cases short : digits.length ≤ digitLimit
  · simp [short, eq_comm]
  · simp [short]

theorem integer?_eq_some_iff : integer? s = some n ↔ Denotes s n := by
  constructor
  · intro read
    unfold integer? at read
    split at read
    · obtain ⟨_, positive, rfl⟩ := Option.map_eq_some_iff.mp read
      obtain ⟨magnitude, unsigned, same⟩ := Option.bind_eq_some_iff.mp positive
      cases same
      obtain ⟨digits, grouped, short, rfl⟩ := magnitude?_eq_some_iff.mp unsigned
      exact ⟨.minus, _, digits, grouped, short, rfl, rfl⟩
    · obtain ⟨magnitude, unsigned, rfl⟩ := Option.map_eq_some_iff.mp read
      obtain ⟨digits, grouped, short, rfl⟩ := magnitude?_eq_some_iff.mp unsigned
      exact ⟨.plus, _, digits, grouped, short, rfl, rfl⟩
    · obtain ⟨magnitude, unsigned, rfl⟩ := Option.map_eq_some_iff.mp read
      obtain ⟨digits, grouped, short, rfl⟩ := magnitude?_eq_some_iff.mp unsigned
      exact ⟨.unsigned, _, digits, grouped, short, rfl, rfl⟩
  · rintro ⟨sign, letters, digits, grouped, short, rfl, rfl⟩
    have magnitude := magnitude?_eq_some_iff.mpr ⟨digits, grouped, short, rfl⟩
    cases sign with
    | minus | plus =>
      simp only [Sign.letters, List.singleton_append, integer?, magnitude]
      rfl
    | unsigned =>
      obtain ⟨first, rest, d, rfl, _⟩ := grouped.exists_first
      have minus : first ≠ '-' := grouped.first_ne (by decide)
      have plus : first ≠ '+' := grouped.first_ne (by decide)
      simp [Sign.letters, integer?, minus, plus, magnitude, Sign.apply]

theorem Denotes.isWord (denotes : Denotes s n) : IsWord s := by
  obtain ⟨sign, letters, digits, grouped, _, rfl, _⟩ := denotes
  obtain ⟨some, letters⟩ := grouped.isWord
  refine ⟨by simp [some], ?_⟩
  intro c mem
  rcases List.mem_append.mp mem with mem | mem
  · cases sign with
    | unsigned => cases mem
    | plus | minus =>
      obtain rfl := List.mem_singleton.mp mem
      decide
  · exact letters c mem

theorem shows_iff_denotes : Shows shown n ↔ Denotes (stripChars shown.toList) n := by
  constructor
  · rintro ⟨before, letters, after, front, back, text, denotes⟩
    rw [text, stripChars_around denotes.isWord.isTrimmed front back]
    exact denotes
  · intro denotes
    obtain ⟨before, after, front, back, text⟩ := exists_stripChars shown.toList
    exact ⟨before, _, after, front, back, text, denotes⟩

theorem integerOr_of_shows (default : Int) (shows : Shows shown n) : integerOr default shown = n := by
  rw [integerOr, integer?_eq_some_iff.mpr (shows_iff_denotes.mp shows), Option.getD_some]

theorem integerOr_of_not_shows (default : Int) (none : ∀ n, ¬ Shows shown n) :
    integerOr default shown = default := by
  cases read : integer? (stripChars shown.toList) with
  | none => rw [integerOr, read, Option.getD_none]
  | some n => exact absurd (shows_iff_denotes.mpr (integer?_eq_some_iff.mp read)) (none n)

theorem denotes_text (short : IsShort n) : Denotes (text n).toList n :=
  integer?_eq_some_iff.mp (integer?_text short)

theorem shows_around {before after : String} (short : IsShort n) (front : IsBlanks before.toList)
    (back : IsBlanks after.toList) : Shows (before ++ text n ++ after) n := by
  refine ⟨before.toList, _, after.toList, front, back, ?_, denotes_text short⟩
  rw [String.toList_append, String.toList_append]

/-- Reading gives the integer that a text shows, and the default for every text that shows none; an
integer that is short enough to be written is shown by its own text, with blanks around it or not. -/
theorem integerOr_shown (default : Int) :
    (∀ s n, Shows s n → integerOr default s = n) ∧
      (∀ s, (∀ n, ¬ Shows s n) → integerOr default s = default) ∧
        ∀ n before after, IsShort n → IsBlanks before.toList → IsBlanks after.toList →
          integerOr default (before ++ text n ++ after) = n := by
  refine ⟨?_, ?_, ?_⟩
  · exact fun s n shows => integerOr_of_shows default shows
  · exact fun s none => integerOr_of_not_shows default none
  · intro n before after short front back
    exact integerOr_of_shows default (shows_around short front back)

theorem integerOr_shown_underscore :
    Shows "\u2003-1_0\u0662 " (-102) ∧ integerOr 7 "\u2003-1_0\u0662 " = -102 ∧
      (∀ n, ¬ Shows "1__0" n) ∧ integerOr 7 "1__0" = 7 ∧
        integerOr 7 ("\u3000" ++ text (-5) ++ "\n") = -5 := by
  have shows : Shows "\u2003-1_0\u0662 " (-102) :=
    shows_iff_denotes.mpr (integer?_eq_some_iff.mp (by decide +kernel))
  have unread : integer? (stripChars "1__0".toList) = none := by decide +kernel
  have doubled : ∀ n, ¬ Shows "1__0" n := by
    intro n other
    rw [integer?_eq_some_iff.mpr (shows_iff_denotes.mp other)] at unread
    cases unread
  have short : IsShort (-5) := isShort_of_oneDigit (by decide)
  obtain ⟨read, unshown, written⟩ := integerOr_shown 7
  exact ⟨shows, read _ _ shows, doubled, unshown _ doubled,
    written (-5) "\u3000" "\n" short (by decide) (by decide)⟩

end HostInventory.Numeral
