import HostInventory.Number.Numeral
import HostInventory.Proofs.Text.Chars
import Mathlib.Data.Nat.Digits.Defs

/-!
Integers as texts: which integers are short enough to be written, and that those are read back.
-/
namespace HostInventory.Numeral

open Text

/-- An integer has at most as many digits as are written. -/
def IsShort (n : Int) : Prop := n.natAbs < Nat.pow 10 digitLimit

instance (n : Int) : Decidable (IsShort n) := inferInstanceAs (Decidable (_ < _))

theorem length_text (n : Int) :
    (text n).length = n.natAbs.repr.length + if n < 0 then 1 else 0 := by
  cases n with
  | ofNat m => rfl
  | negSucc m =>
    have sign : Int.negSucc m < 0 := Int.negSucc_lt_zero m
    rw [if_pos sign]
    simp only [text, Int.toString_eq_repr, Int.repr, String.length_append, Int.natAbs_negSucc,
      Nat.add_comm]
    rfl

theorem length_text_le_iff (n : Int) :
    (text n).length ≤ digitLimit + (if n < 0 then 1 else 0) ↔ IsShort n := by
  have most (digits : Nat) (some : 0 < digits) :
      n.natAbs.repr.length ≤ digits ↔ n.natAbs < Nat.pow 10 digits := Nat.length_repr_le_iff some
  rw [length_text, Nat.add_le_add_iff_right]
  exact most digitLimit (by decide)

/-- The text of an integer is written exactly if the integer has at most 4300 digits. -/
theorem text?_eq_ok_iff {n : Int} {s : String} : text? n = .ok s ↔ IsShort n ∧ s = text n := by
  unfold text?
  by_cases short : IsShort n
  · rw [if_pos ((length_text_le_iff n).2 short)]
    exact ⟨fun same => ⟨short, (Except.ok.inj same).symm⟩, fun same => same.2 ▸ rfl⟩
  · rw [if_neg (mt (length_text_le_iff n).1 short)]
    exact iff_of_false nofun fun same => short same.1

theorem exists_text?_iff {n : Int} : (∃ s, text? n = .ok s) ↔ IsShort n := by
  simp [text?_eq_ok_iff]

theorem digit?_digitChar {d : Nat} (small : d < 10) : digit? d.digitChar = some d := by
  revert d
  decide

theorem isBlank_digitChar {d : Nat} (small : d < 10) : isBlank d.digitChar = false := by
  revert d
  decide

theorem value_concat (digits : List Nat) (d : Nat) : value (digits ++ [d]) = 10 * value digits + d := by
  rw [value, List.foldl_append]
  rfl

theorem value_eq_ofDigits (digits : List Nat) : value digits = Nat.ofDigits 10 digits.reverse := by
  rw [Nat.ofDigits_eq_foldr, List.foldr_reverse, value]
  congr 1
  funext n d
  simp [Nat.add_comm]

theorem exists_digits (n : Nat) :
    ∃ digits : List Nat, Nat.toDigits 10 n = digits.map Nat.digitChar ∧ (∀ d ∈ digits, d < 10) ∧
      value digits = n := by
  induction n using Nat.strongRecOn with
  | ind n ih =>
    rw [Nat.toDigits_eq_if (by decide)]
    by_cases small : n < 10
    · exact ⟨[n], by simp [small], by simpa using small, by simp [value]⟩
    · obtain ⟨digits, shown, areDigits, denote⟩ := ih (n / 10) (by omega)
      refine ⟨digits ++ [n % 10], by simp [small, shown], ?_, ?_⟩
      · intro d mem
        rcases List.mem_append.1 mem with mem | mem
        · exact areDigits d mem
        · obtain rfl := List.mem_singleton.1 mem
          exact Nat.mod_lt n (by decide)
      · rw [value_concat, denote]
        omega

theorem groupedDigits?_digitChar {digits : List Nat} (some : digits ≠ [])
    (areDigits : ∀ d ∈ digits, d < 10) :
    groupedDigits? (digits.map Nat.digitChar) = .some digits := by
  induction digits with
  | nil => exact absurd rfl some
  | cons d rest ih =>
    obtain ⟨small, areDigits⟩ := List.forall_mem_cons.1 areDigits
    cases rest with
    | nil => simp [groupedDigits?, digit?_digitChar small]
    | cons e rest =>
      have next : e.digitChar ≠ '_' := by
        intro same
        have read := digit?_digitChar (areDigits e List.mem_cons_self)
        have none : digit? '_' = .none := by decide
        rw [same, none] at read
        cases read
      have later := ih (List.cons_ne_nil _ _) areDigits
      simp only [List.map_cons] at later ⊢
      simp [groupedDigits?, next, digit?_digitChar small, later]

theorem magnitude?_digitChar {digits : List Nat} (some : digits ≠ [])
    (areDigits : ∀ d ∈ digits, d < 10) (short : digits.length ≤ digitLimit) :
    magnitude? (digits.map Nat.digitChar) = .some (value digits) := by
  rw [magnitude?, groupedDigits?_digitChar some areDigits]
  simp [short]

theorem length_toDigits_le {n : Nat} (short : n < Nat.pow 10 digitLimit) :
    (Nat.toDigits 10 n).length ≤ digitLimit := by
  have most (digits : Nat) (some : 0 < digits) :
      n < Nat.pow 10 digits → (Nat.toDigits 10 n).length ≤ digits :=
    (Nat.length_toDigits_le_iff (by decide) some).2
  exact most digitLimit (by decide) short

theorem magnitude?_toDigits {n : Nat} (short : n < Nat.pow 10 digitLimit) :
    magnitude? (Nat.toDigits 10 n) = some n := by
  have length := length_toDigits_le short
  obtain ⟨digits, shown, areDigits, denote⟩ := exists_digits n
  have nonempty : digits ≠ [] := by
    rintro rfl
    exact Nat.toDigits_ne_nil shown
  rw [shown, List.length_map] at length
  rw [shown, magnitude?_digitChar nonempty areDigits length, denote]

theorem toList_text (n : Int) :
    (text n).toList = (if n < 0 then ['-'] else []) ++ Nat.toDigits 10 n.natAbs := by
  cases n with
  | ofNat m => simp [text, Int.toString_eq_repr, Int.repr]
  | negSucc m => simp [text, Int.toString_eq_repr, Int.repr, Int.negSucc_lt_zero]

theorem toList_text_natCast (n : Nat) : (text n).toList = Nat.toDigits 10 n := by
  rw [toList_text, if_neg (Int.natCast_nonneg n).not_gt]
  rfl

theorem isWord_signed {sign : List Char} {digits : List Nat} (signs : ∀ c ∈ sign, c = '-')
    (some : digits ≠ []) (areDigits : ∀ d ∈ digits, d < 10) :
    IsWord (sign ++ digits.map Nat.digitChar) := by
  refine ⟨by simp [some], fun c mem => ?_⟩
  rcases List.mem_append.1 mem with sign | digit
  · rw [signs c sign]
    decide
  · obtain ⟨d, known, rfl⟩ := List.mem_map.1 digit
    exact isBlank_digitChar (areDigits d known)

theorem isWord_text (n : Int) : IsWord (text n).toList := by
  obtain ⟨digits, shown, areDigits, _⟩ := exists_digits n.natAbs
  have nonempty : digits ≠ [] := by
    rintro rfl
    exact Nat.toDigits_ne_nil shown
  rw [toList_text, shown]
  exact isWord_signed (by split <;> simp) nonempty areDigits

theorem integer?_digitChar {digits : List Nat} (areDigits : ∀ d ∈ digits, d < 10) :
    integer? (digits.map Nat.digitChar) =
      (magnitude? (digits.map Nat.digitChar)).map Int.ofNat := by
  have unsigned : ∀ c ∈ digits.map Nat.digitChar, digit? c ≠ none := by
    intro c mem
    obtain ⟨d, known, rfl⟩ := List.mem_map.1 mem
    rw [digit?_digitChar (areDigits d known)]
    exact Option.some_ne_none d
  unfold integer?
  split
  · next rest same => exact absurd (by decide) (unsigned '-' (by simp [same]))
  · next rest same => exact absurd (by decide) (unsigned '+' (by simp [same]))
  · rfl

theorem integer?_toDigits (n : Nat) :
    integer? (Nat.toDigits 10 n) = (magnitude? (Nat.toDigits 10 n)).map Int.ofNat := by
  obtain ⟨digits, shown, areDigits, _⟩ := exists_digits n
  rw [shown, integer?_digitChar areDigits]

theorem integer?_text {n : Int} (short : IsShort n) : integer? (text n).toList = some n := by
  have read := magnitude?_toDigits short
  rw [toList_text]
  by_cases negative : n < 0
  · have same : -(n.natAbs : Int) = n := by omega
    rw [if_pos negative, List.singleton_append, integer?, read]
    exact congrArg some same
  · have same : Int.ofNat n.natAbs = n := Int.natAbs_of_nonneg (by omega)
    rw [if_neg negative, List.nil_append, integer?_toDigits, read, Option.map_some, same]

theorem integerOr_text {default n : Int} (short : IsShort n) : integerOr default (text n) = n := by
  rw [integerOr, (isWord_text n).isTrimmed.stripChars, integer?_text short, Option.getD_some]

theorem digit?_lt {c : Char} {d : Nat} (read : digit? c = some d) : d < 10 := by
  obtain ⟨_, _, _, small⟩ := digit?_eq_some read
  exact small

theorem value_lt {digits : List Nat} (areDigits : ∀ d ∈ digits, d < 10) :
    value digits < Nat.pow 10 digits.length := by
  induction digits using List.reverseRecOn with
  | nil => exact Nat.one_pos
  | append_singleton rest d ih =>
    have small : d < 10 := areDigits d (by simp)
    have before := ih fun e mem => areDigits e (List.mem_append_left _ mem)
    rw [value_concat, List.length_append, List.length_singleton, Nat.pow_eq, Nat.pow_succ]
    rw [Nat.pow_eq] at before
    omega

theorem areDigits_of_groupedDigits? {s : List Char} {digits : List Nat}
    (read : groupedDigits? s = some digits) : ∀ d ∈ digits, d < 10 := by
  fun_induction groupedDigits? s generalizing digits with
  | case1 => cases read
  | case2 c =>
    obtain ⟨d, digit, rfl⟩ := Option.map_eq_some_iff.1 read
    simpa using digit?_lt digit
  | case3 c rest ih =>
    obtain ⟨d, digit, read⟩ := Option.bind_eq_some_iff.1 read
    obtain ⟨later, others, read⟩ := Option.bind_eq_some_iff.1 read
    cases read
    exact List.forall_mem_cons.2 ⟨digit?_lt digit, ih others⟩
  | case4 c rest _ _ ih =>
    obtain ⟨d, digit, read⟩ := Option.bind_eq_some_iff.1 read
    obtain ⟨later, others, read⟩ := Option.bind_eq_some_iff.1 read
    cases read
    exact List.forall_mem_cons.2 ⟨digit?_lt digit, ih others⟩

theorem magnitude?_lt {s : List Char} {n : Nat} (read : magnitude? s = some n) :
    n < Nat.pow 10 digitLimit := by
  obtain ⟨digits, grouped, read⟩ := Option.bind_eq_some_iff.1 read
  have most (bound : Nat) (few : digits.length ≤ bound) : value digits < Nat.pow 10 bound :=
    Nat.lt_of_lt_of_le (value_lt (areDigits_of_groupedDigits? grouped))
      (Nat.pow_le_pow_right (by decide) few)
  split at read
  · next few =>
    cases read
    exact most digitLimit few
  · cases read

/-- Whatever is read can be written. -/
theorem isShort_of_integer? {s : List Char} {n : Int} (read : integer? s = some n) : IsShort n := by
  unfold integer? at read
  split at read
  · obtain ⟨_, signed, rfl⟩ := Option.map_eq_some_iff.1 read
    obtain ⟨m, magnitude, same⟩ := Option.bind_eq_some_iff.1 signed
    cases same
    rw [IsShort, Int.natAbs_neg]
    exact magnitude?_lt magnitude
  · obtain ⟨m, magnitude, rfl⟩ := Option.map_eq_some_iff.1 read
    exact magnitude?_lt magnitude
  · obtain ⟨m, magnitude, rfl⟩ := Option.map_eq_some_iff.1 read
    exact magnitude?_lt magnitude

theorem isShort_integerOr {default : Int} (short : IsShort default) (s : String) :
    IsShort (integerOr default s) := by
  rw [integerOr]
  cases read : integer? (stripChars s.toList) with
  | none => exact short
  | some n => exact isShort_of_integer? read

theorem isShort_of_fewDigits {n : Int} {digits : Nat} (few : digits ≤ digitLimit)
    (small : n.natAbs < Nat.pow 10 digits) : IsShort n := by
  have most (bound : Nat) (few : digits ≤ bound) : n.natAbs < Nat.pow 10 bound :=
    Nat.lt_of_lt_of_le small (Nat.pow_le_pow_right (by decide) few)
  exact most digitLimit few

theorem isShort_of_oneDigit {n : Int} (small : n.natAbs < 10) : IsShort n :=
  isShort_of_fewDigits (show 1 ≤ digitLimit by decide) small

theorem isShort_zero : IsShort 0 := isShort_of_oneDigit (by decide)

/-- A numeral of as many digits as are read, the highest first; it may begin with zeros. -/
structure Decimal where
  isNegative : Bool
  digits : List Nat
  some : digits ≠ []
  areDigits : ∀ d ∈ digits, d < 10
  short : digits.length ≤ digitLimit

namespace Decimal

def letters (numeral : Decimal) : List Char :=
  (if numeral.isNegative then ['-'] else []) ++ numeral.digits.map Nat.digitChar

def value (numeral : Decimal) : Int :=
  if numeral.isNegative then -(Numeral.value numeral.digits : Int) else Numeral.value numeral.digits

theorem isWord_letters (numeral : Decimal) : IsWord numeral.letters :=
  isWord_signed (by split <;> simp) numeral.some numeral.areDigits

theorem integer?_letters (numeral : Decimal) : integer? numeral.letters = .some numeral.value := by
  have read := magnitude?_digitChar numeral.some numeral.areDigits numeral.short
  cases sign : numeral.isNegative with
  | true =>
    simp only [letters, value, sign, if_true, List.singleton_append, integer?, read]
    rfl
  | false =>
    have unsigned := integer?_digitChar numeral.areDigits
    simp only [letters, value, sign, Bool.false_eq_true, if_false, List.nil_append, unsigned, read]
    rfl

theorem integerOr_letters (numeral : Decimal) (default : Int) :
    integerOr default (String.ofList numeral.letters) = numeral.value := by
  rw [integerOr, String.toList_ofList, numeral.isWord_letters.isTrimmed.stripChars,
    numeral.integer?_letters, Option.getD_some]

end Decimal

end HostInventory.Numeral
