import HostInventory.Proofs.Number.Rounding
import HostInventory.Proofs.Number.Limits
import Mathlib.Algebra.Order.Field.Rat
import Mathlib.Data.Nat.Find
import Mathlib.Tactic.Linarith
import Mathlib.Tactic.NormNum

/-!
Sizes as they are shown: a decimal number of the largest unit that the size reaches. Main statement:
below `2 ^ 53` kilobytes the number that a text shows is the size to half of its last place, and a
larger size never shows a smaller number of kilobytes, not even in another unit.
-/
namespace HostInventory.Size

open Rounding

/-- The letters of the units, each of them 1024 of the one before. -/
def units : List Char := ['K', 'M', 'G', 'T', 'P']

/-- The number that digits and the digits of its places denote. -/
def ofPlaces (whole places : List Char) : ℚ :=
  Nat.ofDigitChars 10 (whole ++ places) 0 / 10 ^ places.length

/-- The number that a decimal text denotes: digits, with a point and more digits or without. -/
def decimal? (s : List Char) : Option ℚ :=
  let whole := s.takeWhile Char.isDigit
  if whole = [] then none
  else
    match s.dropWhile Char.isDigit with
    | [] => some (ofPlaces whole [])
    | '.' :: places =>
      if places ≠ [] ∧ places.all Char.isDigit then some (ofPlaces whole places) else none
    | _ => none

/-- The number and the unit that a text shows, spaces in front put aside. -/
def read? (shown : String) : Option (ℚ × Nat) := do
  let letter ← shown.toList.getLast?
  let unit ← units.idxOf? letter
  let number ← decimal? (shown.toList.dropLast.dropWhile (· == ' '))
  return (number, unit)

/-- A size is shown as a number of a unit. -/
def Shows (kilobytes : Nat) (number : ℚ) (unit : Nat) : Prop :=
  ∃ shown, format kilobytes = .ok shown ∧ read? shown = some (number, unit)

/-- The largest unit that a size reaches. -/
def unitOf (kilobytes : Nat) : Nat := Nat.findGreatest (fun k => 1024 ^ k ≤ kilobytes) 4

/-- A number of a unit tells a size, to half of the last place that is shown. -/
structure Tells (number : ℚ) (unit kilobytes : Nat) : Prop where
  largest : unit = unitOf kilobytes
  near : |number * 1024 ^ unit - kilobytes| ≤ 1024 ^ unit / 20
  exact : unit = 0 → number = kilobytes

variable {n k : Nat} {number : ℚ} {s : List Char}

theorem unitOf_spec (n : Nat) :
    unitOf n ≤ 4 ∧ (unitOf n ≠ 0 → 1024 ^ unitOf n ≤ n) ∧
      ∀ ⦃k⦄, unitOf n < k → k ≤ 4 → ¬ 1024 ^ k ≤ n :=
  Nat.findGreatest_eq_iff.mp rfl

theorem unitOf_mono {first second : Nat} (le : first ≤ second) : unitOf first ≤ unitOf second :=
  Nat.findGreatest_mono_left (fun _ reached => Nat.le_trans reached le) 4

theorem unitOf_eq (most : k ≤ 4) (reached : k ≠ 0 → 1024 ^ k ≤ n)
    (below : k < 4 → n < 1024 ^ (k + 1)) : unitOf n = k := by
  refine Nat.findGreatest_eq_iff.mpr ⟨most, reached, ?_⟩
  intro other above least
  refine Nat.not_le.mpr (Nat.lt_of_lt_of_le (below (Nat.lt_of_lt_of_le above least)) ?_)
  exact Nat.pow_le_pow_right (by decide) above

theorem takeWhile_toDigits (n : Nat) (stops : ∀ c ∈ s.head?, c.isDigit = false) :
    (Nat.toDigits 10 n ++ s).takeWhile Char.isDigit = Nat.toDigits 10 n ∧
      (Nat.toDigits 10 n ++ s).dropWhile Char.isDigit = s :=
  Text.takeWhile_append_stop
    (fun _ mem => Nat.isDigit_of_mem_toDigits (by decide) (by decide) mem) stops

theorem decimal?_toDigits (n : Nat) : decimal? (Nat.toDigits 10 n) = some (n : ℚ) := by
  have stops : ∀ c ∈ ([] : List Char).head?, c.isDigit = false := by
    rintro c ⟨⟩
  have parts := takeWhile_toDigits n stops
  rw [List.append_nil] at parts
  rw [decimal?, parts.1, parts.2, if_neg Nat.toDigits_ne_nil, ofPlaces, List.append_nil,
    Nat.ofDigitChars_ten_toDigits]
  simp

theorem toList_oneDecimal (tenths : Nat) :
    (oneDecimal tenths).toList =
      Nat.toDigits 10 (tenths / 10) ++ '.' :: [(tenths % 10).digitChar] := by
  have place : tenths % 10 < 10 := Nat.mod_lt tenths (by decide)
  simp [oneDecimal, Nat.toDigits_of_lt_base place]

theorem decimal?_oneDecimal (tenths : Nat) :
    decimal? (oneDecimal tenths).toList = some ((tenths : ℚ) / 10) := by
  have place : tenths % 10 < 10 := Nat.mod_lt tenths (by decide)
  have stops : ∀ c ∈ ('.' :: [(tenths % 10).digitChar]).head?, c.isDigit = false := by
    rintro c ⟨⟩
    decide
  have parts := takeWhile_toDigits (tenths / 10) stops
  have digit : [(tenths % 10).digitChar] ≠ [] ∧
      [(tenths % 10).digitChar].all Char.isDigit = true := by
    simp [Nat.isDigit_digitChar, place]
  have denote : Nat.ofDigitChars 10 (Nat.toDigits 10 (tenths / 10) ++ [(tenths % 10).digitChar]) 0 =
      tenths := by
    rw [Nat.ofDigitChars_append, Nat.ofDigitChars_ten_toDigits,
      Nat.ofDigitChars_cons_digitChar_of_lt_ten place, Nat.ofDigitChars_nil, Nat.div_add_mod]
  rw [toList_oneDecimal, decimal?, parts.1, parts.2, if_neg Nat.toDigits_ne_nil]
  change (if _ then some (ofPlaces _ _) else none) = _
  rw [if_pos digit, ofPlaces, denote]
  simp

theorem dropWhile_of_decimal? (read : decimal? s = some number) :
    s.dropWhile (· == ' ') = s := by
  cases s with
  | nil => rfl
  | cons c rest =>
    refine List.dropWhile_cons_of_neg ?_
    intro space
    obtain rfl : c = ' ' := by simpa using space
    rw [decimal?, List.takeWhile_cons_of_neg (by decide), if_pos rfl] at read
    cases read

theorem read?_padLeft {width unit : Nat} {body suffix : String} {letter : Char}
    (ends : suffix.toList = [letter]) (known : units.idxOf? letter = some unit)
    (read : decimal? body.toList = some number) :
    read? (padLeft width body ++ suffix) = some (number, unit) := by
  have text : (padLeft width body ++ suffix).toList =
      List.replicate (width - body.length) ' ' ++ body.toList ++ [letter] := by
    rw [padLeft, String.toList_append, String.toList_append, String.toList_ofList, ends]
  have spaces : ∀ c ∈ List.replicate (width - body.length) ' ', (c == ' ') = true := by
    intro c mem
    simpa using List.eq_of_mem_replicate mem
  simp only [read?, text, List.getLast?_concat, List.dropLast_concat, known,
    List.dropWhile_append_of_pos spaces, dropWhile_of_decimal? read, read, Option.bind_eq_bind,
    Option.bind_some, Option.pure_def]

theorem padLeft_zero (s : String) : padLeft 0 s = s := by
  rw [padLeft, Nat.zero_sub, List.replicate_zero, String.ofList_nil, String.empty_append]

theorem tenths_mul (count unit : Nat) : tenths (count * 1024 ^ unit) unit = 10 * count := by
  have some : 0 < Nat.pow 1024 unit := Nat.pow_pos (by decide)
  have exact := roundedQuotient_mul some (10 * count)
  rwa [Nat.mul_assoc] at exact

theorem tenths_zero (n : Nat) : tenths n 0 = 10 * n := by
  have exact := tenths_mul n 0
  rwa [Nat.pow_zero, Nat.mul_one] at exact

theorem number_kilobytes (n : Nat) : ((tenths n 0 : Nat) : ℚ) / 10 = n := by
  rw [tenths_zero, Nat.cast_mul]
  exact mul_div_cancel_left₀ _ (by norm_num)

theorem shows_kilobytes (few : n < 1024) : Shows n (tenths n 0 / 10) 0 := by
  have short : Numeral.IsShort n := by
    have small : (n : Int).natAbs < Nat.pow 10 4 := by
      rw [Int.natAbs_natCast]
      exact Nat.lt_trans few (by decide)
    exact Numeral.isShort_of_fewDigits (by decide) small
  have digits := Numeral.toList_text_natCast n
  refine ⟨padLeft 5 (Numeral.text n) ++ "K", ?_, ?_⟩
  · rw [format, if_pos (by omega), Numeral.text?_eq_ok_iff.mpr ⟨short, rfl⟩]
    rfl
  · rw [number_kilobytes]
    exact read?_padLeft (show "K".toList = ['K'] from rfl) rfl (digits ▸ decimal?_toDigits n)

theorem shows_tenths {width unit : Nat} {suffix : String} {letter : Char}
    (made : format n = .ok (padLeft width (oneDecimal (tenths n unit)) ++ suffix))
    (ends : suffix.toList = [letter]) (known : units.idxOf? letter = some unit) :
    Shows n (tenths n unit / 10) unit :=
  ⟨_, made, read?_padLeft ends known (decimal?_oneDecimal _)⟩

theorem format_of_large (large : 1024 ≤ n) (small : n < 2 ^ 53) :
    format n =
      if n < 1024 ^ 2 then .ok (padLeft 5 (oneDecimal (tenths n 1)) ++ "M")
      else if n < 1024 ^ 3 then .ok (padLeft 5 (oneDecimal (tenths n 2)) ++ "G")
      else if n < 1024 ^ 4 then .ok (padLeft 5 (oneDecimal (tenths n 3)) ++ "T")
      else .ok (oneDecimal (tenths n 4) ++ "P") := by
  have fits : ¬ bound ≤ n := by
    have power : 2 ^ 53 ≤ 2 ^ topBit := Nat.pow_le_pow_right (by decide) (by decide)
    rw [bound_eq]
    omega
  rw [format, if_neg (by omega), Int.toNat_natCast]
  simp only [toSignificand_eq_self small, if_neg fits]
  rfl

/-- Every size that is a binary64 number is shown in the largest unit that it reaches. -/
theorem shows_unitOf (small : n < 2 ^ 53) : Shows n (tenths n (unitOf n) / 10) (unitOf n) := by
  by_cases kilo : n < 1024
  · rw [unitOf_eq (Nat.zero_le 4) nofun fun _ => kilo]
    exact shows_kilobytes kilo
  have made := format_of_large (Nat.not_lt.mp kilo) small
  by_cases mega : n < 1024 ^ 2
  · rw [if_pos mega] at made
    rw [unitOf_eq (show 1 ≤ 4 by decide) (fun _ => Nat.not_lt.mp kilo) fun _ => mega]
    exact shows_tenths made rfl rfl
  by_cases giga : n < 1024 ^ 3
  · rw [if_neg mega, if_pos giga] at made
    rw [unitOf_eq (show 2 ≤ 4 by decide) (fun _ => Nat.not_lt.mp mega) fun _ => giga]
    exact shows_tenths made rfl rfl
  by_cases tera : n < 1024 ^ 4
  · rw [if_neg mega, if_neg giga, if_pos tera] at made
    rw [unitOf_eq (show 3 ≤ 4 by decide) (fun _ => Nat.not_lt.mp giga) fun _ => tera]
    exact shows_tenths made rfl rfl
  · rw [if_neg mega, if_neg giga, if_neg tera, ← padLeft_zero (oneDecimal _)] at made
    rw [unitOf_eq (Nat.le_refl 4) (fun _ => Nat.not_lt.mp tera) nofun]
    exact shows_tenths made rfl rfl

theorem eq_of_shows {unit : Nat} (small : n < 2 ^ 53) (shows : Shows n number unit) :
    number = (tenths n (unitOf n) : ℚ) / 10 ∧ unit = unitOf n := by
  obtain ⟨shown, made, read⟩ := shows
  obtain ⟨other, same, known⟩ := shows_unitOf small
  rw [made] at same
  obtain rfl := Except.ok.inj same
  rw [read] at known
  exact Prod.mk.inj (Option.some.inj known)

theorem abs_tenths_sub_le (n unit : Nat) :
    |(tenths n unit : ℚ) / 10 * 1024 ^ unit - n| ≤ 1024 ^ unit / 20 := by
  have some : 0 < Nat.pow 1024 unit := Nat.pow_pos (by decide)
  obtain ⟨least, most⟩ := roundedQuotient_near some (10 * n)
  have below : 2 * (10 * (n : ℚ)) ≤ 2 * (tenths n unit * 1024 ^ unit) + 1024 ^ unit := by
    exact_mod_cast least
  have above : 2 * (tenths n unit * 1024 ^ unit) ≤ 2 * (10 * (n : ℚ)) + 1024 ^ unit := by
    exact_mod_cast most
  refine abs_le.mpr ⟨?_, ?_⟩
  · linarith
  · linarith

theorem tells_unitOf (n : Nat) : Tells (tenths n (unitOf n) / 10) (unitOf n) n where
  largest := rfl
  near := abs_tenths_sub_le n (unitOf n)
  exact kilo := by
    rw [kilo]
    exact number_kilobytes n

theorem tenths_mono {first second : Nat} (le : first ≤ second) (unit : Nat) :
    tenths first unit ≤ tenths second unit :=
  roundedQuotient_mono (Nat.mul_le_mul_left 10 le) _

/-- Just below the next unit 1024.0 may be shown, but never more. -/
theorem tenths_le {unit : Nat} (below : n < 1024 ^ (unit + 1)) : tenths n unit ≤ 10 * 1024 := by
  rw [Nat.pow_succ, Nat.mul_comm] at below
  rw [← tenths_mul 1024 unit]
  exact tenths_mono (Nat.le_of_lt below) unit

theorem le_tenths {unit : Nat} (reached : 1024 ^ unit ≤ n) : 10 ≤ tenths n unit := by
  rw [← Nat.one_mul (1024 ^ unit)] at reached
  calc 10 = tenths (1 * 1024 ^ unit) unit := (tenths_mul 1 unit).symm
    _ ≤ tenths n unit := tenths_mono reached unit

/-- In the same unit rounding keeps the order; where the unit changes, the first number of the next
unit stands between the two. -/
theorem shown_mono {first second : Nat} (le : first ≤ second) :
    tenths first (unitOf first) * 1024 ^ unitOf first ≤
      tenths second (unitOf second) * 1024 ^ unitOf second := by
  obtain ⟨most, reached, _⟩ := unitOf_spec second
  rcases Nat.lt_or_eq_of_le (unitOf_mono le) with less | same
  · have below : first < 1024 ^ (unitOf first + 1) :=
      Nat.not_le.mp ((unitOf_spec first).2.2 (Nat.lt_succ_self _) (Nat.le_trans less most))
    have start : 1024 ^ unitOf second ≤ second := reached (Nat.ne_of_gt (Nat.zero_lt_of_lt less))
    calc tenths first (unitOf first) * 1024 ^ unitOf first
        ≤ 10 * 1024 * 1024 ^ unitOf first := Nat.mul_le_mul_right _ (tenths_le below)
      _ = 10 * 1024 ^ (unitOf first + 1) := by rw [Nat.pow_succ, Nat.mul_assoc, Nat.mul_comm 1024]
      _ ≤ 10 * 1024 ^ unitOf second :=
        Nat.mul_le_mul_left 10 (Nat.pow_le_pow_right (by decide) less)
      _ ≤ tenths second (unitOf second) * 1024 ^ unitOf second :=
        Nat.mul_le_mul_right _ (le_tenths start)
  · rw [same]
    exact Nat.mul_le_mul_right _ (tenths_mono le _)

/-- A size below `2 ^ 53` is shown as a number that is right to half of its last place, in the largest
unit that it reaches, and a larger size is shown as no less. -/
theorem tells_and_keeps_order :
    (∀ kilobytes < 2 ^ 53, ∃ number unit, Shows kilobytes number unit ∧
      Tells number unit kilobytes) ∧
    ∀ (first second : Nat) (firstNumber secondNumber : ℚ) (firstUnit secondUnit : Nat),
      first ≤ second → second < 2 ^ 53 → Shows first firstNumber firstUnit →
        Shows second secondNumber secondUnit →
          firstNumber * 1024 ^ firstUnit ≤ secondNumber * 1024 ^ secondUnit := by
  refine ⟨?_, ?_⟩
  · intro kilobytes small
    exact ⟨_, _, shows_unitOf small, tells_unitOf kilobytes⟩
  · intro first second firstNumber secondNumber firstUnit secondUnit le small showsFirst showsSecond
    obtain ⟨rfl, rfl⟩ := eq_of_shows (Nat.lt_of_le_of_lt le small) showsFirst
    obtain ⟨rfl, rfl⟩ := eq_of_shows small showsSecond
    have order : (tenths first (unitOf first) : ℚ) * 1024 ^ unitOf first ≤
        tenths second (unitOf second) * 1024 ^ unitOf second := by
      exact_mod_cast shown_mono le
    linarith

/-- The last size of a unit is rounded up to the first of the next one, and not beyond it. -/
theorem tells_and_keeps_order_lastMegabyte :
    ∃ first second, Shows 1048575 first 1 ∧ Shows 1048576 second 2 ∧ Tells first 1 1048575 ∧
      first * 1024 ^ 1 ≤ second * 1024 ^ 2 := by
  obtain ⟨first, firstUnit, showsFirst, tells⟩ := tells_and_keeps_order.1 1048575 (by decide)
  obtain ⟨second, secondUnit, showsSecond, tellsSecond⟩ :=
    tells_and_keeps_order.1 1048576 (by decide)
  have mega : firstUnit = 1 := tells.largest.trans (by decide +kernel)
  have giga : secondUnit = 2 := tellsSecond.largest.trans (by decide +kernel)
  subst mega giga
  refine ⟨first, second, showsFirst, showsSecond, tells, ?_⟩
  exact tells_and_keeps_order.2 1048575 1048576 first second 1 2 (by decide) (by decide) showsFirst
    showsSecond

end HostInventory.Size
