import HostInventory.Number.Binary64
import HostInventory.Outside.Octets

/-!
Numbers as programs outside read and write them: whole numbers in several bases, and binary numbers
of any format, rounded to the nearest and written with a given number of places.
-/
namespace HostInventory

structure BinaryFormat where
  precision : Nat
  least : Int
  bound : Nat
  /-- How many digits of a significand stand before the point in hexadecimal notation. -/
  leading : Nat

namespace BinaryFormat

def double : BinaryFormat := ⟨53, -1074, 1024, 1⟩

def extended : BinaryFormat := ⟨64, -16445, 16384, 4⟩

end BinaryFormat

inductive Magnitude where
  | finite (significand : Nat) (exponent : Int)
  | infinite
  | undefined
  deriving DecidableEq, Repr

structure BinaryNumber where
  negative : Bool := false
  magnitude : Magnitude
  deriving DecidableEq, Repr

namespace BinaryFormat

open Rounding

/-- The exponent with which a positive fraction has a significand of full length. -/
def exponentFor (format : BinaryFormat) (num den : Nat) : Int :=
  let log := (num.log2 : Int) - den.log2
  let reaches := den * Nat.pow 2 log.toNat ≤ num * Nat.pow 2 (-log).toNat
  max format.least (log - format.precision + if reaches then 1 else 0)

/-- The number nearest to a fraction. The flag tells whether the format was too narrow for it: the
number is infinite, or lost digits because it is so small. -/
def nearest (format : BinaryFormat) (num den : Nat) : Magnitude × Bool :=
  if num = 0 then (.finite 0 0, false)
  else
    let e := format.exponentFor num den
    let scaled := num * Nat.pow 2 (-e).toNat
    let unit := den * Nat.pow 2 e.toNat
    let significand := roundedQuotient scaled unit
    if (format.bound : Int) ≤ significand.log2 + e then (.infinite, true)
    else
      (.finite significand e,
        decide (significand < Nat.pow 2 (format.precision - 1)) && scaled % unit != 0)

def ofDecimal (format : BinaryFormat) (digits : Nat) (e : Int) : Magnitude × Bool :=
  let top := e + (Nat.toDigits 10 digits).length
  if digits = 0 then (.finite 0 0, false)
  else if 6000 < top then (.infinite, true)
  else if top < -6000 then (.finite 0 0, true)
  else format.nearest (digits * Nat.pow 10 e.toNat) (Nat.pow 10 (-e).toNat)

def ofBinary (format : BinaryFormat) (digits : Nat) (e : Int) : Magnitude × Bool :=
  let top := e + digits.log2
  if digits = 0 then (.finite 0 0, false)
  else if 20000 < top then (.infinite, true)
  else if top < -20000 then (.finite 0 0, true)
  else format.nearest (digits * Nat.pow 2 e.toNat) (Nat.pow 2 (-e).toNat)

end BinaryFormat

namespace Places

open Rounding

def fraction (significand : Nat) (exponent : Int) : Nat × Nat :=
  (significand * Nat.pow 2 exponent.toNat, Nat.pow 2 (-exponent).toNat)

def padded (width base n : Nat) : List Char :=
  let digits := Nat.toDigits base n
  List.replicate (width - digits.length) '0' ++ digits

/-- Digits with a point before the last `places`; without places the point is there on demand. -/
def pointed (showPoint : Bool) (places : Nat) (digits : List Char) : List Char :=
  let whole := digits.take (digits.length - places)
  if places = 0 then if showPoint then whole ++ ['.'] else whole
  else whole ++ '.' :: digits.drop (digits.length - places)

def fixed (showPoint : Bool) (places num den : Nat) : List Char :=
  pointed showPoint places
    (padded (places + 1) 10 (roundedQuotient (num * Nat.pow 10 places) den))

/-- The decimal exponent of a positive fraction, looked for around an estimate from the binary
logarithm. -/
def decimalExponent (num den : Nat) : Int :=
  let log := (num.log2 : Int) - den.log2
  let guess := Int.fdiv (log * 30103) 100000
  let reaches (e : Int) : Bool :=
    decide (den * Nat.pow 10 e.toNat ≤ num * Nat.pow 10 (-e).toNat)
  (([guess + 2, guess + 1, guess, guess - 1].find? reaches)).getD (guess - 2)

/-- The digits of a fraction in scientific notation, `places` of them after the first, and the
exponent. -/
def scientificDigits (places num den : Nat) : Nat × Int :=
  if num = 0 then (0, 0)
  else
    let e := decimalExponent num den
    let shift := (places : Int) - e
    let rounded := roundedQuotient (num * Nat.pow 10 shift.toNat) (den * Nat.pow 10 (-shift).toNat)
    if rounded = Nat.pow 10 (places + 1) then (Nat.pow 10 places, e + 1) else (rounded, e)

def signedExponent (width : Nat) (e : Int) : List Char :=
  (if e < 0 then '-' else '+') :: padded width 10 e.natAbs

def scientific (showPoint : Bool) (places num den : Nat) : List Char :=
  let (digits, e) := scientificDigits places num den
  pointed showPoint places (padded (places + 1) 10 digits) ++ 'e' :: signedExponent 2 e

def trimmed (s : List Char) : List Char :=
  if s.contains '.' then
    let short := (s.reverse.dropWhile (· == '0'))
    (if short.head? == some '.' then short.drop 1 else short).reverse
  else s

/-- So many digits in the notation that suits the size of the number; zeros at the end of a fraction
stay on demand. -/
def general (keepZeros : Bool) (count num den : Nat) : List Char :=
  let count := max count 1
  let e := (scientificDigits (count - 1) num den).2
  if -4 ≤ e ∧ e < count then
    let s := fixed keepZeros ((count : Int) - 1 - e).toNat num den
    if keepZeros then s else trimmed s
  else
    let s := scientific keepZeros (count - 1) num den
    if keepZeros then s
    else trimmed (s.takeWhile (· != 'e')) ++ s.dropWhile (· != 'e')

/-- Hexadecimal notation with a binary exponent; without a number of places, as many as are
needed. -/
def hexadecimal (format : BinaryFormat) (showPoint : Bool) (places : Option Nat)
    (significand : Nat) (exponent : Int) : List Char :=
  if significand = 0 then
    pointed showPoint (places.getD 0) (List.replicate (places.getD 0 + 1) '0') ++ ['p', '+', '0']
  else
    let missing := (format.precision : Int) - 1 - significand.log2
    let full := significand * Nat.pow 2 missing.toNat / Nat.pow 2 (-missing).toNat
    let most := (format.precision - format.leading) / 4
    let e := exponent - missing + 4 * most
    let digits := padded (most + 1) 16 full
    let (shown, e) :=
      match places with
      | none =>
        let short := (digits.reverse.dropWhile (· == '0')).reverse
        (pointed showPoint (short.length - 1) short, e)
      | some places =>
        if most ≤ places then
          (pointed showPoint places (digits ++ List.replicate (places - most) '0'), e)
        else
          let rounded := roundedQuotient full (Nat.pow 16 (most - places))
          let (rounded, e) :=
            if rounded = Nat.pow 16 (places + 1) then (rounded / 16, e + 4) else (rounded, e)
          (pointed showPoint places (padded (places + 1) 16 rounded), e)
    shown ++ 'p' :: (if e < 0 then '-' else '+') :: Nat.toDigits 10 e.natAbs

end Places

end HostInventory

namespace HostInventory.Numeric

open Octets

inductive Fault where
  | outOfRange
  | notNumeric
  | incomplete
  deriving DecidableEq, Repr

structure Reading (α : Type) where
  value : α
  fault : Option Fault := none

def takeSign : List Char → Bool × List Char
  | '-' :: rest => (true, rest)
  | '+' :: rest => (false, rest)
  | s => (false, s)

/-- What is wrong when a number ends before `rest`; out of range goes before all else if
`rangeFirst`. -/
def faultOf (rangeFirst : Bool) (argument rest : List Char) (outOfRange began : Bool) :
    Option Fault :=
  let left : Option Fault :=
    if rest.isEmpty then none
    else if !began && !argument.isEmpty then some .notNumeric
    else some .incomplete
  if outOfRange && (rangeFirst || left.isNone) then some .outOfRange else left

/-- Digits in the base that their first characters say: `0x` sixteen, `0b` two, `0` eight, else ten.
`none` when there is no digit. -/
def unsigned (s : List Char) : Option Nat × List Char :=
  match s with
  | '0' :: x :: rest =>
    let (found, after) := digits hex? rest
    let (bits, afterBits) := digits binary? rest
    if (x == 'x' || x == 'X') && !found.isEmpty then (some (value 16 found), after)
    else if (x == 'b' || x == 'B') && !bits.isEmpty then (some (value 2 bits), afterBits)
    else
      let (found, after) := digits octal? (x :: rest)
      (some (value 8 found), after)
  | ['0'] => (some 0, [])
  | _ =>
    let (found, after) := digits decimal? s
    (if found.isEmpty then none else some (value 10 found), after)

/-- An integer between two bounds, the nearer of which stands for one beyond them. -/
def clamped (rangeFirst : Bool) (low high : Int) (argument : List Char) : Reading Int :=
  let (negative, body) := takeSign (argument.dropWhile isBlank)
  match unsigned body with
  | (none, _) => ⟨0, faultOf rangeFirst argument argument false false⟩
  | (some n, rest) =>
    let n : Int := if negative then -n else n
    let outOfRange := n < low || high < n
    ⟨max low (min high n), faultOf rangeFirst argument rest outOfRange true⟩

def signed (rangeFirst : Bool) (argument : List Char) : Reading Int :=
  clamped rangeFirst (-(Nat.pow 2 63 : Nat)) ((Nat.pow 2 63 : Nat) - 1) argument

def wrapped (rangeFirst : Bool) (argument : List Char) : Reading Int :=
  let most : Int := (Nat.pow 2 64 : Nat) - 1
  let reading := clamped rangeFirst (-most) most argument
  if reading.fault = some .outOfRange then { reading with value := most }
  else { reading with value := reading.value % (Nat.pow 2 64 : Nat) }

def exponent (letter : Char) (s : List Char) : Int × List Char :=
  match s with
  | c :: rest =>
    if c.toLower == letter then
      let (negative, body) := takeSign rest
      let (found, after) := digits decimal? body
      if found.isEmpty then (0, s)
      else (if negative then -(value 10 found : Int) else value 10 found, after)
    else (0, s)
  | [] => (0, [])

def pointed (digit? : Char → Option Nat) (s : List Char) : List Nat × List Nat × List Char :=
  let (whole, rest) := digits digit? s
  match rest with
  | '.' :: more =>
    let (part, after) := digits digit? more
    if whole.isEmpty && part.isEmpty then (whole, [], rest) else (whole, part, after)
  | _ => (whole, [], rest)

def afterWord? (word : String) (s : List Char) : Option (List Char) :=
  if word.toList.isPrefixOf ((s.take word.length).map Char.toLower) then some (s.drop word.length)
  else none

def dropRemark (s : List Char) : List Char :=
  match s with
  | '(' :: rest =>
    match rest.dropWhile isNameChar with
    | ')' :: after => after
    | _ => s
  | _ => s

/-- A magnitude, whether the format was too narrow for it, and the rest. -/
def magnitude? (format : BinaryFormat) (s : List Char) :
    Option ((Magnitude × Bool) × List Char) :=
  match afterWord? "infinity" s, afterWord? "inf" s, afterWord? "nan" s with
  | some rest, _, _ | none, some rest, _ => some ((.infinite, false), rest)
  | _, _, some rest => some ((.undefined, false), dropRemark rest)
  | none, none, none =>
    let hexadecimal :=
      match s with
      | '0' :: x :: rest =>
        let (whole, part, after) := pointed hex? rest
        if (x == 'x' || x == 'X') && !(whole.isEmpty && part.isEmpty) then
          let (e, after) := exponent 'p' after
          some (format.ofBinary (value 16 (whole ++ part)) (e - 4 * part.length), after)
        else none
      | _ => none
    match hexadecimal with
    | some found => some found
    | none =>
      let (whole, part, after) := pointed decimal? s
      if whole.isEmpty && part.isEmpty then none
      else
        let (e, after) := exponent 'e' after
        some (format.ofDecimal (value 10 (whole ++ part)) (e - part.length), after)

def real (rangeFirst : Bool) (format : BinaryFormat) (argument : List Char) :
    Reading BinaryNumber :=
  let (negative, body) := takeSign (argument.dropWhile isBlank)
  match magnitude? format body with
  | none => ⟨⟨false, .finite 0 0⟩, faultOf rangeFirst argument argument false false⟩
  | some ((magnitude, outOfRange), rest) =>
    ⟨⟨negative, magnitude⟩, faultOf rangeFirst argument rest outOfRange true⟩

end HostInventory.Numeric
