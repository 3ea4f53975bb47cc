import HostInventory.Failure
import HostInventory.Number.Numeral

/-!
Binary64 numbers as texts and as integers, in exact arithmetic: written with the fewest digits that
read back, read from decimal notation, cut to an integer. Ties go to the even number.
-/
namespace HostInventory.Rounding

def roundedQuotient (num den : Nat) : Nat :=
  let down := num / den
  let left := num % den
  if 2 * left > den ∨ (2 * left = den ∧ down % 2 = 1) then down + 1 else down

/-- The nearest number whose binary form has at most 53 digits before its closing zeros. -/
def toSignificand (n : Nat) : Nat :=
  let excess := n.log2 + 1 - 53
  roundedQuotient n (Nat.pow 2 excess) * Nat.pow 2 excess

end HostInventory.Rounding

namespace HostInventory.Shortest

/-- A positive number `significand * 2 ^ exponent`. The gap to the number below is half the gap to
the one above when `narrow` holds. -/
structure Binary where
  significand : Nat
  exponent : Int
  narrow : Bool

def Binary.ofBits (bits : UInt64) : Binary :=
  let field := (bits.toNat >>> 52) % 2048
  let fraction := bits.toNat % Nat.pow 2 52
  if field = 0 then ⟨fraction, -1074, false⟩
  else ⟨Nat.pow 2 52 + fraction, (field : Int) - 1075, fraction = 0 ∧ 1 < field⟩

structure Decimal where
  digits : Nat
  exponent : Int

/-- Compares `digits * 10 ^ e` with a quarter of `quarters * 2 ^ q`. -/
def compareQuarters (digits : Nat) (e : Int) (quarters : Nat) (q : Int) : Ordering :=
  compare (digits * Nat.pow 10 e.toNat * Nat.pow 2 (2 - q).toNat)
    (quarters * Nat.pow 2 (q - 2).toNat * Nat.pow 10 (-e).toNat)

/-- Whether a decimal lies among the reals that round to `x`; the two ends do when the significand
is even. -/
def Binary.holds (x : Binary) (d : Decimal) : Bool :=
  let low := compareQuarters d.digits d.exponent
    (4 * x.significand - if x.narrow then 1 else 2) x.exponent
  let high := compareQuarters d.digits d.exponent (4 * x.significand + 2) x.exponent
  let ends := x.significand % 2 == 0
  (low == .gt || (ends && low == .eq)) && (high == .lt || (ends && high == .eq))

/-- The multiple of `10 ^ e` just below `x`, as digits. -/
def Binary.below (x : Binary) (e : Int) : Nat :=
  (x.significand * Nat.pow 2 x.exponent.toNat * Nat.pow 10 (-e).toNat) /
    (Nat.pow 2 (-x.exponent).toNat * Nat.pow 10 e.toNat)

/-- The least `k` with `x < 10 ^ k`, looked for around an estimate from the binary logarithm. -/
def Binary.scale (x : Binary) : Int :=
  let log := (x.significand.log2 : Int) + x.exponent
  let guess := Int.fdiv (log * 30103) 100000
  (([guess - 1, guess, guess + 1].find? fun k =>
    compareQuarters 1 k (4 * x.significand) x.exponent == .gt)).getD (guess + 2)

/-- Of the two multiples of `10 ^ e` around `x`, the one that reads back; of two, the nearer, and
the even one of two that are equally near. -/
def Binary.onGrid? (x : Binary) (e : Int) : Option Decimal :=
  let down : Decimal := ⟨x.below e, e⟩
  let up : Decimal := ⟨x.below e + 1, e⟩
  match x.holds down, x.holds up with
  | false, false => none
  | true, false => some down
  | false, true => some up
  | true, true =>
    match compareQuarters (2 * down.digits + 1) e (8 * x.significand) x.exponent with
    | .gt => some down
    | .lt => some up
    | .eq => some (if down.digits % 2 = 0 then down else up)

/-- The decimal without the zeros at the end of its digits, as far as `fuel` reaches. -/
def Decimal.trim : Nat → Decimal → Decimal
  | 0, d => d
  | fuel + 1, d =>
    if d.digits ≠ 0 ∧ d.digits % 10 = 0 then trim fuel ⟨d.digits / 10, d.exponent + 1⟩ else d

/-- The shortest decimal of `x`; seventeen digits always suffice. -/
def Binary.shortest (x : Binary) : Decimal :=
  let k := x.scale
  let found := (List.range 17).findSome? fun (n : Nat) => x.onGrid? (k - (n + 1))
  (found.getD ⟨x.below (k - 17), k - 17⟩).trim 20

end HostInventory.Shortest

namespace HostInventory.FloatText

open Text

def isNegative (x : Float) : Bool := Nat.pow 2 63 ≤ x.toBits.toNat

def zeros (n : Int) : String := String.ofList (List.replicate n.toNat '0')

def exponentText (e : Int) : String :=
  let digits := toString e.natAbs
  (if e < 0 then "-" else "+") ++ (if digits.length < 2 then "0" ++ digits else digits)

/-- Positional notation with a point from `10 ^ -4` to below `10 ^ 16`, else scientific. -/
def layout (d : Shortest.Decimal) : String :=
  let digits := toString d.digits
  let point := d.exponent + digits.length
  if -4 < point ∧ point ≤ 16 then
    if point ≤ 0 then "0." ++ zeros (-point) ++ digits
    else if digits.length ≤ point then digits ++ zeros (point - digits.length) ++ ".0"
    else
      String.ofList (digits.toList.take point.toNat) ++ "." ++
        String.ofList (digits.toList.drop point.toNat)
  else
    let rest := digits.toList.drop 1
    let fraction := if rest.isEmpty then "" else "." ++ String.ofList rest
    String.ofList (digits.toList.take 1) ++ fraction ++ "e" ++ exponentText (point - 1)

def text (x : Float) : String :=
  if x.isNaN then "nan"
  else
    let shown :=
      if x.isInf then "inf"
      else if x == 0 then "0.0"
      else layout (Shortest.Binary.ofBits x.toBits).shortest
    if isNegative x then "-" ++ shown else shown

def truncate (x : Float) : Except Failure Int :=
  if x.isNaN then .error .notANumber
  else if x.isInf then .error .infinite
  else
    let b := Shortest.Binary.ofBits x.toBits
    let n : Int := (b.significand * Nat.pow 2 b.exponent.toNat) / Nat.pow 2 (-b.exponent).toNat
    .ok (if isNegative x then -n else n)

/-- The number nearest to `digits * 10 ^ e`. Exponents beyond the format are settled first. -/
def ofDecimal (digits : Nat) (e : Int) : Float :=
  let top := e + (toString digits).length
  if digits = 0 then 0
  else if 400 < top then 1 / 0
  else if top < -400 then 0
  else Float.ofScientific digits (decide (e < 0)) e.natAbs

def plainDigit (c : Char) : Char :=
  match digit? c with
  | some d => Nat.digitChar d
  | none => c

/-- Blanks around a number: those of every script, but no information separators. -/
def isMargin (c : Char) : Bool := isBlank c && !(0x1C ≤ c.toNat && c.toNat ≤ 0x1F)

/-- Takes out underscores that stand between two digits; any other is refused. -/
def dropUnderscores : Option Char → List Char → Option (List Char)
  | some '_', [] => none
  | _, [] => some []
  | last, '_' :: rest =>
    if (last.map Char.isDigit).getD false then dropUnderscores (some '_') rest else none
  | last, c :: rest =>
    if last = some '_' ∧ !c.isDigit then none
    else (dropUnderscores (some c) rest).map (c :: ·)

def takeSign : List Char → Bool × List Char
  | '-' :: rest => (true, rest)
  | '+' :: rest => (false, rest)
  | s => (false, s)

def digitsValue (s : List Char) : Nat := Numeral.value (s.filterMap digit?)

/-- The exponent at the end of a number: nothing, or `e` and an integer. -/
def exponent? : List Char → Option Int
  | [] => some 0
  | c :: rest =>
    if c = 'e' ∨ c = 'E' then
      let (negative, digits) := takeSign rest
      if digits.isEmpty || !digits.all Char.isDigit then none
      else some (if negative then -(digitsValue digits : Int) else digitsValue digits)
    else none

def unsigned? (s : List Char) : Option Float :=
  let name := String.ofList (s.map Char.toLower)
  if name = "inf" ∨ name = "infinity" then some (1 / 0)
  else if name = "nan" then some (0 / 0)
  else
    let whole := s.takeWhile Char.isDigit
    let rest := s.dropWhile Char.isDigit
    let (part, rest) :=
      match rest with
      | '.' :: more => (more.takeWhile Char.isDigit, more.dropWhile Char.isDigit)
      | _ => ([], rest)
    if whole.isEmpty && part.isEmpty then none
    else (exponent? rest).map fun e => ofDecimal (digitsValue (whole ++ part)) (e - part.length)

def read? (s : String) : Option Float := do
  let inner := dropTrailing isMargin (s.toList.dropWhile isMargin)
  let plain ← dropUnderscores none (inner.map plainDigit)
  let (negative, magnitude) := takeSign plain
  let x ← unsigned? magnitude
  return if negative then -x else x

end HostInventory.FloatText
