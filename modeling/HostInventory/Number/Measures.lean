import HostInventory.Number.Binary64
import HostInventory.Number.Numeral

/-!
Sizes, durations and dates as texts. A size is a number and the largest of the units K, M, G, T, P
in which it is not below one. A duration is read as `[[days-]hours:]minutes:seconds[.fraction]`,
where a lone number is seconds and fractions are dropped, and written as `hh:mm:ss` behind its days.
A date is that of the Gregorian calendar, extended to all years, at the meridian of Greenwich.
-/
namespace HostInventory.Size

open Rounding

def padLeft (width : Nat) (s : String) : String :=
  String.ofList (List.replicate (width - s.length) ' ') ++ s

/-- A number of units as tenths: what `n` kilobytes are in the unit of `1024 ^ k` kilobytes. -/
def tenths (n k : Nat) : Nat := roundedQuotient (10 * n) (Nat.pow 1024 k)

def oneDecimal (t : Nat) : String := toString (t / 10) ++ "." ++ toString (t % 10)

/-- The largest size whose quotients are binary64 numbers lies below this bound. -/
def bound : Nat := Nat.pow 2 1034

/-- Sizes from 1024 on are first taken to the nearest binary64 number; the text is then exact to
the place it shows, a tie to the even digit. -/
def format (kilobytes : Int) : Except Failure String :=
  if kilobytes < 1024 then do
    let shown ← Numeral.text? kilobytes
    return padLeft 5 shown ++ "K"
  else
    let n := toSignificand kilobytes.toNat
    if bound ≤ n then .error .sizeTooLarge
    else if n < Nat.pow 1024 2 then .ok (padLeft 5 (oneDecimal (tenths n 1)) ++ "M")
    else if n < Nat.pow 1024 3 then .ok (padLeft 5 (oneDecimal (tenths n 2)) ++ "G")
    else if n < Nat.pow 1024 4 then .ok (padLeft 5 (oneDecimal (tenths n 3)) ++ "T")
    else .ok (oneDecimal (tenths n 4) ++ "P")

end HostInventory.Size

namespace HostInventory.Duration

open Text

/-- The digits of the fields of a duration; a field that is absent has none. -/
structure Fields where
  days : List Nat
  hours : List Nat
  minutes : List Nat
  seconds : List Nat
  deriving DecidableEq, Repr

def digitRun (s : List Char) : List Nat × List Char :=
  ((s.takeWhile isDigit).filterMap digit?, s.dropWhile isDigit)

/-- What may follow the seconds: nothing, or a point and one digit or more. -/
def isFraction : List Char → Bool
  | [] => true
  | '.' :: digits => !digits.isEmpty && digits.all isDigit
  | _ => false

/-- One to three runs of digits with colons between them, and a fraction. -/
def clock? (days : List Nat) (s : List Char) : Option Fields :=
  let (first, rest) := digitRun s
  if first.isEmpty then none else
  match rest with
  | ':' :: rest =>
    let (second, rest) := digitRun rest
    if second.isEmpty then none else
    match rest with
    | ':' :: rest =>
      let (third, rest) := digitRun rest
      if third.isEmpty then none
      else if isFraction rest then some ⟨days, first, second, third⟩ else none
    | rest => if isFraction rest then some ⟨days, [], first, second⟩ else none
  | rest => if isFraction rest then some ⟨days, [], [], first⟩ else none

def fields? (s : List Char) : Option Fields :=
  let (first, rest) := digitRun s
  match rest with
  | '-' :: rest => if first.isEmpty then none else clock? first rest
  | _ => clock? [] s

/-- The number in one field: nothing counts as zero, and a long run of digits is refused. -/
def fieldValue (digits : List Nat) : Except Failure Int :=
  if digits.length ≤ Numeral.digitLimit then .ok (Numeral.value digits)
  else .error (.tooManyDigits digits.length)

def Fields.seconds? (f : Fields) : Except Failure Int := do
  let days ← fieldValue f.days
  let hours ← fieldValue f.hours
  let minutes ← fieldValue f.minutes
  let seconds ← fieldValue f.seconds
  return ((days * 24 + hours) * 60 + minutes) * 60 + seconds

/-- The whole seconds of a duration; a text of another form gives `default`. -/
def secondsOr (default : Int) (s : String) : Except Failure Int :=
  match fields? (stripChars s.toList) with
  | some f => f.seconds?
  | none => .ok default

/-- What may stand where a duration is expected: nothing, a text, or a value of another kind. -/
inductive Source where
  | absent
  | text (s : String)
  | other (kind : String)

def Source.secondsOr (default : Int) : Source → Except Failure Int
  | .absent => .ok default
  | .text s => Duration.secondsOr default s
  | .other kind => .error (.notText kind)

def twoDigits (n : Int) : String :=
  if 0 ≤ n ∧ n < 10 then "0" ++ Numeral.text n else Numeral.text n

def clockText (hours minutes seconds : Int) : String :=
  twoDigits hours ++ ":" ++ twoDigits minutes ++ ":" ++ twoDigits seconds

/-- A number of seconds as `[N days, ]hh:mm:ss`; times before zero count up from the day before. -/
def format (seconds : Int) : Except Failure String :=
  let days := Int.fdiv seconds 86400
  let clock := clockText (Int.fdiv (Int.fmod seconds 86400) 3600)
    (Int.fdiv (Int.fmod seconds 3600) 60) (Int.fmod seconds 60)
  if 0 < days then do
    let shown ← Numeral.text? days
    return shown ++ " days, " ++ clock
  else .ok clock

end HostInventory.Duration

namespace HostInventory.Date

structure Day where
  year : Int
  month : Nat
  day : Nat
  deriving DecidableEq, Repr

/-- The date of a day counted from 1 January 1970. Years are taken to begin in March, so that the
leap day comes last, in eras of 400 years. -/
def ofDays (days : Int) : Day :=
  let shifted := days + 719468
  let era := Int.fdiv shifted 146097
  let inEra := (Int.fmod shifted 146097).toNat
  let yearOfEra := (inEra - inEra / 1460 + inEra / 36524 - inEra / 146096) / 365
  let dayOfYear := inEra - (365 * yearOfEra + yearOfEra / 4 - yearOfEra / 100)
  let monthFromMarch := (5 * dayOfYear + 2) / 153
  let day := dayOfYear - (153 * monthFromMarch + 2) / 5 + 1
  let month := if monthFromMarch < 10 then monthFromMarch + 3 else monthFromMarch - 9
  ⟨era * 400 + yearOfEra + (if month ≤ 2 then 1 else 0), month, day⟩

/-- A time as `year-month-day hour:minute:second`. Times that the system's clock cannot hold, and
years that its calendar cannot, are refused. -/
def format (seconds : Int) : Except Failure String :=
  if !Word.fits 64 seconds then .error .timeOutOfRange
  else
    let date := ofDays (Int.fdiv seconds 86400)
    let inDay := Int.fmod seconds 86400
    if !Word.fits 32 (date.year - 1900) then .error .yearOutOfRange
    else if !Word.fits 32 date.year then .error .yearUnwritable
    else
      .ok (Numeral.text date.year ++ "-" ++ Duration.twoDigits date.month ++ "-" ++
        Duration.twoDigits date.day ++ " " ++
        Duration.clockText (Int.fdiv inDay 3600) (Int.fdiv (Int.fmod inDay 3600) 60)
          (Int.fmod inDay 60))

end HostInventory.Date
