import HostInventory.Failure
import HostInventory.Text.Chars

/-!
Integers as texts and as machine words. Numerals of every script are read, with an optional sign and
single underscores between digits; reading and writing stop at 4300 digits.
-/
namespace HostInventory.Numeral

open Text

/-- The most digits that are read into, or written from, an integer. -/
def digitLimit : Nat := 4300

/-- The number that digits denote in base ten, the highest first. -/
def value (digits : List Nat) : Nat := digits.foldl (fun n d => 10 * n + d) 0

/-- The digits of a numeral in which one underscore may stand between two digits. -/
def groupedDigits? : List Char → Option (List Nat)
  | [] => none
  | [c] => (digit? c).map ([·])
  | c :: '_' :: rest => do
    let d ← digit? c
    let ds ← groupedDigits? rest
    return d :: ds
  | c :: rest => do
    let d ← digit? c
    let ds ← groupedDigits? rest
    return d :: ds

def magnitude? (s : List Char) : Option Nat := do
  let digits ← groupedDigits? s
  if digits.length ≤ digitLimit then some (value digits) else none

def integer? : List Char → Option Int
  | '-' :: rest => (magnitude? rest).map fun n => -(n : Int)
  | '+' :: rest => (magnitude? rest).map Int.ofNat
  | s => (magnitude? s).map Int.ofNat

/-- The integer that a text denotes, blanks around it put aside, or else `default`. -/
def integerOr (default : Int) (s : String) : Int := (integer? (stripChars s.toList)).getD default

def text (n : Int) : String := toString n

/-- The decimal text of an integer, unless it is too long to be written. -/
def text? (n : Int) : Except Failure String :=
  let s := text n
  if s.length ≤ digitLimit + (if n < 0 then 1 else 0) then .ok s else .error .unwritable

end HostInventory.Numeral

namespace HostInventory.Word

def reach (bits : Nat) : Nat := Nat.pow 2 (bits - 1)

/-- The numbers from `-2 ^ (bits - 1)` to below `2 ^ (bits - 1)`. -/
def fits (bits : Nat) (n : Int) : Bool := decide (-(reach bits : Int) ≤ n ∧ n < reach bits)

end HostInventory.Word
