/-!
Strict reading of UTF-8, where a refusal names the bytes that are at fault, and texts cut into
lines. A carriage return directly before a line feed belongs to the same boundary.
-/
namespace HostInventory.Text

inductive Utf8Fault where
  | badStart
  | badContinuation
  | cutShort
  deriving DecidableEq, Repr

/-- The place of a refusal: `length` bytes from `position` on, the first of which is `byte`. -/
structure Undecodable where
  byte : UInt8
  position : Nat
  length : Nat
  fault : Utf8Fault
  deriving DecidableEq, Repr

/-- How many bytes follow a leading byte; none for a byte that cannot lead. -/
def followers? (lead : UInt8) : Option Nat :=
  if lead < 0x80 then some 0
  else if lead < 0xC2 then none
  else if lead < 0xE0 then some 1
  else if lead < 0xF0 then some 2
  else if lead < 0xF5 then some 3
  else none

def isContinuation (b : UInt8) : Bool := 0x80 ≤ b && b < 0xC0

/-- Whether `b` may stand second after `lead`: this bars longer forms than needed, surrogates and
codes beyond the last. -/
def maySecond (lead b : UInt8) : Bool :=
  isContinuation b && (lead != 0xE0 || 0xA0 ≤ b) && (lead != 0xED || b < 0xA0) &&
    (lead != 0xF0 || 0x90 ≤ b) && (lead != 0xF4 || b < 0x90)

/-- The longest run of at most `count` bytes that may follow `lead`. -/
def takeFollowers (lead : UInt8) (count : Nat) (bytes : List UInt8) : List UInt8 :=
  match count, bytes with
  | 0, _ => []
  | _, [] => []
  | n + 1, b :: rest =>
    if maySecond lead b then b :: (rest.take n).takeWhile isContinuation else []

def leadBits (lead : UInt8) (count : Nat) : Nat :=
  match count with
  | 0 => lead.toNat
  | 1 => lead.toNat % 0x20
  | 2 => lead.toNat % 0x10
  | _ => lead.toNat % 0x08

def assemble (lead : UInt8) (tail : List UInt8) : Char :=
  Char.ofNat (tail.foldl (fun code b => code * 0x40 + b.toNat % 0x40) (leadBits lead tail.length))

def decodeUtf8From (position : Nat) (bytes : List UInt8) : Except Undecodable (List Char) :=
  match bytes with
  | [] => .ok []
  | lead :: rest =>
    match followers? lead with
    | none => .error ⟨lead, position, 1, .badStart⟩
    | some count =>
      let tail := takeFollowers lead count rest
      if tail.length = count then
        (decodeUtf8From (position + 1 + count) (rest.drop count)).map (assemble lead tail :: ·)
      else if tail.length < rest.length then
        .error ⟨lead, position, tail.length + 1, .badContinuation⟩
      else .error ⟨lead, position, tail.length + 1, .cutShort⟩
termination_by bytes.length
decreasing_by simp only [List.length_drop, List.length_cons]; omega

def decodeUtf8 (bytes : List UInt8) : Except Undecodable (List Char) := decodeUtf8From 0 bytes

def isLineBoundary (c : Char) : Bool :=
  let n := c.toNat
  (0x0A ≤ n && n ≤ 0x0D) || (0x1C ≤ n && n ≤ 0x1E) || n == 0x85 || n == 0x2028 || n == 0x2029

def consFirst (c : Char) : List (List Char) → List (List Char)
  | [] => [[c]]
  | line :: rest => (c :: line) :: rest

/-- The lines of a text without their boundaries; a boundary at the end opens no further line. -/
def splitLines : List Char → List (List Char)
  | [] => []
  | '\r' :: '\n' :: rest => [] :: splitLines rest
  | c :: rest => if isLineBoundary c then [] :: splitLines rest else consFirst c (splitLines rest)

def lines (s : String) : List String := (splitLines s.toList).map String.ofList

/-- Every carriage return, alone or before a line feed, becomes one line feed. -/
def unifyNewlines : List Char → List Char
  | [] => []
  | '\r' :: '\n' :: rest => '\n' :: unifyNewlines rest
  | c :: rest => (if c = '\r' then '\n' else c) :: unifyNewlines rest

end HostInventory.Text
