/-!
Texts as the bytes that programs handle: each byte stands as the character of the same number, so
that every text of this kind is a list of characters below 256.
-/
namespace HostInventory.Octets

def ofBytes (bytes : List UInt8) : List Char := bytes.map fun b => Char.ofNat b.toNat

def toBytes (s : List Char) : List UInt8 := s.map fun c => UInt8.ofNat c.toNat

def ofString (s : String) : List Char := ofBytes s.toUTF8.toList

def isBlank (c : Char) : Bool := c == ' ' || ('\t' ≤ c && c ≤ '\r')

def isLetter (c : Char) : Bool := ('a' ≤ c && c ≤ 'z') || ('A' ≤ c && c ≤ 'Z')

def isNameChar (c : Char) : Bool := isLetter c || c.isDigit || c == '_'

def isName (s : List Char) : Bool :=
  match s with
  | [] => false
  | c :: _ => !c.isDigit && s.all isNameChar

def octal? (c : Char) : Option Nat :=
  if '0' ≤ c ∧ c ≤ '7' then some (c.toNat - '0'.toNat) else none

def decimal? (c : Char) : Option Nat := if c.isDigit then some (c.toNat - '0'.toNat) else none

def binary? (c : Char) : Option Nat :=
  if c == '0' then some 0 else if c == '1' then some 1 else none

def hex? (c : Char) : Option Nat :=
  if c.isDigit then some (c.toNat - '0'.toNat)
  else if 'a' ≤ c ∧ c ≤ 'f' then some (c.toNat - 'a'.toNat + 10)
  else if 'A' ≤ c ∧ c ≤ 'F' then some (c.toNat - 'A'.toNat + 10)
  else none

def quotedByte (c : Char) : List Char :=
  match c with
  | '\x07' => ['\\', 'a']
  | '\x08' => ['\\', 'b']
  | '\x0c' => ['\\', 'f']
  | '\n' => ['\\', 'n']
  | '\r' => ['\\', 'r']
  | '\t' => ['\\', 't']
  | '\x0b' => ['\\', 'v']
  | '\\' => ['\\', '\\']
  | '\'' => ['\\', '\'']
  | _ =>
    if ' ' ≤ c && c ≤ '~' then [c]
    else
      let n := c.toNat
      ['\\', Nat.digitChar (n / 64), Nat.digitChar (n / 8 % 8), Nat.digitChar (n % 8)]

def quoted (s : List Char) : List Char := '\'' :: s.flatMap quotedByte ++ ['\'']

def digits (digit? : Char → Option Nat) (s : List Char) : List Nat × List Char :=
  ((s.takeWhile fun c => (digit? c).isSome).filterMap digit?,
    s.dropWhile fun c => (digit? c).isSome)

/-- At most `count` digits at the start of a text, and the rest. -/
def someDigits (digit? : Char → Option Nat) (count : Nat) (s : List Char) :
    List Nat × List Char :=
  let found := (s.take count).takeWhile fun c => (digit? c).isSome
  (found.filterMap digit?, s.drop found.length)

def value (base : Nat) (digits : List Nat) : Nat := digits.foldl (fun n d => base * n + d) 0

def ofNat (base n : Nat) : List Char := Nat.toDigits base n

end HostInventory.Octets
