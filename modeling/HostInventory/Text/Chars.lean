/-!
Tables of characters and how they are read, the decimal digits of every script (Unicode 14), and
blanks: stripped ends, words, and a limited number of cuts.
-/
namespace HostInventory.Text

def inRanges (ranges : List (Nat × Nat)) (code : Nat) : Bool :=
  ranges.any fun range => range.1 ≤ code && code ≤ range.2

/-- A run of characters `first, first + step, …, last` that a case mapping moves by one distance. -/
structure CaseRun where
  first : Nat
  last : Nat
  step : Nat
  distance : Int

def CaseRun.image? (run : CaseRun) (code : Nat) : Option Char :=
  if run.first ≤ code && code ≤ run.last && (code - run.first) % run.step == 0 then
    some (Char.ofNat ((code : Int) + run.distance).toNat)
  else none

def digitZeros : List Nat :=
  [0x30, 0x660, 0x6F0, 0x7C0, 0x966, 0x9E6, 0xA66, 0xAE6, 0xB66, 0xBE6, 0xC66, 0xCE6, 0xD66,
   0xDE6, 0xE50, 0xED0, 0xF20, 0x1040, 0x1090, 0x17E0, 0x1810, 0x1946, 0x19D0, 0x1A80, 0x1A90,
   0x1B50, 0x1BB0, 0x1C40, 0x1C50, 0xA620, 0xA8D0, 0xA900, 0xA9D0, 0xA9F0, 0xAA50, 0xABF0,
   0xFF10, 0x104A0, 0x10D30, 0x11066, 0x110F0, 0x11136, 0x111D0, 0x112F0, 0x11450, 0x114D0,
   0x11650, 0x116C0, 0x11730, 0x118E0, 0x11950, 0x11C50, 0x11D50, 0x11DA0, 0x16A60, 0x16AC0,
   0x16B50, 0x1D7CE, 0x1D7D8, 0x1D7E2, 0x1D7EC, 0x1D7F6, 0x1E140, 0x1E2F0, 0x1E950, 0x1FBF0]

def digit? (c : Char) : Option Nat :=
  (digitZeros.find? fun start => start ≤ c.toNat && c.toNat < start + 10).map (c.toNat - ·)

def isDigit (c : Char) : Bool := (digit? c).isSome

def isBlank (c : Char) : Bool :=
  let n := c.toNat
  (0x09 ≤ n && n ≤ 0x0D) || (0x1C ≤ n && n ≤ 0x20) || n == 0x85 || n == 0xA0 || n == 0x1680 ||
    (0x2000 ≤ n && n ≤ 0x200A) || n == 0x2028 || n == 0x2029 || n == 0x202F || n == 0x205F ||
    n == 0x3000

def dropTrailing (p : Char → Bool) (s : List Char) : List Char :=
  (s.reverse.dropWhile p).reverse

def stripChars (s : List Char) : List Char := dropTrailing isBlank (s.dropWhile isBlank)

def strip (s : String) : String := String.ofList (stripChars s.toList)

theorem length_dropWhile_le (p : Char → Bool) (s : List Char) : (s.dropWhile p).length ≤ s.length :=
  (List.dropWhile_suffix p).length_le

/-- The maximal runs of characters that are not blank, from left to right. -/
def words (s : List Char) : List (List Char) :=
  match _h : s.dropWhile isBlank with
  | [] => []
  | c :: rest => (c :: rest.takeWhile (!isBlank ·)) :: words (rest.dropWhile (!isBlank ·))
termination_by s.length
decreasing_by
  have inner := length_dropWhile_le (!isBlank ·) rest
  have outer := length_dropWhile_le isBlank s
  simp only [_h, List.length_cons] at outer
  omega

/-- Cuts off at most `cuts` words; what is left after the last cut stays in one piece, without the
blanks before it. -/
def splitWords : Nat → List Char → List (List Char)
  | 0, s =>
    match s.dropWhile isBlank with
    | [] => []
    | c :: rest => [c :: rest]
  | cuts + 1, s =>
    match s.dropWhile isBlank with
    | [] => []
    | c :: rest =>
      (c :: rest.takeWhile (!isBlank ·)) :: splitWords cuts (rest.dropWhile (!isBlank ·))

end HostInventory.Text
