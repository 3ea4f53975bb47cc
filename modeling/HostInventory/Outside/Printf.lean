import HostInventory.Outside.Numeric
import HostInventory.Outside.Octets

/-!
Formatted printing for programs. A format is read once, as a list of segments; the segments take
their arguments in turn, and are gone through again while arguments are left. Two dialects differ in
their escapes, in the conversions they know and in the numbers they read.
-/
namespace HostInventory.ShellQuoted

open Octets

def isPrintable (c : Char) : Bool := ' ' ≤ c && c ≤ '~'

def isHarmless (c : Char) : Bool := isLetter c || c.isDigit || "%+,-./:@]_".toList.contains c

def isHarmlessInside (c : Char) : Bool := c == '#' || c == '~'

def needsQuotes (s : List Char) : Bool :=
  s.isEmpty || s == ['\x7b'] || s == ['\x7d'] || isHarmlessInside (s.headD 'a') ||
    s.any fun c =>
      !(isHarmless c || isHarmlessInside c || c == '\x7b' || c == '\x7d')

def fitsDoubleQuotes (s : List Char) : Bool :=
  (s.drop 1).all (fun c => isHarmless c || c == ' ' || c == '\'') &&
    (s.take 1).all fun c => isHarmless c || c == ' ' || c == '\'' || isHarmlessInside c

def escapeOf (c : Char) : List Char :=
  match c with
  | '\x07' => ['\\', 'a']
  | '\x08' => ['\\', 'b']
  | '\x0c' => ['\\', 'f']
  | '\n' => ['\\', 'n']
  | '\r' => ['\\', 'r']
  | '\t' => ['\\', 't']
  | '\x0b' => ['\\', 'v']
  | _ => '\\' :: Places.padded 3 8 c.toNat

/-- The inside of a word in single quotes; `escaping` says that the quotes at hand are those of
names. -/
def quoteFrom (escaping : Bool) : List Char → List Char
  | [] => ['\'']
  | c :: rest =>
    if !isPrintable c then
      (if escaping then [] else ['\'', '$', '\'']) ++ escapeOf c ++ quoteFrom true rest
    else if c == '\'' then ['\'', '\\', '\'', '\''] ++ quoteFrom false rest
    else (if escaping then ['\'', '\''] else []) ++ c :: quoteFrom false rest

def word (s : List Char) : List Char :=
  if !needsQuotes s then s
  else if s.contains '\'' && fitsDoubleQuotes s then '"' :: s ++ ['"']
  else '\'' :: quoteFrom false s

end HostInventory.ShellQuoted

namespace HostInventory

structure Directive where
  flags : List Char := []
  width : Nat := 0
  precision : Option Nat := none
  conversion : Char
  deriving Repr

namespace Directive

def has (d : Directive) (flag : Char) : Bool := d.flags.contains flag

def setWidth (d : Directive) (width : Int) : Directive :=
  { d with
    width := width.natAbs
    flags := if width < 0 then '-' :: d.flags else d.flags }

def setPrecision (d : Directive) (precision : Int) : Directive :=
  { d with precision := if precision < 0 then none else some precision.toNat }

def pad (d : Directive) (s : List Char) : List Char :=
  let gap := List.replicate (d.width - s.length) ' '
  if d.has '-' then s ++ gap else gap ++ s

def padNumber (d : Directive) (zeros : Bool) (sign body : List Char) : List Char :=
  if zeros && d.has '0' && !d.has '-' then
    sign ++ List.replicate (d.width - (sign.length + body.length)) '0' ++ body
  else d.pad (sign ++ body)

def sign (d : Directive) (negative : Bool) : List Char :=
  if negative then ['-'] else if d.has '+' then ['+'] else if d.has ' ' then [' '] else []

/-- The digits of a number, at least as many as the precision says; a precision of zero shows
nothing for zero. -/
def digits (d : Directive) (base n : Nat) : List Char :=
  if n = 0 ∧ d.precision = some 0 then []
  else Places.padded (d.precision.getD 1) base n

def signed (d : Directive) (n : Int) : List Char :=
  d.padNumber d.precision.isNone (d.sign (decide (n < 0))) (d.digits 10 n.natAbs)

def unsigned (d : Directive) (n : Nat) : List Char :=
  let body :=
    match d.conversion with
    | 'o' =>
      let body := d.digits 8 n
      if d.has '#' && body.head? != some '0' then '0' :: body else body
    | 'x' => d.digits 16 n
    | 'X' => (d.digits 16 n).map Char.toUpper
    | _ => d.digits 10 n
  let mark :=
    if d.has '#' && n != 0 && (d.conversion == 'x' || d.conversion == 'X') then
      ['0', d.conversion]
    else []
  d.padNumber d.precision.isNone mark body

def text (d : Directive) (s : List Char) : List Char :=
  d.pad (match d.precision with | some n => s.take n | none => s)

def real (format : BinaryFormat) (d : Directive) (x : BinaryNumber) : List Char :=
  let letter := d.conversion.toLower
  let shape (s : List Char) : List Char := if d.conversion.isUpper then s.map Char.toUpper else s
  let sign := d.sign x.negative
  match x.magnitude with
  | .infinite => d.padNumber false sign (shape "inf".toList)
  | .undefined => d.padNumber false sign (shape "nan".toList)
  | .finite significand exponent =>
    let (num, den) := Places.fraction significand exponent
    let places := d.precision.getD 6
    let body :=
      match letter with
      | 'e' => Places.scientific (d.has '#') places num den
      | 'g' => Places.general (d.has '#') places num den
      | 'a' => Places.hexadecimal format (d.has '#') d.precision significand exponent
      | _ => Places.fixed (d.has '#') places num den
    let mark := if letter == 'a' then ['0', 'x'] else []
    d.padNumber true (sign ++ shape mark) (shape body)

end Directive

end HostInventory

namespace HostInventory.Printf

open Octets

inductive Segment where
  | plain (s : List Char)
  | stop
  | fault (message : List Char)
  | convert (d : Directive) (argumentWidth argumentPrecision : Bool)
  deriving Repr

abbrev Escapes := List Char → Segment × List Char

/-- What a backslash at the end, or before a character without meaning, stands for. -/
def literalEscape : List Char → Segment × List Char
  | [] => (.plain ['\\'], [])
  | c :: rest => (.plain ['\\', c], rest)

def simpleEscape? (c : Char) : Option Char :=
  match c with
  | 'a' => some '\x07'
  | 'b' => some '\x08'
  | 'e' => some '\x1b'
  | 'f' => some '\x0c'
  | 'n' => some '\n'
  | 'r' => some '\r'
  | 't' => some '\t'
  | 'v' => some '\x0b'
  | '\\' => some '\\'
  | _ => none

def byte (n : Nat) : Segment := .plain [Char.ofNat (n % 256)]

def codeSegment (letter : Char) (width code : Nat) : Segment :=
  let shown (width : Nat) : List Char := Places.padded width 16 code
  if 0xd800 ≤ code ∧ code ≤ 0xdfff then
    .fault ("invalid universal character name \\".toList ++ letter :: shown width)
  else if code < 0x80 then byte code
  else if code < 0x10000 then .plain ('\\' :: 'u' :: (shown 4).map Char.toUpper)
  else .plain ('\\' :: 'U' :: (shown 8).map Char.toUpper)

/-- The escapes of the `printf` program. With `zeroed`, an octal number may begin with a zero of its
own. -/
def fullEscape (zeroed : Bool) : Escapes := fun s =>
  match s with
  | 'c' :: _ => (.stop, [])
  | '"' :: rest => (.plain ['"'], rest)
  | 'x' :: rest =>
    let (found, after) := someDigits hex? 2 rest
    if found.isEmpty then (.fault "missing hexadecimal number in escape".toList, after)
    else (byte (value 16 found), after)
  | c :: rest =>
    if c == 'u' || c == 'U' then
      let width := if c == 'u' then 4 else 8
      let (found, after) := someDigits hex? width rest
      if found.length < width then (.fault "missing hexadecimal number in escape".toList, after)
      else (codeSegment c width (value 16 found), after)
    else if (octal? c).isSome then
      let (found, after) := someDigits octal? 3 (if zeroed && c == '0' then rest else s)
      (byte (value 8 found), after)
    else
      match simpleEscape? c with
      | some e => (.plain [e], rest)
      | none => literalEscape s
  | [] => literalEscape s

def shellEscape : Escapes := fun s =>
  match s with
  | c :: rest =>
    if (octal? c).isSome then
      let (found, after) := someDigits octal? 3 s
      (byte (value 8 found), after)
    else
      match simpleEscape? c with
      | some e => (.plain [e], rest)
      | none => (.plain ['\\'], s)
  | [] => literalEscape []

/-- The escapes of the shell in texts that are not formats: output can end, and an octal number may
begin with a zero of its own. -/
def shellTextEscape : Escapes := fun s =>
  match s with
  | 'c' :: _ => (.stop, [])
  | '0' :: c :: rest => shellEscape (if (octal? c).isSome then c :: rest else s)
  | _ => shellEscape s

structure Dialect where
  escape : Escapes
  /-- Escapes in the argument of `%b`. -/
  textEscape : Escapes
  directive : List Char → Segment × List Char
  reals : BinaryFormat
  rangeFirst : Bool
  /-- Whether a quote alone, without a character after it, is no number. -/
  needsCharacter : Bool
  /-- Whether `%b` is laid out under its flags. -/
  layoutOfText : Bool
  complaint : Numeric.Fault → List Char → List Char
  /-- A width or a precision that an argument gives; `none` if there is none so large. -/
  extent : Int → Option Int
  tooLarge : String → List Char → List Char

/-- The segments of a text with escapes, as far as `fuel` reaches. -/
def unescape (escape : Escapes) : Nat → List Char → List Segment
  | 0, _ | _ + 1, [] => []
  | fuel + 1, '\\' :: rest =>
    let (segment, rest) := escape rest
    match segment with
    | .plain _ => segment :: unescape escape fuel rest
    | _ => [segment]
  | fuel + 1, c :: rest => .plain [c] :: unescape escape fuel rest

/-- The segments of a format, as far as `fuel` reaches; they end with the first that ends all. -/
def segments (dialect : Dialect) : Nat → List Char → List Segment
  | 0, _ | _ + 1, [] => []
  | fuel + 1, '\\' :: rest => next fuel (dialect.escape rest)
  | fuel + 1, '%' :: '%' :: rest => .plain ['%'] :: segments dialect fuel rest
  | fuel + 1, '%' :: rest => next fuel (dialect.directive rest)
  | fuel + 1, c :: rest => .plain [c] :: segments dialect fuel rest
where
  next (fuel : Nat) : Segment × List Char → List Segment
    | (.stop, _) => [.stop]
    | (.fault message, _) => [.fault message]
    | (segment, rest) => segment :: segments dialect fuel rest

structure Progress where
  out : List Char := []
  /-- What has been said about arguments and format, one message after another. -/
  complaints : List (List Char) := []
  arguments : List (List Char)
  taken : Bool := false
  ended : Bool := false
  broken : Bool := false
  failed : Bool := false

namespace Progress

def print (state : Progress) (s : List Char) : Progress := { state with out := state.out ++ s }

def take (state : Progress) : List Char × Progress :=
  match state.arguments with
  | [] => ([], state)
  | argument :: rest => (argument, { state with arguments := rest, taken := true })

def complain (state : Progress) (message : List Char) : Progress :=
  { state with complaints := state.complaints ++ [message], failed := true }

end Progress

variable (dialect : Dialect)

def characterCode? (argument : List Char) : Option Nat :=
  match argument with
  | q :: rest =>
    if q == '\'' || q == '"' then
      match rest with
      | c :: _ => some c.toNat
      | [] => if dialect.needsCharacter then none else some 0
    else none
  | [] => none

def number {α : Type} (ofCode : Nat → α) (read : Bool → List Char → Numeric.Reading α)
    (state : Progress) : α × Progress :=
  let (argument, state) := state.take
  match characterCode? dialect argument with
  | some code => (ofCode code, state)
  | none =>
    let reading := read dialect.rangeFirst argument
    match reading.fault with
    | none => (reading.value, state)
    | some fault => (reading.value, state.complain (dialect.complaint fault argument))

def integer (state : Progress) : Int × Progress :=
  number dialect (fun n => (n : Int)) Numeric.signed state

def flat : List Segment → List Char × Bool × Option (List Char)
  | [] => ([], false, none)
  | .plain s :: rest =>
    let (more, ends, fault) := flat rest
    (s ++ more, ends, fault)
  | .fault message :: _ => ([], true, some message)
  | .stop :: _ => ([], true, none)
  | .convert _ _ _ :: rest => flat rest

def convert (d : Directive) (state : Progress) : Progress :=
  match d.conversion with
  | 'b' =>
    let (argument, state) := state.take
    let (s, ends, fault) := flat (unescape dialect.textEscape (argument.length + 1) argument)
    let state := state.print (if dialect.layoutOfText then d.text s else s)
    match fault with
    | some message => { state.complain message with ended := true, broken := true }
    | none => { state with ended := ends }
  | 'q' =>
    if state.arguments.isEmpty then state
    else
      let (argument, state) := state.take
      state.print (ShellQuoted.word argument)
  | 's' =>
    let (argument, state) := state.take
    state.print (d.text argument)
  | 'c' =>
    let (argument, state) := state.take
    state.print (d.pad [argument.headD '\x00'])
  | 'd' | 'i' =>
    let (n, state) := integer dialect state
    state.print (d.signed n)
  | 'o' | 'u' | 'x' | 'X' =>
    let (n, state) := number dialect (fun n => (n : Int)) Numeric.wrapped state
    state.print (d.unsigned n.toNat)
  | _ =>
    let (x, state) := number dialect (fun n => ⟨false, .finite n 0⟩)
      (fun rangeFirst => Numeric.real rangeFirst dialect.reals) state
    state.print (d.real dialect.reals x)

def mostExtent : Nat := 2147483647

def convertFully (d : Directive) (argumentWidth argumentPrecision : Bool) (state : Progress) :
    Progress :=
  let (d, state) :=
    if argumentWidth then extent "field width" Directive.setWidth d state else (d, state)
  let (d, state) :=
    if argumentPrecision && !state.ended then extent "precision" Directive.setPrecision d state
    else (d, state)
  if state.ended then state
  else if mostExtent < d.width || d.precision.any (mostExtent < ·) then
    { state with ended := true, broken := true, failed := true }
  else convert dialect d state
where
  extent (what : String) (put : Directive → Int → Directive) (d : Directive) (state : Progress) :
      Directive × Progress :=
    let argument := state.take.1
    let (n, state) := integer dialect state
    match dialect.extent n with
    | some n => (put d n, state)
    | none =>
      (d, { state.complain (dialect.tooLarge what argument) with ended := true, broken := true })

def pass : List Segment → Progress → Progress
  | [], state => state
  | .plain s :: rest, state => pass rest (state.print s)
  | .stop :: _, state => { state with ended := true }
  | .fault message :: _, state => { state.complain message with ended := true, broken := true }
  | .convert d argumentWidth argumentPrecision :: rest, state =>
    let state := convertFully dialect d argumentWidth argumentPrecision state
    if state.ended then state else pass rest state

def passes (format : List Segment) : Nat → Progress → Progress
  | 0, state => state
  | fuel + 1, state =>
    let state := pass dialect format { state with taken := false }
    if state.ended || !state.taken || state.arguments.isEmpty then state
    else passes format fuel state

def print (format : List Char) (arguments : List (List Char)) : Progress :=
  passes dialect (segments dialect (format.length + 1) format) (arguments.length + 1) { arguments }

def plainNumber (s : List Char) : Option Nat × List Char :=
  let (found, rest) := digits decimal? s
  (if found.isEmpty then none else some (value 10 found), rest)

/-- Flags, width and precision in front of a conversion, whether the last two are arguments, and the
rest. -/
def layoutOf (isFlag : Char → Bool) (s : List Char) :
    (Directive × Bool × Bool) × List Char :=
  let flags := s.takeWhile isFlag
  let rest := s.dropWhile isFlag
  let (width, argumentWidth, rest) :=
    match rest with
    | '*' :: rest => (0, true, rest)
    | _ => let (n, rest) := plainNumber rest; (n.getD 0, false, rest)
  let (precision, argumentPrecision, rest) :=
    match rest with
    | '.' :: '*' :: rest => (none, true, rest)
    | '.' :: rest => let (n, rest) := plainNumber rest; (some (n.getD 0), false, rest)
    | _ => (none, false, rest)
  ((⟨flags, width, precision, ' '⟩, argumentWidth, argumentPrecision), rest)

def isInteger (c : Char) : Bool := ['d', 'i', 'o', 'u', 'x', 'X'].contains c

def isReal (c : Char) : Bool := ['a', 'A', 'e', 'E', 'f', 'F', 'g', 'G'].contains c

/-- Whether the `printf` program knows a conversion under these flags. -/
def permits (flags : List Char) (hasPrecision : Bool) (c : Char) : Bool :=
  (isInteger c || isReal c || c == 'c' || c == 's') &&
  flags.all (fun flag =>
    match flag with
    | '\'' | 'I' => ['d', 'i', 'u', 'f', 'F', 'g', 'G'].contains c
    | '#' => !(['c', 'd', 'i', 's', 'u'].contains c)
    | '0' => c != 'c' && c != 's'
    | _ => true) &&
  !(hasPrecision && c == 'c')

def fullDirective (s : List Char) : Segment × List Char :=
  match s with
  | 'b' :: rest => (.convert { conversion := 'b' } false false, rest)
  | 'q' :: rest => (.convert { conversion := 'q' } false false, rest)
  | _ =>
    let ((d, argumentWidth, argumentPrecision), rest) :=
      layoutOf (fun c => ['I', '\'', '-', '+', ' ', '#', '0'].contains c) s
    let rest := rest.dropWhile fun c => ['l', 'L', 'h', 'j', 't', 'z'].contains c
    let shown (n : Nat) : List Char := '%' :: s.take (s.length - rest.length + n)
    match rest with
    | c :: after =>
      if permits d.flags (d.precision.isSome || argumentPrecision) c then
        (.convert { d with conversion := c } argumentWidth argumentPrecision, after)
      else (.fault (shown 1 ++ ": invalid conversion specification".toList), [])
    | [] => (.fault (shown 0 ++ ": invalid conversion specification".toList), [])

def full : Dialect where
  escape := fullEscape false
  textEscape := fullEscape true
  directive := fullDirective
  reals := .extended
  rangeFirst := true
  needsCharacter := true
  layoutOfText := false
  extent n :=
    if n < -(Nat.pow 2 31 : Nat) then some (-1)
    else if n < (Nat.pow 2 31 : Nat) then some n
    else none
  tooLarge what argument := ("invalid " ++ what ++ ": ").toList ++ Octets.quoted argument
  complaint fault argument :=
    let quoted := Octets.quoted argument
    match fault with
    | .outOfRange => quoted ++ ": Numerical result out of range".toList
    | .notNumeric => quoted ++ ": expected a numeric value".toList
    | .incomplete => quoted ++ ": value not completely converted".toList

def shellDirective (s : List Char) : Segment × List Char :=
  let ((d, argumentWidth, argumentPrecision), rest) :=
    layoutOf (fun c => ['#', '-', '+', ' ', '0'].contains c) s
  match rest with
  | c :: after =>
    if isInteger c || isReal c || c == 'c' || c == 's' || c == 'b' then
      (.convert { d with conversion := c } argumentWidth argumentPrecision, after)
    else
      let shown := '%' :: s.take (s.length - after.length)
      (.fault (shown ++ ": invalid directive".toList), [])
  | [] => (.fault "missing format character".toList, [])

def shell : Dialect where
  escape := shellEscape
  textEscape := shellTextEscape
  directive := shellDirective
  reals := .double
  rangeFirst := false
  needsCharacter := false
  layoutOfText := true
  extent n := some (Int.bmod n (Nat.pow 2 32))
  tooLarge _ _ := []
  complaint fault argument :=
    match fault with
    | .outOfRange => argument ++ ": Numerical result out of range".toList
    | .notNumeric => argument ++ ": expected numeric value".toList
    | .incomplete => argument ++ ": not completely converted".toList

end HostInventory.Printf
