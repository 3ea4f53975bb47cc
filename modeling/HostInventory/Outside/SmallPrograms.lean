import HostInventory.Failure
import HostInventory.Outside.Printf

/-!
A few small programs that every host has. Each is a function of its arguments, of what it reads and
of the files it may open; texts are texts of bytes, and lines are compared byte by byte.
-/
namespace HostInventory.SmallPrograms

open Octets

structure Setting where
  name : List Char
  arguments : List (List Char)
  input : List Char := []
  /-- What a file holds, or why it cannot be read. -/
  read : List Char → Except Obstacle (List Char) := fun _ => .error .missing

structure Outcome where
  out : List Char := []
  err : List Char := []
  status : Nat := 0
  deriving Repr

def message (s : List Char) : List Char := s ++ ['\n']

def Setting.refusal (setting : Setting) (s : String) : Outcome :=
  { err := message (setting.name ++ (": " ++ s).toList), status := 1 }

def echoEscape : Printf.Escapes := fun s =>
  match s with
  | 'c' :: _ => (.stop, [])
  | 'x' :: rest =>
    let (found, after) := someDigits hex? 2 rest
    if found.isEmpty then Printf.literalEscape s else (Printf.byte (value 16 found), after)
  | '0' :: rest =>
    let (found, after) := someDigits octal? 3 rest
    (Printf.byte (value 8 found), after)
  | c :: rest =>
    if (octal? c).isSome then
      let (found, after) := someDigits octal? 3 s
      (Printf.byte (value 8 found), after)
    else
      match Printf.simpleEscape? c with
      | some e => (.plain [e], rest)
      | none => Printf.literalEscape s
  | [] => Printf.literalEscape []

def isEchoOption (word : List Char) : Bool :=
  match word with
  | '-' :: c :: rest => (c :: rest).all fun c => c == 'n' || c == 'e' || c == 'E'
  | _ => false

/-- Prints its arguments with blanks between them; `-n` leaves the newline out, `-e` carries out
escapes. -/
def echo (arguments : List (List Char)) : Outcome :=
  let options := (arguments.takeWhile isEchoOption).flatten
  let body := [' '].intercalate (arguments.dropWhile isEchoOption)
  let escapes := options.foldl (fun on c => (on || c == 'e') && c != 'E') false
  let (shown, ended, _) :=
    if escapes then Printf.flat (Printf.unescape echoEscape (body.length + 1) body)
    else (body, false, none)
  { out := if ended || options.contains 'n' then shown else message shown }

def printf (setting : Setting) : Outcome :=
  let words :=
    match setting.arguments with
    | ['-', '-'] :: rest => rest
    | words => words
  match words with
  | [] => setting.refusal "missing operand"
  | format :: values =>
    let printed := Printf.print Printf.full format values
    let excess :=
      match printed.arguments with
      | first :: _ =>
        if printed.broken then []
        else
          ["warning: ignoring excess arguments, starting with ".toList ++ Octets.quoted first]
      | [] => []
    { out := printed.out
      err := (printed.complaints ++ excess).flatMap fun s =>
        message (setting.name ++ ": ".toList ++ s)
      status := if printed.failed then 1 else 0 }

def linesOf (s : List Char) : List (List Char) :=
  let parts := s.splitOn '\n'
  if parts.getLast? = some [] then parts.dropLast else parts

def ofLines (lines : List (List Char)) : List Char := lines.flatMap message

structure Parsed where
  flags : List Char := []
  values : List (Char × List Char) := []
  operands : List (List Char) := []

/-- Reads options of one letter: those in `valued` take an argument; a number by itself counts as
the argument of `n`. -/
def parse (valued : List Char) : Nat → List (List Char) → Parsed → Parsed
  | 0, rest, parsed => { parsed with operands := parsed.operands ++ rest }
  | _ + 1, [], parsed => parsed
  | fuel + 1, word :: rest, parsed =>
    match word with
    | ['-', '-'] => { parsed with operands := parsed.operands ++ rest }
    | '-' :: c :: more =>
      if valued.contains c then
        match more, rest with
        | [], argument :: rest =>
          parse valued fuel rest { parsed with values := parsed.values ++ [(c, argument)] }
        | _, _ => parse valued fuel rest { parsed with values := parsed.values ++ [(c, more)] }
      else if c.isDigit then
        parse valued fuel rest { parsed with values := parsed.values ++ [('n', c :: more)] }
      else
        let next := if more.isEmpty then rest else ('-' :: more) :: rest
        parse valued fuel next { parsed with flags := parsed.flags ++ [c] }
    | _ => parse valued fuel rest { parsed with operands := parsed.operands ++ [word] }

def Setting.parsed (setting : Setting) (valued : List Char) : Parsed :=
  let letters := setting.arguments.flatten.length + setting.arguments.length
  parse valued (letters + 1) setting.arguments {}

/-- The texts that operands name, one after another; the input stands for no operand and for a
hyphen. Messages tell of those that cannot be read. -/
def Setting.texts (setting : Setting) (operands : List (List Char)) :
    List (List Char) × List Char :=
  let operands := if operands.isEmpty then [['-']] else operands
  operands.foldl
    (fun (texts, err) operand =>
      if operand = ['-'] then (texts ++ [setting.input], err)
      else
        match setting.read operand with
        | .ok s => (texts ++ [s], err)
        | .error obstacle =>
          let told := setting.name ++ ": ".toList ++ operand ++ ": ".toList ++
            obstacle.message.toList
          (texts, err ++ message told))
    ([], [])

def filter (setting : Setting) (operands : List (List Char))
    (change : List Char → List Char) : Outcome :=
  let (texts, err) := setting.texts operands
  { out := change texts.flatten, err, status := if err.isEmpty then 0 else 1 }

def cat (setting : Setting) : Outcome :=
  let parsed := setting.parsed []
  filter setting parsed.operands fun s =>
    if parsed.flags.contains 'n' then
      ofLines ((linesOf s).mapIdx fun i line =>
        let number := ofNat 10 (i + 1)
        List.replicate (6 - number.length) ' ' ++ number ++ '\t' :: line)
    else s

def leadingNumber (line : List Char) : Int :=
  let (negative, body) :=
    match line.dropWhile isBlank with
    | '-' :: rest => (true, rest)
    | s => (false, s)
  let n : Int := value 10 (digits decimal? body).1
  if negative then -n else n

def sort (setting : Setting) : Outcome :=
  let parsed := setting.parsed []
  let numeric := parsed.flags.contains 'n'
  let key (line : List Char) : Int := if numeric then leadingNumber line else 0
  let after (a b : List Char) : Bool := b.lex a fun c d => c.toNat < d.toNat
  let less (a b : List Char) : Bool := key a < key b || (key a == key b && !after a b)
  let same (a b : List Char) : Bool := if numeric then key a == key b else a == b
  filter setting parsed.operands fun s =>
    let sorted := (linesOf s).mergeSort fun a b =>
      if parsed.flags.contains 'r' then less b a else less a b
    ofLines (if parsed.flags.contains 'u' then sorted.eraseRepsBy same else sorted)

def uniq (setting : Setting) : Outcome :=
  let parsed := setting.parsed []
  filter setting parsed.operands fun s =>
    ofLines (((linesOf s).splitBy (· == ·)).filterMap fun group =>
      let isShown :=
        if parsed.flags.contains 'd' then 1 < group.length
        else !(parsed.flags.contains 'u' && 1 < group.length)
      let number := ofNat 10 group.length
      if !isShown then none
      else group.head?.map fun line =>
        if parsed.flags.contains 'c' then
          List.replicate (7 - number.length) ' ' ++ number ++ ' ' :: line
        else line)

def Parsed.count (parsed : Parsed) (option : Char) : Option (Option Char × Nat) :=
  (parsed.values.lookup option).map fun s =>
    match s with
    | '+' :: rest => (some '+', value 10 (digits decimal? rest).1)
    | '-' :: rest => (some '-', value 10 (digits decimal? rest).1)
    | _ => (none, value 10 (digits decimal? s).1)

def rawLines (s : List Char) : List (List Char) :=
  let lines := linesOf s
  if s.getLast? = some '\n' then lines.map message
  else lines.dropLast.map message ++ lines.getLast?.toList

def head (setting : Setting) : Outcome :=
  let parsed := setting.parsed ['n', 'c']
  let first {α : Type} (count : Option Char × Nat) (s : List α) : List α :=
    match count with
    | (some '-', n) => s.take (s.length - n)
    | (_, n) => s.take n
  filter setting parsed.operands fun s =>
    match parsed.count 'c' with
    | some count => first count s
    | none => (first ((parsed.count 'n').getD (none, 10)) (rawLines s)).flatten

def tail (setting : Setting) : Outcome :=
  let parsed := setting.parsed ['n', 'c']
  let last {α : Type} (count : Option Char × Nat) (s : List α) : List α :=
    match count with
    | (some '+', n) => s.drop (n - 1)
    | (_, n) => s.drop (s.length - n)
  filter setting parsed.operands fun s =>
    match parsed.count 'c' with
    | some count => last count s
    | none => (last ((parsed.count 'n').getD (none, 10)) (rawLines s)).flatten

def wordCount (setting : Setting) : Outcome :=
  let parsed := setting.parsed []
  let flags := if parsed.flags.isEmpty then ['l', 'w', 'c'] else parsed.flags
  let words (s : List Char) : Nat :=
    ((s.splitBy fun a b => isBlank a == isBlank b).filter fun group =>
      !isBlank (group.headD ' ')).length
  let width := if flags.length = 1 then 1 else if parsed.operands.isEmpty then 7 else 1
  filter setting parsed.operands fun s =>
    let numbers :=
      (if flags.contains 'l' then [s.count '\n'] else []) ++
      (if flags.contains 'w' then [words s] else []) ++
      (if flags.contains 'c' || flags.contains 'm' then [s.length] else [])
    let shown := numbers.map fun n =>
      let number := ofNat 10 n
      List.replicate (width - number.length) ' ' ++ number
    message ([' '].intercalate (shown ++ parsed.operands.take 1))

def integer? (s : List Char) : Option Int :=
  let reading := Numeric.signed true s
  if s.isEmpty || reading.fault.isSome then none else some reading.value

def seq (setting : Setting) : Outcome :=
  let bounds : Option (Int × Int × Int) :=
    match setting.arguments.map integer? with
    | [some last] => some (1, 1, last)
    | [some first, some last] => some (first, 1, last)
    | [some first, some step, some last] => some (first, step, last)
    | _ => none
  match bounds with
  | none => setting.refusal "invalid argument"
  | some (first, step, last) =>
    if step = 0 then setting.refusal "invalid Zero increment value: '0'"
    else
      let count := if 0 < step then (last - first) / step + 1 else (first - last) / (-step) + 1
      let numbers := (List.range count.toNat).map fun (i : Nat) => first + step * (i : Int)
      { out := ofLines (numbers.map fun n => (toString n).toList) }

def characterSet : Nat → List Char → List Char
  | 0, s => s
  | _ + 1, [] => []
  | fuel + 1, first :: '-' :: last :: rest =>
    (List.range (last.toNat + 1 - first.toNat)).map (fun i => Char.ofNat (first.toNat + i)) ++
      characterSet fuel rest
  | fuel + 1, '\\' :: c :: rest =>
    ((Printf.simpleEscape? c).getD c) :: characterSet fuel rest
  | fuel + 1, c :: rest => c :: characterSet fuel rest

def translate (setting : Setting) : Outcome :=
  let parsed := setting.parsed []
  let sets := parsed.operands.map fun s => characterSet s.length s
  match sets with
  | [set] =>
    if parsed.flags.contains 'd' then { out := setting.input.filter (!set.contains ·) }
    else setting.refusal "missing operand"
  | [old, new] =>
    let change (c : Char) : Char :=
      match old.idxOf? c with
      | some i => (new[i]?).getD (new.getLastD c)
      | none => c
    { out := setting.input.map change }
  | _ => setting.refusal "missing operand"

def withoutSlashes (path : List Char) : List Char :=
  (path.reverse.dropWhile (· == '/')).reverse

def baseName (path : List Char) : List Char :=
  if path.isEmpty then []
  else
    let trimmed := withoutSlashes path
    if trimmed.isEmpty then ['/'] else (trimmed.reverse.takeWhile (· != '/')).reverse

def directoryName (path : List Char) : List Char :=
  let trimmed := withoutSlashes path
  let parent := withoutSlashes ((trimmed.reverse.dropWhile (· != '/')).reverse)
  if !parent.isEmpty then parent
  else if path.head? = some '/' then ['/']
  else ['.']

def baseNameProgram (setting : Setting) : Outcome :=
  match setting.arguments with
  | [path] => { out := message (baseName path) }
  | [path, ending] =>
    let name := baseName path
    { out := message
        (if name != ending && ending.isSuffixOf name then name.take (name.length - ending.length)
        else name) }
  | _ => setting.refusal "missing operand"

def directoryNameProgram (setting : Setting) : Outcome :=
  match setting.arguments with
  | [] => setting.refusal "missing operand"
  | paths => { out := ofLines (paths.map directoryName) }

def run? (name : String) (setting : Setting) : Option Outcome :=
  match name with
  | "basename" => some (baseNameProgram setting)
  | "cat" => some (cat setting)
  | "dirname" => some (directoryNameProgram setting)
  | "echo" => some (echo setting.arguments)
  | "false" => some { status := 1 }
  | "head" => some (head setting)
  | "printf" => some (printf setting)
  | "rev" =>
    some (filter setting setting.arguments fun s =>
      (rawLines s).flatMap fun line =>
        if line.getLast? = some '\n' then line.dropLast.reverse ++ ['\n'] else line.reverse)
  | "seq" => some (seq setting)
  | "sleep" => some {}
  | "sort" => some (sort setting)
  | "tac" => some (filter setting setting.arguments fun s => (rawLines s).reverse.flatten)
  | "tail" => some (tail setting)
  | "tr" => some (translate setting)
  | "true" => some {}
  | "uniq" => some (uniq setting)
  | "wc" => some (wordCount setting)
  | _ => none

end HostInventory.SmallPrograms
