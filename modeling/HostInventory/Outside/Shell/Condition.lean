import HostInventory.Outside.Files
import HostInventory.Outside.Numeric

/-!
Conditions on texts, numbers and files. A condition is a list of words; whether a word is an
operator depends on the words around it.
-/
namespace HostInventory.Shell.Condition

inductive Role where
  | operand
  | unary
  | binary
  | negation
  | both
  | either
  | opening
  | closing
  | absent
  deriving DecidableEq, Repr

def unaryOperators : List String :=
  ["-r", "-w", "-x", "-e", "-f", "-d", "-c", "-b", "-p", "-u", "-g", "-k", "-s", "-t", "-z", "-n",
    "-h", "-O", "-G", "-L", "-S"]

def binaryOperators : List String :=
  ["=", "!=", "<", ">", "-eq", "-ne", "-ge", "-gt", "-le", "-lt", "-nt", "-ot", "-ef"]

def roleOf (word : List Char) : Role :=
  let word := String.ofList word
  if unaryOperators.contains word then .unary
  else if binaryOperators.contains word then .binary
  else
    match word with
    | "!" => .negation
    | "-a" => .both
    | "-o" => .either
    | "(" => .opening
    | ")" => .closing
    | _ => .operand

def makesOperand (after : List (List Char)) : Bool :=
  match after with
  | [] => true
  | [_] => false
  | next :: _ => roleOf next = .binary

def role (words : List (List Char)) : Role :=
  match words with
  | [] => .absent
  | word :: after =>
    let found := roleOf word
    if (found = .unary && makesOperand after) || (found = .opening && after.isEmpty) then .operand
    else found

inductive Fault where
  | message (s : List Char)

/-- What conditions ask about files. -/
structure Files where
  entry? : List Char → Option FileEntry
  size : List Char → Nat

/-- A reading of words: those that are left begin with the last one that was taken. -/
abbrev Reader := StateT (List (List Char)) (Except Fault)

def fail {α : Type} (s : String) : Reader α := throw (.message s.toList)

def advance : Reader Unit := modify (·.drop 1)

def number (word : List Char) : Except Fault Int :=
  let trimmed := word.dropWhile Octets.isBlank
  let (negative, body) := Numeric.takeSign trimmed
  let (found, rest) := Octets.digits Octets.decimal? body
  let n : Int := if negative then -(Octets.value 10 found : Int) else Octets.value 10 found
  let fits := -(Nat.pow 2 63 : Nat) ≤ n ∧ n < (Nat.pow 2 63 : Nat)
  if found.isEmpty || rest.any (!Octets.isBlank ·) then
    .error (.message ("Illegal number: ".toList ++ word))
  else if fits then .ok n
  else .error (.message ("Illegal number: ".toList ++ word))

def askFile (files : Files) (operator : String) (path : List Char) : Bool :=
  match files.entry? path with
  | none => false
  | some entry =>
    match operator with
    | "-e" | "-r" | "-w" | "-O" | "-G" => true
    | "-x" => entry = .directory || entry = .program
    | "-d" => entry = .directory
    | "-f" => entry ≠ .directory && !("/dev/".toList.isPrefixOf path)
    | "-c" => entry ≠ .directory && "/dev/".toList.isPrefixOf path
    | "-s" => entry = .directory || entry = .program || files.size path ≠ 0
    | _ => false

def askWord (files : Files) (operator : String) (word : List Char) : Except Fault Bool :=
  match operator with
  | "-z" => .ok word.isEmpty
  | "-n" => .ok !word.isEmpty
  | "-t" => (number word).map fun _ => false
  | _ => .ok (askFile files operator word)

def compare (files : Files) (operator : String) (a b : List Char) : Except Fault Bool :=
  let numbers (holds : Int → Int → Bool) : Except Fault Bool := do
    return holds (← number a) (← number b)
  match operator with
  | "=" => .ok (a == b)
  | "!=" => .ok (a != b)
  | "<" => .ok (decide (a < b))
  | ">" => .ok (decide (b < a))
  | "-eq" => numbers (· == ·)
  | "-ne" => numbers (· != ·)
  | "-ge" => numbers (decide <| · ≥ ·)
  | "-gt" => numbers (decide <| · > ·)
  | "-le" => numbers (decide <| · ≤ ·)
  | "-lt" => numbers (decide <| · < ·)
  | "-ef" => .ok (a == b && (files.entry? a).isSome)
  | _ => .ok false

def comparison (files : Files) : Reader Bool := do
  match ← get with
  | first :: operator :: second :: rest =>
    set (second :: rest)
    match compare files (String.ofList operator) first second with
    | .ok outcome => return outcome
    | .error fault => throw fault
  | _ :: operator :: _ => throw (.message (operator ++ ": argument expected".toList))
  | _ => return false

mutual

/-- Conditions of which one must hold; `first` is the role of the first word. -/
def oneOf (files : Files) : Nat → Role → Reader Bool
  | 0, _ => return false
  | fuel + 1, first => do
    let outcome ← allOf files fuel first
    match role ((← get).drop 1) with
    | .either =>
      modify (·.drop 2)
      let other ← oneOf files fuel (role (← get))
      return outcome || other
    | _ => return outcome

def allOf (files : Files) : Nat → Role → Reader Bool
  | 0, _ => return false
  | fuel + 1, first => do
    let outcome ← negated files fuel first
    match role ((← get).drop 1) with
    | .both =>
      modify (·.drop 2)
      let other ← allOf files fuel (role (← get))
      return outcome && other
    | _ => return outcome

def negated (files : Files) : Nat → Role → Reader Bool
  | 0, _ => return false
  | fuel + 1, first => do
    if first ≠ .negation then primary files fuel first
    else
      let next := role ((← get).drop 1)
      if next ≠ .absent then advance
      return !(← negated files fuel next)

def primary (files : Files) : Nat → Role → Reader Bool
  | 0, _ => return false
  | fuel + 1, first => do
    match first with
    | .absent => return false
    | .opening =>
      advance
      if role (← get) = .closing then return false
      let outcome ← oneOf files fuel (role (← get))
      advance
      if role (← get) ≠ .closing then fail "closing paren expected"
      return outcome
    | .unary =>
      match ← get with
      | operator :: word :: rest =>
        set (word :: rest)
        match askWord files (String.ofList operator) word with
        | .ok outcome => return outcome
        | .error fault => throw fault
      | operator :: _ => throw (.message (operator ++ ": argument expected".toList))
      | [] => return false
    | _ =>
      if role ((← get).drop 1) = .binary then comparison files
      else return !((← get).headD []).isEmpty

end

/-- The outcome of a condition whose first word has this role, and whether the words end with it. -/
def outcomeFrom (files : Files) (first : Role) (words : List (List Char)) : Except Fault Bool := do
  let (outcome, left) ← (oneOf files (8 * words.length + 8) first).run words
  match left with
  | last :: _ :: _ => throw (.message (last ++ ": unexpected operator".toList))
  | _ => return outcome

/-- The outcome of a condition. Up to four words are read by their number: a comparison in the
middle of three goes first, then brackets around the others, then a negation. -/
def outcome (files : Files) : List (List Char) → Except Fault Bool
  | [] => .ok false
  | [a, b, c] =>
    if roleOf b = .binary then outcomeFrom files .operand [a, b, c]
    else if a = ['('] && c = [')'] then outcomeFrom files (role [b]) [b]
    else if a = ['!'] then (outcome files [b, c]).map (!·)
    else outcomeFrom files (role [a, b, c]) [a, b, c]
  | [a, b, c, d] =>
    if a = ['('] && d = [')'] then outcomeFrom files (role [b, c]) [b, c]
    else if a = ['!'] then (outcome files [b, c, d]).map (!·)
    else outcomeFrom files (role [a, b, c, d]) [a, b, c, d]
  | words => outcomeFrom files (role words) words

end HostInventory.Shell.Condition
