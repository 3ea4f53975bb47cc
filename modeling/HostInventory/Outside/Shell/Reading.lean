import HostInventory.Outside.Octets
import HostInventory.Outside.Shell.Syntax

/-!
Reading scripts of the shell, one command line after another. What cannot be read is a fault with
the number of its line.
-/
namespace HostInventory.Shell

open Octets

structure SyntaxFault where
  line : Nat
  message : String

structure Script where
  rest : List Char
  line : Nat := 1

namespace Reading

abbrev Reader := StateT Script (Except SyntaxFault)

def fail {α : Type} (message : String) : Reader α := do
  throw { line := (← get).line, message }

def skip (count : Nat) (lines : Nat := 0) : Reader Unit :=
  modify fun s => { rest := s.rest.drop count, line := s.line + lines }

def peek : Reader (List Char) := return (← get).rest

def isMeta (c : Char) : Bool :=
  c == ' ' || c == '\t' || c == '\n' || c == ';' || c == '&' || c == '(' || c == ')' || c == '<' ||
    c == '>' || c == '|'

/-- What is left after blanks, joined lines and a comment, and how many lines were joined. -/
def afterBlanks : List Char → List Char × Nat
  | ' ' :: rest | '\t' :: rest => afterBlanks rest
  | '\\' :: '\n' :: rest => let (left, lines) := afterBlanks rest; (left, lines + 1)
  | '#' :: rest => (rest.dropWhile (· != '\n'), 0)
  | s => (s, 0)

def skipBlanks : Reader Unit :=
  modify fun s =>
    let (rest, lines) := afterBlanks s.rest
    { rest, line := s.line + lines }

/-- Passes over line ends and what stands between them, as far as `fuel` reaches. -/
def skipLines : Nat → Reader Unit
  | 0 => skipBlanks
  | fuel + 1 => do
    skipBlanks
    match ← peek with
    | '\n' :: _ =>
      skip 1 1
      skipLines fuel
    | _ => pure ()

def keywords : List String :=
  ["!", "\x7b", "\x7d", "case", "do", "done", "elif", "else", "esac", "fi", "for", "if", "in",
    "then", "until", "while"]

def keyword? (s : List Char) : Option String :=
  let word := String.ofList (s.takeWhile (!isMeta ·))
  if keywords.contains word then some word else none

def tokenName (s : List Char) : String :=
  match s with
  | [] => "end of file"
  | '\n' :: _ => "newline"
  | ';' :: ';' :: _ => "\";;\""
  | '&' :: '&' :: _ => "\"&&\""
  | '|' :: '|' :: _ => "\"||\""
  | c :: _ =>
    if c == '<' || c == '>' then "redirection"
    else if isMeta c then "\"" ++ String.singleton c ++ "\""
    else
      match keyword? s with
      | some word => "\"" ++ word ++ "\""
      | none => "word"

def unexpected {α : Type} (expecting : String := "") : Reader α := do
  let wanted := if expecting.isEmpty then "" else " (expecting \"" ++ expecting ++ "\")"
  fail (tokenName (← peek) ++ " unexpected" ++ wanted)

def expectKeyword (word : String) : Reader Unit := do
  skipBlanks
  if keyword? (← peek) = some word then skip word.length else unexpected word

/-- The name at the start of a text, followed by an equals sign, if an assignment stands there. -/
def assignment? (s : List Char) : Option (List Char) :=
  let name := s.takeWhile isNameChar
  if isName name && (s.drop name.length).head? == some '=' then some name else none

/-- The redirection operator that stands here: its descriptor and itself. -/
def redirection? (s : List Char) : Option (Nat × List Char × Nat) :=
  let (descriptor, rest, digits) : Option Nat × List Char × Nat :=
    match s with
    | c :: d :: rest =>
      if c.isDigit && (d == '<' || d == '>') then (some (c.toNat - 48), d :: rest, 1)
      else (none, s, 0)
    | _ => (none, s, 0)
  let found (usual : Nat) (operator : String) :=
    some (descriptor.getD usual, operator.toList, digits + operator.length)
  match rest with
  | '<' :: '<' :: '-' :: _ => found 0 "<<-"
  | '<' :: '<' :: _ => found 0 "<<"
  | '<' :: '&' :: _ => found 0 "<&"
  | '<' :: '>' :: _ => found 0 "<>"
  | '<' :: _ => found 0 "<"
  | '>' :: '>' :: _ => found 1 ">>"
  | '>' :: '&' :: _ => found 1 ">&"
  | '>' :: '|' :: _ => found 1 ">|"
  | '>' :: _ => found 1 ">"
  | _ => none

def consChar (c : Char) (quoted : Bool) : List Piece → List Piece
  | .text s q :: rest =>
    if q == quoted && !s.isEmpty then .text (c :: s) q :: rest
    else .text [c] quoted :: .text s q :: rest
  | pieces => .text [c] quoted :: pieces

/-- The text in backquotes, with the backslashes that quote taken away, and the rest. -/
def backquoted (inQuotes : Bool) : List Char → Option (List Char × List Char)
  | [] => none
  | '`' :: rest => some ([], rest)
  | '\\' :: c :: rest =>
    let kept := if c == '\\' || c == '`' || c == '$' || (inQuotes && c == '"') then [c] else ['\\', c]
    (backquoted inQuotes rest).map fun (s, rest) => (kept ++ s, rest)
  | c :: rest => (backquoted inQuotes rest).map fun (s, rest) => (c :: s, rest)

def countLines (s : List Char) : Nat := s.count '\n'

def isSpecial (c : Char) : Bool := ['@', '*', '#', '?', '-', '$', '!'].contains c

/-- The lines of a text that stands in the script up to its closing line, and what follows. -/
def hereLines (stripTabs : Bool) (delimiter : List Char) : Nat → List Char →
    List Char × List Char
  | 0, s => ([], s)
  | _ + 1, [] => ([], [])
  | fuel + 1, s =>
    let line := s.takeWhile (· != '\n')
    let rest := s.drop (line.length + 1)
    let shown := if stripTabs then line.dropWhile (· == '\t') else line
    if shown = delimiter then ([], rest)
    else
      let (body, rest) := hereLines stripTabs delimiter fuel rest
      (shown ++ '\n' :: body, rest)

def plainText : List Piece → List Char × Bool
  | [] => ([], false)
  | .text s quoted :: rest => let (more, q) := plainText rest; (s ++ more, q || quoted)
  | _ :: rest => plainText rest

inductive Ending where
  | word
  | quote
  | brace
  | quotedBrace
  /-- At the end of the text, which stands for itself. -/
  | here
  | arithmetic (depth : Nat)
  deriving DecidableEq

namespace Ending

def quotes : Ending → Bool
  | word | brace => false
  | _ => true

/-- Whether the text ends here, and how many characters the ending itself has. -/
def endsAt (ending : Ending) (s : List Char) : Option Nat :=
  match ending, s with
  | word, [] | here, [] => some 0
  | word, c :: _ => if isMeta c then some 0 else none
  | quote, '"' :: _ => some 1
  | brace, '\x7d' :: _ | quotedBrace, '\x7d' :: _ => some 1
  | arithmetic 0, ')' :: ')' :: _ => some 2
  | _, _ => none

def missing : Ending → String
  | brace | quotedBrace => "Missing '\x7d'"
  | arithmetic _ => "Missing '))'"
  | _ => "Unterminated quoted string"

def escapes (ending : Ending) (c : Char) : Bool :=
  c == '\\' || c == '$' || c == '`' || (c == '"' && ending != here) ||
    (c == '\x7d' && ending == quotedBrace)

end Ending

mutual

def pieces : Nat → Ending → Reader (List Piece)
  | 0, _ => fail "end of file unexpected"
  | fuel + 1, ending => do
    let s ← peek
    match ending.endsAt s with
    | some count =>
      skip count
      return []
    | none =>
      match s with
      | [] => fail ending.missing
      | '\\' :: '\n' :: _ =>
        skip 2 1
        pieces fuel ending
      | ['\\'] =>
        skip 1
        return consChar '\\' true (← pieces fuel ending)
      | '\\' :: c :: _ =>
        skip 2
        if ending.quotes && !ending.escapes c then
          return consChar '\\' true (consChar c true (← pieces fuel ending))
        return consChar c true (← pieces fuel ending)
      | '\'' :: rest =>
        if ending.quotes then
          skip 1
          return consChar '\'' true (← pieces fuel ending)
        let inner := rest.takeWhile (· != '\'')
        if inner.length = rest.length then fail "Unterminated quoted string"
        skip (inner.length + 2) (countLines inner)
        return .text inner true :: (← pieces fuel ending)
      | '"' :: _ =>
        match ending with
        | .here =>
          skip 1
          return consChar '"' true (← pieces fuel ending)
        | .arithmetic _ =>
          skip 1
          return consChar '"' true (← pieces fuel ending)
        | _ =>
          skip 1
          let inner ← pieces fuel .quote
          return .text [] true :: inner ++ (← pieces fuel ending)
      | '`' :: rest =>
        match backquoted ending.quotes rest with
        | none => fail "EOF in backquote substitution"
        | some (script, after) =>
          let line := (← get).line
          let inner : Script := ⟨script, line⟩
          let (body, _) ← commands fuel true |>.run inner
          set (⟨after, line + countLines script⟩ : Script)
          return .output body ending.quotes :: (← pieces fuel ending)
      | '$' :: _ =>
        match ← dollar fuel ending.quotes with
        | some piece => return piece :: (← pieces fuel ending)
        | none =>
          skip 1
          return consChar '$' ending.quotes (← pieces fuel ending)
      | c :: _ =>
        skip 1 (if c == '\n' then 1 else 0)
        let next :=
          match ending with
          | .arithmetic depth =>
            if c == '(' then .arithmetic (depth + 1)
            else if c == ')' then .arithmetic (depth - 1)
            else ending
          | _ => ending
        return consChar c ending.quotes (← pieces fuel next)

/-- What a dollar sign stands for, `none` if for itself. -/
def dollar : Nat → Bool → Reader (Option Piece)
  | 0, _ => return none
  | fuel + 1, quoted => do
    match ← peek with
    | '$' :: '(' :: '(' :: _ =>
      skip 3
      return some (.arithmetic (← pieces fuel (.arithmetic 0)) quoted)
    | '$' :: '(' :: _ =>
      skip 2
      let body ← commands fuel true
      skipBlanks
      match ← peek with
      | ')' :: _ =>
        skip 1
        return some (.output body quoted)
      | _ => unexpected ")"
    | '$' :: '\x7b' :: _ =>
      skip 2
      return some (← braced fuel quoted)
    | '$' :: c :: rest =>
      if c.isDigit || isSpecial c then
        skip 2
        return some (.parameter [c] .value quoted)
      else if isNameChar c then
        let name := (c :: rest).takeWhile isNameChar
        skip (name.length + 1)
        return some (.parameter name .value quoted)
      else return none
    | _ => return none

/-- A parameter in braces, after the opening one. -/
def braced : Nat → Bool → Reader Piece
  | 0, _ => fail "Missing '\x7d'"
  | fuel + 1, quoted => do
    let s ← peek
    let wordEnding : Ending := if quoted then .quotedBrace else .brace
    let name (s : List Char) : List Char :=
      match s with
      | c :: _ =>
        if c.isDigit then s.takeWhile Char.isDigit
        else if isNameChar c then s.takeWhile isNameChar
        else if isSpecial c then [c]
        else []
      | [] => []
    let unknown : Reader Piece := do
      let _ ← pieces fuel wordEnding
      return .parameter [] .unknown quoted
    match s with
    | '#' :: rest =>
      let inner := name rest
      match inner, rest.drop inner.length with
      | _ :: _, '\x7d' :: _ =>
        if inner = ['#'] || inner ≠ [] then
          skip (inner.length + 2)
          return .parameter inner .length quoted
        else unknown
      | _, _ =>
        skip 1
        form fuel ['#'] quoted
    | _ =>
      let found := name s
      if found.isEmpty then unknown
      else
        skip found.length
        form fuel found quoted

def form : Nat → List Char → Bool → Reader Piece
  | 0, _, _ => fail "Missing '\x7d'"
  | fuel + 1, name, quoted => do
    let wordEnding : Ending := if quoted then .quotedBrace else .brace
    let fallback (count : Nat) (kind : Fallback) (emptyToo : Bool) : Reader Piece := do
      skip count
      return .parameter name (.fallback kind emptyToo (← pieces fuel wordEnding)) quoted
    let trim (count : Nat) (kind : Trim) : Reader Piece := do
      skip count
      return .parameter name (.trim kind (← pieces fuel .brace)) quoted
    match ← peek with
    | '\x7d' :: _ =>
      skip 1
      return .parameter name .value quoted
    | '-' :: _ => fallback 1 .use false
    | '=' :: _ => fallback 1 .assign false
    | '?' :: _ => fallback 1 .refuse false
    | '+' :: _ => fallback 1 .replace false
    | ':' :: '-' :: _ => fallback 2 .use true
    | ':' :: '=' :: _ => fallback 2 .assign true
    | ':' :: '?' :: _ => fallback 2 .refuse true
    | ':' :: '+' :: _ => fallback 2 .replace true
    | '#' :: '#' :: _ => trim 2 .longestFront
    | '#' :: _ => trim 1 .shortestFront
    | '%' :: '%' :: _ => trim 2 .longestBack
    | '%' :: _ => trim 1 .shortestBack
    | _ =>
      let _ ← pieces fuel wordEnding
      return .parameter [] .unknown quoted

def redirection : Nat → Reader (Option Redirection)
  | 0 => return none
  | fuel + 1 => do
    match redirection? (← peek) with
    | none => return none
    | some (descriptor, operator, count) =>
      skip count
      skipBlanks
      match (← peek).head? with
      | none => unexpected
      | some c => if isMeta c then unexpected else pure ()
      let word ← pieces fuel .word
      match operator with
      | ['<', '<'] | ['<', '<', '-'] =>
        let (delimiter, quoted) := plainText word
        let s ← get
        let line := s.rest.takeWhile (· != '\n')
        let below := s.rest.drop (line.length + 1)
        let (body, after) := hereLines (operator.length = 3) delimiter (below.length + 1) below
        let left := if line.length = s.rest.length then line else line ++ '\n' :: after
        set (⟨left, s.line⟩ : Script)
        if quoted then return some (.here descriptor [.text body true])
        let (parts, _) ← pieces fuel .here |>.run ⟨body, s.line⟩
        return some (.here descriptor parts)
      | ['<', '&'] | ['>', '&'] => return some (.duplicate descriptor word)
      | ['<', '>'] => return some (.file descriptor .both word)
      | ['<'] => return some (.file descriptor .read word)
      | ['>', '>'] => return some (.file descriptor .append word)
      | _ => return some (.file descriptor .write word)

def redirections : Nat → Reader (List Redirection)
  | 0 => return []
  | fuel + 1 => do
    skipBlanks
    match ← redirection fuel with
    | none => return []
    | some first => return first :: (← redirections fuel)

/-- Assignments, words and redirections of a simple command. -/
def simpleParts : Nat → List (List Char × List Piece) → List (List Piece) → List Redirection →
    Reader (List (List Char × List Piece) × List (List Piece) × List Redirection)
  | 0, assignments, words, redirs => return (assignments, words, redirs)
  | fuel + 1, assignments, words, redirs => do
    skipBlanks
    match ← redirection fuel with
    | some redir => simpleParts fuel assignments words (redirs ++ [redir])
    | none =>
      let s ← peek
      match s.head? with
      | none => return (assignments, words, redirs)
      | some c =>
        if isMeta c then return (assignments, words, redirs)
        match if words.isEmpty then assignment? s else none with
        | some name =>
          skip (name.length + 1)
          let value ← pieces fuel .word
          simpleParts fuel (assignments ++ [(name, value)]) words redirs
        | none =>
          let word ← pieces fuel .word
          simpleParts fuel assignments (words ++ [word]) redirs

def simple : Nat → Reader Command
  | 0 => fail "end of file unexpected"
  | fuel + 1 => do
    let line := (← get).line
    let (assignments, words, redirs) ← simpleParts fuel [] [] []
    match ← peek with
    | '(' :: _ =>
      match assignments, words, redirs with
      | [], [[.text name false]], [] =>
        skip 1
        skipBlanks
        match ← peek with
        | ')' :: _ =>
          skip 1
          if !isName name then fail "Bad function name"
          skipLines fuel
          return .define name (← command fuel)
        | _ => unexpected ")"
      | _, _, _ => unexpected
    | _ =>
      if assignments.isEmpty && words.isEmpty && redirs.isEmpty then unexpected
      else return .simple line assignments words redirs

def branches : Nat → Reader Command
  | 0 => fail "end of file unexpected"
  | fuel + 1 => do
    let condition ← commands fuel false
    expectKeyword "then"
    let yes ← commands fuel false
    skipBlanks
    match keyword? (← peek) with
    | some "elif" =>
      skip 4
      return .branch condition yes (← branches fuel)
    | some "else" =>
      skip 4
      let no ← commands fuel false
      expectKeyword "fi"
      return .branch condition yes no
    | some "fi" =>
      skip 2
      return .branch condition yes .nothing
    | _ => unexpected "fi"

def wordList : Nat → Reader (List (List Piece))
  | 0 => return []
  | fuel + 1 => do
    skipBlanks
    match (← peek).head? with
    | none => return []
    | some c =>
      if isMeta c then return []
      let word ← pieces fuel .word
      return word :: (← wordList fuel)

def patterns : Nat → Reader (List (List Piece))
  | 0 => return []
  | fuel + 1 => do
    skipBlanks
    match (← peek).head? with
    | none => unexpected ")"
    | some c =>
      if isMeta c then unexpected ")"
      let word ← pieces fuel .word
      skipBlanks
      match ← peek with
      | '|' :: _ =>
        skip 1
        return word :: (← patterns fuel)
      | ')' :: _ =>
        skip 1
        return [word]
      | _ => unexpected ")"

def arms : Nat → Reader (List (List (List Piece) × Command))
  | 0 => return []
  | fuel + 1 => do
    skipLines fuel
    let s ← peek
    if keyword? s = some "esac" then
      skip 4
      return []
    match s with
    | '(' :: _ => skip 1
    | _ => pure ()
    let words ← patterns fuel
    let body ← commands fuel true
    skipLines fuel
    match ← peek with
    | ';' :: ';' :: _ =>
      skip 2
      return (words, body) :: (← arms fuel)
    | _ =>
      expectKeyword "esac"
      return [(words, body)]

def loopBody : Nat → Reader Command
  | 0 => fail "end of file unexpected"
  | fuel + 1 => do
    expectKeyword "do"
    let body ← commands fuel false
    expectKeyword "done"
    return body

/-- A compound command whose first keyword stands here, or a simple one. -/
def bare : Nat → Reader (Command × Bool)
  | 0 => fail "end of file unexpected"
  | fuel + 1 => do
    let s ← peek
    match s with
    | '(' :: _ =>
      skip 1
      let body ← commands fuel false
      skipBlanks
      match ← peek with
      | ')' :: _ =>
        skip 1
        return (.subshell body, true)
      | _ => unexpected ")"
    | _ =>
      match keyword? s with
      | some "\x7b" =>
        skip 1
        let body ← commands fuel false
        expectKeyword "\x7d"
        return (body, true)
      | some "if" =>
        skip 2
        return (← branches fuel, true)
      | some "while" =>
        skip 5
        let condition ← commands fuel false
        return (.loop false condition (← loopBody fuel), true)
      | some "until" =>
        skip 5
        let condition ← commands fuel false
        return (.loop true condition (← loopBody fuel), true)
      | some "for" =>
        skip 3
        skipBlanks
        let name := (← peek).takeWhile (!isMeta ·)
        if !isName name then fail "Bad for loop variable"
        skip name.length
        skipLines fuel
        let words ←
          if keyword? (← peek) = some "in" then do
            skip 2
            let words ← wordList fuel
            match (← peek).head? with
            | some ';' | some '\n' => pure ()
            | _ => unexpected
            pure (some words)
          else pure none
        match ← peek with
        | ';' :: _ => skip 1
        | _ => pure ()
        skipLines fuel
        return (.each name words (← loopBody fuel), true)
      | some "case" =>
        skip 4
        skipBlanks
        match (← peek).head? with
        | none => unexpected
        | some c => if isMeta c then unexpected else pure ()
        let subject ← pieces fuel .word
        skipLines fuel
        expectKeyword "in"
        return (.choice subject (← arms fuel), true)
      | some _ => unexpected
      | none => return (← simple fuel, false)

def command : Nat → Reader Command
  | 0 => fail "end of file unexpected"
  | fuel + 1 => do
    skipBlanks
    let (body, compound) ← bare fuel
    if !compound then return body
    let redirs ← redirections fuel
    return if redirs.isEmpty then body else .redirected body redirs

def piped : Nat → Reader (List Command)
  | 0 => return []
  | fuel + 1 => do
    let first ← command fuel
    skipBlanks
    match ← peek with
    | '|' :: '|' :: _ => return [first]
    | '|' :: _ =>
      skip 1
      skipLines fuel
      return first :: (← piped fuel)
    | _ => return [first]

def pipeline : Nat → Reader Command
  | 0 => fail "end of file unexpected"
  | fuel + 1 => do
    skipBlanks
    let negated := keyword? (← peek) == some "!"
    if negated then skip 1
    let commands ← piped fuel
    let body : Command :=
      match commands with
      | [one] => one
      | _ => .pipeline commands
    return if negated then .negation body else body

/-- What follows a pipeline: others that depend on its outcome. -/
def chained : Nat → Command → Reader Command
  | 0, first => return first
  | fuel + 1, first => do
    skipBlanks
    match ← peek with
    | '&' :: '&' :: _ =>
      skip 2
      skipLines fuel
      let second ← pipeline fuel
      chained fuel (.both first second)
    | '|' :: '|' :: _ =>
      skip 2
      skipLines fuel
      let second ← pipeline fuel
      chained fuel (.either first second)
    | _ => return first

def commands : Nat → Bool → Reader Command
  | 0, _ => fail "end of file unexpected"
  | fuel + 1, mayBeEmpty => do
    skipLines fuel
    let s ← peek
    let ends :=
      match s with
      | [] | ')' :: _ | ';' :: ';' :: _ => true
      | _ =>
        match keyword? s with
        | some word => ["\x7d", "do", "done", "elif", "else", "esac", "fi", "then"].contains word
        | none => false
    if ends then
      if mayBeEmpty || s.isEmpty then return .nothing else unexpected
    let first ← chained fuel (← pipeline fuel)
    skipBlanks
    match ← peek with
    | ';' :: ';' :: _ => return first
    | ';' :: _ | '\n' :: _ =>
      skip 1 (if (← peek).head? == some '\n' then 1 else 0)
      match ← commands fuel true with
      | .nothing => return first
      | second => return .sequence first second
    | '&' :: _ =>
      skip 1
      match ← commands fuel true with
      | .nothing => return .background first
      | second => return .sequence (.background first) second
    | _ => return first

end

/-- The commands of one line, after which a line ends or the script does. -/
def commandLine : Nat → Reader Command
  | 0 => fail "end of file unexpected"
  | fuel + 1 => do
    skipBlanks
    match ← peek with
    | [] => return .nothing
    | '\n' :: _ =>
      skip 1 1
      return .nothing
    | _ =>
      let first ← chained fuel (← pipeline fuel)
      skipBlanks
      match ← peek with
      | [] => return first
      | '\n' :: _ =>
        skip 1 1
        return first
      | ';' :: ';' :: _ => unexpected
      | ';' :: _ =>
        skip 1
        return .sequence first (← commandLine fuel)
      | '&' :: _ =>
        skip 1
        return .sequence (.background first) (← commandLine fuel)
      | _ => unexpected

end Reading

def Script.fuel (script : Script) : Nat := 16 * script.rest.length + 64

/-- The commands of the next line of a script, and the rest of the script. -/
def Script.nextLine (script : Script) : Except SyntaxFault (Command × Script) :=
  Reading.commandLine script.fuel |>.run script

end HostInventory.Shell
