import HostInventory.Outside.Printf
import HostInventory.Outside.Shell.Condition
import HostInventory.Outside.Shell.Parameter
import HostInventory.Outside.Shell.Reading

/-!
The commands that a shell carries out itself, as far as they run no other command.
-/
namespace HostInventory.Shell

open Octets

def specialBuiltins : List String :=
  [".", ":", "break", "continue", "eval", "exec", "exit", "export", "local", "readonly", "return",
    "set", "shift", "times", "trap", "unset"]

def otherBuiltins : List String :=
  ["[", "cd", "command", "echo", "false", "hash", "jobs", "kill", "printf", "pwd", "read", "test",
    "true", "type", "umask", "wait"]

namespace Machine

structure Unfound where
  message : List Char
  status : Nat

def ofObstacle (name : List Char) (obstacle : Obstacle) : Unfound :=
  match obstacle with
  | .forbidden | .isDirectory => ⟨name ++ ": Permission denied".toList, 126⟩
  | _ => ⟨name ++ ": not found".toList, 127⟩

def programAt (machine : Machine) (path : List Char) : Except Obstacle String := do
  match (← machine.entryAt path) with
  | .program =>
    let whole := machine.pathOf path
    let place ← UsualHost.tree.walk FileTree.linkLimit [] (FileTree.components whole)
    return place.getLastD ""
  | _ => throw .forbidden

def program (machine : Machine) (name : List Char) : Except Unfound (List Char × String) :=
  if name.contains '/' then
    match machine.programAt name with
    | .ok found => .ok (name, found)
    | .error obstacle => .error (ofObstacle name obstacle)
  else
    let path := (machine.value? "PATH".toList).getD []
    let found := (path.splitOn ':').findSome? fun directory =>
      let whole := if directory.isEmpty then name else directory ++ '/' :: name
      match machine.programAt whole with
      | .ok found => some (whole, found)
      | .error _ => none
    match found with
    | some found => .ok found
    | none => .error ⟨name ++ ": not found".toList, 127⟩

end Machine

namespace Builtin

def refuse (name : String) (message : List Char) : Run Unit := do
  Run.complain (name.toList ++ ": ".toList ++ message)
  Run.setStatus 2

def abort {α : Type} (name : String) (message : List Char) : Run α :=
  Run.refuse (name.toList ++ ": ".toList ++ message)

def emit (name : String) (s : List Char) : Run Unit := do
  let (machine, done) := (← get).write 1 s
  set machine
  if !done && !s.isEmpty then
    Run.complain (name ++ ": " ++ name ++ ": I/O error").toList
    Run.setStatus 1

def statusOf (name : String) (word : List Char) : Run Nat := do
  let (found, rest) := digits decimal? word
  if found.isEmpty || !rest.isEmpty then abort name ("Illegal number: ".toList ++ word)
  else return value 10 found

def echo (arguments : List (List Char)) : Run Unit := do
  Run.setStatus 0
  let (newline, words) :=
    match arguments with
    | ['-', 'n'] :: rest => (false, rest)
    | _ => (true, arguments)
  let body := [' '].intercalate words
  let (shown, ended, _) :=
    Printf.flat (Printf.unescape Printf.shellTextEscape (body.length + 1) body)
  emit "echo" (if ended || !newline then shown else shown ++ ['\n'])

def printf (arguments : List (List Char)) : Run Unit := do
  let run (words : List (List Char)) : Run Unit := do
    match words with
    | [] => refuse "printf" "usage: printf format [arg ...]".toList
    | format :: values =>
      let printed := Printf.print Printf.shell format values
      for complaint in printed.complaints do
        Run.complain ("printf: ".toList ++ complaint)
      Run.setStatus (if printed.broken then 2 else if printed.failed then 1 else 0)
      emit "printf" printed.out
  match arguments with
  | ['-', '-'] :: rest => run rest
  | ('-' :: c :: _) :: _ => refuse "printf" ("Illegal option -".toList ++ [c])
  | _ => run arguments

def test (name : String) (words : List (List Char)) : Run Unit := do
  let machine ← get
  let files : Condition.Files :=
    { entry? := fun path => (machine.entryAt path).toOption
      size := fun path => ((machine.file? (machine.pathOf path).toList).getD []).length }
  match Condition.outcome files words with
  | .ok holds => Run.setStatus (if holds then 0 else 1)
  | .error (.message s) => refuse name s

def bracket (words : List (List Char)) : Run Unit :=
  match words.getLast? with
  | some (']' :: _) => test "[" words.dropLast
  | _ => refuse "[" "missing ]".toList

def changeDirectory (arguments : List (List Char)) : Run Unit := do
  let machine ← get
  let words := arguments.filter fun word => word ∉ [['-', '-'], ['-', 'L'], ['-', 'P']]
  let target :=
    match words with
    | [] => (machine.value? "HOME".toList).getD []
    | ['-'] :: _ => (machine.value? "OLDPWD".toList).getD []
    | word :: _ => word
  let path := if target.isEmpty then machine.directory else machine.pathOf target
  match UsualHost.tree.find [] path path with
  | .ok (_, .directory) =>
    Run.assign "OLDPWD".toList machine.directory.toList
    Run.assign "PWD".toList path.toList
    modify fun machine => { machine with directory := path, status := 0 }
    if words.head? = some ['-'] then emit "cd" (path.toList ++ ['\n'])
  | _ => refuse "cd" ("can't cd to ".toList ++ target)

def mark (change : Variable → Variable) (word : List Char) : Run Unit := do
  let name := word.takeWhile (· != '=')
  if !isName name then Run.refuse (name ++ ": bad variable name".toList)
  if name.length < word.length then Run.assign name (word.drop (name.length + 1))
  modify fun machine =>
    let old := (machine.bindings.lookup name).getD ⟨none, false, false⟩
    machine.setVariable name (change old)

def marks (change : Variable → Variable) (arguments : List (List Char)) : Run Unit := do
  Run.setStatus 0
  for word in arguments.filter (· ∉ [['-', '-'], ['-', 'p']]) do
    mark change word

def unset (arguments : List (List Char)) : Run Unit := do
  Run.setStatus 0
  let functions := arguments.head? = some ['-', 'f']
  for name in arguments.filter (· ∉ [['-', '-'], ['-', 'f'], ['-', 'v']]) do
    if functions then
      modify fun machine => { machine with functions := machine.functions.filter (·.1 != name) }
    else
      if (← get).isReadOnly name then abort "unset" (name ++ ": is read only".toList)
      modify (·.dropVariable name)

def hide (name : List Char) : Run Unit :=
  modify fun machine =>
    match machine.hidden with
    | frame :: outer =>
      if frame.any (·.1 == name) then machine
      else { machine with hidden := ((name, machine.bindings.lookup name) :: frame) :: outer }
    | [] => machine

def localVariables (arguments : List (List Char)) : Run Unit := do
  if (← get).hidden.isEmpty then abort "local" "not in a function".toList
  Run.setStatus 0
  for word in arguments do
    let name := word.takeWhile (· != '=')
    hide name
    if name.length < word.length then Run.assign name (word.drop (name.length + 1))

def options : List (String × Char) :=
  [("errexit", 'e'), ("noglob", 'f'), ("monitor", 'm'), ("noexec", 'n'), ("xtrace", 'x'),
    ("verbose", 'v'), ("allexport", 'a'), ("notify", 'b'), ("nounset", 'u')]

def setOption (on : Bool) (letter : Char) : Run Unit :=
  modify fun machine =>
    let others := machine.options.filter (· != letter)
    { machine with options := if on then others ++ [letter] else others }

def setWords : List (List Char) → Run Unit
  | [] => pure ()
  | ['-', '-'] :: rest => modify fun machine => { machine with arguments := rest }
  | ['-'] :: rest => do
    if !rest.isEmpty then modify fun machine => { machine with arguments := rest }
  | [sign, 'o'] :: name :: rest =>
    match options.lookup (String.ofList name) with
    | some letter => do
      if sign = '-' || sign = '+' then setOption (sign = '-') letter
      setWords rest
    | none => abort "set" ("Illegal option -o ".toList ++ name)
  | (sign :: letters) :: rest =>
    if sign != '-' && sign != '+' then
      modify fun machine => { machine with arguments := (sign :: letters) :: rest }
    else do
      for letter in letters do
        if options.any (·.2 == letter) || letter == 'C' || letter == 'E' || letter == 'V' then
          setOption (sign = '-') letter
        else abort "set" ("Illegal option -".toList ++ [letter])
      setWords rest
  | [] :: rest => modify fun machine => { machine with arguments := [] :: rest }

def shift (arguments : List (List Char)) : Run Unit := do
  let count ← match arguments with
    | [] => pure 1
    | word :: _ => statusOf "shift" word
  let machine ← get
  if machine.arguments.length < count then abort "shift" "can't shift that many".toList
  set { machine with arguments := machine.arguments.drop count, status := 0 }

/-- Leaves loops, or goes on with the next round of one. -/
def leave (name : String) (stop : Nat → Stop) (arguments : List (List Char)) : Run Unit := do
  let count ← match arguments with
    | [] => pure 1
    | word :: _ => statusOf name word
  if count = 0 then abort name ("Illegal number: 0".toList)
  Run.setStatus 0
  let loops := (← get).loops
  if loops != 0 then throw (stop (min count loops))

def endWith (name : String) (stop : Stop) (arguments : List (List Char)) : Run Unit := do
  match arguments with
  | [] => pure ()
  | word :: _ => Run.setStatus (← statusOf name word)
  throw stop

def trap (arguments : List (List Char)) : Run Unit := do
  Run.setStatus 0
  match arguments.filter (· ≠ ['-', '-']) with
  | action :: events =>
    let isEnd (event : List Char) : Bool := event = "EXIT".toList || event = ['0']
    if events.any isEnd then
      modify fun machine => { machine with farewell := if action = ['-'] then none else some action }
    else if events.isEmpty && isEnd action then
      modify fun machine => { machine with farewell := none }
  | [] => pure ()

def signals : List (String × Nat) :=
  [("HUP", 1), ("INT", 2), ("QUIT", 3), ("ILL", 4), ("TRAP", 5), ("ABRT", 6), ("BUS", 7),
    ("FPE", 8), ("KILL", 9), ("USR1", 10), ("SEGV", 11), ("USR2", 12), ("PIPE", 13), ("ALRM", 14),
    ("TERM", 15), ("STKFLT", 16), ("CHLD", 17), ("CONT", 18), ("STOP", 19)]

def signal? (word : List Char) : Option Nat :=
  let (found, rest) := digits decimal? word
  if !found.isEmpty && rest.isEmpty then some (value 10 found)
  else
    let name := word.map Char.toUpper
    signals.lookup (String.ofList (if "SIG".toList.isPrefixOf name then name.drop 3 else name))

def send (signal : Nat) (targets : List (List Char)) : Run Unit := do
  Run.setStatus 0
  for target in targets do
    if target = processNumber then
      if signal ∉ [0, 17, 18] then throw (.killed signal)
    else
      Run.complain "kill: No such process".toList
      Run.setStatus 1

def kill (arguments : List (List Char)) : Run Unit := do
  match arguments with
  | ['-', 'l'] :: word :: _ =>
    match (signal? word).bind fun number => signals.find? (·.2 == number % 128) with
    | some (name, _) =>
      Run.setStatus 0
      emit "kill" (name.toList ++ ['\n'])
    | none => refuse "kill" ("invalid signal number or exit status: ".toList ++ word)
  | ['-', 's'] :: word :: targets =>
    match signal? word with
    | some signal => send signal targets
    | none => refuse "kill" ("invalid signal number or name: ".toList ++ word)
  | ('-' :: word) :: targets =>
    match signal? word with
    | some signal => send signal targets
    | none => refuse "kill" ("Illegal option -".toList ++ word.take 1)
  | targets => send 15 targets

/-- A line as characters of which some are quoted by backslashes, whether it has an end, and what is
left to be read. -/
def lineOf (raw : Bool) : List Char → List Sign × Bool × List Char
  | [] => ([], false, [])
  | '\n' :: rest => ([], true, rest)
  | '\x00' :: rest => lineOf raw rest
  | '\\' :: c :: rest =>
    if raw then
      let (line, ended, left) := lineOf raw (c :: rest)
      (⟨'\\', true⟩ :: line, ended, left)
    else
      let (line, ended, left) := lineOf raw rest
      (if c = '\n' then line else ⟨c, true⟩ :: line, ended, left)
  | c :: rest =>
    let (line, ended, left) := lineOf raw rest
    if c = '\\' && !raw then (line, ended, left) else (⟨c, false⟩ :: line, ended, left)

def separates (separators : List Char) (sign : Sign) : Bool :=
  !sign.quoted && separators.contains sign.char

def isSpace (separators : List Char) (sign : Sign) : Bool :=
  separates separators sign && Atom.isBlankSeparator sign.char

def afterSeparator (separators : List Char) (s : List Sign) : List Sign :=
  match s.dropWhile (isSpace separators) with
  | sign :: rest =>
    if separates separators sign then rest.dropWhile (isSpace separators) else sign :: rest
  | [] => []

/-- The values of variables that a line is read into: the last one takes all that is left. -/
def lineValues (separators : List Char) : List (List Char) → List Sign →
    List (List Char × List Char)
  | [], _ => []
  | [name], s =>
    let field := s.takeWhile (!separates separators ·)
    let whole := (s.reverse.dropWhile (isSpace separators)).reverse
    let left := afterSeparator separators (s.drop field.length)
    [(name, Atom.plain (if left.isEmpty then field else whole))]
  | name :: names, s =>
    let field := s.takeWhile (!separates separators ·)
    (name, Atom.plain field) ::
      lineValues separators names (afterSeparator separators (s.drop field.length))

def read (arguments : List (List Char)) : Run Unit := do
  let names := arguments.filter fun word => word ∉ [['-', 'r'], ['-', '-']]
  if names.isEmpty then refuse "read" "arg count".toList
  else
    let machine ← get
    let (line, ended, left) := lineOf (arguments.contains ['-', 'r']) (machine.input 0)
    modify (·.setInput 0 left)
    let separators := machine.separators
    for (name, value) in lineValues separators names (line.dropWhile (isSpace separators)) do
      if !isName name then abort "read" (name ++ ": bad variable name".toList)
      Run.assign name value
    Run.setStatus (if ended then 0 else 1)

/-- What a name stands for: in words, or as it would be called; `none` if it stands for nothing. -/
def description? (machine : Machine) (name : List Char) (inWords : Bool) : Option (List Char) :=
  let say (s : String) : List Char := if inWords then name ++ s.toList else name
  let text := String.ofList name
  if Reading.keywords.contains text then some (say " is a shell keyword")
  else if (machine.functions.lookup name).isSome then some (say " is a shell function")
  else if specialBuiltins.contains text then some (say " is a special shell builtin")
  else if otherBuiltins.contains text then some (say " is a shell builtin")
  else
    match machine.program name with
    | .ok (path, _) => some (if inWords then name ++ " is ".toList ++ path else path)
    | .error _ => none

def describe (name : String) (inWords : Bool) (words : List (List Char)) : Run Unit := do
  Run.setStatus 0
  for word in words do
    match description? (← get) word inWords with
    | some s => emit name (s ++ ['\n'])
    | none =>
      if inWords then emit name (word ++ ": not found\n".toList)
      Run.setStatus 127

def run? (name : String) (arguments : List (List Char)) : Option (Run Unit) :=
  match name with
  | ":" | "true" | "hash" | "jobs" => some (Run.setStatus 0)
  | "false" => some (Run.setStatus 1)
  | "[" => some (bracket arguments)
  | "test" => some (test "test" arguments)
  | "break" => some (leave "break" .leave arguments)
  | "cd" => some (changeDirectory arguments)
  | "continue" => some (leave "continue" .again arguments)
  | "echo" => some (echo arguments)
  | "exit" => some (endWith "exit" .exit arguments)
  | "export" => some (marks (fun slot => { slot with exported := true }) arguments)
  | "kill" => some (kill arguments)
  | "local" => some (localVariables arguments)
  | "printf" => some (printf arguments)
  | "pwd" => some do
    Run.setStatus 0
    emit "pwd" ((← get).directory.toList ++ ['\n'])
  | "read" => some (read arguments)
  | "readonly" => some (marks (fun slot => { slot with readOnly := true }) arguments)
  | "return" => some (endWith "return" .back arguments)
  | "set" => some do
    Run.setStatus 0
    setWords arguments
  | "shift" => some (shift arguments)
  | "times" => some do
    Run.setStatus 0
    emit "times" "0m0.00s 0m0.00s\n0m0.00s 0m0.00s\n".toList
  | "trap" => some (trap arguments)
  | "type" => some (describe "type" true arguments)
  | "umask" => some do
    Run.setStatus 0
    if arguments.isEmpty then emit "umask" "0022\n".toList
  | "unset" => some (unset arguments)
  | "wait" => some do
    let known := (← get).backgroundStatus.getD 127
    Run.setStatus (if arguments.isEmpty then 0 else known)
  | _ => none

end Builtin

end HostInventory.Shell
