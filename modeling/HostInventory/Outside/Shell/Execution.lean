import HostInventory.Outside.Shell.Arithmetic
import HostInventory.Outside.Shell.Invocation
import HostInventory.Outside.SmallPrograms

/-!
Running the commands of a shell. Expanding words can run commands and the other way round; all of it
goes only so deep as `fuel` allows.
-/
namespace HostInventory.Shell

open Octets

namespace Execution

def calculate (expression : List Char) : Run (List Char) := do
  let machine ← get
  let bindings := machine.bindings.filterMap fun (name, slot) => slot.value.map (name, ·)
  match Arithmetic.evaluate bindings expression with
  | .ok (n, after) =>
    for (name, value) in after do
      if bindings.lookup name ≠ some value then Run.assign name value
    return (toString n).toList
  | .error fault =>
    let inExpression (what : String) : List Char :=
      ("arithmetic expression: " ++ what ++ ": \"").toList ++ expression ++ ['"']
    match fault with
    | .shape wanted => Run.refuse (inExpression ("expecting " ++ wanted))
    | .divisionByZero => Run.refuse (inExpression "division by zero")
    | .illegalNumber s => Run.refuse ("Illegal number: ".toList ++ s)

/-- What output is worth as a value: NULs and the line feeds at its end are gone. -/
def valueOfOutput (s : List Char) : List Char :=
  ((s.filter (· != '\x00')).reverse.dropWhile (· == '\n')).reverse

def hasPlace (path : String) : Bool :=
  match UsualHost.tree.walk FileTree.linkLimit [] (FileTree.components path).dropLast with
  | .ok place => UsualHost.tree.entry? place = some .directory
  | .error _ => false

/-- The descriptor that a path under `/dev` names. -/
def descriptorOf? (path : String) : Option Nat :=
  match path with
  | "/dev/stdin" => some 0
  | "/dev/stdout" => some 1
  | "/dev/stderr" => some 2
  | _ => if path.startsWith "/dev/fd/" then (path.drop 8).toNat? else none

/-- What a descriptor leads to when a file is opened: a message if it cannot be. -/
def openFile (mode : Mode) (path : List Char) : Run (Option Nat) := do
  let machine ← get
  let whole := machine.pathOf path
  let add (channel : Channel) : Run (Option Nat) := do
    let (number, machine) := (← get).addChannel channel
    set machine
    return some number
  let refuse (what why : String) : Run (Option Nat) := do
    Run.complain (("cannot " ++ what ++ " ").toList ++ path ++ (": " ++ why).toList)
    return none
  match descriptorOf? whole with
  | some descriptor =>
    match machine.channel? descriptor with
    | some number => return some number
    | none => refuse "open" "No such file"
  | none =>
    match machine.entryAt path with
    | .ok .directory =>
      if mode = .read then add (.buffer []) else refuse "create" "Is a directory"
    | .ok _ =>
      if mode = .read then add (.buffer ((machine.file? whole.toList).getD []))
      else if whole.startsWith "/dev/" then add .null
      else
        if mode = .write then modify (·.setFile whole.toList [])
        add (.file whole.toList)
    | .error _ =>
      if mode = .read then refuse "open" "No such file"
      else if hasPlace whole then
        modify (·.setFile whole.toList [])
        add (.file whole.toList)
      else refuse "create" "Directory nonexistent"

def duplicate (descriptor : Nat) (source : List Char) : Run Bool := do
  if source = ['-'] then
    modify (·.setDescriptor descriptor none)
    return true
  let (found, rest) := digits decimal? source
  if found.isEmpty || !rest.isEmpty then Run.refuse "Syntax error: Bad fd number".toList
  match (← get).channel? (value 10 found) with
  | some number =>
    modify (·.setDescriptor descriptor (some number))
    return true
  | none =>
    Run.complain (source ++ ": Bad file descriptor".toList)
    return false

def inputless : List String :=
  ["basename", "dirname", "echo", "false", "printf", "seq", "sleep", "true"]

/-- Runs a small program; the one that is left takes files away. -/
def runSmall (program : String) (name : List Char) (arguments : List (List Char)) : Run Unit := do
  let machine ← get
  let read (path : List Char) : Except Obstacle (List Char) := do
    match (← machine.entryAt path) with
    | .directory => throw .isDirectory
    | _ => return (machine.file? (machine.pathOf path).toList).getD []
  let setting : SmallPrograms.Setting := { name, arguments, input := machine.input 0, read }
  match SmallPrograms.run? program setting with
  | some outcome =>
    if !inputless.contains program then modify (·.setInput 0 [])
    Run.print 2 outcome.err
    Run.print 1 outcome.out
    Run.setStatus outcome.status
  | none =>
    let paths := arguments.filter fun word => word.head? != some '-'
    modify fun machine =>
      let wholes := paths.map fun path => (machine.pathOf path).toList
      { machine with files := machine.files.filter (!wholes.contains ·.1), status := 0 }

def trace (assignments : List (List Char × List Char)) (words : List (List Char)) : Run Unit := do
  let machine ← get
  if machine.options.contains 'x' then
    let shown := assignments.map (fun (name, value) => name ++ '=' :: value) ++ words
    let lead := (machine.value? "PS4".toList).getD []
    Run.print 2 (lead ++ [' '].intercalate shown ++ ['\n'])

/-- Ends the shell after a failure that nothing has asked about, if it is to. -/
def settle (tested : Bool) : Run Unit := do
  let machine ← get
  if !tested && machine.status ≠ 0 && machine.options.contains 'e' then throw .exit

def restore (machine : Machine) (saved : List Char × Option Variable × List Char) : Machine :=
  match saved with
  | (name, some slot, _) => machine.setVariable name slot
  | (name, none, _) => machine.dropVariable name

mutual

def expand : Nat → List Piece → Run (List Atom)
  | 0, _ => throw .exit
  | _ + 1, [] => return []
  | fuel + 1, piece :: rest => do
    let first ←
      match piece with
      | .text [] true =>
        let machine ← get
        match rest with
        | .parameter ['@'] _ true :: _ =>
          pure (if machine.arguments.isEmpty then [] else [Atom.anchor])
        | _ => pure [Atom.anchor]
      | .text s quoted => pure (Atom.ofText quoted s)
      | .parameter name form quoted => parameter fuel name form quoted
      | .output body quoted => pure (Atom.ofValue quoted (← output fuel body))
      | .arithmetic expression quoted =>
        let s ← text fuel expression
        pure (Atom.ofValue quoted (← calculate s))
    return first ++ (← expand fuel rest)

def text : Nat → List Piece → Run (List Char)
  | 0, _ => throw .exit
  | fuel + 1, pieces => return Atom.plain (Atom.signs (← expand fuel pieces))

def word : Nat → List Piece → Run (List Atom)
  | 0, _ => throw .exit
  | fuel + 1, pieces => do
    match homeOf? pieces with
    | some (user, rest) =>
      match (← get).home? user with
      | some home => return Atom.ofText true home ++ (← expand fuel rest)
      | none => expand fuel pieces
    | none => expand fuel pieces

def wordText : Nat → List Piece → Run (List Char)
  | 0, _ => throw .exit
  | fuel + 1, pieces => return Atom.plain (Atom.signs (← word fuel pieces))

def fields : Nat → List (List Piece) → Run (List (List Char))
  | 0, _ => throw .exit
  | _ + 1, [] => return []
  | fuel + 1, pieces :: rest => do
    let atoms ← word fuel pieces
    let found := (Atom.fields (← get).separators atoms).map Atom.plain
    return found ++ (← fields fuel rest)

/-- The words of a command: what looks like an assignment stays whole after a command that takes
assignments. -/
def commandFields : Nat → List (List Piece) → Run (List (List Char))
  | 0, _ => throw .exit
  | _ + 1, [] => return []
  | fuel + 1, pieces :: rest => do
    let first ← fields fuel [pieces]
    if first ∈ [["export".toList], ["readonly".toList], ["local".toList]] then
      let others ← rest.mapM fun pieces =>
        if isAssignment pieces then return [(← wordText fuel pieces)] else fields fuel [pieces]
      return first ++ others.flatten
    else if first.isEmpty then commandFields fuel rest
    else return first ++ (← fields fuel rest)

def parameter : Nat → List Char → Form → Bool → Run (List Atom)
  | 0, _, _, _ => throw .exit
  | fuel + 1, name, form, quoted => do
    let machine ← get
    let demand : Run Unit := do
      let mayMiss := Machine.isWhole name || !machine.options.contains 'u'
      if !mayMiss && !machine.isPresent name false then
        Run.refuse (name ++ ": parameter not set".toList)
    match form with
    | .unknown => Run.refuse "Bad substitution".toList
    | .value =>
      demand
      let values := machine.values name quoted
      return if quoted && name ≠ ['@'] then Atom.ofValue true values.flatten
        else Atom.ofValues quoted values
    | .length =>
      demand
      let length :=
        if Machine.isWhole name then machine.arguments.length
        else ((machine.parameter? name).getD []).length
      return Atom.ofValue quoted (ofNat 10 length)
    | .trim kind pattern =>
      demand
      let steps := Pattern.ofSigns (Atom.signs (← expand fuel pattern))
      let values := (machine.values name quoted).map (kind.apply steps)
      return if quoted && name ≠ ['@'] then Atom.ofValue true values.flatten
        else Atom.ofValues quoted values
    | .fallback kind emptyToo pieces =>
      let isPresent := machine.isPresent name emptyToo
      match kind with
      | .use =>
        if isPresent then parameter fuel name .value quoted
        else return Atom.loosened quoted (← word fuel pieces)
      | .replace =>
        if isPresent then return Atom.loosened quoted (← word fuel pieces) else return []
      | .assign =>
        if isPresent then parameter fuel name .value quoted
        else
          let s ← wordText fuel pieces
          if !isName name then Run.refuse (name ++ ": bad variable name".toList)
          Run.assign name s
          return Atom.ofValue quoted s
      | .refuse =>
        if isPresent then parameter fuel name .value quoted
        else
          let s ← wordText fuel pieces
          let usual := "parameter not set" ++ (if emptyToo then " or null" else "")
          Run.refuse (name ++ ": ".toList ++ (if s.isEmpty then usual.toList else s))

def output : Nat → Command → Run (List Char)
  | 0, _ => throw .exit
  | fuel + 1, body => do
    let before := (← get).status
    let (number, machine) := (← get).addChannel (.buffer [])
    set machine
    Run.shielded do
      modify (·.setDescriptor 1 (some number))
      match body with
      | .nothing => Run.setStatus 0
      | body => enclosed fuel false body
    let machine ← get
    set { machine with status := before, substituted := some machine.status }
    return valueOfOutput (machine.contentOf number)

/-- Leads descriptors to where redirections say; whether all of them could be led there. -/
def redirect : Nat → List Redirection → Run Bool
  | 0, _ => throw .exit
  | _ + 1, [] => return true
  | fuel + 1, redirection :: rest => do
    let done ←
      match redirection with
      | .file descriptor mode path =>
        match ← openFile mode (← wordText fuel path) with
        | some number =>
          modify (·.setDescriptor descriptor (some number))
          pure true
        | none => pure false
      | .duplicate descriptor source => duplicate descriptor (← wordText fuel source)
      | .here descriptor body =>
        let s ← text fuel body
        let (number, machine) := (← get).addChannel (.buffer s)
        set (machine.setDescriptor descriptor (some number))
        pure true
    if done then redirect fuel rest else return false

/-- Runs a command. Failures in a command that is `tested` do not end the shell. -/
def execute : Nat → Bool → Command → Run Unit
  | 0, _, _ => throw .exit
  | fuel + 1, tested, command => do
    match command with
    | .nothing => pure ()
    | .simple line assignments words redirections =>
      modify fun machine => { machine with line, substituted := none }
      simple fuel tested assignments words redirections
      settle tested
    | .sequence first second =>
      execute fuel tested first
      execute fuel tested second
    | .both first second =>
      execute fuel true first
      if (← get).status = 0 then execute fuel tested second
    | .either first second =>
      execute fuel true first
      if (← get).status ≠ 0 then execute fuel tested second
    | .negation body =>
      execute fuel true body
      Run.setStatus (if (← get).status = 0 then 1 else 0)
    | .pipeline commands =>
      pipeline fuel tested none commands
      settle tested
    | .background body =>
      let (number, machine) := (← get).addChannel .null
      set machine
      Run.shielded do
        modify (·.setDescriptor 0 (some number))
        enclosed fuel tested body
      modify fun machine =>
        { machine with backgroundStatus := some machine.status, status := 0 }
    | .redirected body redirections =>
      Run.shielded do
        if ← redirect fuel redirections then execute fuel tested body else Run.setStatus 2
      settle tested
    | .subshell body =>
      enclosed fuel tested body
      settle tested
    | .branch condition yes no =>
      execute fuel true condition
      let chosen := if (← get).status = 0 then yes else no
      match chosen with
      | .nothing => Run.setStatus 0
      | chosen => execute fuel tested chosen
    | .loop endsOn condition body =>
      modify fun machine => { machine with loops := machine.loops + 1 }
      repeated fuel tested endsOn condition body 0
      modify fun machine => { machine with loops := machine.loops - 1 }
    | .each name words body =>
      let values ←
        match words with
        | some words => fields fuel words
        | none => pure (← get).arguments
      Run.setStatus 0
      modify fun machine => { machine with loops := machine.loops + 1 }
      eachOf fuel tested name body values
      modify fun machine => { machine with loops := machine.loops - 1 }
    | .choice subject arms =>
      let s ← wordText fuel subject
      choose fuel tested s arms
    | .define name body =>
      modify fun machine =>
        { machine with
          functions := (name, body) :: machine.functions.filter (·.1 != name), status := 0 }

def enclosed : Nat → Bool → Command → Run Unit
  | 0, _, _ => throw .exit
  | fuel + 1, tested, body =>
    Run.apart do
      modify fun machine => { machine with farewell := none, loops := 0 }
      ending fuel (execute fuel tested body)

def ending : Nat → Run Unit → Run Unit
  | 0, _ => throw .exit
  | fuel + 1, body => do
    try body catch stop =>
      match stop with
      | .killed signal => throw (.killed signal)
      | _ => pure ()
    let machine ← get
    match machine.farewell with
    | none => pure ()
    | some action =>
      set { machine with farewell := none }
      script fuel false ⟨action, 1⟩
      Run.setStatus machine.status

def pipeline : Nat → Bool → Option Nat → List Command → Run Unit
  | 0, _, _, _ => throw .exit
  | _ + 1, _, _, [] => pure ()
  | fuel + 1, tested, input, command :: rest => do
    let (number, machine) := (← get).addChannel (.buffer [])
    set machine
    Run.shielded do
      match input with
      | some number => modify (·.setDescriptor 0 (some number))
      | none => pure ()
      if !rest.isEmpty then modify (·.setDescriptor 1 (some number))
      enclosed fuel tested command
    pipeline fuel tested (some number) rest

/-- Runs the body of a loop once; whether the loop goes on. -/
def round : Nat → Bool → Command → Run Bool
  | 0, _, _ => throw .exit
  | fuel + 1, tested, body => do
    try
      execute fuel tested body
      return true
    catch stop =>
      match stop with
      | .leave loops => if loops ≤ 1 then return false else throw (.leave (loops - 1))
      | .again loops => if loops ≤ 1 then return true else throw (.again (loops - 1))
      | stop => throw stop

/-- The rounds of a loop with a condition; `status` is the outcome of the last one. -/
def repeated : Nat → Bool → Bool → Command → Command → Nat → Run Unit
  | 0, _, _, _, _, _ => throw .exit
  | fuel + 1, tested, endsOn, condition, body, status => do
    let goesOn ← round fuel true condition
    if !goesOn then Run.setStatus status
    else if ((← get).status == 0) == endsOn then Run.setStatus status
    else
      let goesOn ← round fuel tested body
      if goesOn then repeated fuel tested endsOn condition body (← get).status

def eachOf : Nat → Bool → List Char → Command → List (List Char) → Run Unit
  | 0, _, _, _, _ => throw .exit
  | _ + 1, _, _, _, [] => pure ()
  | fuel + 1, tested, name, body, s :: rest => do
    Run.assign name s
    let goesOn ← round fuel tested body
    if goesOn then eachOf fuel tested name body rest

def choose : Nat → Bool → List Char → List (List (List Piece) × Command) → Run Unit
  | 0, _, _, _ => throw .exit
  | _ + 1, _, _, [] => Run.setStatus 0
  | fuel + 1, tested, s, (patterns, body) :: rest => do
    let found ← patterns.anyM fun pattern => do
      return Pattern.isMatch (Pattern.ofSigns (Atom.signs (← word fuel pattern))) s
    if !found then choose fuel tested s rest
    else
      match body with
      | .nothing => Run.setStatus 0
      | body => execute fuel tested body

/-- Assigns values in front of a command, exported; gives what the variables were before. -/
def assignments : Nat → Bool → List (List Char × List Piece) →
    Run (List (List Char × Option Variable × List Char))
  | 0, _, _ => throw .exit
  | _ + 1, _, [] => return []
  | fuel + 1, exports, (name, pieces) :: rest => do
    let value ← wordText fuel pieces
    let old := (← get).bindings.lookup name
    Run.assign name value
    if exports then
      modify (·.setVariable name ⟨some value, true, false⟩)
    return (name, old, value) :: (← assignments fuel exports rest)

def simple : Nat → Bool → List (List Char × List Piece) → List (List Piece) → List Redirection →
    Run Unit
  | 0, _, _, _, _ => throw .exit
  | fuel + 1, tested, values, words, redirections => do
    let words ← commandFields fuel words
    match words with
    | [] =>
      let done ← Run.shielded (redirect fuel redirections)
      if !done then Run.setStatus 2
      else
        let assigned ← assignments fuel false values
        if !assigned.isEmpty then
          trace (assigned.map fun (name, _, value) => (name, value)) []
        Run.setStatus ((← get).substituted.getD 0)
    | name :: arguments =>
      let isFunction := ((← get).functions.lookup name).isSome
      let text := String.ofList name
      let isSpecial := !isFunction && specialBuiltins.contains text
      if !isFunction && text = "exec" then
        if !(← redirect fuel redirections) then
          Run.setStatus 2
          throw .exit
        let _ ← assignments fuel true values
        trace [] words
        replace fuel arguments
      else
        let run : Run Unit := do
          if !(← redirect fuel redirections) then
            Run.setStatus 2
            if isSpecial then throw .exit
          else
            let assigned ← assignments fuel (!isSpecial) values
            trace (assigned.map fun (name, _, value) => (name, value)) words
            invoke fuel tested true name arguments
            if !isSpecial then
              modify fun machine => assigned.reverse.foldl restore machine
        if redirections.isEmpty then run else Run.shielded run

def replace : Nat → List (List Char) → Run Unit
  | 0, _ => throw .exit
  | fuel + 1, arguments => do
    match arguments.filter (· ≠ ['-', '-']) with
    | [] => Run.setStatus 0
    | name :: rest =>
      modify fun machine => { machine with farewell := none }
      external fuel name rest
      throw .exit

def invoke : Nat → Bool → Bool → List Char → List (List Char) → Run Unit
  | 0, _, _, _, _ => throw .exit
  | fuel + 1, tested, withFunctions, name, arguments => do
    let machine ← get
    match if withFunctions then machine.functions.lookup name else none with
    | some body => call fuel tested body arguments
    | none =>
      match String.ofList name, arguments with
      | "eval", words =>
        let words := words.filter (· ≠ ['-', '-'])
        if words.isEmpty then Run.setStatus 0
        else
          let before := (← get).reader
          modify fun machine => { machine with reader := "eval: ".toList }
          script fuel tested ⟨[' '].intercalate words, 1⟩
          modify fun machine => { machine with reader := before }
      | ".", path :: _ =>
        let whole := if path.contains '/' then some (machine.pathOf path).toList else none
        match whole.bind machine.file? with
        | some content =>
          try script fuel tested ⟨content, 1⟩ catch stop =>
            match stop with
            | .back => pure ()
            | stop => throw stop
        | none =>
          let why := if path.contains '/' then "cannot open " else ""
          let what := if path.contains '/' then ": No such file" else ": not found"
          Run.refuse (".: ".toList ++ why.toList ++ path ++ what.toList)
      | "command", words =>
        match words with
        | ['-', 'v'] :: names => Builtin.describe "command" false names
        | ['-', 'V'] :: names => Builtin.describe "command" true names
        | words =>
          match words.filter (· ∉ [['-', 'p'], ['-', '-']]) with
          | [] => Run.setStatus 0
          | name :: rest =>
            try invoke fuel tested false name rest catch stop =>
              match stop with
              | .refused => modify fun machine => { machine with reader := [] }
              | stop => throw stop
      | text, arguments =>
        match Builtin.run? text arguments with
        | some run => run
        | none => if text = "." then Run.setStatus 2 else external fuel name arguments

def call : Nat → Bool → Command → List (List Char) → Run Unit
  | 0, _, _, _ => throw .exit
  | fuel + 1, tested, body, arguments => do
    let before ← get
    set { before with arguments, loops := 0, hidden := [] :: before.hidden }
    try execute fuel tested body catch stop =>
      match stop with
      | .back => pure ()
      | stop => throw stop
    modify fun machine =>
      let restored := (machine.hidden.headD []).foldl
        (fun (machine : Machine) (name, old) =>
          match old with
          | some slot => machine.setVariable name slot
          | none => machine.dropVariable name)
        machine
      { restored with
        arguments := before.arguments, loops := before.loops, hidden := before.hidden }

def external : Nat → List Char → List (List Char) → Run Unit
  | 0, _, _ => throw .exit
  | fuel + 1, name, arguments => do
    let machine ← get
    match machine.program name with
    | .error unfound =>
      Run.complain unfound.message
      Run.setStatus unfound.status
    | .ok (_, "dash") =>
      Run.apart do
        let outer ← get
        match Invocation.read name arguments with
        | .error message => do
          set { outer with name, line := 0 }
          Run.refuse message
        | .ok invocation =>
          let fresh := invocation.machine outer.exports outer.directory
          set { fresh with
            descriptors := outer.descriptors, channels := outer.channels, fresh := outer.fresh
            files := outer.files }
          session fuel invocation.origin
    | .ok (_, program) => runSmall program name arguments

def session : Nat → Origin → Run Unit
  | 0, _ => throw .exit
  | fuel + 1, origin => do
    match origin with
    | .argument s => ending fuel (script fuel false ⟨s, 1⟩)
    | .input =>
      let s := (← get).input 0
      modify (·.setInput 0 [])
      ending fuel (script fuel false ⟨s, 1⟩)
    | .file path =>
      let machine ← get
      match machine.file? (machine.pathOf path).toList with
      | some s => ending fuel (script fuel false ⟨s, 1⟩)
      | none =>
        modify fun machine => { machine with line := 0 }
        Run.refuse ("cannot open ".toList ++ path ++ ": No such file".toList)

def script : Nat → Bool → Script → Run Unit
  | 0, _, _ => throw .exit
  | fuel + 1, tested, s => do
    if !s.rest.isEmpty then
      match s.nextLine with
      | .ok (command, rest) =>
        execute fuel tested command
        script fuel tested rest
      | .error fault =>
        modify fun machine => { machine with line := fault.line }
        Run.refuse ((← get).reader ++ ("Syntax error: " ++ fault.message).toList)

end

end Execution

end HostInventory.Shell
