import HostInventory.Config
import HostInventory.Outside.Files
import HostInventory.Outside.Shell.Pattern
import HostInventory.Outside.Shell.Syntax

/-!
What a shell keeps while it runs a script: variables, functions, where its descriptors lead, and the
files that any host has. Everything that is printed stays in the channel it was printed to.
-/
namespace HostInventory.UsualHost

def directories : List String :=
  ["boot", "dev", "dev/pts", "dev/shm", "etc", "etc/init.d", "home", "media", "mnt", "opt", "proc",
    "root", "run", "srv", "sys", "tmp", "usr", "usr/bin", "usr/include", "usr/lib", "usr/local",
    "usr/local/bin", "usr/local/lib", "usr/local/sbin", "usr/local/share", "usr/sbin", "usr/share",
    "var", "var/cache", "var/lib", "var/log", "var/tmp"]

def files : List String :=
  ["dev/full", "dev/null", "dev/random", "dev/tty", "dev/urandom", "dev/zero", "etc/group",
    "etc/hostname", "etc/hosts", "etc/passwd", "etc/profile", "etc/resolv.conf", "etc/shadow"]

def programs : List String :=
  ["basename", "cat", "dash", "dirname", "echo", "false", "head", "printf", "rev", "rm", "seq", "sleep",
    "sort", "tac", "tail", "tr", "true", "uniq", "wc"]

def links : List (String × String) :=
  [("bin", "usr/bin"), ("lib", "usr/lib"), ("sbin", "usr/sbin"), ("usr/bin/sh", "dash"),
    ("var/run", "/run"), ("var/lock", "/run")]

def tree : FileTree where
  isWhole := true
  entries :=
    directories.map (fun path => (FileTree.components path, .directory)) ++
    files.map (fun path => (FileTree.components path, .file)) ++
    programs.map (fun name => (["usr", "bin", name], .program)) ++
    links.map fun (path, target) => (FileTree.components path, .link target)

def workingPlace : List String := ["root"]

def environment : Environment :=
  [("HOME", "/root"),
    ("PATH", "/usr/local/sbin:/usr/local/bin:/usr/sbin:/usr/bin:/sbin:/bin")]

end HostInventory.UsualHost

namespace HostInventory.Shell

structure Variable where
  value : Option (List Char)
  exported : Bool := false
  readOnly : Bool := false

inductive Channel where
  /-- Keeps what is written, and gives it to whoever reads. -/
  | buffer (content : List Char)
  | null
  | file (path : List Char)

/-- Why a script, or a part of it, ends before its end. -/
inductive Stop where
  | exit
  /-- A trouble that ends the shell, if nothing keeps it from doing so. -/
  | refused
  | leave (loops : Nat)
  /-- So many loops, less one, are left, and the last of them goes on. -/
  | again (loops : Nat)
  | back
  | killed (signal : Nat)
  deriving DecidableEq, Repr

structure Machine where
  name : List Char
  arguments : List (List Char) := []
  bindings : List (List Char × Variable) := []
  functions : List (List Char × Command) := []
  status : Nat := 0
  substituted : Option Nat := none
  options : List Char := []
  descriptors : List (Nat × Nat) := [(0, 0), (1, 1), (2, 2)]
  channels : List (Nat × Channel) := [(0, .buffer []), (1, .buffer []), (2, .buffer [])]
  fresh : Nat := 3
  files : List (List Char × List Char) := []
  directory : String := "/"
  reader : List Char := []
  line : Nat := 1
  loops : Nat := 0
  /-- For each function being run, the variables as they were outside it. -/
  hidden : List (List (List Char × Option Variable)) := []
  farewell : Option (List Char) := none
  backgroundStatus : Option Nat := none

/-- A computation of the shell. -/
abbrev Run := ExceptT Stop (StateM Machine)

def processNumber : List Char := "4242".toList

def backgroundNumber : List Char := "4243".toList

namespace Machine

def value? (machine : Machine) (name : List Char) : Option (List Char) :=
  (machine.bindings.lookup name).bind (·.value)

def setVariable (machine : Machine) (name : List Char) (slot : Variable) : Machine :=
  { machine with
    bindings := machine.bindings.filter (·.1 != name) ++ [(name, slot)] }

def dropVariable (machine : Machine) (name : List Char) : Machine :=
  { machine with bindings := machine.bindings.filter (·.1 != name) }

def assign (machine : Machine) (name value : List Char) : Machine :=
  let old := (machine.bindings.lookup name).getD ⟨none, machine.options.contains 'a', false⟩
  machine.setVariable name { old with value := some value }

def isReadOnly (machine : Machine) (name : List Char) : Bool :=
  ((machine.bindings.lookup name).map (·.readOnly)).getD false

def exports (machine : Machine) : List (List Char × List Char) :=
  machine.bindings.filterMap fun (name, slot) =>
    if slot.exported then slot.value.map (name, ·) else none

def channel? (machine : Machine) (descriptor : Nat) : Option Nat :=
  machine.descriptors.lookup descriptor

def setDescriptor (machine : Machine) (descriptor : Nat) (channel : Option Nat) : Machine :=
  let others := machine.descriptors.filter (·.1 != descriptor)
  { machine with
    descriptors :=
      match channel with
      | some channel => (descriptor, channel) :: others
      | none => others }

def addChannel (machine : Machine) (channel : Channel) : Nat × Machine :=
  (machine.fresh,
    { machine with
      channels := (machine.fresh, channel) :: machine.channels
      fresh := machine.fresh + 1 })

def setChannel (machine : Machine) (number : Nat) (channel : Channel) : Machine :=
  { machine with
    channels := machine.channels.map fun (n, old) => (n, if n = number then channel else old) }

def contentOf (machine : Machine) (number : Nat) : List Char :=
  match machine.channels.lookup number with
  | some (.buffer content) => content
  | _ => []

def file? (machine : Machine) (path : List Char) : Option (List Char) := machine.files.lookup path

def setFile (machine : Machine) (path content : List Char) : Machine :=
  { machine with files := (path, content) :: machine.files.filter (·.1 != path) }

def write (machine : Machine) (descriptor : Nat) (s : List Char) : Machine × Bool :=
  match machine.channel? descriptor with
  | none => (machine, false)
  | some number =>
    match machine.channels.lookup number with
    | some (.buffer content) => (machine.setChannel number (.buffer (content ++ s)), true)
    | some (.file path) =>
      (machine.setFile path (((machine.file? path).getD []) ++ s), true)
    | some .null => (machine, true)
    | none => (machine, false)

def input (machine : Machine) (descriptor : Nat) : List Char :=
  match machine.channel? descriptor with
  | some number => machine.contentOf number
  | none => []

def setInput (machine : Machine) (descriptor : Nat) (s : List Char) : Machine :=
  match machine.channel? descriptor with
  | some number =>
    match machine.channels.lookup number with
    | some (.buffer _) => machine.setChannel number (.buffer s)
    | _ => machine
  | none => machine

def pathOf (machine : Machine) (path : List Char) : String :=
  FileTree.absolute machine.directory (String.ofList path)

def entryAt (machine : Machine) (path : List Char) : Except Obstacle FileEntry :=
  if path.isEmpty then .error .missing
  else
    let whole := machine.pathOf path
    if (machine.file? whole.toList).isSome then .ok .file
    else (UsualHost.tree.find [] whole whole).map (·.2)

def separators (machine : Machine) : List Char :=
  match machine.bindings.lookup "IFS".toList with
  | some slot => slot.value.getD [' ', '\t', '\n']
  | none => [' ', '\t', '\n']

end Machine

namespace Run

def print (descriptor : Nat) (s : List Char) : Run Unit :=
  modify fun machine => (machine.write descriptor s).1

def setStatus (status : Nat) : Run Unit := modify fun machine => { machine with status }

def complain (message : List Char) : Run Unit := do
  let machine ← get
  print 2 (machine.name ++ (": " ++ toString machine.line ++ ": ").toList ++ message ++ ['\n'])

def refuse {α : Type} (message : List Char) : Run α := do
  complain message
  setStatus 2
  throw .refused

/-- Gives a variable a value, unless its value is fixed. -/
def assign (name value : List Char) : Run Unit := do
  if (← get).isReadOnly name then refuse (name ++ ": is read only".toList)
  modify (·.assign name value)

def shielded {α : Type} (body : Run α) : Run α :=
  ExceptT.mk fun before =>
    let (outcome, after) := StateT.run (ExceptT.run body) before
    (outcome, { after with descriptors := before.descriptors })

/-- Runs something of which only what it printed, and its outcome, is kept. -/
def apart (body : Run Unit) : Run Unit :=
  ExceptT.mk fun before =>
    let (outcome, after) := StateT.run (ExceptT.run body) before
    let kept : Machine :=
      { before with
        channels := after.channels, fresh := after.fresh, files := after.files
        status := after.status }
    match outcome with
    | .error (.killed signal) => (.ok (), { kept with status := 128 + signal })
    | _ => (.ok (), kept)

end Run

end HostInventory.Shell
