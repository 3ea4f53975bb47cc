import HostInventory.Config
import HostInventory.Journal
import HostInventory.Text.Decoding

/-!
Running a command line for the lines that it prints. Its words are those of a shell; what it writes
is read as UTF-8 with any newline; a command that cannot be started, or whose output cannot be read,
prints nothing.
-/
namespace HostInventory

/-- Anything that runs a command line and gives the lines it prints. -/
abbrev CommandSource (σ : Type) := String → Action σ (List String)

namespace Command

structure Finished where
  stdout : List UInt8
  stderr : List UInt8
  status : Int
  deriving DecidableEq, Repr

/-- Starts the program named by the first word, with the given environment, and waits for it. -/
abbrev Launcher (σ : Type) := List String → Environment → Action σ Finished

def hasNul (s : String) : Bool := s.toList.contains '\x00'

/-- What every start refuses: an equals sign in a variable's name, a NUL anywhere. -/
def checkStart (words : List String) (environment : Environment) : Except Failure Unit :=
  if environment.any fun (name, _) => name.toList.contains '=' then .error .illegalVariableName
  else if words.any hasNul || environment.any fun (name, value) => hasNul name || hasNul value then
    .error .embeddedNul
  else .ok ()

/-- The environment of the programs: the given one, or else the inherited one in the plain locale,
so that columns stay as they are. -/
def childEnvironment (given : Option Environment) (inherited : Environment) : Environment :=
  given.getD (inherited.set "LC_ALL" "C")

/-- Output as text, every newline a line feed. -/
def decode (bytes : List UInt8) : Except Failure (List Char) :=
  match Text.decodeUtf8 bytes with
  | .ok text => .ok (Text.unifyNewlines text)
  | .error place => .error (.undecodable place)

/-- The lines on the standard output of a program both of whose outputs can be read. -/
def Finished.lines (finished : Finished) : Except Failure (List String) := do
  let text ← decode finished.stdout
  let _ ← decode finished.stderr
  return (Text.splitLines text).map String.ofList

variable {σ : Type} [Journal σ]

def noteFailed (command : String) (failure : Failure) : Action σ Unit :=
  Action.log {
    level := .debug, logger := "procinv.command", name := "command_failed"
    fields := [("command", .text command), ("error", .text failure.message)] }

def noteStatus (command : String) (status : Int) : Action σ Unit :=
  Action.log {
    level := .debug, logger := "procinv.command", name := "command_nonzero_exit"
    fields := [("command", .text command), ("returncode", .whole status)] }

def attempt (start : Launcher σ) (environment : Environment) (command : String) :
    Action σ (List String) := do
  let words ← Action.ofExcept ((Text.shellWords command).mapError .shell)
  if words.isEmpty then return []
  let finished ← start words environment
  let lines ← Action.ofExcept finished.lines
  if finished.status ≠ 0 then noteStatus command finished.status
  return lines

/-- Runs command lines in an environment. Troubles of the system and unfit values are noted and
print nothing; other failures leave. -/
def source (start : Launcher σ) (environment : Environment) : CommandSource σ := fun command =>
  (attempt start environment command).recover (fun failure => failure.isSystem || failure.isValue)
    fun failure => do
      noteFailed command failure
      return []

end Command

end HostInventory

namespace HostInventory.CommandSource

variable {σ : Type}

/-- A source that also keeps what it is asked to run, in order. -/
def recorded (source : CommandSource σ) : CommandSource (List String × σ) := fun command => do
  modify fun (commands, world) => (commands ++ [command], world)
  (source command).beside

theorem perform_recorded (source : CommandSource σ) (command : String) (commands : List String)
    (world : σ) :
    (source.recorded command).perform (commands, world) =
      (((source command).perform world).1, commands ++ [command],
        ((source command).perform world).2) := rfl

end HostInventory.CommandSource
