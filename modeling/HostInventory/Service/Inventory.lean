import HostInventory.Command
import HostInventory.Config
import HostInventory.Number.Numeral
import HostInventory.Outside.Files

/-!
The services of a host, from the listing of its service manager and the names of its legacy scripts.
A line that begins with `online` names a service, which has no process of its own; an indented line
under it has three columns, a time, a pid and a name, and is a running process; a `legacy_run` line
ends in the name of a script.
-/
namespace HostInventory

inductive ServiceState where
  | running
  | stopped
  deriving DecidableEq, Repr

def ServiceState.name : ServiceState → String
  | .running => "running"
  | .stopped => "stopped"

structure ServiceRecord where
  name : String
  processId : Int
  state : ServiceState
  deriving DecidableEq, Repr

end HostInventory

namespace HostInventory.ServiceListing

open Text

/-- The text after the last `:/`, if there is one. -/
def afterLastMark : List Char → Option (List Char)
  | [] => none
  | c :: rest =>
    match afterLastMark rest with
    | some tail => some tail
    | none => if c = ':' then (match rest with | '/' :: tail => some tail | _ => none) else none

def defaultSuffix : List Char := ":default".toList

/-- The text without one suffix `:default`. -/
def dropDefault (name : List Char) : List Char :=
  if defaultSuffix.isSuffixOf name then name.take (name.length - defaultSuffix.length) else name

def online? (line : List Char) : Option ServiceRecord :=
  (afterLastMark line).map fun tail =>
    ⟨String.ofList (dropDefault (dropTrailing isBlank tail)), 0, .stopped⟩

def running? (line : List Char) : Option ServiceRecord :=
  match words line with
  | [_, pid, name] => some ⟨String.ofList name, Numeral.integerOr 0 (String.ofList pid), .running⟩
  | _ => none

def legacy? (scripts : List String) (line : List Char) : Option ServiceRecord :=
  (scripts.find? fun name => name.toList.isSuffixOf line).map fun name => ⟨name, 0, .stopped⟩

def read? (scripts : List String) (row : String) : Option ServiceRecord :=
  let line := row.toList
  if "online".toList.isPrefixOf line then online? line
  else if " ".toList.isPrefixOf line then running? line
  else if "legacy_run".toList.isPrefixOf line then legacy? scripts line
  else none

/-- The services that a listing shows, in order, repeats included. -/
def ofLines (scripts : List String) (lines : List String) : List ServiceRecord :=
  lines.filterMap (read? scripts)

end HostInventory.ServiceListing

namespace HostInventory

/-- Anything that names the entries of a directory, or says that it cannot be read. -/
abbrev DirectoryLister (σ : Type) := String → Action σ (Option (List String))

namespace ServiceInventory

variable {σ : Type} [Journal σ]

def noteUnavailable (directory : String) : Action σ Unit :=
  Action.log {
    level := .debug, logger := "procinv.services", name := "legacy_service_dir_unavailable"
    fields := [("directory", .text directory)] }

/-- The names of the legacy scripts; a directory that cannot be read has none. -/
def legacyScripts (lister : DirectoryLister σ) (directory : String) : Action σ (List String) := do
  match ← lister directory with
  | some names => return names
  | none =>
    noteUnavailable directory
    return []

/-- The services; the directory is read before the service manager is asked. -/
def services (source : CommandSource σ) (config : Config) (lister : DirectoryLister σ) :
    Action σ (List ServiceRecord) := do
  let scripts ← legacyScripts lister config.legacyDirectory
  return ServiceListing.ofLines scripts (← source config.serviceCommand)

end ServiceInventory

end HostInventory

namespace HostInventory.FileTree

def directory? (tree : FileTree) (root path : String) : Except Failure (Option (List String)) :=
  let shown := "/".intercalate (root :: components path)
  if shown.toList.contains '\x00' then .ok none
  else
    match tree.find [] shown path with
    | .ok (place, .directory) => .ok (some place)
    | .error .nameTooLong => .error (.blocked .nameTooLong shown)
    | .ok _ | .error _ => .ok none

/-- Names the entries of a directory below `root`. Reading them may meet a trouble of its own, and
one of the system's leaves the directory unread. -/
def list (tree : FileTree) (root : String) (reading : Except Failure Unit) (path : String) :
    Except Failure (Option (List String)) := do
  match ← tree.directory? root path with
  | none => return none
  | some place =>
    match reading with
    | .ok () => return some (tree.namesIn place)
    | .error failure => if failure.isSystem then return none else throw failure

end HostInventory.FileTree
