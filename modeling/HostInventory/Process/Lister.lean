import HostInventory.Command
import HostInventory.Config
import HostInventory.Process.Listing
import HostInventory.Process.Tree

/-!
Questions about processes, answered by running listing commands.
-/
namespace HostInventory.ProcessLister

variable {σ : Type} [Journal σ] (source : CommandSource σ) (config : Config)

def noteSkipped (row : String) : Action σ Unit :=
  Action.log {
    level := .debug, logger := "procinv.processes", name := "process_row_skipped"
    fields := [("line", .text row)] }

def readListing (known : Option Int) (lines : List String) : Action σ (List ProcessRecord) := do
  let listing := ProcessListing.ofLines known lines
  listing.skipped.forM noteSkipped
  return listing.records

/-- Runs a listing command. A single pid goes at its end and is the pid of every record. -/
def list (command : String) (pid : Option Int := none) : Action σ (List ProcessRecord) := do
  match pid with
  | none => readListing none (← source command)
  | some pid =>
    let shown ← Action.ofExcept (Numeral.text? pid)
    readListing (some pid) (← source (command ++ shown))

def all : Action σ (List ProcessRecord) := list source config.allProcessesCommand

def get? (pid : Int) : Action σ (Option ProcessRecord) := do
  return (← list source config.somePidsCommand (some pid)).head?

def joined (pids : List Int) : Except Failure String := do
  let shown ← (pids.mergeSort fun p q => decide (p ≤ q)).mapM Numeral.text?
  return ",".intercalate shown

/-- The records of these pids; no pids need no command. -/
def ofPids (pids : List Int) : Action σ (List ProcessRecord) := do
  let pidText ← Action.ofExcept (joined pids)
  if pidText.isEmpty then return []
  list source (config.somePidsCommand ++ pidText)

/-- The pids that lines name, one per line. Lines that are blank or repeat the text of the parent
are passed over, and so is what is no number from zero on. -/
def childPidsOf (parent : String) (lines : List String) : PidSet :=
  .ofList (lines.filterMap fun line =>
    let shown := Text.strip line
    if shown.isEmpty || shown == parent then none
    else
      let pid := Numeral.integerOr (-1) shown
      if 0 ≤ pid then some pid else none)

/-- The pids directly below a process, as the child command reports them. -/
def childPids (parent : Int) : Action σ PidSet := do
  let shown ← Action.ofExcept (Numeral.text? parent)
  return childPidsOf shown (← source (config.childCommand ++ " " ++ shown))

def children (parent : Int) : Action σ (List ProcessRecord) := do
  ofPids source config (← childPids source config parent).toList

def descendants (parent : Int) : Action σ (List ProcessRecord) := do
  ofPids source config (ProcessTree.descendants (← all source config) parent).toList

end HostInventory.ProcessLister
