import HostInventory.Action
import HostInventory.Engine
import HostInventory.Number.Measures
import HostInventory.Number.Numeral
import HostInventory.Process.Tree
import HostInventory.Service.Inventory
import HostInventory.Viewer.ProcessTable

/-!
The whole screen of the viewer: the header, the process table and the services, which are drawn
afresh with every snapshot, and what the keys do.
-/
namespace HostInventory.Header

def timeText : Option Snapshot → Except Failure String
  | none => .ok "Loading uptime..."
  | some snapshot => do
    let booted ← Date.format snapshot.bootTime
    let uptime ← Duration.format snapshot.uptime
    return "Uptime: " ++ uptime ++ "\nBooted: " ++ booted

def countText : Option Snapshot → Except Failure String
  | none => .ok "Loading inventory..."
  | some snapshot => do
    let running := snapshot.services.countP fun service => service.state == .running
    let threads ← Numeral.text? snapshot.threadCount
    return "Processes: " ++ toString snapshot.processes.length ++ "  Threads: " ++ threads ++
      "\nServices: " ++ toString running ++ " running, " ++
      toString (snapshot.services.length - running) ++ " stopped"

end Header

structure Header where
  snapshot : Option Snapshot := none
  time : String := "Loading uptime..."
  counts : String := "Loading inventory..."

namespace Header

/-- Brings the texts to a snapshot, the time first. -/
def update (snapshot : Snapshot) : Action Header Unit := do
  modify fun header => { header with snapshot := some snapshot }
  let time ← Action.ofExcept (timeText (some snapshot))
  modify fun header => { header with time }
  let counts ← Action.ofExcept (countText (some snapshot))
  modify fun header => { header with counts }

end Header

end HostInventory

namespace HostInventory

abbrev ServiceTable := List (List String)

namespace ServiceTable

/-- The cells of a service; a pid that is not known is a dash. -/
def rowOf (service : ServiceRecord) : Except Failure (List String) := do
  let pid ← if service.processId = 0 then .ok "-" else Numeral.text? service.processId
  return [service.name, pid, service.state.name]

def addRow (service : ServiceRecord) : Action ServiceTable Unit := do
  let row ← Action.ofExcept (rowOf service)
  modify fun rows => rows ++ [row]

/-- Shows these services, repeats included. -/
def update (services : List ServiceRecord) : Action ServiceTable Unit := do
  set ([] : ServiceTable)
  services.forM addRow

end ServiceTable

/-- The screen, and the messages that have been sent to the user. -/
structure Screen where
  header : Header := {}
  processes : ProcessTable := {}
  services : ServiceTable := []
  notices : List String := []

namespace Screen

def title : String := "procinv"

def subtitle : String := "Process and Service Inventory"

def columns : List String := ["PID", "PPID", "USER", "S", "THR", "RSS", "ELAPSED", "Command"]

def serviceColumns : List String := ["Service", "PID", "State"]

structure Binding where
  key : String
  action : String
  label : String
  deriving DecidableEq, Repr

def bindings : List Binding :=
  [⟨"q", "quit", "Quit"⟩, ⟨"f6", "sort", "Sort"⟩, ⟨"d", "descendants", "Descendants"⟩,
    ⟨"escape", "clear_filter", "All"⟩]

variable {α : Type}

def onHeader (a : Action Header α) : Action Screen α :=
  ExceptT.mk fun screen =>
    let (outcome, header) := a.perform screen.header
    (outcome, { screen with header })

def onProcesses (a : Action ProcessTable α) : Action Screen α :=
  ExceptT.mk fun screen =>
    let (outcome, processes) := a.perform screen.processes
    (outcome, { screen with processes })

def onServices (a : Action ServiceTable α) : Action Screen α :=
  ExceptT.mk fun screen =>
    let (outcome, services) := a.perform screen.services
    (outcome, { screen with services })

def notify (notice : String) : Action Screen Unit :=
  modify fun screen => { screen with notices := screen.notices ++ [notice] }

/-- Brings header, process table and service table to a snapshot, in this order. -/
def display (snapshot : Snapshot) : Action Screen Unit := do
  onHeader (Header.update snapshot)
  onProcesses (ProcessTable.update snapshot.processes)
  onServices (ServiceTable.update snapshot.services)

def sort : Action Screen Unit := do
  let key ← onProcesses ProcessTable.cycleSort
  notify ("Sort: " ++ Text.upper key.name)

def highlighted? (screen : Screen) : Option Int := screen.processes.table.highlighted?

/-- Restricts the table to what is below the highlighted process and says how much that is. Nothing
happens when no row is highlighted. -/
def drillDown : Action Screen Unit := do
  let screen ← get
  match screen.highlighted? with
  | none => return ()
  | some pid =>
    let below := ProcessTree.descendants screen.processes.selection.processes pid
    onProcesses (ProcessTable.setFilter (some below))
    notify (toString below.size ++ " descendants of " ++ (← Action.ofExcept (Numeral.text? pid)))

def clearFilter : Action Screen Unit := onProcesses (ProcessTable.setFilter none)

def moveCursor (place : Nat) : Action Screen Unit :=
  onProcesses (modify fun screen => { screen with table := screen.table.moveCursor place })

/-- Does what a key stands for; quitting changes nothing on screen. -/
def press (key : String) : Action Screen Unit :=
  match key with
  | "f6" => sort
  | "d" => drillDown
  | "escape" => clearFilter
  | _ => pure ()

end Screen

end HostInventory
