import HostInventory.Number.Measures
import HostInventory.Viewer.RowTable
import HostInventory.Viewer.Selection

/-!
The process table on screen, and the tables that can come about. New data changes the rows in place:
rows of processes that are gone are removed, rows of processes that stay are updated where they
stand, and new rows go to the end. A new sort key or filter draws all rows afresh.
-/
namespace HostInventory

structure ProcessTable where
  selection : Selection := {}
  table : RowTable := {}
  shown : PidSet := .empty

namespace ProcessTable

def shorten (count : Nat) (s : String) : String := String.ofList (s.toList.take count)

def rowOf (process : ProcessRecord) : Except Failure Row := do
  return {
    pid := ← Numeral.text? process.pid
    parentPid := ← Numeral.text? process.parentPid
    user := shorten 10 process.user
    state := process.state
    threads := ← Numeral.text? process.threadCount
    size := ← Size.format process.residentSize
    elapsed := process.elapsedTime
    command := shorten 60 process.fullArgs }

def change (f : RowTable → Except Failure RowTable) : Action ProcessTable Unit := do
  let table ← Action.ofExcept (f (← get).table)
  modify fun screen => { screen with table }

def addRow (process : ProcessRecord) : Action ProcessTable Unit := do
  let row ← Action.ofExcept (rowOf process)
  change fun table => table.add process.pid row

def setCell (process : ProcessRecord) (column : Column) (cell : Except Failure String) :
    Action ProcessTable Unit := do
  let cell ← Action.ofExcept cell
  change fun table => table.setCell process.pid column cell

def updateRow (process : ProcessRecord) : Action ProcessTable Unit := do
  let _ ← Action.ofExcept (Numeral.text? process.pid)
  setCell process .parentPid (Numeral.text? process.parentPid)
  setCell process .user (.ok (shorten 10 process.user))
  setCell process .state (.ok process.state)
  setCell process .threads (Numeral.text? process.threadCount)
  setCell process .size (Size.format process.residentSize)
  setCell process .elapsed (.ok process.elapsedTime)
  setCell process .command (.ok (shorten 60 process.fullArgs))

def removeRow (pid : Int) : Action ProcessTable Unit := do
  let _ ← Action.ofExcept (Numeral.text? pid)
  change fun table => table.remove pid

/-- Shows a process: in its row if it has one, else in a new row at the end. -/
def showRow (shown : PidSet) (process : ProcessRecord) : Action ProcessTable Unit :=
  if shown.contains process.pid then updateRow process else addRow process

def leaving (screen : ProcessTable) : List Int :=
  (PidSet.ofList (screen.selection.visible.map (·.pid))).outside screen.shown.toList

/-- Brings the rows to the processes to show. The rows of `gone` go first, in this order. -/
def refresh (gone : List Int) : Action ProcessTable Unit := do
  let screen ← get
  let visible := screen.selection.visible
  gone.forM removeRow
  visible.forM (showRow screen.shown)
  modify fun now => { now with shown := .ofList (visible.map (·.pid)) }

def update (processes : List ProcessRecord) : Action ProcessTable Unit := do
  modify fun screen => { screen with selection := { screen.selection with processes } }
  refresh (← get).leaving

def rebuild : Action ProcessTable Unit := do
  modify fun screen => { screen with table := .empty, shown := .empty }
  update (← get).selection.processes

def cycleSort : Action ProcessTable SortKey := do
  modify fun screen => { screen with selection := screen.selection.cycleSort }
  rebuild
  return (← get).selection.sortKey

/-- Restricts the table to some pids, or shows every process. -/
def setFilter (filter : Option PidSet) : Action ProcessTable Unit := do
  modify fun screen => { screen with selection := { screen.selection with filter } }
  rebuild

end ProcessTable

end HostInventory

namespace HostInventory.ProcessTable

inductive Operation where
  | update (processes : List ProcessRecord)
  | cycleSort
  | setFilter (filter : Option PidSet)

def carryOut : Operation → Action ProcessTable Unit
  | .update processes => ProcessTable.update processes
  | .cycleSort => discard ProcessTable.cycleSort
  | .setFilter filter => ProcessTable.setFilter filter

/-- Whether every cell of a process can be written. -/
def isShowable (process : ProcessRecord) : Bool := (rowOf process).isOk

/-- The tables that can come about from an empty one while every process that is shown can be. -/
inductive Reachable : ProcessTable → Prop
  | new : Reachable {}
  | step {screen after : ProcessTable} (operation : Operation) : Reachable screen →
      (carryOut operation).perform screen = (.ok (), after) → Reachable after

end HostInventory.ProcessTable
