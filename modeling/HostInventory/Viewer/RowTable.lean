import HostInventory.Action
import HostInventory.Number.Numeral

/-!
A table of rows, each under the pid that is its key, in the order in which they were added, with a
cursor. Adding a key that is there, or removing or changing one that is not, fails.
-/
namespace HostInventory

/-- The columns that can change while a row stays. -/
inductive Column where
  | parentPid
  | user
  | state
  | threads
  | size
  | elapsed
  | command
  deriving DecidableEq, Repr

def Column.name : Column → String
  | parentPid => "ppid"
  | user => "user"
  | state => "state"
  | threads => "threads"
  | size => "rss"
  | elapsed => "elapsed"
  | command => "command"

structure Row where
  pid : String
  parentPid : String
  user : String
  state : String
  threads : String
  size : String
  elapsed : String
  command : String
  deriving DecidableEq, Repr

namespace Row

def set (row : Row) (column : Column) (cell : String) : Row :=
  match column with
  | .parentPid => { row with parentPid := cell }
  | .user => { row with user := cell }
  | .state => { row with state := cell }
  | .threads => { row with threads := cell }
  | .size => { row with size := cell }
  | .elapsed => { row with elapsed := cell }
  | .command => { row with command := cell }

def cells (row : Row) : List String :=
  [row.pid, row.parentPid, row.user, row.state, row.threads, row.size, row.elapsed, row.command]

end Row

structure RowTable where
  rows : List (Int × Row) := []
  cursor : Nat := 0
  deriving DecidableEq, Repr

namespace RowTable

def keys (table : RowTable) : List Int := table.rows.map (·.1)

def add (table : RowTable) (pid : Int) (row : Row) : Except Failure RowTable :=
  if pid ∈ table.keys then .error (.rowExists (Numeral.text pid))
  else .ok { table with rows := table.rows ++ [(pid, row)] }

/-- Takes a row out; a cursor that would stand after the last row goes to it. -/
def remove (table : RowTable) (pid : Int) : Except Failure RowTable :=
  if pid ∈ table.keys then
    let rows := table.rows.filter (·.1 ≠ pid)
    .ok ⟨rows, min table.cursor (rows.length - 1)⟩
  else .error (.rowMissing (Numeral.text pid))

def alter (table : RowTable) (pid : Int) (f : Row → Row) : RowTable :=
  { table with rows := table.rows.map fun (key, row) => (key, if key = pid then f row else row) }

def setCell (table : RowTable) (pid : Int) (column : Column) (cell : String) :
    Except Failure RowTable :=
  if pid ∈ table.keys then .ok (table.alter pid (·.set column cell))
  else .error (.cellMissing (Numeral.text pid) column.name)

def empty : RowTable := {}

@[simp] theorem keys_empty : empty.keys = [] := rfl

@[simp] theorem keys_alter (table : RowTable) (pid : Int) (f : Row → Row) :
    (table.alter pid f).keys = table.keys := by
  simp [alter, keys, Function.comp_def]

theorem alter_alter (table : RowTable) (pid : Int) (f g : Row → Row) :
    (table.alter pid f).alter pid g = table.alter pid fun row => g (f row) := by
  simp only [alter, List.map_map]
  congr 1
  refine List.map_congr_left fun entry _ => ?_
  by_cases same : entry.1 = pid <;> simp [same]

theorem add_eq_ok {table after : RowTable} {pid : Int} {row : Row} :
    table.add pid row = .ok after ↔
      pid ∉ table.keys ∧ after = { table with rows := table.rows ++ [(pid, row)] } := by
  unfold add
  split <;> simp_all [eq_comm]

theorem remove_eq_ok {table after : RowTable} {pid : Int} :
    table.remove pid = .ok after ↔
      pid ∈ table.keys ∧
        after = ⟨table.rows.filter (·.1 ≠ pid),
          min table.cursor ((table.rows.filter (·.1 ≠ pid)).length - 1)⟩ := by
  unfold remove
  split <;> simp_all [eq_comm]

theorem setCell_eq_ok {table after : RowTable} {pid : Int} {column : Column} {cell : String} :
    table.setCell pid column cell = .ok after ↔
      pid ∈ table.keys ∧ after = table.alter pid (·.set column cell) := by
  unfold setCell
  split <;> simp_all [eq_comm]

/-- The key of the highlighted row, if there are rows. -/
def highlighted? (table : RowTable) : Option Int := table.keys[table.cursor]?

/-- Highlights the row at a place, or the last row if there are fewer. -/
def moveCursor (table : RowTable) (place : Nat) : RowTable :=
  { table with cursor := min place (table.rows.length - 1) }

end RowTable

end HostInventory
