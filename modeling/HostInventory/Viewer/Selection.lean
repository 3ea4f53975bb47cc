import HostInventory.Process.Listing
import HostInventory.Process.Tree
import HostInventory.Text.Case

/-!
Which processes the process table shows, and in which order.
-/
namespace HostInventory

inductive SortKey where
  | pid
  | user
  | residentSize
  | threadCount
  deriving DecidableEq, Repr

namespace SortKey

def name : SortKey → String
  | pid => "pid"
  | user => "user"
  | residentSize => "rss"
  | threadCount => "threads"

/-- The next key; after the last comes the first. -/
def next : SortKey → SortKey
  | pid => user
  | user => residentSize
  | residentSize => threadCount
  | threadCount => pid

@[simp] theorem next_four_times (key : SortKey) : key.next.next.next.next = key := by
  cases key <;> rfl

end SortKey

/-- The processes last given, the key they are sorted by, and the pids they are restricted to. -/
structure Selection where
  processes : List ProcessRecord := []
  sortKey : SortKey := .pid
  filter : Option PidSet := none

namespace Selection

/-- Puts a record in the place of the one with its pid, or at the end. -/
def place (process : ProcessRecord) : List ProcessRecord → List ProcessRecord
  | [] => [process]
  | other :: rest =>
    if other.pid = process.pid then process :: rest else other :: place process rest

/-- One record per pid: the last one, where the first one stood. -/
def latest (processes : List ProcessRecord) : List ProcessRecord :=
  processes.foldl (fun kept process => place process kept) []

/-- Whether `a` may stand before `b`: pids and users ascend, sizes and counts descend. -/
def inOrder (key : SortKey) (a b : ProcessRecord) : Bool :=
  match key with
  | .pid => a.pid ≤ b.pid
  | .user => Text.lower a.user ≤ Text.lower b.user
  | .residentSize => b.residentSize ≤ a.residentSize
  | .threadCount => b.threadCount ≤ a.threadCount

def admits (filter : Option PidSet) (process : ProcessRecord) : Bool :=
  match filter with
  | none => true
  | some pids => pids.contains process.pid

/-- The processes to show, in order; those that the key does not tell apart keep their order. -/
def visible (selection : Selection) : List ProcessRecord :=
  (latest (selection.processes.filter (admits selection.filter))).mergeSort
    (inOrder selection.sortKey)

def cycleSort (selection : Selection) : Selection :=
  { selection with sortKey := selection.sortKey.next }

end Selection

end HostInventory
