import HostInventory.Process.Listing

/-!
Parents and children among processes, and finite sets of pids. Sets are strictly ascending lists, so
that equal sets are equal values. A record links its parent pid to its pid; a record that is its own
parent links nothing.
-/
namespace HostInventory

/-- A finite set of pids as its ascending list. -/
structure PidSet where
  toList : List Int
  ascending : toList.Pairwise (· < ·)
  deriving DecidableEq

namespace PidSet

/-- Puts a pid in its place in an ascending list, unless it is there. -/
def insertInto (pid : Int) : List Int → List Int
  | [] => [pid]
  | p :: rest =>
    if pid < p then pid :: p :: rest
    else if pid = p then p :: rest
    else p :: insertInto pid rest

theorem mem_insertInto {pid q : Int} {pids : List Int} :
    q ∈ insertInto pid pids ↔ q = pid ∨ q ∈ pids := by
  induction pids with
  | nil => simp [insertInto]
  | cons p rest ih =>
    by_cases before : pid < p
    · simp [insertInto, before]
    · by_cases same : pid = p
      · simp [insertInto, same]
      · simp only [insertInto, before, same, if_false, List.mem_cons, ih]
        exact or_left_comm

theorem pairwise_insertInto {pid : Int} {pids : List Int} (sorted : pids.Pairwise (· < ·)) :
    (insertInto pid pids).Pairwise (· < ·) := by
  induction pids with
  | nil => simp [insertInto]
  | cons p rest ih =>
    obtain ⟨least, inner⟩ := List.pairwise_cons.1 sorted
    by_cases before : pid < p
    · simp only [insertInto, before, if_true]
      refine List.pairwise_cons.2 ⟨fun q mem => ?_, sorted⟩
      rcases List.mem_cons.1 mem with rfl | mem
      · exact before
      · exact Int.lt_trans before (least q mem)
    · by_cases same : pid = p
      · simpa [insertInto, same] using sorted
      · simp only [insertInto, before, same, if_false]
        refine List.pairwise_cons.2 ⟨fun q mem => ?_, ih inner⟩
        rcases mem_insertInto.1 mem with rfl | mem
        · omega
        · exact least q mem

def empty : PidSet := ⟨[], .nil⟩

def insert (pids : PidSet) (pid : Int) : PidSet :=
  ⟨insertInto pid pids.toList, pairwise_insertInto pids.ascending⟩

def ofList : List Int → PidSet
  | [] => empty
  | pid :: rest => (ofList rest).insert pid

def contains (pids : PidSet) (pid : Int) : Bool := pids.toList.contains pid

def among (pids : PidSet) (candidates : List Int) : List Int := candidates.filter pids.contains

def outside (pids : PidSet) (candidates : List Int) : List Int :=
  candidates.filter (!pids.contains ·)

theorem length_among_add_length_outside (pids : PidSet) (candidates : List Int) :
    (pids.among candidates).length + (pids.outside candidates).length = candidates.length := by
  simp only [among, outside, ← List.countP_eq_length_filter]
  rw [List.length_eq_countP_add_countP pids.contains (l := candidates)]
  simp only [Bool.not_eq_true, Bool.decide_eq_false]

def size (pids : PidSet) : Nat := pids.toList.length

instance : Membership Int PidSet := ⟨fun pids pid => pid ∈ pids.toList⟩

theorem mem_def {pids : PidSet} {pid : Int} : pid ∈ pids ↔ pid ∈ pids.toList := Iff.rfl

instance (pid : Int) (pids : PidSet) : Decidable (pid ∈ pids) :=
  inferInstanceAs (Decidable (pid ∈ pids.toList))

@[simp] theorem contains_eq_true {pids : PidSet} {pid : Int} :
    pids.contains pid = true ↔ pid ∈ pids := by
  simp [contains, mem_def]

@[simp] theorem not_mem_empty (pid : Int) : pid ∉ empty := by simp [empty, mem_def]

@[simp] theorem mem_insert {pids : PidSet} {pid q : Int} :
    q ∈ pids.insert pid ↔ q = pid ∨ q ∈ pids := mem_insertInto

@[simp] theorem mem_ofList {pids : List Int} {pid : Int} : pid ∈ ofList pids ↔ pid ∈ pids := by
  induction pids with
  | nil => simp [ofList]
  | cons p rest ih => simp [ofList, ih]

theorem nodup (pids : PidSet) : pids.toList.Nodup := pids.ascending.imp Int.ne_of_lt

theorem ext {a b : PidSet} (same : ∀ pid, pid ∈ a ↔ pid ∈ b) : a = b := by
  obtain ⟨toList, ascending⟩ := a
  obtain ⟨others, alsoAscending⟩ := b
  have perm : toList.Perm others :=
    (List.perm_ext_iff_of_nodup (nodup ⟨toList, ascending⟩) (nodup ⟨others, alsoAscending⟩)).2 same
  congr
  refine perm.eq_of_pairwise (fun p q _ _ before after => ?_) ascending alsoAscending
  exact absurd before (Int.lt_asymm after)

theorem mem_among {pids : PidSet} {candidates : List Int} {q : Int} :
    q ∈ pids.among candidates ↔ q ∈ candidates ∧ q ∈ pids := by
  simp [among]

theorem mem_outside {pids : PidSet} {candidates : List Int} {q : Int} :
    q ∈ pids.outside candidates ↔ q ∈ candidates ∧ q ∉ pids := by
  simp [outside, ← contains_eq_true]

end PidSet

end HostInventory

namespace HostInventory.ProcessTree

/-- The records that link a parent to a child. -/
def links (records : List ProcessRecord) : List ProcessRecord :=
  records.filter fun process => process.pid ≠ process.parentPid

def children (records : List ProcessRecord) (parent : Int) : PidSet :=
  .ofList (((links records).filter fun process => process.parentPid = parent).map (·.pid))

/-- Every pid that has children, in ascending order, with its children. -/
def childIndex (records : List ProcessRecord) : List (Int × PidSet) :=
  (PidSet.ofList ((links records).map (·.parentPid))).toList.map fun parent =>
    (parent, children records parent)

/-- The pids that can be reached from those in `queue`. A pid moves from `unvisited` to the queue
when the first link to it is followed, so that cycles end. -/
def reach (next : Int → PidSet) (queue unvisited : List Int) : List Int :=
  match queue with
  | [] => []
  | pid :: queue =>
    let found := (next pid).among unvisited
    found ++ reach next (queue ++ found) ((next pid).outside unvisited)
termination_by queue.length + unvisited.length
decreasing_by
  have total := (next pid).length_among_add_length_outside unvisited
  simp only [List.length_append, List.length_cons]
  omega

/-- The pids below `start`, at any depth, without `start` itself. -/
def descendants (records : List ProcessRecord) (start : Int) : PidSet :=
  .ofList (reach (children records) [start]
    (((PidSet.ofList (records.map (·.pid))).toList).filter (· ≠ start)))

/-- `q` is reached from `p` by following one link or more. -/
inductive Below (records : List ProcessRecord) (p : Int) : Int → Prop
  | child {process : ProcessRecord} : process ∈ links records → process.parentPid = p →
      Below records p process.pid
  | further {q : Int} {process : ProcessRecord} : Below records p q → process ∈ links records →
      process.parentPid = q → Below records p process.pid

end HostInventory.ProcessTree
