import HostInventory.Proofs.Viewer.Selection
import Mathlib.Logic.Function.Iterate

/-!
The order in which processes are shown. The sort key decides, and where it does not, the place at
which a pid first occurs in the process list, also where the key descends. Main statement: what is
visible after the sort key has been cycled any number of times.
-/
namespace HostInventory

namespace SortKey

/-- The key puts `a` before `b`: pids and users ascend, sizes and counts descend. -/
def Precedes (key : SortKey) (a b : ProcessRecord) : Prop :=
  match key with
  | pid => a.pid < b.pid
  | user => Text.lower a.user < Text.lower b.user
  | residentSize => b.residentSize < a.residentSize
  | threadCount => b.threadCount < a.threadCount

def Ties (key : SortKey) (a b : ProcessRecord) : Prop :=
  match key with
  | pid => a.pid = b.pid
  | user => Text.lower a.user = Text.lower b.user
  | residentSize => a.residentSize = b.residentSize
  | threadCount => a.threadCount = b.threadCount

/-- The key of a new table that has been cycled so often. -/
def cycled (times : Nat) : SortKey :=
  match times % 4 with
  | 0 => pid
  | 1 => user
  | 2 => residentSize
  | _ => threadCount

theorem next_cycled (times : Nat) : (cycled times).next = cycled (times + 1) := by
  have less : times % 4 < 4 := Nat.mod_lt times (by decide)
  have turn : (times + 1) % 4 = (times % 4 + 1) % 4 := (Nat.mod_add_mod times 4 1).symm
  rw [cycled, cycled, turn]
  generalize times % 4 = place at less
  match place, less with
  | 0, _ | 1, _ | 2, _ | 3, _ => rfl

theorem iterate_next (times : Nat) : next^[times] pid = cycled times := by
  induction times with
  | zero => rfl
  | succ times ih => rw [Function.iterate_succ_apply', ih, next_cycled]

end SortKey

namespace Selection

variable {processes more : List ProcessRecord} {a b process : ProcessRecord} {pid : Int}
  {filter : Option PidSet} {selection : Selection} {key : SortKey}

/-- The place at which a pid first occurs. -/
def firstPlace (processes : List ProcessRecord) (pid : Int) : Nat :=
  processes.findIdx fun process => process.pid = pid

theorem firstPlace_lt_length :
    firstPlace processes pid < processes.length ↔ pid ∈ processes.map (·.pid) := by
  simp [firstPlace, List.findIdx_lt_length]

theorem firstPlace_append (mem : pid ∈ processes.map (·.pid)) :
    firstPlace (processes ++ more) pid = firstPlace processes pid := by
  rw [firstPlace, List.findIdx_append]
  exact if_pos (firstPlace_lt_length.mpr mem)

theorem firstPlace_concat (fresh : process.pid ∉ processes.map (·.pid)) :
    firstPlace (processes ++ [process]) process.pid = processes.length := by
  rw [firstPlace, List.findIdx_append]
  exact (if_neg (mt firstPlace_lt_length.mp fresh)).trans (by simp)

theorem mem_pids_latest :
    pid ∈ (latest processes).map (·.pid) ↔ pid ∈ processes.map (·.pid) := by
  simp only [List.mem_map, mem_latest]
  exact exists_isLast

/-- The records that are kept stand in the order in which their pids first occur, in the list from
which they have been filtered. -/
theorem pairwise_firstPlace_latest :
    ((latest (processes.filter (admits filter))).map (·.pid)).Pairwise fun p q =>
      firstPlace processes p < firstPlace processes q := by
  induction processes using List.reverseRecOn with
  | nil => exact .nil
  | append_singleton front final ih =>
    have listed : ∀ pid ∈ (latest (front.filter (admits filter))).map (·.pid),
        pid ∈ front.map (·.pid) := by
      intro pid mem
      obtain ⟨process, mem, same⟩ := List.mem_map.mp (mem_pids_latest.mp mem)
      exact List.mem_map.mpr ⟨process, List.mem_of_mem_filter mem, same⟩
    have kept : ((latest (front.filter (admits filter))).map (·.pid)).Pairwise fun p q =>
        firstPlace (front ++ [final]) p < firstPlace (front ++ [final]) q := by
      refine ih.imp_of_mem ?_
      intro p q first second before
      rw [firstPlace_append (listed p first), firstPlace_append (listed q second)]
      exact before
    rw [List.filter_append]
    by_cases admitted : admits filter final
    · rw [List.filter_cons_of_pos admitted, List.filter_nil, latest_concat, pids_place]
      split
      · exact kept
      · next absent =>
        -- A record of this pid that came earlier would have passed the filter as well.
        have fresh : final.pid ∉ front.map (·.pid) := by
          intro mem
          obtain ⟨process, mem, same⟩ := List.mem_map.mp mem
          refine absent (mem_pids_latest.mpr (List.mem_map.mpr ⟨process, ?_, same⟩))
          exact List.mem_filter.mpr ⟨mem, (admits_congr same).trans admitted⟩
        refine List.pairwise_append.mpr ⟨kept, List.pairwise_singleton _ _, ?_⟩
        intro p mem q last
        rw [List.mem_singleton.mp last, firstPlace_concat fresh, firstPlace_append (listed p mem)]
        exact firstPlace_lt_length.mpr (listed p mem)
    · rw [List.filter_cons_of_neg admitted, List.filter_nil, List.append_nil]
      exact kept

theorem not_sublist_swap {l : List ProcessRecord} (nodup : l.Nodup) (first : [a, b].Sublist l) :
    ¬ [b, a].Sublist l := by
  induction l with
  | nil => cases first
  | cons c rest ih =>
    intro second
    obtain ⟨fresh, nodup⟩ := List.nodup_cons.mp nodup
    cases first with
    | cons _ first =>
      cases second with
      | cons _ second => exact ih nodup first second
      | cons_cons _ second => exact fresh (first.subset (by simp))
    | cons_cons _ first =>
      cases second with
      | cons _ second => exact fresh (second.subset (by simp))
      | cons_cons _ second => exact fresh (second.subset (by simp))

theorem sublist_or_swap {l : List ProcessRecord} (first : a ∈ l) (second : b ∈ l) (apart : a ≠ b) :
    [a, b].Sublist l ∨ [b, a].Sublist l := by
  obtain ⟨before, after, rfl⟩ := List.append_of_mem first
  rcases List.mem_append.mp second with earlier | later
  · right
    exact (List.singleton_sublist.mpr earlier).append (List.Sublist.cons_cons a after.nil_sublist)
  · left
    have later : b ∈ after := (List.mem_cons.mp later).resolve_left apart.symm
    exact ((List.singleton_sublist.mpr later).cons_cons a).trans (List.sublist_append_right _ _)

theorem inOrder_cases (ordered : inOrder key a b = true) :
    key.Precedes a b ∨ key.Ties a b ∧ inOrder key b a = true := by
  cases key with
  | pid | residentSize | threadCount =>
    simp only [inOrder, SortKey.Precedes, SortKey.Ties, decide_eq_true_eq] at ordered ⊢
    omega
  | user =>
    simp only [inOrder, SortKey.Precedes, SortKey.Ties, decide_eq_true_eq] at ordered ⊢
    by_cases later : Text.lower b.user ≤ Text.lower a.user
    · exact .inr ⟨String.le_antisymm ordered later, later⟩
    · exact .inl (String.not_le.mp later)

/-- Where the key does not tell two records apart, the first occurrence of their pids does. -/
theorem firstPlace_lt_of_sublist (shown : [a, b].Sublist selection.visible)
    (tied : inOrder selection.sortKey b a = true) :
    firstPlace selection.processes a.pid < firstPlace selection.processes b.pid := by
  have nodup : selection.visible.Nodup := nodup_pids_visible.of_map
  have apart : a ≠ b := by
    rintro rfl
    exact List.nodup_iff_sublist.mp nodup a shown
  have kept (process : ProcessRecord) (mem : process ∈ [a, b]) :
      process ∈ latest (selection.processes.filter (admits selection.filter)) :=
    visible_perm.mem_iff.mp (shown.subset mem)
  rcases sublist_or_swap (kept a (by simp)) (kept b (by simp)) apart with inPlace | swapped
  · have places := pairwise_firstPlace_latest.sublist (inPlace.map (·.pid))
    simpa using places
  · -- sorting would have left them in the order in which they stood
    have stays := List.pair_sublist_mergeSort (inOrder_trans _) (inOrder_total _) tied swapped
    exact absurd stays (not_sublist_swap nodup shown)

/-- How the processes of a list are shown under a filter and a sort key. -/
structure Displays (processes : List ProcessRecord) (filter : Option PidSet) (key : SortKey)
    (shown : List ProcessRecord) : Prop where
  nodup : (shown.map (·.pid)).Nodup
  pids : ∀ pid, pid ∈ shown.map (·.pid) ↔
    pid ∈ processes.map (·.pid) ∧ ∀ pids, filter = some pids → pid ∈ pids
  latest : ∀ process ∈ shown, IsLast processes process
  ordered : shown.Pairwise fun a b => key.Precedes a b ∨
    key.Ties a b ∧ firstPlace processes a.pid < firstPlace processes b.pid

theorem admits_iff :
    admits filter process = true ↔ ∀ pids, filter = some pids → process.pid ∈ pids := by
  cases filter with
  | none => simp [admits]
  | some pids => simp [admits]

theorem displays_visible (selection : Selection) :
    Displays selection.processes selection.filter selection.sortKey selection.visible where
  nodup := nodup_pids_visible
  pids pid := by
    rw [mem_pids_visible, List.mem_map]
    constructor
    · rintro ⟨process, mem, rfl, passes⟩
      exact ⟨⟨process, mem, rfl⟩, admits_iff.mp passes⟩
    · rintro ⟨⟨process, mem, rfl⟩, passes⟩
      exact ⟨process, mem, rfl, admits_iff.mpr passes⟩
  latest process mem := (mem_visible.mp mem).1
  ordered := by
    rw [List.pairwise_iff_forall_sublist]
    intro a b shown
    have ordered : inOrder selection.sortKey a b = true :=
      List.pairwise_iff_forall_sublist.mp pairwise_visible shown
    rcases inOrder_cases ordered with before | ⟨ties, tied⟩
    · exact .inl before
    · exact .inr ⟨ties, firstPlace_lt_of_sublist shown tied⟩

theorem iterate_cycleSort (n : Nat) (selection : Selection) :
    cycleSort^[n] selection =
      { selection with sortKey := SortKey.next^[n] selection.sortKey } := by
  induction n with
  | zero => rfl
  | succ n ih => rw [Function.iterate_succ_apply', Function.iterate_succ_apply', ih, cycleSort]

/-- However often the sort key of a new table has been cycled, one record of each pid is shown, the
last one, in the order of the key and of the first occurrences. -/
theorem displays_cycled (processes : List ProcessRecord) (filter : Option PidSet) (n : Nat) :
    Displays processes filter (SortKey.cycled n) (cycleSort^[n] { processes, filter }).visible := by
  rw [iterate_cycleSort, SortKey.iterate_next]
  exact displays_visible { processes, filter, sortKey := SortKey.cycled n }

end Selection

end HostInventory
