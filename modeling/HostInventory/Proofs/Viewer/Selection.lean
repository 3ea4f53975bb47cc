import HostInventory.Viewer.Selection
import Mathlib.Data.List.Basic
import Mathlib.Data.List.Induction
import Mathlib.Data.List.Nodup

/-!
The processes that a selection shows: each pid of the list that the filter lets through once, with
the last record that the list has for it.
-/
namespace HostInventory.Selection

variable {processes : List ProcessRecord} {process other : ProcessRecord} {filter : Option PidSet}

/-- The last record of its pid in a list. -/
def IsLast (processes : List ProcessRecord) (process : ProcessRecord) : Prop :=
  ∃ before after, processes = before ++ process :: after ∧ ∀ later ∈ after, later.pid ≠ process.pid

theorem not_isLast_nil : ¬ IsLast [] process := by
  rintro ⟨before, after, split, _⟩
  cases before <;> cases split

theorem isLast_singleton (process : ProcessRecord) : IsLast [process] process :=
  ⟨[], [], rfl, fun _ mem => by cases mem⟩

theorem isLast_concat :
    IsLast (processes ++ [other]) process ↔
      process = other ∨ IsLast processes process ∧ process.pid ≠ other.pid := by
  constructor
  · rintro ⟨before, after, split, last⟩
    rcases List.eq_nil_or_concat after with rfl | ⟨after, final, rfl⟩
    · exact .inl (List.append_inj_right' split rfl |> List.singleton_inj.1).symm
    · rw [List.concat_eq_append, ← List.cons_append, ← List.append_assoc] at split
      obtain ⟨front, same⟩ := List.append_inj' split rfl
      obtain rfl := List.singleton_inj.1 same
      refine .inr ⟨⟨before, after, front, fun later mem => last later ?_⟩, ?_⟩
      · simp [mem]
      · exact (last other (by simp)).symm
  · rintro (rfl | ⟨⟨before, after, rfl, last⟩, differs⟩)
    · exact ⟨processes, [], rfl, by simp⟩
    · refine ⟨before, after ++ [other], by simp, fun later mem => ?_⟩
      rcases List.mem_append.1 mem with mem | mem
      · exact last later mem
      · rw [List.mem_singleton.1 mem]
        exact differs.symm

theorem IsLast.mem (last : IsLast processes process) : process ∈ processes := by
  obtain ⟨before, after, rfl, _⟩ := last
  simp

theorem admits_congr (same : process.pid = other.pid) :
    admits filter process = admits filter other := by
  cases filter with
  | none => rfl
  | some pids => exact congrArg pids.contains same

theorem isLast_filter :
    IsLast (processes.filter (admits filter)) process ↔
      IsLast processes process ∧ admits filter process := by
  induction processes using List.reverseRecOn with
  | nil => simp [not_isLast_nil]
  | append_singleton front final ih =>
    rw [List.filter_append, isLast_concat]
    by_cases admitted : admits filter final
    · rw [List.filter_cons_of_pos admitted, List.filter_nil, isLast_concat, ih]
      constructor
      · rintro (rfl | ⟨⟨last, passes⟩, differs⟩)
        · exact ⟨.inl rfl, admitted⟩
        · exact ⟨.inr ⟨last, differs⟩, passes⟩
      · rintro ⟨rfl | ⟨last, differs⟩, passes⟩
        · exact .inl rfl
        · exact .inr ⟨⟨last, passes⟩, differs⟩
    · rw [List.filter_cons_of_neg admitted, List.filter_nil, List.append_nil, ih]
      constructor
      · rintro ⟨last, passes⟩
        refine ⟨.inr ⟨last, fun same => admitted ?_⟩, passes⟩
        rw [← admits_congr same]
        exact passes
      · rintro ⟨rfl | ⟨last, _⟩, passes⟩
        · exact absurd passes admitted
        · exact ⟨last, passes⟩

theorem latest_concat : latest (processes ++ [process]) = place process (latest processes) := by
  simp [latest]

theorem pids_place :
    (place process processes).map (·.pid) =
      if process.pid ∈ processes.map (·.pid) then processes.map (·.pid)
      else processes.map (·.pid) ++ [process.pid] := by
  induction processes with
  | nil => rfl
  | cons first rest ih =>
    by_cases same : first.pid = process.pid
    · simp [place, same]
    · simp only [place, same, if_false, List.map_cons, ih, List.mem_cons, Ne.symm same, false_or]
      split <;> simp

theorem nodup_pids_latest : ((latest processes).map (·.pid)).Nodup := by
  induction processes using List.reverseRecOn with
  | nil => exact .nil
  | append_singleton front final ih =>
    rw [latest_concat, pids_place]
    split
    · exact ih
    · next absent => exact List.nodup_append.2 ⟨ih, by simp, by simpa using absent⟩

theorem mem_place (nodup : (processes.map (·.pid)).Nodup) :
    other ∈ place process processes ↔
      other = process ∨ other ∈ processes ∧ other.pid ≠ process.pid := by
  induction processes with
  | nil => simp [place]
  | cons first rest ih =>
    simp only [List.map_cons, List.nodup_cons] at nodup
    obtain ⟨fresh, nodup⟩ := nodup
    by_cases same : first.pid = process.pid
    · simp only [place, same, if_true, List.mem_cons]
      constructor
      · rintro (rfl | mem)
        · exact .inl rfl
        · refine .inr ⟨.inr mem, fun again => fresh ?_⟩
          rw [same, ← again]
          exact List.mem_map_of_mem mem
      · rintro (rfl | ⟨rfl | mem, differs⟩)
        · exact .inl rfl
        · exact absurd same differs
        · exact .inr mem
    · simp only [place, same, if_false, List.mem_cons, ih nodup]
      constructor
      · rintro (rfl | rfl | ⟨mem, differs⟩)
        · exact .inr ⟨.inl rfl, same⟩
        · exact .inl rfl
        · exact .inr ⟨.inr mem, differs⟩
      · rintro (rfl | ⟨rfl | mem, differs⟩)
        · exact .inr (.inl rfl)
        · exact .inl rfl
        · exact .inr (.inr ⟨mem, differs⟩)

theorem mem_latest : process ∈ latest processes ↔ IsLast processes process := by
  induction processes using List.reverseRecOn generalizing process with
  | nil => simp [latest, not_isLast_nil]
  | append_singleton front final ih =>
    rw [latest_concat, mem_place nodup_pids_latest, isLast_concat, ih]

theorem inOrder_trans (key : SortKey) (a b c : ProcessRecord) (first : inOrder key a b = true)
    (second : inOrder key b c = true) : inOrder key a c = true := by
  cases key with
  | pid | residentSize | threadCount =>
    simp only [inOrder, decide_eq_true_eq] at first second ⊢
    omega
  | user =>
    simp only [inOrder, decide_eq_true_eq] at first second ⊢
    exact String.le_trans first second

theorem inOrder_total (key : SortKey) (a b : ProcessRecord) :
    (inOrder key a b || inOrder key b a) = true := by
  cases key with
  | pid | residentSize | threadCount =>
    simp only [inOrder, Bool.or_eq_true, decide_eq_true_eq]
    omega
  | user =>
    simp only [inOrder, Bool.or_eq_true, decide_eq_true_eq]
    exact String.le_total _ _

variable {selection : Selection}

theorem pairwise_visible :
    selection.visible.Pairwise fun a b => inOrder selection.sortKey a b = true :=
  List.pairwise_mergeSort (inOrder_trans _) (inOrder_total _) _

theorem visible_perm :
    selection.visible.Perm (latest (selection.processes.filter (admits selection.filter))) :=
  List.mergeSort_perm _ _

theorem nodup_pids_visible : (selection.visible.map (·.pid)).Nodup :=
  (visible_perm.map _).nodup_iff.2 nodup_pids_latest

theorem mem_visible :
    process ∈ selection.visible ↔
      IsLast selection.processes process ∧ admits selection.filter process := by
  rw [visible_perm.mem_iff, mem_latest, isLast_filter]

theorem exists_isLast {pid : Int} :
    (∃ process, IsLast processes process ∧ process.pid = pid) ↔
      ∃ process ∈ processes, process.pid = pid := by
  constructor
  · rintro ⟨process, last, same⟩
    exact ⟨process, last.mem, same⟩
  · rintro ⟨process, mem, same⟩
    induction processes using List.reverseRecOn with
    | nil => cases mem
    | append_singleton front final ih =>
      by_cases final_pid : final.pid = pid
      · exact ⟨final, isLast_concat.2 (.inl rfl), final_pid⟩
      · rcases List.mem_append.1 mem with mem | mem
        · obtain ⟨found, last, found_pid⟩ := ih mem
          refine ⟨found, isLast_concat.2 (.inr ⟨last, fun again => final_pid ?_⟩), found_pid⟩
          rw [← again, found_pid]
        · rw [List.mem_singleton.1 mem] at same
          exact absurd same final_pid

theorem mem_pids_visible {pid : Int} :
    pid ∈ selection.visible.map (·.pid) ↔
      ∃ process ∈ selection.processes, process.pid = pid ∧ admits selection.filter process := by
  rw [List.mem_map]
  constructor
  · rintro ⟨process, mem, same⟩
    obtain ⟨last, passes⟩ := mem_visible.1 mem
    exact ⟨process, last.mem, same, passes⟩
  · rintro ⟨process, mem, same, passes⟩
    obtain ⟨found, last, found_pid⟩ := exists_isLast.2 ⟨process, mem, same⟩
    refine ⟨found, mem_visible.2 ⟨last, ?_⟩, found_pid⟩
    rw [admits_congr (found_pid.trans same.symm)]
    exact passes

end HostInventory.Selection
