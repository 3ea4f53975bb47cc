import HostInventory.Proofs.Action
import HostInventory.Proofs.Viewer.RowTable
import HostInventory.Proofs.Viewer.Selection
import HostInventory.Viewer.ProcessTable

/-!
What one refresh of the process table comes to: if every process to show can be written, the rows
that stay keep their order and the new ones follow, whatever the order in which rows go.
-/
namespace HostInventory.ProcessTable

variable {screen after : ProcessTable} {process : ProcessRecord} {entry : Int × Row}
  {processes : List ProcessRecord} {rows : List (Int × Row)} {selection : Selection}
  {gone : List Int} {pid : Int}

theorem isShowable_iff : isShowable process = true ↔ ∃ row, rowOf process = .ok row :=
  Action.isOk_iff

theorem exists_drawn_iff :
    (∃ rows, drawn processes = .ok rows) ↔ ∀ process ∈ processes, isShowable process := by
  induction processes with
  | nil => exact ⟨fun _ _ mem => (by cases mem), fun _ => ⟨[], rfl⟩⟩
  | cons process rest ih =>
    simp only [drawn_cons, List.forall_mem_cons, isShowable_iff]
    simp only [isShowable_iff] at ih
    rw [← ih]
    constructor
    · rintro ⟨_, row, others, written, drew, rfl⟩
      exact ⟨⟨row, written⟩, others, drew⟩
    · rintro ⟨⟨row, written⟩, others, drew⟩
      exact ⟨_, row, others, written, drew, rfl⟩

theorem keys_of_drawn (drew : drawn processes = .ok rows) :
    rows.map (·.1) = processes.map (·.pid) := by
  induction processes generalizing rows with
  | nil =>
    cases drew
    rfl
  | cons process rest ih =>
    obtain ⟨row, others, _, later, rfl⟩ := drawn_cons.1 drew
    rw [List.map_cons, List.map_cons, ih later]

theorem mem_of_drawn (drew : drawn processes = .ok rows) :
    entry ∈ rows ↔ ∃ process ∈ processes, process.pid = entry.1 ∧ rowOf process = .ok entry.2 := by
  induction processes generalizing rows with
  | nil =>
    cases drew
    simp
  | cons process rest ih =>
    obtain ⟨row, others, written, later, rfl⟩ := drawn_cons.1 drew
    rw [List.mem_cons, ih later, List.exists_mem_cons_iff]
    refine or_congr_left ⟨?_, ?_⟩
    · rintro rfl
      exact ⟨rfl, written⟩
    · rintro ⟨same, also⟩
      exact Prod.ext same.symm (Except.ok.inj (also.symm.trans written))

theorem isKeyed_of_drawn (drew : drawn processes = .ok rows) : RowTable.IsKeyed rows := by
  intro entry mem
  obtain ⟨process, _, same, written⟩ := (mem_of_drawn drew).1 mem
  rw [← same]
  exact (rowOf_eq_ok.1 written).1

/-- The table and the set of pids that have a row are in step. -/
structure Coherent (screen : ProcessTable) : Prop where
  distinct : screen.table.keys.Nodup
  shown : ∀ pid, pid ∈ screen.shown ↔ pid ∈ screen.table.keys
  keyed : RowTable.IsKeyed screen.table.rows

/-- The rows are those of the processes to show, in some order. -/
structure Faithful (screen : ProcessTable) : Prop where
  rows : ∃ rows, drawn screen.selection.visible = .ok rows ∧ screen.table.rows.Perm rows
  shown : screen.shown = .ofList (screen.selection.visible.map (·.pid))

theorem Faithful.coherent (faithful : Faithful screen) : Coherent screen := by
  obtain ⟨⟨rows, drew, perm⟩, shown⟩ := faithful
  have keys : screen.table.keys.Perm (screen.selection.visible.map (·.pid)) :=
    keys_of_drawn drew ▸ perm.map _
  refine ⟨keys.nodup_iff.2 Selection.nodup_pids_visible, fun pid => ?_, fun entry mem => ?_⟩
  · rw [shown, PidSet.mem_ofList, keys.mem_iff]
  · exact isKeyed_of_drawn drew entry (perm.mem_iff.1 mem)

theorem mem_leaving (coherent : Coherent screen) :
    pid ∈ screen.leaving ↔
      pid ∈ screen.table.keys ∧ pid ∉ screen.selection.visible.map (·.pid) := by
  rw [leaving, PidSet.mem_outside, ← PidSet.mem_def, coherent.shown, PidSet.mem_ofList]

theorem nodup_leaving : screen.leaving.Nodup := screen.shown.nodup.filter _

theorem keys_without_leaving (coherent : Coherent screen) :
    (screen.table.without screen.leaving).keys =
      screen.table.keys.filter (· ∈ screen.selection.visible.map (·.pid)) := by
  rw [RowTable.keys_without]
  refine List.filter_congr fun pid mem => ?_
  simp only [mem_leaving coherent, mem, true_and, not_not]

def redrawn (screen : ProcessTable) (rows : List (Int × Row)) : ProcessTable :=
  { screen with
    table := (screen.table.without screen.leaving).putAll rows
    shown := .ofList (screen.selection.visible.map (·.pid)) }

theorem removable (coherent : Coherent screen) (perm : gone.Perm screen.leaving) :
    ∀ pid ∈ gone, Numeral.IsShort pid ∧ pid ∈ screen.table.keys := by
  intro pid mem
  obtain ⟨there, _⟩ := (mem_leaving coherent).1 (perm.mem_iff.1 mem)
  obtain ⟨entry, row, rfl⟩ := List.mem_map.1 there
  exact ⟨Numeral.exists_text?_iff.1 ⟨_, coherent.keyed entry row⟩, there⟩

/-- The order in which rows go makes no difference, to a failure neither. -/
theorem perform_refresh_perm (coherent : Coherent screen) (perm : gone.Perm screen.leaving) :
    (refresh gone).perform screen = (refresh screen.leaving).perform screen := by
  simp only [refresh, Action.perform_bind, Action.perform_get,
    perform_removeRows (perm.nodup_iff.2 nodup_leaving) (removable coherent perm),
    perform_removeRows nodup_leaving (removable coherent (.refl _)), RowTable.without_perm perm]

/-- A refresh succeeds if every process to show can be written. -/
theorem perform_refresh (coherent : Coherent screen) :
    (refresh screen.leaving).perform screen = (.ok (), after) ↔
      ∃ rows, drawn screen.selection.visible = .ok rows ∧ after = screen.redrawn rows := by
  have known : ∀ process ∈ screen.selection.visible, process.pid ∈ screen.shown ↔
      process.pid ∈ (screen.table.without screen.leaving).keys := by
    intro process mem
    have visible := List.mem_map_of_mem (f := (·.pid)) mem
    rw [keys_without_leaving coherent, List.mem_filter, coherent.shown]
    simp only [visible, decide_true, and_true]
  rw [refresh, Action.perform_bind, Action.perform_get]
  simp only [Action.perform_then_eq_ok,
    perform_removeRows nodup_leaving (removable coherent (.refl _)), Action.perform_modify]
  constructor
  · rintro ⟨_, ⟨⟩, _, done, ⟨⟩⟩
    obtain ⟨rows, drew, rfl⟩ := (perform_showRows Selection.nodup_pids_visible known).1 done
    exact ⟨rows, drew, rfl⟩
  · rintro ⟨rows, drew, rfl⟩
    exact ⟨_, rfl, _, (perform_showRows Selection.nodup_pids_visible known).2 ⟨rows, drew, rfl⟩, rfl⟩

/-- Rows that stay keep their order; new ones follow in the order in which they are to be shown. -/
theorem keys_redrawn (coherent : Coherent screen)
    (drew : drawn screen.selection.visible = .ok rows) :
    (screen.redrawn rows).table.keys =
      screen.table.keys.filter (· ∈ screen.selection.visible.map (·.pid)) ++
        (screen.selection.visible.map (·.pid)).filter (· ∉ screen.table.keys) := by
  have nodup : (rows.map (·.1)).Nodup := keys_of_drawn drew ▸ Selection.nodup_pids_visible
  rw [redrawn, RowTable.keys_putAll nodup, keys_of_drawn drew, keys_without_leaving coherent]
  refine congrArg _ (List.filter_congr fun pid mem => ?_)
  simp only [List.mem_filter, mem, decide_true, and_true]

theorem faithful_redrawn (coherent : Coherent screen)
    (drew : drawn screen.selection.visible = .ok rows) : Faithful (screen.redrawn rows) := by
  have nodup : (rows.map (·.1)).Nodup := keys_of_drawn drew ▸ Selection.nodup_pids_visible
  have keys := keys_without_leaving coherent
  refine ⟨⟨rows, drew, RowTable.putAll_perm (fun entry mem => ?_) (isKeyed_of_drawn drew) ?_ nodup
    fun pid mem => ?_⟩, rfl⟩
  · exact coherent.keyed entry (List.mem_filter.1 mem).1
  · rw [keys]
    exact coherent.distinct.filter _
  · rw [keys] at mem
    rw [keys_of_drawn drew]
    exact of_decide_eq_true (List.mem_filter.1 mem).2

def blank (selection : Selection) : ProcessTable := ⟨selection, .empty, .empty⟩

theorem coherent_blank : Coherent (blank selection) :=
  ⟨.nil, fun _ => iff_of_false (PidSet.not_mem_empty _) (by simp [blank]), fun _ mem => (by cases mem)⟩

/-- On a blank screen all rows stand in the order in which they are to be shown. -/
theorem redrawn_blank (drew : drawn selection.visible = .ok rows) :
    (blank selection).redrawn rows = ⟨selection, ⟨rows, 0⟩, .ofList (selection.visible.map (·.pid))⟩ := by
  have nodup : (rows.map (·.1)).Nodup := keys_of_drawn drew ▸ Selection.nodup_pids_visible
  have nothing : (blank selection).leaving = [] := rfl
  rw [redrawn, nothing, RowTable.without_nil,
    RowTable.putAll_of_fresh nodup fun _ _ => List.not_mem_nil]
  rfl

theorem redrawn_self (faithful : Faithful screen)
    (drew : drawn screen.selection.visible = .ok rows) : screen.redrawn rows = screen := by
  have coherent := faithful.coherent
  have nothing : screen.leaving = [] := by
    refine List.eq_nil_iff_forall_not_mem.2 fun pid mem => ?_
    obtain ⟨there, hidden⟩ := (mem_leaving coherent).1 mem
    rw [← coherent.shown, faithful.shown, PidSet.mem_ofList] at there
    exact hidden there
  obtain ⟨⟨same, again, perm⟩, shown⟩ := faithful
  obtain rfl := Except.ok.inj (drew.symm.trans again)
  rw [redrawn, nothing, RowTable.without_nil, ← shown,
    RowTable.putAll_self coherent.distinct fun entry mem => perm.mem_iff.2 mem]

end HostInventory.ProcessTable
