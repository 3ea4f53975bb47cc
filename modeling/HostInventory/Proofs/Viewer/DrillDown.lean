import HostInventory.Proofs.Process.Descendants
import HostInventory.Proofs.Viewer.History
import HostInventory.Proofs.Viewer.Sound

/-!
Narrowing the process table to what is below a process, and widening it again. Main statement: on
every screen the rows after drilling down are the processes below the highlighted one, in order, and
as many as the notice says; clearing the filter shows every process.
-/
namespace HostInventory

open HostInventory.Action

namespace ProcessTable

variable {screen after : ProcessTable} {filter : Option PidSet} {process : ProcessRecord}

/-- The numbers that are shown of a process have at most 4300 digits. -/
def HasShortNumbers (process : ProcessRecord) : Prop :=
  Numeral.IsShort process.pid ∧ Numeral.IsShort process.parentPid ∧
    Numeral.IsShort process.threadCount

theorem isShowable_iff_hasShortNumbers
    (formattable : (Size.format process.residentSize).isOk = true) :
    isShowable process = true ↔ HasShortNumbers process := by
  rw [isShowable_iff_isWritable, IsWritable, HasShortNumbers]
  simp only [formattable, and_true]

/-- One row for each pid with a property, and no other row. Each has the cells of the last record of
its pid, and all stand in the order of the sort key. -/
structure ShowsJust (screen : ProcessTable) (isShown : Int → Prop) : Prop where
  distinct : screen.table.keys.Nodup
  listed : ∀ pid, pid ∈ screen.table.keys ↔ isShown pid
  cells : InFullOrder screen
  latest : ∀ process ∈ screen.selection.visible,
    Selection.IsLast screen.selection.processes process
  sorted : screen.selection.visible.Pairwise fun a b =>
    Selection.inOrder screen.selection.sortKey a b = true

theorem perform_setFilter :
    (setFilter filter).perform screen = (.ok (), after) ↔
      ∃ rows, drawn ({ screen.selection with filter } : Selection).visible = .ok rows ∧
        after = (blank { screen.selection with filter }).redrawn rows := by
  have drawsAfresh : (setFilter filter).perform screen =
      (refresh (blank { screen.selection with filter }).leaving).perform
        (blank { screen.selection with filter }) := rfl
  rw [drawsAfresh, perform_refresh coherent_blank]
  rfl

theorem exists_perform_setFilter_iff
    (formattable : ∀ process ∈ screen.selection.processes,
      (Size.format process.residentSize).isOk = true) :
    (∃ after, (setFilter filter).perform screen = (.ok (), after)) ↔
      ∀ process, Selection.IsLast screen.selection.processes process →
        Selection.admits filter process → HasShortNumbers process := by
  have drawable : (∃ after, (setFilter filter).perform screen = (.ok (), after)) ↔
      ∀ process ∈ ({ screen.selection with filter } : Selection).visible, isShowable process := by
    simp only [perform_setFilter, ← exists_drawn_iff]
    exact ⟨fun ⟨_, rows, drew, _⟩ => ⟨rows, drew⟩, fun ⟨rows, drew⟩ => ⟨_, rows, drew, rfl⟩⟩
  rw [drawable]
  constructor
  · intro showable process last passes
    exact (isShowable_iff_hasShortNumbers (formattable process last.mem)).1
      (showable process (Selection.mem_visible.2 ⟨last, passes⟩))
  · intro short process mem
    obtain ⟨last, passes⟩ := Selection.mem_visible.1 mem
    exact (isShowable_iff_hasShortNumbers (formattable process last.mem)).2
      (short process last passes)

theorem selection_of_setFilter (done : (setFilter filter).perform screen = (.ok (), after)) :
    after.selection = { screen.selection with filter } := by
  obtain ⟨rows, _, rfl⟩ := perform_setFilter.1 done
  rfl

theorem showsJust_of_setFilter (done : (setFilter filter).perform screen = (.ok (), after)) :
    ShowsJust after fun pid =>
      ∃ process ∈ screen.selection.processes, process.pid = pid ∧ Selection.admits filter process := by
  obtain ⟨rows, drew, rfl⟩ := perform_setFilter.1 done
  have full := inFullOrder_redrawn_blank drew
  have keys : ((blank { screen.selection with filter }).redrawn rows).table.keys =
      ({ screen.selection with filter } : Selection).visible.map (·.pid) := keys_of_drawn full
  refine ⟨?_, fun pid => ?_, full, fun process mem => (Selection.mem_visible.1 mem).1,
    Selection.pairwise_visible⟩
  · rw [keys]
    exact Selection.nodup_pids_visible
  · rw [keys, Selection.mem_pids_visible]

end ProcessTable

namespace Screen

open ProcessTree

variable {screen after : Screen} {pid : Int}

theorem perform_onProcesses {α : Type} {a : Action ProcessTable α} {value : α} :
    (onProcesses a).perform screen = (.ok value, after) ↔
      ∃ processes, a.perform screen.processes = (.ok value, processes) ∧
        after = { screen with processes } := by
  have run : (onProcesses a).perform screen =
      ((a.perform screen.processes).1, { screen with processes := (a.perform screen.processes).2 }) :=
    rfl
  rw [run]
  rcases a.perform screen.processes with ⟨outcome, processes⟩
  simp [eq_comm]

theorem exists_perform_onProcesses_iff {a : Action ProcessTable Unit} :
    (∃ after, (onProcesses a).perform screen = (.ok (), after)) ↔
      ∃ processes, a.perform screen.processes = (.ok (), processes) := by
  simp only [perform_onProcesses]
  constructor
  · rintro ⟨_, processes, done, _⟩
    exact ⟨processes, done⟩
  · rintro ⟨processes, done⟩
    exact ⟨_, processes, done, rfl⟩

/-- If the header has texts for a snapshot, the process table is brought to it. -/
theorem processes_display {snapshot : Snapshot}
    (titled : ((Header.update snapshot).perform screen.header).1 = .ok ()) :
    ((display snapshot).perform screen).2.processes =
      ((ProcessTable.update snapshot.processes).perform screen.processes).2 := by
  have header : (onHeader (Header.update snapshot)).perform screen =
      (.ok (), { screen with header := ((Header.update snapshot).perform screen.header).2 }) :=
    congrArg (·, _) titled
  have processes (screen : Screen) :
      (onProcesses (ProcessTable.update snapshot.processes)).perform screen =
        (((ProcessTable.update snapshot.processes).perform screen.processes).1,
          { screen with
            processes :=
              ((ProcessTable.update snapshot.processes).perform screen.processes).2 }) := rfl
  rw [display, perform_bind, header]
  simp only [perform_bind, processes]
  rcases (ProcessTable.update snapshot.processes).perform screen.processes with ⟨outcome, _⟩
  cases outcome with
  | ok _ => rfl
  | error failure => rfl

theorem exists_mem_of_below {records : List ProcessRecord} {p q : Int} (below : Below records p q) :
    ∃ process ∈ records, process.pid = q := by
  cases below with
  | child mem _ => exact ⟨_, (List.mem_filter.1 mem).1, rfl⟩
  | further _ mem _ => exact ⟨_, (List.mem_filter.1 mem).1, rfl⟩

/-- The notice that drilling down from a process sends when so many rows are left. -/
def noticeOf (rows : Nat) (pid : Int) : String :=
  toString rows ++ " descendants of " ++ Numeral.text pid

def below (screen : Screen) (pid : Int) : PidSet :=
  descendants screen.processes.selection.processes pid

theorem perform_drillDown (lit : screen.highlighted? = some pid) (short : Numeral.IsShort pid) :
    drillDown.perform screen = (.ok (), after) ↔
      ∃ processes,
        (ProcessTable.setFilter (some (screen.below pid))).perform screen.processes =
          (.ok (), processes) ∧
        after = { screen with
          processes, notices := screen.notices ++ [noticeOf (screen.below pid).size pid] } := by
  have written : Numeral.text? pid = .ok (Numeral.text pid) := Numeral.text?_eq_ok_iff.2 ⟨short, rfl⟩
  have run : drillDown.perform screen = (do
      onProcesses (ProcessTable.setFilter (some (screen.below pid)))
      notify (noticeOf (screen.below pid).size pid)).perform screen := by
    rw [drillDown, perform_bind, perform_get]
    simp only [lit, written]
    rfl
  rw [run, perform_then_eq_ok]
  constructor
  · rintro ⟨_, narrowed, done⟩
    obtain ⟨processes, filtered, rfl⟩ := perform_onProcesses.1 narrowed
    cases done
    exact ⟨processes, filtered, rfl⟩
  · rintro ⟨processes, filtered, rfl⟩
    exact ⟨_, perform_onProcesses.2 ⟨processes, filtered, rfl⟩, rfl⟩

theorem exists_perform_drillDown_iff (lit : screen.highlighted? = some pid)
    (short : Numeral.IsShort pid) :
    (∃ after, drillDown.perform screen = (.ok (), after)) ↔
      ∃ processes, (ProcessTable.setFilter (some (screen.below pid))).perform screen.processes =
        (.ok (), processes) := by
  simp only [perform_drillDown lit short]
  constructor
  · rintro ⟨_, processes, done, _⟩
    exact ⟨processes, done⟩
  · rintro ⟨processes, done⟩
    exact ⟨_, processes, done, rfl⟩

/-- What passes the filter of drilling down is what is below the process, itself left out. -/
theorem admits_below {process : ProcessRecord} :
    Selection.admits (some (screen.below pid)) process = true ↔
      process.pid ≠ pid ∧ Below screen.processes.selection.processes pid process.pid := by
  rw [Selection.admits, PidSet.contains_eq_true, below, mem_descendants]

theorem size_eq_of_showsJust {table : ProcessTable} {pids : PidSet}
    (shows : table.ShowsJust (· ∈ pids)) : pids.size = table.table.rows.length := by
  have perm : pids.toList.Perm table.table.keys :=
    (List.perm_ext_iff_of_nodup pids.nodup shows.distinct).2 fun pid => (shows.listed pid).symm
  rw [PidSet.size, perm.length_eq, RowTable.keys, List.length_map]

/-- What can be relied on when the table of a screen is narrowed and widened. -/
structure Drills (screen : Screen) : Prop where
  /-- Without rows nothing happens. -/
  idle : screen.processes.table.rows = [] → drillDown.perform screen = (.ok (), screen)
  /-- Some row is highlighted as soon as there are rows. -/
  lit : screen.processes.table.rows ≠ [] → ∃ pid, screen.highlighted? = some pid
  /-- Drilling down succeeds exactly if the numbers of what is below can be written. -/
  narrows : ∀ pid, screen.highlighted? = some pid →
    ((∃ after, drillDown.perform screen = (.ok (), after)) ↔
      ∀ process, Selection.IsLast screen.processes.selection.processes process →
        process.pid ≠ pid ∧ Below screen.processes.selection.processes pid process.pid →
        ProcessTable.HasShortNumbers process)
  /-- It leaves the rows of what is below the highlighted process, and tells how many these are. -/
  narrowed : ∀ pid after, screen.highlighted? = some pid →
    drillDown.perform screen = (.ok (), after) →
    after.processes.ShowsJust
        (fun q => q ≠ pid ∧ Below screen.processes.selection.processes pid q) ∧
      after.processes.selection =
        { screen.processes.selection with filter := some (screen.below pid) } ∧
      after = { screen with
        processes := after.processes
        notices := screen.notices ++ [noticeOf after.processes.table.rows.length pid] }
  /-- Clearing the filter succeeds exactly if the numbers of all processes can be written. -/
  widens : (∃ after, clearFilter.perform screen = (.ok (), after)) ↔
    ∀ process, Selection.IsLast screen.processes.selection.processes process →
      ProcessTable.HasShortNumbers process
  /-- It leaves the rows of all processes. -/
  widened : ∀ after, clearFilter.perform screen = (.ok (), after) →
    after.processes.ShowsJust
        (fun q => ∃ process ∈ screen.processes.selection.processes, process.pid = q) ∧
      after.processes.selection = { screen.processes.selection with filter := none } ∧
      after = { screen with processes := after.processes }

theorem showsJust_below {processes : ProcessTable}
    (narrowed : (ProcessTable.setFilter (some (screen.below pid))).perform screen.processes =
      (.ok (), processes)) :
    processes.ShowsJust fun q => q ≠ pid ∧ Below screen.processes.selection.processes pid q := by
  have shows := ProcessTable.showsJust_of_setFilter narrowed
  refine { shows with listed := fun q => (shows.listed q).trans ⟨?_, ?_⟩ }
  · rintro ⟨process, _, rfl, passes⟩
    exact admits_below.1 passes
  · rintro ⟨other, below⟩
    obtain ⟨process, mem, rfl⟩ := exists_mem_of_below below
    exact ⟨process, mem, rfl, admits_below.2 ⟨other, below⟩⟩

/-- A process, its child and its grandchild, which leads back to it and has two records. -/
def family : Snapshot :=
  let process (pid parentPid : Int) (fullArgs : String) : ProcessRecord :=
    ⟨pid, parentPid, "S", "root", 0, "root", 0, 1, 59, 2048, 512, "01:00", "00:01", "sh", fullArgs⟩
  { processes := [process 9 7 "make", process 8 1 "old", process 8 9 "cc", process 7 8 "sh"]
    services := [], uptime := 0, bootTime := 0, threadCount := 0, capturedAt := 0 }

def familyScreen : Screen :=
  ((carryOut (.moveCursor 1)).perform ((carryOut (.display family)).perform {}).2).2

theorem pids_visible_family :
    ({ processes := family.processes } : Selection).visible.map (·.pid) = [7, 8, 9] := by
  have latest : Selection.latest (family.processes.filter (Selection.admits none)) =
      [family.processes[0], family.processes[2], family.processes[3]] := by rfl
  rw [Selection.visible, latest]
  simp [family, Selection.inOrder, List.mergeSort, List.MergeSort.Internal.splitInTwo]

theorem keys_update_family :
    ((ProcessTable.update family.processes).perform {}).2.table.keys = [7, 8, 9] := by
  have writable : ∀ process ∈ family.processes, ProcessTable.IsWritable process := by
    decide +kernel
  have coherent : ProcessTable.Coherent {} := ProcessTable.faithful_new.coherent
  obtain ⟨after, done⟩ : ∃ after, (ProcessTable.carryOut (.update family.processes)).perform {} =
      (.ok (), after) :=
    (ProcessTable.exists_perform_carryOut_iff coherent).2 fun process mem =>
      writable process (Selection.mem_visible.1 mem).1.mem
  have selected := (ProcessTable.faithful_carryOut coherent done).2
  have ordered := (ProcessTable.ordered_carryOut coherent done).1
  have same : (ProcessTable.update family.processes).perform {} = (.ok (), after) := done
  have fresh : ({} : ProcessTable).table.keys = [] := rfl
  rw [same, ordered, selected, fresh]
  simpa [ProcessTable.Operation.select] using pids_visible_family

theorem highlighted?_familyScreen : familyScreen.highlighted? = some 8 := by
  have titled : ((Header.update family).perform {}).1 = .ok () := rfl
  have moved : familyScreen.highlighted? =
      (((carryOut (.display family)).perform {}).2.processes.table.moveCursor 1).highlighted? := rfl
  rw [moved, carryOut, processes_display titled, RowTable.highlighted?_moveCursor,
    keys_update_family]
  rfl

end Screen

end HostInventory
