import HostInventory.Proofs.Viewer.Refresh

/-!
The process table over its whole history. Whatever happened before, its rows are those of the last
process list under the filter in force; a new sort key or filter puts them into full order, and new
data keeps the order of the rows that stay.
-/
namespace HostInventory.ProcessTable

variable {screen after : ProcessTable} {process : ProcessRecord} {operation : Operation}
  {history : List Operation}

/-- The numbers that are shown of a process have at most 4300 digits, and its size has a text. -/
def IsWritable (process : ProcessRecord) : Prop :=
  Numeral.IsShort process.pid ∧ Numeral.IsShort process.parentPid ∧
    Numeral.IsShort process.threadCount ∧ (Size.format process.residentSize).isOk = true

instance (process : ProcessRecord) : Decidable (IsWritable process) :=
  inferInstanceAs (Decidable (_ ∧ _ ∧ _ ∧ _))

theorem isShowable_iff_isWritable : isShowable process = true ↔ IsWritable process := by
  simp only [isShowable_iff, rowOf_eq_ok, IsWritable, Action.isOk_iff, ← Numeral.exists_text?_iff]
  constructor
  · rintro ⟨row, pid, parent, _, _, threads, size, _⟩
    exact ⟨⟨_, pid⟩, ⟨_, parent⟩, ⟨_, threads⟩, ⟨_, size⟩⟩
  · rintro ⟨⟨pid, h⟩, ⟨parent, h'⟩, ⟨threads, h''⟩, size, h'''⟩
    exact ⟨⟨pid, parent, _, _, threads, size, _, _⟩, h, h', rfl, rfl, h'', h''', rfl, rfl⟩

namespace Operation

/-- What an operation makes of the selection. -/
def select (selection : Selection) : Operation → Selection
  | update processes => { selection with processes }
  | cycleSort => selection.cycleSort
  | setFilter filter => { selection with filter }

/-- The screen whose rows an operation refreshes: a new order or filter starts without rows. -/
def start (screen : ProcessTable) : Operation → ProcessTable
  | update processes => { screen with selection := { screen.selection with processes } }
  | cycleSort => blank screen.selection.cycleSort
  | setFilter filter => blank { screen.selection with filter }

/-- The processes that an operation brings can be written. -/
def IsWritable : Operation → Prop
  | update processes => ∀ process ∈ processes, ProcessTable.IsWritable process
  | cycleSort | setFilter _ => True

theorem selection_start : (operation.start screen).selection = operation.select screen.selection := by
  cases operation <;> rfl

theorem coherent_start (coherent : Coherent screen) : Coherent (operation.start screen) := by
  cases operation with
  | update processes => exact ⟨coherent.distinct, coherent.shown, coherent.keyed⟩
  | cycleSort => exact coherent_blank
  | setFilter filter => exact coherent_blank

end Operation

/-- Every operation comes down to one refresh. -/
theorem perform_carryOut :
    (carryOut operation).perform screen =
      (refresh (operation.start screen).leaving).perform (operation.start screen) := by
  cases operation with
  | update processes => rfl
  | cycleSort =>
    have rebuilt : rebuild.perform { screen with selection := screen.selection.cycleSort } =
        (refresh (blank screen.selection.cycleSort).leaving).perform
          (blank screen.selection.cycleSort) := rfl
    rw [carryOut, Action.perform_discard, cycleSort, Action.perform_bind, Action.perform_modify]
    simp only [Action.perform_bind, rebuilt]
    change _ = (refresh (blank screen.selection.cycleSort).leaving).perform
      (blank screen.selection.cycleSort)
    rcases (refresh (blank screen.selection.cycleSort).leaving).perform
      (blank screen.selection.cycleSort) with ⟨outcome, after⟩
    cases outcome <;> rfl
  | setFilter filter => rfl

/-- An operation succeeds exactly if every process that is then to be shown can be written. -/
theorem exists_perform_carryOut_iff (coherent : Coherent screen) :
    (∃ after, (carryOut operation).perform screen = (.ok (), after)) ↔
      ∀ process ∈ (operation.select screen.selection).visible, IsWritable process := by
  simp only [← isShowable_iff_isWritable, ← exists_drawn_iff, perform_carryOut,
    perform_refresh (Operation.coherent_start coherent), Operation.selection_start]
  exact ⟨fun ⟨_, rows, drew, _⟩ => ⟨rows, drew⟩, fun ⟨rows, drew⟩ => ⟨_, rows, drew, rfl⟩⟩

theorem faithful_carryOut (coherent : Coherent screen)
    (done : (carryOut operation).perform screen = (.ok (), after)) :
    Faithful after ∧ after.selection = operation.select screen.selection := by
  rw [perform_carryOut] at done
  obtain ⟨rows, drew, rfl⟩ := (perform_refresh (Operation.coherent_start coherent)).1 done
  exact ⟨faithful_redrawn (Operation.coherent_start coherent) drew, Operation.selection_start⟩

theorem faithful_new : Faithful {} := by
  have nothing : ({} : ProcessTable).selection.visible = [] := by
    simp [Selection.visible, Selection.latest]
  refine ⟨⟨[], ?_, .refl _⟩, ?_⟩
  · rw [nothing]
    rfl
  · rw [nothing]
    rfl

theorem Reachable.faithful (reachable : Reachable screen) : Faithful screen := by
  induction reachable with
  | new => exact faithful_new
  | step operation _ done ih => exact (faithful_carryOut ih.coherent done).1

theorem exists_perform_history (writable : ∀ operation ∈ history, operation.IsWritable)
    (faithful : Faithful screen) (given : ∀ process ∈ screen.selection.processes, IsWritable process) :
    ∃ after, (history.forM carryOut).perform screen = (.ok (), after) ∧ Faithful after ∧
      after.selection = history.foldl Operation.select screen.selection := by
  induction history generalizing screen with
  | nil => exact ⟨screen, rfl, faithful, rfl⟩
  | cons operation rest ih =>
    have next : ∀ process ∈ (operation.select screen.selection).processes, IsWritable process := by
      cases operation with
      | update processes => exact writable _ List.mem_cons_self
      | cycleSort => exact given
      | setFilter filter => exact given
    obtain ⟨between, done⟩ := (exists_perform_carryOut_iff faithful.coherent).2 fun process mem =>
      next process (Selection.mem_visible.1 mem).1.mem
    obtain ⟨kept, selected⟩ := faithful_carryOut faithful.coherent done
    obtain ⟨after, later, result⟩ := ih
      (fun operation mem => writable operation (List.mem_cons_of_mem _ mem)) kept (selected ▸ next)
    refine ⟨after, Action.perform_forM_cons.2 ⟨between, done, later⟩, ?_⟩
    rw [List.foldl_cons, ← selected]
    exact result

/-- One row for each pid of the list that the filter lets through, with the cells of the last record
of its pid. -/
structure Mirrors (screen : ProcessTable) (selection : Selection) : Prop where
  distinct : screen.table.keys.Nodup
  shown : ∀ pid, pid ∈ screen.table.keys ↔ pid ∈ screen.shown
  listed : ∀ pid, pid ∈ screen.shown ↔
    ∃ process ∈ selection.processes, process.pid = pid ∧ Selection.admits selection.filter process
  cells : ∀ entry ∈ screen.table.rows, ∃ process,
    Selection.IsLast selection.processes process ∧ process.pid = entry.1 ∧
      rowOf process = .ok entry.2

theorem Faithful.mirrors (faithful : Faithful screen) : Mirrors screen screen.selection := by
  have coherent := faithful.coherent
  refine ⟨coherent.distinct, fun pid => (coherent.shown pid).symm, fun pid => ?_,
    fun entry mem => ?_⟩
  · rw [faithful.shown, PidSet.mem_ofList, Selection.mem_pids_visible]
  · obtain ⟨rows, drew, perm⟩ := faithful.rows
    obtain ⟨process, visible, same, written⟩ := (mem_of_drawn drew).1 (perm.mem_iff.1 mem)
    exact ⟨process, (Selection.mem_visible.1 visible).1, same, written⟩

/-- Every history of writable processes succeeds, and no row is then missing, stale or there twice. -/
theorem mirrors_of_history (history : List Operation)
    (writable : ∀ operation ∈ history, operation.IsWritable) :
    ∃ screen, (history.forM carryOut).perform {} = (.ok (), screen) ∧
      Mirrors screen (history.foldl Operation.select {}) := by
  obtain ⟨screen, done, faithful, selected⟩ :=
    exists_perform_history writable faithful_new fun _ mem => (by cases mem)
  exact ⟨screen, done, selected ▸ faithful.mirrors⟩

/-- A history in which a pid is used twice in one list and stays while others come and go. -/
def reusedPid : List Operation :=
  let process (pid parentPid size : Int) (fullArgs : String) : ProcessRecord :=
    ⟨pid, parentPid, "S", "root", 0, "root", 0, 1, 59, 2048, size, "01:00", "00:01", "sh", fullArgs⟩
  [.update [process 7 1 512 "old", process 3 1 1024 "cat", process 7 3 2048 "new"], .cycleSort,
    .setFilter (some (.ofList [3, 7])), .update [process 5 1 64 "ls", process 7 3 4096 "newer"]]

instance : DecidablePred Operation.IsWritable
  | .update processes => inferInstanceAs (Decidable (∀ process ∈ processes, IsWritable process))
  | .cycleSort | .setFilter _ => isTrue trivial

theorem mirrors_of_reusedPid :
    (∀ operation ∈ reusedPid, operation.IsWritable) ∧
      ∃ screen, (reusedPid.forM carryOut).perform {} = (.ok (), screen) ∧
        Mirrors screen (reusedPid.foldl Operation.select {}) :=
  have writable : ∀ operation ∈ reusedPid, operation.IsWritable := by decide +kernel
  ⟨writable, mirrors_of_history reusedPid writable⟩

/-- All rows stand in the order in which they are to be shown. -/
def InFullOrder (screen : ProcessTable) : Prop :=
  drawn screen.selection.visible = .ok screen.table.rows

/-- The order in which an operation leaves the rows. New data keeps the order of the rows that stay
and lets new ones follow, each once. -/
def Operation.Ordered (operation : Operation) (before after : ProcessTable) : Prop :=
  match operation with
  | update _ =>
    after.table.keys =
        before.table.keys.filter (· ∈ after.selection.visible.map (·.pid)) ++
          (after.selection.visible.map (·.pid)).filter (· ∉ before.table.keys) ∧
      after.table.keys.Nodup
  | cycleSort | setFilter _ => InFullOrder after

def Operation.IsRedraw : Operation → Prop
  | update _ => False
  | cycleSort | setFilter _ => True

theorem inFullOrder_redrawn_blank {selection : Selection} {rows : List (Int × Row)}
    (drew : drawn selection.visible = .ok rows) : InFullOrder ((blank selection).redrawn rows) := by
  rw [redrawn_blank drew]
  exact drew

theorem ordered_carryOut (coherent : Coherent screen)
    (done : (carryOut operation).perform screen = (.ok (), after)) :
    operation.Ordered screen after := by
  rw [perform_carryOut] at done
  have started : Coherent (operation.start screen) := Operation.coherent_start coherent
  obtain ⟨rows, drew, rfl⟩ := (perform_refresh started).1 done
  cases operation with
  | update processes =>
    exact ⟨keys_redrawn started drew, (faithful_redrawn started drew).coherent.distinct⟩
  | cycleSort => exact inFullOrder_redrawn_blank drew
  | setFilter filter => exact inFullOrder_redrawn_blank drew

theorem mem_visible_cycleSort {selection : Selection} :
    process ∈ selection.cycleSort.visible ↔ process ∈ selection.visible := by
  rw [Selection.mem_visible, Selection.mem_visible]
  rfl

theorem exists_perform_cycleSort (faithful : Faithful screen) :
    ∃ after, (carryOut .cycleSort).perform screen = (.ok (), after) ∧ Faithful after ∧
      after.selection = screen.selection.cycleSort ∧ InFullOrder after := by
  obtain ⟨rows, drew, _⟩ := faithful.rows
  obtain ⟨after, done⟩ : ∃ after, (carryOut .cycleSort).perform screen = (.ok (), after) :=
    (exists_perform_carryOut_iff faithful.coherent).2 fun process mem =>
      isShowable_iff_isWritable.1
        (exists_drawn_iff.1 ⟨rows, drew⟩ process (mem_visible_cycleSort.1 mem))
  obtain ⟨kept, selected⟩ := faithful_carryOut faithful.coherent done
  exact ⟨after, done, kept, selected, ordered_carryOut faithful.coherent done⟩

theorem Reachable.run (reachable : Reachable screen)
    (done : (history.forM carryOut).perform screen = (.ok (), after)) : Reachable after := by
  induction history generalizing screen with
  | nil =>
    cases done
    exact reachable
  | cons operation rest ih =>
    obtain ⟨between, first, later⟩ := Action.perform_forM_cons.1 done
    exact ih (.step operation reachable first) later

/-- What is known of the order of the rows on a screen. -/
structure KeepsOrder (screen : ProcessTable) : Prop where
  /-- An operation succeeds exactly if all processes that are then to be shown can be written. -/
  succeeds : ∀ operation : Operation,
    (∃ after, (carryOut operation).perform screen = (.ok (), after)) ↔
      ∀ process ∈ (operation.select screen.selection).visible, IsWritable process
  ordered : ∀ operation after, (carryOut operation).perform screen = (.ok (), after) →
    after.selection = operation.select screen.selection ∧ operation.Ordered screen after
  /-- A redraw comes to the same from every screen with the same processes, sort key and filter. -/
  forgets : ∀ (operation : Operation) (other : ProcessTable), operation.IsRedraw →
    other.selection = screen.selection →
      (carryOut operation).perform other = (carryOut operation).perform screen
  /-- It makes no difference in which order rows go. -/
  anyOrder : ∀ processes gone, gone.Perm ((Operation.update processes).start screen).leaving →
    (refresh gone).perform ((Operation.update processes).start screen) =
      (carryOut (.update processes)).perform screen
  again : (carryOut (.update screen.selection.processes)).perform screen = (.ok (), screen)
  fourSorts : ∃ after,
    ([.cycleSort, .cycleSort, .cycleSort, .cycleSort].forM carryOut).perform screen =
      (.ok (), after) ∧ after.selection = screen.selection ∧ InFullOrder after

theorem perform_again (faithful : Faithful screen) :
    (carryOut (.update screen.selection.processes)).perform screen = (.ok (), screen) := by
  obtain ⟨rows, drew, _⟩ := faithful.rows
  rw [perform_carryOut]
  change (refresh screen.leaving).perform screen = _
  exact (perform_refresh faithful.coherent).2 ⟨rows, drew, (redrawn_self faithful drew).symm⟩

theorem perform_fourSorts (faithful : Faithful screen) : ∃ after,
    ([.cycleSort, .cycleSort, .cycleSort, .cycleSort].forM carryOut).perform screen =
      (.ok (), after) ∧ after.selection = screen.selection ∧ InFullOrder after := by
  obtain ⟨first, one, faithful, key, _⟩ := exists_perform_cycleSort faithful
  obtain ⟨second, two, faithful, key₂, _⟩ := exists_perform_cycleSort faithful
  obtain ⟨third, three, faithful, key₃, _⟩ := exists_perform_cycleSort faithful
  obtain ⟨fourth, four, _, key₄, full⟩ := exists_perform_cycleSort faithful
  refine ⟨fourth, ?_, ?_, full⟩
  · refine Action.perform_forM_cons.2 ⟨first, one, Action.perform_forM_cons.2 ⟨second, two, ?_⟩⟩
    exact Action.perform_forM_cons.2 ⟨third, three, Action.perform_forM_cons.2 ⟨fourth, four, rfl⟩⟩
  · rw [key₄, key₃, key₂, key]
    simp only [Selection.cycleSort, SortKey.next_four_times]

/-- After every history, a new sort key or filter draws the rows in full order, whatever came before,
and new data keeps the order of what stays. -/
theorem row_order (reachable : Reachable screen) : KeepsOrder screen := by
  have faithful := reachable.faithful
  refine ⟨fun operation => exists_perform_carryOut_iff faithful.coherent, fun operation after done =>
    ⟨(faithful_carryOut faithful.coherent done).2, ordered_carryOut faithful.coherent done⟩, ?_, ?_,
    perform_again faithful, perform_fourSorts faithful⟩
  · intro operation other redraw same
    rw [perform_carryOut, perform_carryOut]
    cases operation with
    | update processes => cases redraw
    | cycleSort => rw [Operation.start, Operation.start, same]
    | setFilter filter => rw [Operation.start, Operation.start, same]
  · intro processes gone perm
    rw [perform_carryOut]
    exact perform_refresh_perm (Operation.coherent_start faithful.coherent) perm

theorem row_order_after_reusedPid :
    ∃ screen, Reachable screen ∧
      screen.selection.processes.map (·.fullArgs) = ["ls", "newer"] ∧ KeepsOrder screen := by
  have writable : ∀ operation ∈ reusedPid, operation.IsWritable := by decide +kernel
  obtain ⟨screen, done, _, selected⟩ :=
    exists_perform_history writable faithful_new fun _ mem => (by cases mem)
  have reachable := Reachable.new.run done
  exact ⟨screen, reachable, by rw [selected]; rfl, row_order reachable⟩

end HostInventory.ProcessTable
