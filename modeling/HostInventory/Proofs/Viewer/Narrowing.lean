import HostInventory.Proofs.Process.Descendants
import HostInventory.Proofs.Viewer.Display
import Mathlib.Data.List.Perm.Subperm

/-!
Drilling down again and again. Main statement: what is below a process that a search has found was
found by that search, except for the process where it began; where links make no cycles the table
loses rows with every further step down, on whichever row it is taken, until it is empty.
-/
namespace HostInventory

open HostInventory.Action

theorem RowTable.length_keys (table : RowTable) : table.keys.length = table.rows.length :=
  List.length_map _

namespace ProcessTable

variable {screen after : ProcessTable} {filter : Option PidSet} {pid : Int}

theorem faithful_of_setFilter (done : (setFilter filter).perform screen = (.ok (), after)) :
    after.Faithful := by
  obtain ⟨rows, drew, rfl⟩ := perform_setFilter.mp done
  exact faithful_redrawn coherent_blank drew

theorem Faithful.mem_keys_iff (faithful : screen.Faithful) :
    pid ∈ screen.table.keys ↔ ∃ process ∈ screen.selection.processes,
      process.pid = pid ∧ Selection.admits screen.selection.filter process :=
  (faithful.mirrors.shown pid).trans (faithful.mirrors.listed pid)

theorem length_rows_eq (faithful : screen.Faithful) (also : after.Faithful)
    (same : ∀ pid, pid ∈ after.table.keys ↔ pid ∈ screen.table.keys) :
    after.table.rows.length = screen.table.rows.length := by
  have perm : after.table.keys.Perm screen.table.keys :=
    (List.perm_ext_iff_of_nodup also.mirrors.distinct faithful.mirrors.distinct).mpr same
  rw [← RowTable.length_keys, ← RowTable.length_keys, perm.length_eq]

theorem length_rows_lt (distinct : after.table.keys.Nodup)
    (some : ∀ q ∈ after.table.keys, q ∈ screen.table.keys) (there : pid ∈ screen.table.keys)
    (gone : pid ∉ after.table.keys) : after.table.rows.length < screen.table.rows.length := by
  have both : (pid :: after.table.keys).Nodup := List.nodup_cons.mpr ⟨gone, distinct⟩
  have inside : pid :: after.table.keys ⊆ screen.table.keys :=
    List.cons_subset.mpr ⟨there, some⟩
  have fits := (List.subperm_of_subset both inside).length_le
  rw [List.length_cons, RowTable.length_keys, RowTable.length_keys] at fits
  exact fits

end ProcessTable

namespace Screen

open ProcessTree

variable {screen after : Screen} {event : Event} {events : List Event} {pid : Int}

/-- The keys that narrow or sort the table, and the cursor. -/
def Event.IsInward : Event → Prop
  | .sort | .drillDown | .moveCursor _ => True
  | .display _ | .clearFilter => False

def Event.isDrillDown : Event → Bool
  | .drillDown => true
  | .display _ | .sort | .clearFilter | .moveCursor _ => false

/-- The rows hold all that is below any of them. -/
structure IsNested (screen : Screen) : Prop where
  faithful : screen.processes.Faithful
  sound : screen.IsSound
  closed : ∀ p ∈ screen.processes.table.keys, ∀ q,
    Below screen.processes.selection.processes p q → q ∈ screen.processes.table.keys

/-- What one event leaves of a screen: the processes are the same, and there are no more rows than
before. -/
structure Leaves (event : Event) (screen after : Screen) : Prop where
  performed : (carryOut event).perform screen = (.ok (), after)
  nested : after.IsNested
  processes : after.processes.selection.processes = screen.processes.selection.processes
  rows : after.processes.table.rows.length ≤
    screen.processes.table.rows.length - [event].countP Event.isDrillDown

theorem isSound_after (event : Event) (inward : event.IsInward) (sound : screen.IsSound)
    (done : (carryOut event).perform screen = (.ok (), after)) : after.IsSound := by
  have formattable : event.IsFormattable := by
    cases event with
    | display snapshot => cases inward
    | sort | drillDown | clearFilter | moveCursor place => trivial
  have kept := keeps_carryOut formattable screen sound
  rwa [done] at kept

theorem isNested_of_all (faithful : screen.processes.Faithful) (sound : screen.IsSound)
    (all : screen.processes.selection.filter = none) : screen.IsNested where
  faithful := faithful
  sound := sound
  closed := by
    intro p _ q below
    obtain ⟨process, mem, same⟩ := exists_mem_of_below below
    refine faithful.mem_keys_iff.mpr ⟨process, mem, same, ?_⟩
    rw [all]
    rfl

theorem isNested_of_below (acyclic : IsAcyclic screen.processes.selection.processes)
    (faithful : screen.processes.Faithful) (sound : screen.IsSound)
    (shows : screen.processes.ShowsJust
      fun q => q ≠ pid ∧ Below screen.processes.selection.processes pid q) : screen.IsNested where
  faithful := faithful
  sound := sound
  closed := by
    intro p mem q below
    obtain ⟨_, upper⟩ := (shows.listed p).mp mem
    refine (shows.listed q).mpr ⟨?_, upper.trans below⟩
    rintro rfl
    exact acyclic q (upper.trans below)

theorem exists_perform_sort (faithful : screen.processes.Faithful) :
    ∃ after, (carryOut .sort).perform screen = (.ok (), after) ∧ after.processes.Faithful ∧
      after.processes.selection = screen.processes.selection.cycleSort := by
  obtain ⟨processes, cycled, kept, selected, _⟩ := ProcessTable.exists_perform_cycleSort faithful
  rw [ProcessTable.carryOut, perform_discard] at cycled
  obtain ⟨ended, left⟩ := Prod.mk.inj cycled
  cases outcome : (ProcessTable.cycleSort.perform screen.processes).1 with
  | error failure =>
    rw [outcome] at ended
    cases ended
  | ok key =>
    have sorted := perform_onProcesses.mpr ⟨processes, Prod.ext outcome left, rfl⟩
    exact ⟨_, perform_bind_eq_ok.mpr ⟨key, _, sorted, rfl⟩, kept, selected⟩

theorem IsNested.sort (nested : screen.IsNested) : ∃ after, Leaves .sort screen after := by
  obtain ⟨after, done, kept, selected⟩ := exists_perform_sort nested.faithful
  have sound := isSound_after .sort trivial nested.sound done
  have same : ∀ pid, pid ∈ after.processes.table.keys ↔ pid ∈ screen.processes.table.keys := by
    intro pid
    rw [kept.mem_keys_iff, nested.faithful.mem_keys_iff, selected]
    rfl
  refine ⟨after, done, ⟨kept, sound, ?_⟩, by rw [selected]; rfl, ?_⟩
  · intro p mem q below
    rw [same] at mem ⊢
    rw [selected] at below
    exact nested.closed p mem q below
  · exact (ProcessTable.length_rows_eq nested.faithful kept same).le

theorem IsNested.moveCursor (nested : screen.IsNested) (place : Nat) :
    ∃ after, Leaves (.moveCursor place) screen after := by
  refine ⟨_, rfl, ⟨?_, ?_, ?_⟩, rfl, Nat.le_refl _⟩
  · exact ⟨nested.faithful.rows, nested.faithful.shown⟩
  · exact isSound_after (.moveCursor place) trivial nested.sound rfl
  · exact nested.closed

/-- Whatever is below a row was drawn already, so that all of it can be drawn again. -/
theorem IsNested.exists_drawn_below (nested : screen.IsNested)
    (there : pid ∈ screen.processes.table.keys) :
    ∃ rows, ProcessTable.drawn
      ({ screen.processes.selection with filter := some (screen.below pid) } : Selection).visible =
        .ok rows := by
  obtain ⟨rows, drew, _⟩ := nested.faithful.rows
  have showable := ProcessTable.exists_drawn_iff.mp ⟨rows, drew⟩
  apply ProcessTable.exists_drawn_iff.mpr
  intro process mem
  apply showable process
  obtain ⟨last, passes⟩ := Selection.mem_visible.mp mem
  have shown := nested.closed pid there process.pid (admits_below.mp passes).2
  obtain ⟨other, _, same, admitted⟩ := nested.faithful.mem_keys_iff.mp shown
  exact Selection.mem_visible.mpr ⟨last, Selection.admits_congr same ▸ admitted⟩

theorem IsNested.drillDown_lit (nested : screen.IsNested)
    (acyclic : IsAcyclic screen.processes.selection.processes)
    (lit : screen.highlighted? = some pid) :
    ∃ after, Leaves .drillDown screen after ∧
      after.processes.table.rows.length < screen.processes.table.rows.length ∧
      after.processes.ShowsJust
        fun q => q ≠ pid ∧ Below screen.processes.selection.processes pid q := by
  have there : pid ∈ screen.processes.table.keys := List.mem_of_getElem? lit
  obtain ⟨rows, drew⟩ := nested.exists_drawn_below there
  have narrowed := ProcessTable.perform_setFilter.mpr ⟨rows, drew, rfl⟩
  have done := (perform_drillDown lit (nested.sound.table.isShort_highlighted lit)).mpr
    ⟨_, narrowed, rfl⟩
  have shows := showsJust_below narrowed
  have faithful := ProcessTable.faithful_of_setFilter narrowed
  have sound := isSound_after .drillDown trivial nested.sound done
  -- The rows that are left were there before, and the highlighted one is not among them.
  have fewer := ProcessTable.length_rows_lt shows.distinct
    (fun q mem => nested.closed pid there q ((shows.listed q).mp mem).2) there
    fun mem => ((shows.listed pid).mp mem).1 rfl
  refine ⟨_, ⟨done, isNested_of_below acyclic faithful sound shows, rfl, ?_⟩, fewer, shows⟩
  exact Nat.le_sub_one_of_lt fewer

theorem IsNested.drillDown_dark (nested : screen.IsNested)
    (empty : screen.processes.table.rows = []) : Leaves .drillDown screen screen := by
  refine ⟨?_, nested, rfl, ?_⟩
  · have dark : screen.highlighted? = none := by
      simp [highlighted?, RowTable.highlighted?, RowTable.keys, empty]
    rw [carryOut, drillDown, perform_bind, perform_get]
    simp only [dark]
    rfl
  · rw [empty]
    exact Nat.zero_le _

theorem IsNested.next (nested : screen.IsNested)
    (acyclic : IsAcyclic screen.processes.selection.processes) (inward : event.IsInward) :
    ∃ after, Leaves event screen after := by
  cases event with
  | display snapshot => cases inward
  | sort => exact nested.sort
  | drillDown =>
    by_cases empty : screen.processes.table.rows = []
    · exact ⟨screen, nested.drillDown_dark empty⟩
    · obtain ⟨pid, lit⟩ := nested.sound.table.exists_highlighted empty
      obtain ⟨after, leaves, _⟩ := nested.drillDown_lit acyclic lit
      exact ⟨after, leaves⟩
  | clearFilter => cases inward
  | moveCursor place => exact nested.moveCursor place

theorem IsNested.run (nested : screen.IsNested)
    (acyclic : IsAcyclic screen.processes.selection.processes)
    (inward : ∀ event ∈ events, event.IsInward) :
    ∃ left, (events.forM carryOut).perform screen = (.ok (), left) ∧ left.IsNested ∧
      left.processes.selection.processes = screen.processes.selection.processes ∧
      left.processes.table.rows.length ≤
        screen.processes.table.rows.length - events.countP Event.isDrillDown := by
  -- By the events: each leaves nested rows of the same processes, a step down fewer of them.
  induction events generalizing screen with
  | nil => exact ⟨screen, rfl, nested, rfl, Nat.le_refl _⟩
  | cons event rest ih =>
    obtain ⟨first, later⟩ := List.forall_mem_cons.mp inward
    obtain ⟨between, leaves⟩ := nested.next acyclic first
    have stays : IsAcyclic between.processes.selection.processes := by
      rw [leaves.processes]
      exact acyclic
    obtain ⟨left, performed, kept, same, rows⟩ := ih leaves.nested stays later
    refine ⟨left, perform_forM_cons.mpr ⟨between, leaves.performed, performed⟩, kept,
      same.trans leaves.processes, ?_⟩
    have fewer := leaves.rows
    have steps : ([event] ++ rest).countP Event.isDrillDown =
        [event].countP Event.isDrillDown + rest.countP Event.isDrillDown := List.countP_append
    rw [List.singleton_append] at steps
    omega

theorem IsNested.further (nested : screen.IsNested)
    (acyclic : IsAcyclic screen.processes.selection.processes) {place : Nat}
    (there : place < screen.processes.table.rows.length) :
    ∃ pid after, screen.processes.table.keys[place]? = some pid ∧
      ([.moveCursor place, .drillDown].forM carryOut).perform screen = (.ok (), after) ∧
      after.processes.ShowsJust
        (fun q => q ≠ pid ∧ Below screen.processes.selection.processes pid q) ∧
      after.processes.table.rows.length < screen.processes.table.rows.length := by
  have inside : place < screen.processes.table.keys.length := by
    rw [RowTable.length_keys]
    exact there
  have key := List.getElem?_eq_getElem inside
  let moved : Screen := ((carryOut (.moveCursor place)).perform screen).2
  obtain ⟨_, leaves⟩ := nested.moveCursor place
  obtain rfl : moved = _ := congrArg Prod.snd leaves.performed
  have lit : moved.highlighted? = some screen.processes.table.keys[place] := by
    have moves : moved.highlighted? = (screen.processes.table.moveCursor place).highlighted? := rfl
    rw [moves, RowTable.highlighted?_moveCursor, Nat.min_eq_left (Nat.le_sub_one_of_lt inside), key]
  obtain ⟨after, narrowed, fewer, shows⟩ := leaves.nested.drillDown_lit acyclic lit
  refine ⟨_, after, key, ?_, shows, fewer⟩
  exact perform_forM_cons.mpr ⟨moved, leaves.performed,
    perform_forM_cons.mpr ⟨after, narrowed.performed, rfl⟩⟩

/-- The events after which the rows hold all that is below any of them: a step down, showing all
processes again, and a snapshot on a screen that shows all processes. -/
def Event.Opens (screen : Screen) : Event → Prop
  | .display _ => screen.processes.Faithful ∧ screen.processes.selection.filter = none
  | .drillDown => ∃ pid, screen.highlighted? = some pid
  | .clearFilter => True
  | .sort | .moveCursor _ => False

theorem isNested_of_opens (reachable : Reachable screen) (formattable : event.IsFormattable)
    (opens : event.Opens screen) (done : (carryOut event).perform screen = (.ok (), after))
    (acyclic : IsAcyclic after.processes.selection.processes) : after.IsNested := by
  have sound : after.IsSound := by
    have kept := (reachable.step event formattable).isSound
    rwa [done] at kept
  cases event with
  | display snapshot =>
    obtain ⟨faithful, all⟩ := opens
    obtain ⟨_, processes, _, _, updated, _, rfl⟩ := perform_display.mp done
    have listed : (ProcessTable.carryOut (.update snapshot.processes)).perform screen.processes =
        (.ok (), processes) := updated
    obtain ⟨kept, selected⟩ := ProcessTable.faithful_carryOut faithful.coherent listed
    refine isNested_of_all kept sound ?_
    rw [selected]
    exact all
  | sort => cases opens
  | drillDown =>
    obtain ⟨pid, lit⟩ := opens
    obtain ⟨processes, narrowed, rfl⟩ :=
      (perform_drillDown lit (reachable.isSound.table.isShort_highlighted lit)).mp done
    have same : processes.selection.processes = screen.processes.selection.processes := by
      rw [ProcessTable.selection_of_setFilter narrowed]
    have shows := showsJust_below narrowed
    rw [← same] at shows
    exact isNested_of_below acyclic (ProcessTable.faithful_of_setFilter narrowed) sound shows
  | clearFilter =>
    rw [carryOut, clearFilter] at done
    obtain ⟨processes, widened, rfl⟩ := perform_onProcesses.mp done
    have same := ProcessTable.selection_of_setFilter widened
    refine isNested_of_all (ProcessTable.faithful_of_setFilter widened) sound ?_
    rw [same]
  | moveCursor place => cases opens

/-- What has become of a screen after keys that narrow or sort the table. -/
structure Dwindles (screen : Screen) (events : List Event) (left : Screen) : Prop where
  performed : (events.forM carryOut).perform screen = (.ok (), left)
  processes : left.processes.selection.processes = screen.processes.selection.processes
  /-- Each step down has taken a row at least, as long as there were any. -/
  rows : left.processes.table.rows.length ≤
    screen.processes.table.rows.length - events.countP Event.isDrillDown
  /-- A further step down can be taken on any row; it leaves what is below that row, which is less. -/
  further : ∀ place < left.processes.table.rows.length,
    ∃ pid after, left.processes.table.keys[place]? = some pid ∧
      ([.moveCursor place, .drillDown].forM carryOut).perform left = (.ok (), after) ∧
      after.processes.ShowsJust
        (fun q => q ≠ pid ∧ Below screen.processes.selection.processes pid q) ∧
      after.processes.table.rows.length < left.processes.table.rows.length

/-- What searching again from what a search has found comes to, in a list and on screen. -/
structure Narrows (records : List ProcessRecord) : Prop where
  within : ∀ p q, q ∈ descendants records p → ∀ r ∈ descendants records q,
    r = p ∨ r ∈ descendants records p
  /-- Strictly less is found, from wherever one starts, just when there are no cycles. -/
  strictly : IsAcyclic records ↔ ∀ p q, q ∈ descendants records p →
    (∀ r ∈ descendants records q, r ∈ descendants records p) ∧
      ∃ r ∈ descendants records p, r ∉ descendants records q
  /-- A screen of processes without cycles loses rows with every step down, until it is empty. -/
  onScreen : IsAcyclic records → ∀ (screen opened : Screen) (event : Event), Reachable screen →
    event.IsFormattable → event.Opens screen →
    (carryOut event).perform screen = (.ok (), opened) →
    opened.processes.selection.processes = records →
    ∀ events, (∀ event ∈ events, event.IsInward) → ∃ left, Dwindles opened events left

theorem narrows_repeatedly (records : List ProcessRecord) : Narrows records where
  within := fun _ _ upper _ lower => eq_or_mem_of_mem_descendants upper lower
  strictly := isAcyclic_iff
  onScreen := by
    rintro acyclic screen opened event reachable formattable opens done rfl events inward
    have nested := isNested_of_opens reachable formattable opens done acyclic
    obtain ⟨left, performed, kept, same, rows⟩ := nested.run acyclic inward
    refine ⟨left, performed, same, rows, fun place there => ?_⟩
    rw [← same] at acyclic ⊢
    exact kept.further acyclic there

/-- A shell, a build that it runs, and a compiler below that, which has two records and two
parents. -/
def build : Snapshot :=
  let process (pid parentPid : Int) (fullArgs : String) : ProcessRecord :=
    ⟨pid, parentPid, "S", "root", 0, "root", 0, 1, 59, 2048, 512, "01:00", "00:01", "sh", fullArgs⟩
  { processes := [process 0 0 "sched", process 9 7 "cc", process 7 0 "sh", process 8 7 "make",
      process 9 8 "cc -c"]
    services := [], uptime := 0, bootTime := 0, threadCount := 0, capturedAt := 0 }

theorem isAcyclic_build : IsAcyclic build.processes := isAcyclic_of_lt (by decide)

theorem canShow_build : CanShow {} build where
  time := rfl
  counts := rfl
  processes := by
    have writable : ∀ process ∈ build.processes, ProcessTable.IsWritable process := by
      decide +kernel
    intro process mem
    exact writable process (Selection.mem_visible.mp mem).1.mem
  services := List.forall_mem_nil _

theorem narrows_repeatedly_build :
    IsAcyclic build.processes ∧ (Event.display build).IsFormattable ∧
      (Event.display build).Opens {} ∧
      ∃ opened, (carryOut (.display build)).perform {} = (.ok (), opened) ∧
        opened.processes.selection.processes = build.processes ∧
        ∃ left, Dwindles opened [.moveCursor 1, .drillDown, .sort, .drillDown] left := by
  have formattable : (Event.display build).IsFormattable := by
    intro process mem
    have fits : ∀ process ∈ build.processes, (Size.format process.residentSize).isOk = true := by
      decide +kernel
    exact fits process mem
  have opens : (Event.display build).Opens {} := ⟨ProcessTable.faithful_new, rfl⟩
  have coherent := ProcessTable.faithful_new.coherent
  obtain ⟨opened, done⟩ := (exists_perform_display_iff coherent).mpr canShow_build
  have same := (portrays_of_display coherent done).2.processes
  have inward : ∀ event ∈ [Event.moveCursor 1, .drillDown, .sort, .drillDown], event.IsInward := by
    simp [Event.IsInward]
  exact ⟨isAcyclic_build, formattable, opens, opened, done, same,
    (narrows_repeatedly build.processes).onScreen isAcyclic_build {} opened (.display build)
      Reachable.new formattable opens done same _ inward⟩

end Screen

end HostInventory
