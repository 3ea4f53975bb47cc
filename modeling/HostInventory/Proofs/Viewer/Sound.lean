import HostInventory.Proofs.Action
import HostInventory.Proofs.Viewer.Refresh
import HostInventory.Viewer.Feed

/-!
What holds of every screen, also after operations that failed half-way: the rows are named by their
pids, a row is highlighted if there is one, and the sizes of the processes have texts.
-/
namespace HostInventory

open HostInventory.Action

variable {table after : RowTable} {pid : Int} {row : Row}

namespace RowTable

/-- Every row is named by its pid, and the cursor stands on a row unless there is none. -/
structure IsSound (table : RowTable) : Prop where
  keyed : IsKeyed table.rows
  placed : table.cursor ≤ table.rows.length - 1

theorem isSound_empty : IsSound empty := ⟨fun _ mem => (by cases mem), Nat.le_refl 0⟩

theorem IsSound.add (sound : table.IsSound) (written : Numeral.text? pid = .ok row.pid)
    (done : table.add pid row = .ok after) : after.IsSound := by
  obtain ⟨_, rfl⟩ := add_eq_ok.1 done
  refine ⟨fun entry mem => ?_, ?_⟩
  · rcases List.mem_append.1 mem with mem | mem
    · exact sound.keyed entry mem
    · obtain rfl := List.mem_singleton.1 mem
      exact written
  · have placed := sound.placed
    simp only [List.length_append, List.length_singleton]
    omega

theorem IsSound.remove (sound : table.IsSound) (done : table.remove pid = .ok after) :
    after.IsSound := by
  obtain ⟨_, rfl⟩ := remove_eq_ok.1 done
  exact ⟨fun entry mem => sound.keyed entry (List.mem_filter.1 mem).1, Nat.min_le_right _ _⟩

theorem IsSound.setCell {column : Column} {cell : String} (sound : table.IsSound)
    (done : table.setCell pid column cell = .ok after) : after.IsSound := by
  obtain ⟨_, rfl⟩ := setCell_eq_ok.1 done
  refine ⟨fun entry mem => ?_, ?_⟩
  · obtain ⟨old, there, rfl⟩ := List.mem_map.1 mem
    have written := sound.keyed old there
    by_cases same : old.1 = pid
    · cases column <;> simpa [same, Row.set] using same ▸ written
    · simpa [same] using written
  · simpa [alter] using sound.placed

theorem IsSound.moveCursor (sound : table.IsSound) (place : Nat) : (table.moveCursor place).IsSound :=
  ⟨sound.keyed, Nat.min_le_right _ _⟩

theorem highlighted?_moveCursor (table : RowTable) (place : Nat) :
    (table.moveCursor place).highlighted? = table.keys[min place (table.keys.length - 1)]? := by
  simp only [RowTable.moveCursor, highlighted?, keys, List.length_map]

/-- A row is highlighted as soon as there is one, and its pid is short enough to be written. -/
theorem IsSound.exists_highlighted (sound : table.IsSound) (some : table.rows ≠ []) :
    ∃ pid, table.highlighted? = .some pid := by
  have placed := sound.placed
  have length := List.length_pos_iff.2 some
  have inside : table.cursor < table.keys.length := by
    rw [keys, List.length_map]
    omega
  exact ⟨_, List.getElem?_eq_getElem inside⟩

theorem IsSound.isShort_highlighted (sound : table.IsSound) (lit : table.highlighted? = some pid) :
    Numeral.IsShort pid := by
  obtain ⟨entry, mem, rfl⟩ := List.mem_map.1 (List.mem_of_getElem? lit)
  exact Numeral.exists_text?_iff.1 ⟨_, sound.keyed entry mem⟩

end RowTable

namespace ProcessTable

/-- What holds of a process table whatever became of the operations on it. -/
structure IsSound (screen : ProcessTable) : Prop where
  table : screen.table.IsSound
  formattable : ∀ process ∈ screen.selection.processes,
    (Size.format process.residentSize).isOk = true

theorem keeps_change {f : RowTable → Except Failure RowTable}
    (keeps : ∀ table after, table.IsSound → f table = .ok after → after.IsSound) :
    Keeps IsSound (change f) := by
  refine keeps_get_bind fun screen sound => ?_
  rw [perform_bind, perform_ofExcept]
  cases done : f screen.table with
  | error failure => exact sound
  | ok after => exact ⟨keeps _ _ sound.table done, sound.formattable⟩

theorem keeps_addRow (process : ProcessRecord) : Keeps IsSound (addRow process) := by
  intro screen sound
  rw [addRow, perform_bind, perform_ofExcept]
  cases written : rowOf process with
  | error failure => exact sound
  | ok row =>
    have named := (rowOf_eq_ok.1 written).1
    exact keeps_change (fun _ _ sound done => sound.add named done) screen sound

theorem keeps_setCell (process : ProcessRecord) (column : Column) (cell : Except Failure String) :
    Keeps IsSound (setCell process column cell) :=
  (keeps_ofExcept cell).bind fun _ => keeps_change fun _ _ sound done => sound.setCell done

theorem keeps_updateRow (process : ProcessRecord) : Keeps IsSound (updateRow process) :=
  (keeps_ofExcept _).bind fun _ =>
    (keeps_setCell _ _ _).bind fun _ => (keeps_setCell _ _ _).bind fun _ =>
      (keeps_setCell _ _ _).bind fun _ => (keeps_setCell _ _ _).bind fun _ =>
        (keeps_setCell _ _ _).bind fun _ => (keeps_setCell _ _ _).bind fun _ => keeps_setCell _ _ _

theorem keeps_removeRow (pid : Int) : Keeps IsSound (removeRow pid) :=
  (keeps_ofExcept _).bind fun _ => keeps_change fun _ _ sound done => sound.remove done

theorem keeps_showRow (shown : PidSet) (process : ProcessRecord) :
    Keeps IsSound (showRow shown process) := by
  unfold showRow
  split
  · exact keeps_updateRow process
  · exact keeps_addRow process

theorem keeps_refresh (gone : List Int) : Keeps IsSound (refresh gone) :=
  keeps_get.bind fun screen =>
    (keeps_forM keeps_removeRow).bind fun _ => (keeps_forM (keeps_showRow screen.shown)).bind fun _ =>
      keeps_modify fun _ sound => ⟨sound.table, sound.formattable⟩

theorem isSound_update {processes : List ProcessRecord} {screen : ProcessTable}
    (table : screen.table.IsSound)
    (formattable : ∀ process ∈ processes, (Size.format process.residentSize).isOk = true) :
    IsSound ((update processes).perform screen).2 := by
  have given : IsSound { screen with selection := { screen.selection with processes } } :=
    ⟨table, formattable⟩
  simp only [update, perform_bind, perform_modify, perform_get]
  exact keeps_refresh _ _ given

theorem keeps_rebuild : Keeps IsSound rebuild := by
  intro screen sound
  simp only [rebuild, perform_bind, perform_modify, perform_get]
  exact isSound_update RowTable.isSound_empty sound.formattable

theorem keeps_cycleSort : Keeps IsSound cycleSort :=
  (keeps_modify fun _ sound => ⟨sound.table, sound.formattable⟩).bind fun _ =>
    keeps_rebuild.bind fun _ => keeps_get.bind fun _ => keeps_pure _

theorem keeps_setFilter (filter : Option PidSet) : Keeps IsSound (setFilter filter) :=
  (keeps_modify fun _ sound => ⟨sound.table, sound.formattable⟩).bind fun _ => keeps_rebuild

end ProcessTable

namespace Screen

def IsSound (screen : Screen) : Prop := screen.processes.IsSound

variable {α : Type}

theorem keeps_onHeader (a : Action Header α) : Keeps IsSound (onHeader a) := fun _ sound => sound

theorem keeps_onServices (a : Action ServiceTable α) : Keeps IsSound (onServices a) :=
  fun _ sound => sound

theorem keeps_onProcesses {a : Action ProcessTable α} (keeps : Keeps ProcessTable.IsSound a) :
    Keeps IsSound (onProcesses a) := fun screen sound => keeps screen.processes sound

theorem keeps_notify (notice : String) : Keeps IsSound (notify notice) := fun _ sound => sound

theorem keeps_drillDown : Keeps IsSound drillDown := by
  refine keeps_get.bind fun screen => ?_
  cases screen.highlighted? with
  | none => exact keeps_pure ()
  | some pid =>
    exact (keeps_onProcesses (ProcessTable.keeps_setFilter _)).bind fun _ =>
      (keeps_ofExcept _).bind fun _ => keeps_notify _

theorem keeps_display {snapshot : Snapshot}
    (formattable : ∀ process ∈ snapshot.processes, (Size.format process.residentSize).isOk = true) :
    Keeps IsSound (display snapshot) :=
  (keeps_onHeader _).bind fun _ =>
    (keeps_onProcesses fun _ sound => ProcessTable.isSound_update sound.table formattable).bind
      fun _ => keeps_onServices _

theorem keeps_carryOut {event : Event} (formattable : event.IsFormattable) :
    Keeps IsSound (carryOut event) := by
  cases event with
  | display snapshot => exact keeps_display formattable
  | sort => exact (keeps_onProcesses ProcessTable.keeps_cycleSort).bind fun _ => keeps_notify _
  | drillDown => exact keeps_drillDown
  | clearFilter => exact keeps_onProcesses (ProcessTable.keeps_setFilter none)
  | moveCursor place =>
    exact keeps_onProcesses (keeps_modify fun _ sound =>
      ⟨sound.table.moveCursor place, sound.formattable⟩)

theorem Reachable.isSound {screen : Screen} (reachable : Reachable screen) : IsSound screen := by
  induction reachable with
  | new => exact ⟨RowTable.isSound_empty, fun _ mem => by cases mem⟩
  | step event _ formattable ih => exact keeps_carryOut formattable _ ih

end Screen

end HostInventory
