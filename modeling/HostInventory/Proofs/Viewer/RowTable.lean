import HostInventory.Proofs.Action
import HostInventory.Proofs.Number.Numeral
import HostInventory.Viewer.ProcessTable
import HostInventory.Viewer.RowTable
import Mathlib.Data.List.Basic
import Mathlib.Data.List.Nodup

/-!
Taking many rows out of a table and putting many into it, as functions of the table, and the steps
of the process table, each with the condition under which it succeeds. What is taken out does not
depend on an order; what is put in keeps the place of rows that are there.
-/
namespace HostInventory.RowTable

variable {table : RowTable} {pid : Int} {row : Row} {entry : Int × Row} {gone : List Int}
  {rows : List (Int × Row)}

def without (table : RowTable) (gone : List Int) : RowTable :=
  let rows := table.rows.filter (·.1 ∉ gone)
  ⟨rows, if gone = [] then table.cursor else min table.cursor (rows.length - 1)⟩

@[simp] theorem without_nil : table.without [] = table := by
  simp [without]

theorem without_cons :
    table.without (pid :: gone) =
      RowTable.without ⟨table.rows.filter (·.1 ≠ pid),
        min table.cursor ((table.rows.filter (·.1 ≠ pid)).length - 1)⟩ gone := by
  have rows : table.rows.filter (·.1 ∉ pid :: gone) =
      (table.rows.filter (·.1 ≠ pid)).filter (·.1 ∉ gone) := by
    rw [List.filter_filter]
    exact List.filter_congr fun entry _ => by simp [Bool.and_comm]
  simp only [without, rows, reduceCtorEq, if_false, mk.injEq, true_and]
  split
  · next h => simp [h]
  · have fewer := List.length_filter_le (fun entry : Int × Row => decide (entry.1 ∉ gone))
      (table.rows.filter (·.1 ≠ pid))
    omega

theorem without_perm {order : List Int} (perm : order.Perm gone) :
    table.without order = table.without gone := by
  have empty : order = [] ↔ gone = [] := ⟨fun h => (h ▸ perm).nil_eq.symm, fun h => (h ▸ perm).eq_nil⟩
  simp only [without, perm.mem_iff, empty]

theorem keys_without : (table.without gone).keys = table.keys.filter (· ∉ gone) := by
  simp only [without, keys, List.filter_map]
  rfl

/-- The table with a row for a pid: in the place of the one that is there, or else at the end. A row
that is there keeps the text of its pid. -/
def put (table : RowTable) (pid : Int) (row : Row) : RowTable :=
  if pid ∈ table.keys then table.alter pid fun old => { row with pid := old.pid }
  else { table with rows := table.rows ++ [(pid, row)] }

/-- The table with a row for each entry, one after another. -/
def putAll (table : RowTable) (rows : List (Int × Row)) : RowTable :=
  rows.foldl (fun table entry => table.put entry.1 entry.2) table

/-- Each row shows its pid. -/
def IsKeyed (rows : List (Int × Row)) : Prop :=
  ∀ entry ∈ rows, Numeral.text? entry.1 = .ok entry.2.pid

theorem keys_put :
    (table.put pid row).keys = if pid ∈ table.keys then table.keys else table.keys ++ [pid] := by
  unfold put
  split
  · exact keys_alter ..
  · simp [keys]

theorem mem_rows_put (keyed : IsKeyed table.rows) (shows : Numeral.text? pid = .ok row.pid) :
    entry ∈ (table.put pid row).rows ↔ entry = (pid, row) ∨ entry ∈ table.rows ∧ entry.1 ≠ pid := by
  unfold put
  split
  · next present =>
    simp only [alter, List.mem_map]
    constructor
    · rintro ⟨⟨key, old⟩, mem, rfl⟩
      by_cases same : key = pid
      · have shown : row.pid = old.pid := by
          have := shows.symm.trans (same ▸ keyed _ mem)
          exact Except.ok.inj this
        exact .inl (by simp [same, ← shown])
      · exact .inr ⟨by simpa [same] using mem, same⟩
    · rintro (rfl | ⟨mem, differs⟩)
      · obtain ⟨⟨key, old⟩, mem, rfl⟩ := List.mem_map.1 present
        have shown : row.pid = old.pid := Except.ok.inj (shows.symm.trans (keyed _ mem))
        exact ⟨_, mem, by simp [← shown]⟩
      · exact ⟨entry, mem, by simp [differs]⟩
  · next absent =>
    rw [List.mem_append, List.mem_singleton, or_comm]
    refine or_congr_right ⟨fun mem => ⟨mem, fun same => absent ?_⟩, And.left⟩
    exact List.mem_map.2 ⟨entry, mem, same⟩

theorem isKeyed_put (keyed : IsKeyed table.rows) (shows : Numeral.text? pid = .ok row.pid) :
    IsKeyed (table.put pid row).rows := by
  intro entry mem
  rcases (mem_rows_put keyed shows).1 mem with rfl | ⟨mem, _⟩
  · exact shows
  · exact keyed entry mem

/-- Rows that are put in follow those that are there, each in the order of its kind. -/
theorem keys_putAll (nodup : (rows.map (·.1)).Nodup) :
    (table.putAll rows).keys = table.keys ++ (rows.map (·.1)).filter (· ∉ table.keys) := by
  induction rows generalizing table with
  | nil => simp [putAll]
  | cons entry rest ih =>
    obtain ⟨key, row⟩ := entry
    simp only [List.map_cons, List.nodup_cons] at nodup
    obtain ⟨fresh, nodup⟩ := nodup
    refine (@ih (table.put key row) nodup).trans ?_
    rw [keys_put, List.map_cons]
    by_cases present : key ∈ table.keys
    · rw [if_pos present, List.filter_cons_of_neg (by simpa using present)]
    · rw [if_neg present, List.filter_cons_of_pos (by simpa using present), List.append_assoc]
      refine congrArg (table.keys ++ key :: ·) (List.filter_congr fun other mem => ?_)
      have differs : other ≠ key := fun same => fresh (same ▸ mem)
      simp [differs]

/-- The table then has the rows that were put in, and of the old ones those with other keys. -/
theorem mem_rows_putAll (keyed : IsKeyed table.rows) (also : IsKeyed rows)
    (nodup : (rows.map (·.1)).Nodup) :
    entry ∈ (table.putAll rows).rows ↔
      entry ∈ rows ∨ entry ∈ table.rows ∧ entry.1 ∉ rows.map (·.1) := by
  induction rows generalizing table with
  | nil => simp [putAll]
  | cons first rest ih =>
    obtain ⟨key, row⟩ := first
    simp only [List.map_cons, List.nodup_cons] at nodup
    obtain ⟨fresh, nodup⟩ := nodup
    have shows : Numeral.text? key = .ok row.pid := also _ List.mem_cons_self
    refine (ih (isKeyed_put keyed shows) (fun e mem => also e (List.mem_cons_of_mem _ mem))
      nodup).trans ?_
    rw [mem_rows_put keyed shows, List.mem_cons, List.map_cons, List.mem_cons, not_or]
    constructor
    · rintro (mem | ⟨rfl | ⟨mem, differs⟩, absent⟩)
      · exact .inl (.inr mem)
      · exact .inl (.inl rfl)
      · exact .inr ⟨mem, differs, absent⟩
    · rintro ((rfl | mem) | ⟨mem, differs, absent⟩)
      · exact .inr ⟨.inl rfl, fresh⟩
      · exact .inl mem
      · exact .inr ⟨.inr ⟨mem, differs⟩, absent⟩

theorem putAll_of_fresh (nodup : (rows.map (·.1)).Nodup)
    (fresh : ∀ entry ∈ rows, entry.1 ∉ table.keys) :
    table.putAll rows = { table with rows := table.rows ++ rows } := by
  induction rows generalizing table with
  | nil => simp [putAll]
  | cons first rest ih =>
    obtain ⟨key, row⟩ := first
    simp only [List.map_cons, List.nodup_cons] at nodup
    have absent : key ∉ table.keys := fresh _ List.mem_cons_self
    have placed : table.put key row = { table with rows := table.rows ++ [(key, row)] } :=
      if_neg absent
    refine (@ih (table.put key row) nodup.2 fun entry mem => ?_).trans ?_
    · rw [keys_put, if_neg absent, List.mem_append, List.mem_singleton, not_or]
      refine ⟨fresh entry (List.mem_cons_of_mem _ mem), fun same => nodup.1 ?_⟩
      exact List.mem_map.2 ⟨entry, mem, same⟩
    · rw [placed, List.append_assoc]
      rfl

theorem put_self (nodup : table.keys.Nodup) (there : (pid, row) ∈ table.rows) :
    table.put pid row = table := by
  have present : pid ∈ table.keys := List.mem_map.2 ⟨_, there, rfl⟩
  have same : ∀ entry ∈ table.rows,
      (entry.1, if entry.1 = pid then { row with pid := entry.2.pid } else entry.2) = entry := by
    intro entry mem
    by_cases key : entry.1 = pid
    · obtain rfl : entry = (pid, row) := List.inj_on_of_nodup_map nodup mem there key
      simp
    · simp [key]
  rw [put, if_pos present, alter, List.map_congr_left same, List.map_id']

theorem putAll_self (nodup : table.keys.Nodup) (there : ∀ entry ∈ rows, entry ∈ table.rows) :
    table.putAll rows = table := by
  induction rows with
  | nil => rfl
  | cons first rest ih =>
    change (table.put first.1 first.2).putAll rest = table
    rw [put_self nodup (there first List.mem_cons_self)]
    exact ih fun entry mem => there entry (List.mem_cons_of_mem _ mem)

theorem putAll_perm (keyed : IsKeyed table.rows) (also : IsKeyed rows) (distinct : table.keys.Nodup)
    (nodup : (rows.map (·.1)).Nodup) (covered : ∀ pid ∈ table.keys, pid ∈ rows.map (·.1)) :
    (table.putAll rows).rows.Perm rows := by
  have keys : (table.putAll rows).keys.Nodup := by
    rw [keys_putAll nodup]
    refine List.nodup_append.2 ⟨distinct, nodup.filter _, fun a mem b other same => ?_⟩
    have absent := (List.mem_filter.1 other).2
    exact of_decide_eq_true absent (same ▸ mem)
  refine (List.perm_ext_iff_of_nodup keys.of_map nodup.of_map).2 fun entry => ?_
  rw [mem_rows_putAll keyed also nodup]
  refine ⟨fun h => h.resolve_right fun ⟨mem, absent⟩ => absent ?_, .inl⟩
  exact covered _ (List.mem_map.2 ⟨entry, mem, rfl⟩)

end HostInventory.RowTable

namespace HostInventory.ProcessTable

variable {process : ProcessRecord} {screen after : ProcessTable} {row : Row} {pid : Int}

theorem rowOf_eq_ok :
    rowOf process = .ok row ↔
      Numeral.text? process.pid = .ok row.pid ∧
      Numeral.text? process.parentPid = .ok row.parentPid ∧ shorten 10 process.user = row.user ∧
      process.state = row.state ∧ Numeral.text? process.threadCount = .ok row.threads ∧
      Size.format process.residentSize = .ok row.size ∧ process.elapsedTime = row.elapsed ∧
      shorten 60 process.fullArgs = row.command := by
  obtain ⟨⟩ := row
  unfold rowOf
  cases Numeral.text? process.pid <;> cases Numeral.text? process.parentPid <;>
    cases Numeral.text? process.threadCount <;> cases Size.format process.residentSize <;>
    simp [bind, Except.bind, pure, Except.pure]

theorem perform_change {f : RowTable → Except Failure RowTable} :
    (change f).perform screen = (.ok (), after) ↔
      ∃ table, f screen.table = .ok table ∧ after = { screen with table } := by
  simp only [change, Action.perform_bind, Action.perform_get, Action.perform_ofExcept]
  cases f screen.table with
  | error failure => simp
  | ok table => simp [eq_comm]

theorem perform_addRow :
    (addRow process).perform screen = (.ok (), after) ↔
      ∃ row, rowOf process = .ok row ∧ process.pid ∉ screen.table.keys ∧
        after = { screen with
          table := { screen.table with rows := screen.table.rows ++ [(process.pid, row)] } } := by
  simp only [addRow, Action.perform_bind_eq_ok, Action.perform_ofExcept, Prod.mk.injEq,
    perform_change, RowTable.add_eq_ok]
  constructor
  · rintro ⟨row, _, ⟨written, rfl⟩, table, ⟨absent, rfl⟩, rfl⟩
    exact ⟨row, written, absent, rfl⟩
  · rintro ⟨row, written, absent, rfl⟩
    exact ⟨row, _, ⟨written, rfl⟩, _, ⟨absent, rfl⟩, rfl⟩

theorem perform_removeRow :
    (removeRow pid).perform screen = (.ok (), after) ↔
      Numeral.IsShort pid ∧ pid ∈ screen.table.keys ∧
        after = { screen with
          table := ⟨screen.table.rows.filter (·.1 ≠ pid),
            min screen.table.cursor ((screen.table.rows.filter (·.1 ≠ pid)).length - 1)⟩ } := by
  simp only [removeRow, Action.perform_bind_eq_ok, Action.perform_ofExcept, Prod.mk.injEq,
    perform_change, RowTable.remove_eq_ok]
  constructor
  · rintro ⟨shown, _, ⟨written, rfl⟩, table, ⟨present, rfl⟩, rfl⟩
    exact ⟨Numeral.exists_text?_iff.1 ⟨shown, written⟩, present, rfl⟩
  · rintro ⟨short, present, rfl⟩
    obtain ⟨shown, written⟩ := Numeral.exists_text?_iff.2 short
    exact ⟨shown, _, ⟨written, rfl⟩, _, ⟨present, rfl⟩, rfl⟩

theorem perform_setCell {column : Column} {cell : Except Failure String} :
    (setCell process column cell).perform screen = (.ok (), after) ↔
      ∃ text, cell = .ok text ∧ process.pid ∈ screen.table.keys ∧
        after = { screen with table := screen.table.alter process.pid (·.set column text) } := by
  simp only [setCell, Action.perform_bind_eq_ok, Action.perform_ofExcept, Prod.mk.injEq,
    perform_change, RowTable.setCell_eq_ok]
  constructor
  · rintro ⟨text, _, ⟨written, rfl⟩, table, ⟨present, rfl⟩, rfl⟩
    exact ⟨text, written, present, rfl⟩
  · rintro ⟨text, written, present, rfl⟩
    exact ⟨text, _, ⟨written, rfl⟩, _, ⟨present, rfl⟩, rfl⟩

/-- Changing the cells of a row one by one comes to the cells that a new row would have. The pid
itself is not written again. -/
theorem perform_updateRow :
    (updateRow process).perform screen = (.ok (), after) ↔
      ∃ row, rowOf process = .ok row ∧ process.pid ∈ screen.table.keys ∧
        after = { screen with
          table := screen.table.alter process.pid fun old => { row with pid := old.pid } } := by
  rw [updateRow, Action.perform_bind_eq_ok]
  simp only [Action.perform_ofExcept, Prod.mk.injEq, Action.perform_then_eq_ok, perform_setCell,
    Except.ok.injEq]
  constructor
  · rintro ⟨pidText, _, ⟨pidWritten, rfl⟩, _, ⟨parent, parentWritten, present, rfl⟩,
      _, ⟨user, rfl, _, rfl⟩, _, ⟨state, rfl, _, rfl⟩, _, ⟨threads, threadsWritten, _, rfl⟩,
      _, ⟨size, sizeWritten, _, rfl⟩, _, ⟨elapsed, rfl, _, rfl⟩, command, rfl, _, rfl⟩
    refine ⟨⟨pidText, parent, _, _, threads, size, _, _⟩, rowOf_eq_ok.2 ⟨pidWritten, parentWritten,
      rfl, rfl, threadsWritten, sizeWritten, rfl, rfl⟩, present, ?_⟩
    simp only [RowTable.alter_alter]
    rfl
  · rintro ⟨row, written, present, rfl⟩
    obtain ⟨pid, parentPid, user, state, threads, size, elapsed, command⟩ := row
    obtain ⟨pidWritten, parentWritten, rfl, rfl, threadsWritten, sizeWritten, rfl, rfl⟩ :=
      rowOf_eq_ok.1 written
    refine ⟨pid, _, ⟨pidWritten, rfl⟩, _, ⟨parentPid, parentWritten, present, rfl⟩,
      _, ⟨_, rfl, ?_, rfl⟩, _, ⟨_, rfl, ?_, rfl⟩, _, ⟨threads, threadsWritten, ?_, rfl⟩,
      _, ⟨size, sizeWritten, ?_, rfl⟩, _, ⟨_, rfl, ?_, rfl⟩, _, rfl, ?_, ?_⟩
    all_goals simp only [RowTable.keys_alter, present]
    simp only [RowTable.alter_alter]
    rfl

theorem perform_showRow {shown : PidSet}
    (known : process.pid ∈ shown ↔ process.pid ∈ screen.table.keys) :
    (showRow shown process).perform screen = (.ok (), after) ↔
      ∃ row, rowOf process = .ok row ∧
        after = { screen with table := screen.table.put process.pid row } := by
  unfold showRow RowTable.put
  by_cases present : process.pid ∈ screen.table.keys
  · rw [if_pos (PidSet.contains_eq_true.2 (known.2 present)), perform_updateRow]
    simp only [present, if_true, true_and]
  · rw [if_neg (mt PidSet.contains_eq_true.1 (mt known.1 present)), perform_addRow]
    simp only [present, if_false, not_false_eq_true, true_and]

theorem perform_removeRows {gone : List Int} (distinct : gone.Nodup)
    (present : ∀ pid ∈ gone, Numeral.IsShort pid ∧ pid ∈ screen.table.keys) :
    (gone.forM removeRow).perform screen =
      (.ok (), { screen with table := screen.table.without gone }) := by
  induction gone generalizing screen with
  | nil => simp
  | cons pid rest ih =>
    obtain ⟨absent, distinct⟩ := List.nodup_cons.1 distinct
    obtain ⟨short, mem⟩ := present pid List.mem_cons_self
    refine Action.perform_forM_cons.2
      ⟨_, perform_removeRow.2 ⟨short, mem, rfl⟩, (ih distinct fun other later => ?_).trans ?_⟩
    · obtain ⟨short, mem⟩ := present other (List.mem_cons_of_mem _ later)
      refine ⟨short, ?_⟩
      obtain ⟨entry, there, rfl⟩ := List.mem_map.1 mem
      refine List.mem_map.2 ⟨entry, List.mem_filter.2 ⟨there, ?_⟩, rfl⟩
      exact decide_eq_true fun same => absent (same ▸ later)
    · rw [RowTable.without_cons]

/-- The rows of processes that are drawn afresh, in their order. -/
def drawn (processes : List ProcessRecord) : Except Failure (List (Int × Row)) :=
  processes.mapM fun process => do return (process.pid, ← rowOf process)

theorem drawn_cons {rest : List ProcessRecord} {rows : List (Int × Row)} :
    drawn (process :: rest) = .ok rows ↔
      ∃ row others, rowOf process = .ok row ∧ drawn rest = .ok others ∧
        rows = (process.pid, row) :: others := by
  simp only [drawn, Action.mapM_cons_eq_ok, Action.outcome_bind_eq_ok, pure, Except.pure,
    Except.ok.injEq]
  constructor
  · rintro ⟨_, others, ⟨row, written, rfl⟩, drew, rfl⟩
    exact ⟨row, others, written, drew, rfl⟩
  · rintro ⟨row, others, written, drew, rfl⟩
    exact ⟨_, others, ⟨row, written, rfl⟩, drew, rfl⟩

theorem perform_showRows {shown : PidSet} {processes : List ProcessRecord}
    (distinct : (processes.map (·.pid)).Nodup)
    (known : ∀ process ∈ processes, process.pid ∈ shown ↔ process.pid ∈ screen.table.keys) :
    (processes.forM (showRow shown)).perform screen = (.ok (), after) ↔
      ∃ rows, drawn processes = .ok rows ∧
        after = { screen with table := screen.table.putAll rows } := by
  induction processes generalizing screen with
  | nil =>
    rw [Action.perform_forM_nil]
    simp [drawn, pure, Except.pure, RowTable.putAll, eq_comm]
  | cons process rest ih =>
    simp only [List.map_cons, List.nodup_cons] at distinct
    obtain ⟨absent, distinct⟩ := distinct
    have later (row : Row) : ∀ other ∈ rest,
        other.pid ∈ shown ↔ other.pid ∈ (screen.table.put process.pid row).keys := by
      intro other mem
      rw [known other (List.mem_cons_of_mem _ mem), RowTable.keys_put]
      have differs : other.pid ≠ process.pid :=
        fun same => absent (List.mem_map.2 ⟨other, mem, same⟩)
      split <;> simp [differs]
    simp only [Action.perform_forM_cons, perform_showRow (known process List.mem_cons_self),
      drawn_cons]
    constructor
    · rintro ⟨_, ⟨row, written, rfl⟩, done⟩
      obtain ⟨others, drew, rfl⟩ := (ih distinct (later row)).1 done
      exact ⟨_, ⟨row, others, written, drew, rfl⟩, rfl⟩
    · rintro ⟨_, ⟨row, others, written, drew, rfl⟩, rfl⟩
      exact ⟨_, ⟨row, written, rfl⟩, (ih distinct (later row)).2 ⟨others, drew, rfl⟩⟩

end HostInventory.ProcessTable
