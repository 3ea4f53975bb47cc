import HostInventory.Process.Lister
import HostInventory.Proofs.Process.Listing
import HostInventory.Proofs.Text.Words

/-!
What becomes of the rows of a listing, whatever stands in them. Main statement: the rows behind the
header are parted, in order, into those of fifteen words and more, each of which gives one record,
and the others, each of which is noted as passed over; listings can be joined, and a pid known
beforehand changes the records' pids and nothing else.
-/
namespace HostInventory

open Text

def ProcessRecord.withPid (pid : Int) (process : ProcessRecord) : ProcessRecord :=
  { process with pid := pid }

namespace ProcessRow

variable {known : Option Int} {row : String} {rows : List String} {process : ProcessRecord}
  {records : List ProcessRecord} {events : List Journal.Event}

/-- A row that has a word for each column. -/
def IsFull (row : String) : Prop := width ≤ (words row.toList).length

instance : DecidablePred IsFull := fun row =>
  inferInstanceAs (Decidable (width ≤ (words row.toList).length))

/-- What is left of a row behind its first words: all of it from the next word on, up to the last
character that is not blank. -/
structure Remains (row : String) (taken : Nat) (rest : List Char) : Prop where
  suffix : rest <:+ stripChars row.toList
  first : ∀ c ∈ rest.head?, isBlank c = false
  words : words rest = (words row.toList).drop taken

/-- The record of a row: its first fourteen words are columns, and what remains is the last one. -/
def Tells (known : Option Int) (row : String) (process : ProcessRecord) : Prop :=
  ∃ rest, Remains row (width - 1) rest ∧
    ofColumns known (((words row.toList).take (width - 1) ++ [rest]).map String.ofList) = .ok process

/-- Rows parted one after the other into records and events, both in the order of their rows. -/
inductive Parts (known : Option Int) :
    List String → List ProcessRecord → List Journal.Event → Prop where
  | nil : Parts known [] [] []
  | record {row : String} {rows : List String} {process : ProcessRecord}
      {records : List ProcessRecord} {events : List Journal.Event} (full : IsFull row)
      (tells : Tells known row process) (later : Parts known rows records events) :
      Parts known (row :: rows) (process :: records) events
  | event {row : String} {rows : List String} {records : List ProcessRecord}
      {events : List Journal.Event} (short : ¬ IsFull row) (later : Parts known rows records events) :
      Parts known (row :: rows) records (skippedEvent row :: events)

theorem length_take_words (full : IsFull row) :
    ((words row.toList).take (width - 1)).length + 1 = width := by
  have wide : width - 1 ≤ (words row.toList).length := Nat.le_of_succ_le full
  rw [List.length_take, Nat.min_eq_left wide]
  rfl

theorem exists_fields?_of_full (full : IsFull row) :
    ∃ rest, Remains row (width - 1) rest ∧ fields? row width =
      some (((words row.toList).take (width - 1) ++ [rest]).map String.ofList) := by
  obtain ⟨front, rest, cut, columns⟩ := exists_fields? (hasWords_words row.toList) (by decide) full
  exact ⟨rest, ⟨⟨front, cut.text.symm⟩, cut.behind, cut.left.words_eq⟩, columns⟩

theorem fields?_of_not_full (short : ¬ IsFull row) : fields? row width = none :=
  fields?_of_few (hasWords_words row.toList) (Nat.lt_of_not_le short)

theorem exists_read?_of_full (known : Option Int) (full : IsFull row) :
    ∃ process, read? known row = some process ∧ Tells known row process := by
  obtain ⟨rest, remains, columns⟩ := exists_fields?_of_full full
  have count : (((words row.toList).take (width - 1)).map String.ofList).length + 1 = width := by
    rw [List.length_map, length_take_words full]
  obtain ⟨process, made, _⟩ := exists_ofColumns known count (String.ofList rest)
  rw [← List.map_singleton, ← List.map_append] at made
  exact ⟨process, read?_eq_some.mpr ⟨_, columns, made⟩, rest, remains, made⟩

theorem read?_of_not_full (known : Option Int) (short : ¬ IsFull row) : read? known row = none := by
  rw [read?, fields?_of_not_full short, Option.bind_none]

/-- A pid known beforehand stands in for the one that the row has, and for nothing else. -/
theorem ofColumns_some (known : Option Int) (pid : Int) (columns : List String) :
    ofColumns (some pid) columns =
      (ofColumns known columns).map (ProcessRecord.withPid pid) := by
  unfold ofColumns
  split
  · rfl
  · rfl

theorem read?_some (known : Option Int) (pid : Int) (row : String) :
    read? (some pid) row = (read? known row).map (ProcessRecord.withPid pid) := by
  rw [read?, read?, Option.map_bind]
  congr 1
  funext columns
  rw [ofColumns_some known, Function.comp_apply]
  cases ofColumns known columns with
  | error failure => rfl
  | ok process => rfl

theorem parts_rows (known : Option Int) (rows : List String) :
    Parts known rows (rows.filterMap (read? known))
      ((rows.filter fun row => (read? known row).isNone).map skippedEvent) := by
  induction rows with
  | nil => exact .nil
  | cons row rows ih =>
    by_cases full : IsFull row
    · obtain ⟨process, read, tells⟩ := exists_read?_of_full known full
      rw [List.filterMap_cons_some read, List.filter_cons_of_neg (by simp [read])]
      exact .record full tells ih
    · have read := read?_of_not_full known full
      rw [List.filterMap_cons_none read, List.filter_cons_of_pos (by simp [read]), List.map_cons]
      exact .event full ih

theorem Parts.length_add_length (parts : Parts known rows records events) :
    records.length + events.length = rows.length := by
  induction parts with
  | nil => rfl
  | record _ _ _ ih =>
    rw [List.length_cons, List.length_cons, ← ih]
    omega
  | event _ _ ih =>
    rw [List.length_cons, List.length_cons, ← ih]
    omega

end ProcessRow

namespace ProcessLister

variable {σ : Type} [Journal σ]

/-- Reading lines succeeds with these records and notes these events, in whatever world. -/
def Reads (σ : Type) [Journal σ] (known : Option Int) (lines : List String)
    (records : List ProcessRecord) (events : List Journal.Event) : Prop :=
  ∀ world : σ,
    (readListing known lines).perform world = (.ok records, Journal.noteAll events world)

/-- A listing that is read without losing a row. -/
structure LosesNoRow (σ : Type) [Journal σ] (known : Option Int) (lines : List String)
    (records : List ProcessRecord) (events : List Journal.Event) : Prop where
  reads : Reads σ known lines records events
  /-- The first line is a header. -/
  parts : ProcessRow.Parts known (lines.drop 1) records events
  count : records.length + events.length = lines.length - 1
  /-- Rows can be read in two listings under the same header. -/
  joined : ∀ header first second, lines = header :: (first ++ second) →
    ∃ firstRecords firstEvents secondRecords secondEvents,
      Reads σ known (header :: first) firstRecords firstEvents ∧
      Reads σ known (header :: second) secondRecords secondEvents ∧
      records = firstRecords ++ secondRecords ∧ events = firstEvents ++ secondEvents
  /-- Another pid known beforehand becomes the pid of every record. -/
  pid : ∀ pid, Reads σ (some pid) lines
    (records.map (ProcessRecord.withPid pid)) events

theorem reads_ofLines (known : Option Int) (lines : List String) :
    Reads σ known lines (ProcessListing.ofLines known lines).records
      ((ProcessListing.ofLines known lines).skipped.map ProcessRow.skippedEvent) :=
  fun world => perform_readListing_notes known lines world

theorem records_append (known : Option Int) (header : String) (first second : List String) :
    (ProcessListing.ofLines known (header :: (first ++ second))).records =
      (ProcessListing.ofLines known (header :: first)).records ++
        (ProcessListing.ofLines known (header :: second)).records :=
  List.filterMap_append

theorem skipped_append (known : Option Int) (header : String) (first second : List String) :
    (ProcessListing.ofLines known (header :: (first ++ second))).skipped =
      (ProcessListing.ofLines known (header :: first)).skipped ++
        (ProcessListing.ofLines known (header :: second)).skipped :=
  List.filter_append first second

theorem records_some (known : Option Int) (pid : Int) (lines : List String) :
    (ProcessListing.ofLines (some pid) lines).records =
      (ProcessListing.ofLines known lines).records.map (ProcessRecord.withPid pid) := by
  have rows : ProcessRow.read? (some pid) =
      fun row => (ProcessRow.read? known row).map (ProcessRecord.withPid pid) := by
    funext row
    exact ProcessRow.read?_some known pid row
  simp only [ProcessListing.ofLines, List.map_filterMap, rows]

theorem skipped_some (known : Option Int) (pid : Int) (lines : List String) :
    (ProcessListing.ofLines (some pid) lines).skipped =
      (ProcessListing.ofLines known lines).skipped := by
  simp only [ProcessListing.ofLines, ProcessRow.read?_some known pid, Option.isNone_map]

/-- Whatever lines are read, every row behind the first line is a record or is noted. -/
theorem readListing_losesNoRow (known : Option Int) (lines : List String) :
    ∃ records events, LosesNoRow σ known lines records events := by
  have parts := ProcessRow.parts_rows known (lines.drop 1)
  refine ⟨_, _, reads_ofLines known lines, parts, ?_, ?_, ?_⟩
  · rw [← List.length_drop]
    exact parts.length_add_length
  · rintro header first second rfl
    refine ⟨_, _, _, _, reads_ofLines known (header :: first), reads_ofLines known (header :: second),
      records_append known header first second, ?_⟩
    rw [skipped_append, List.map_append]
  · intro pid
    rw [← records_some known pid, ← skipped_some known pid]
    exact reads_ofLines (some pid) lines

end ProcessLister

end HostInventory
