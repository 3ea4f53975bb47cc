import HostInventory.Process.Listing
import HostInventory.Proofs.Number.Numeral
import HostInventory.Proofs.Text.Words
import HostInventory.Replay

/-!
Rows cut into columns, and listings written from records. Main statements: a row has so many columns
exactly when it has as many words, no word is lost, and columns that are joined by blanks are the
same columns again; whatever blanks stand between and around the columns of written rows, reading
them gives the records back and passes over none.
-/
namespace HostInventory

open Text

variable {row : String} {tokens first : List (List Char)} {last : List Char}

/-- A row of these words cut into columns: words, and the last column from its word on. -/
structure LosesNoWord (row : String) (tokens : List (List Char)) (count : Nat)
    (first : List (List Char)) (last : List Char) : Prop where
  length : first.length + 1 = count
  words : first = tokens.take (count - 1)
  /-- The last column is all that the stripped row has from its first word on. -/
  rest : ∃ front, IsCut (stripChars row.toList) tokens (count - 1) front last
  /-- Whatever blanks join the columns, they are the columns again. -/
  again : ∀ gap : Nat → List Char, (∀ n, gap n ≠ [] ∧ IsBlanks (gap n)) →
    columnsOf (String.ofList (written gap first last)) count =
      .ok (some ((first ++ [last]).map String.ofList))

/-- The columns of a row of these words, for each number of columns that can be asked for. -/
structure HasColumns (row : String) (tokens : List (List Char)) : Prop where
  /-- The words are those of the row, and it has no others. -/
  words : ∀ others, HasWords row.toList others ↔ others = tokens
  enough : ∀ count : Nat, Word.fits 64 ((count : Int) - 1) = true → 0 < count →
    count ≤ tokens.length → ∃ first last,
      columnsOf row count = .ok (some ((first ++ [last]).map String.ofList)) ∧
        LosesNoWord row tokens count first last
  few : ∀ count : Nat, Word.fits 64 ((count : Int) - 1) = true → tokens.length < count →
    columnsOf row count = .ok none
  uncounted : ∀ count : Int, Word.fits 64 (count - 1) = true → count ≤ 0 →
    columnsOf row count = .ok (if count = 0 ∧ IsBlanks row.toList then some [] else none)

theorem columnsOf_eq {count : Int} (fits : Word.fits 64 (count - 1) = true) :
    columnsOf row count = .ok (fields? row count) := by
  rw [columnsOf, fits]
  rfl

theorem columnsOf_written {count : Nat} (fits : Word.fits 64 ((count : Int) - 1) = true)
    (length : first.length + 1 = count) (areWords : ∀ word ∈ first, IsWord word)
    (trimmed : IsTrimmed last) {gap : Nat → List Char}
    (blanks : ∀ n, gap n ≠ [] ∧ IsBlanks (gap n)) :
    columnsOf (String.ofList (written gap first last)) count =
      .ok (some ((first ++ [last]).map String.ofList)) := by
  have cut := fields?_written isBlanks_nil isBlanks_nil blanks areWords trimmed length
  rw [List.nil_append, List.append_nil] at cut
  rw [columnsOf_eq fits, cut]

theorem exists_columns {count : Nat} (has : HasWords row.toList tokens)
    (fits : Word.fits 64 ((count : Int) - 1) = true) (some : 0 < count)
    (enough : count ≤ tokens.length) :
    ∃ first last, columnsOf row count = .ok (.some ((first ++ [last]).map String.ofList)) ∧
      LosesNoWord row tokens count first last := by
  obtain ⟨front, last, cut, columns⟩ := exists_fields? has some enough
  have length : (tokens.take (count - 1)).length + 1 = count := by
    rw [List.length_take]
    omega
  have areWords : ∀ word ∈ tokens.take (count - 1), IsWord word :=
    fun word mem => has.isWord word (List.mem_of_mem_take mem)
  refine ⟨_, last, ?_, length, rfl, ⟨front, cut⟩, ?_⟩
  · rw [columnsOf_eq fits, columns]
  · intro gap blanks
    exact columnsOf_written fits length areWords (cut.isTrimmed (by omega)) blanks

theorem columnsOf_uncounted (row : String) {count : Int} (fits : Word.fits 64 (count - 1) = true)
    (uncounted : count ≤ 0) :
    columnsOf row count = .ok (if count = 0 ∧ IsBlanks row.toList then some [] else none) := by
  have parts : pieces row.toList count = words row.toList := by
    rw [pieces, if_neg (by omega), words_stripChars]
  rw [columnsOf_eq fits, fields?, parts, List.length_map]
  by_cases blank : IsBlanks row.toList
  · rw [(words_eq_nil_iff row.toList).mpr blank]
    simp [blank, eq_comm]
  · have some := List.length_pos_iff.mpr (mt (words_eq_nil_iff row.toList).mp blank)
    rw [if_neg (by omega), if_neg (mt And.right blank)]

/-- Every row has words, and columns by their number. -/
theorem exists_hasColumns (row : String) : ∃ tokens, HasColumns row tokens := by
  have has := hasWords_words row.toList
  refine ⟨words row.toList, ?_, ?_, ?_, ?_⟩
  · exact fun others => hasWords_iff
  · intro count fits some enough
    exact exists_columns has fits some enough
  · intro count fits few
    rw [columnsOf_eq fits, fields?_of_few has few]
  · intro count fits uncounted
    exact columnsOf_uncounted row fits uncounted

example : columnsOf " 12 sshd\u3000-D  -f " 3 = .ok (some ["12", "sshd", "-D  -f"]) := by
  rfl

end HostInventory

namespace HostInventory

open Text

/-- The blanks of one row: before its first column, after each of its columns but the last, and
after the last one. -/
structure RowLayout where
  before : List Char
  /-- What stands after the column with this number, counted from zero. -/
  gap : Nat → List Char
  after : List Char
  before_blank : IsBlanks before
  gap_blank : ∀ n, gap n ≠ [] ∧ IsBlanks (gap n)
  after_blank : IsBlanks after

def RowLayout.plain : RowLayout :=
  ⟨[], fun _ => [' '], [], isBlanks_nil, fun _ => ⟨List.cons_ne_nil _ _, isBlanks_space⟩, isBlanks_nil⟩

def RowLayout.around (layout : RowLayout) (columns : List String) (last : List Char) : List Char :=
  layout.before ++ written layout.gap (columns.map String.toList) last ++ layout.after

namespace ProcessRow

theorem fields?_around (layout : RowLayout) {columns : List String} {last : String}
    (count : columns.length + 1 = width) (areWords : ∀ column ∈ columns, IsWord column.toList)
    (trimmed : IsTrimmed last.toList) :
    fields? (String.ofList (layout.around columns last.toList)) width = some (columns ++ [last]) := by
  have wordChars : ∀ word ∈ columns.map String.toList, IsWord word := by
    intro word mem
    obtain ⟨column, listed, rfl⟩ := List.mem_map.mp mem
    exact areWords column listed
  have length : (columns.map String.toList).length + 1 = width := by
    rw [List.length_map, count]
  rw [RowLayout.around, fields?_written layout.before_blank layout.after_blank layout.gap_blank
    wordChars trimmed length, List.map_append, List.map_map, List.map_singleton, String.ofList_toList]
  congr 2
  exact List.map_id'' (fun column => String.ofList_toList) columns

def columns (process : ProcessRecord) : List String :=
  [process.state, Numeral.text process.pid, Numeral.text process.parentPid, process.user,
    Numeral.text process.uid, process.group, Numeral.text process.gid,
    Numeral.text process.threadCount, Numeral.text process.priority,
    Numeral.text process.virtualSize, Numeral.text process.residentSize, process.elapsedTime,
    process.cpuTime, process.command]

def write (layout : RowLayout) (process : ProcessRecord) : String :=
  String.ofList (layout.before ++
    written layout.gap ((columns process).map String.toList) process.fullArgs.toList ++ layout.after)

/-- A record that a row can hold: integers of at most 4300 digits, texts that are single words, and
arguments that have no blanks at their ends. -/
structure IsListable (process : ProcessRecord) : Prop where
  numbers : ∀ n ∈ [process.pid, process.parentPid, process.uid, process.gid, process.threadCount,
    process.priority, process.virtualSize, process.residentSize], Numeral.IsShort n
  words : ∀ s ∈ [process.state, process.user, process.group, process.elapsedTime, process.cpuTime,
    process.command], IsWord s.toList
  arguments : IsTrimmed process.fullArgs.toList

instance : DecidablePred IsListable := fun process =>
  decidable_of_iff
    ((∀ n ∈ [process.pid, process.parentPid, process.uid, process.gid, process.threadCount,
        process.priority, process.virtualSize, process.residentSize], Numeral.IsShort n) ∧
      (∀ s ∈ [process.state, process.user, process.group, process.elapsedTime, process.cpuTime,
        process.command], IsWord s.toList) ∧ IsTrimmed process.fullArgs.toList)
    ⟨fun ⟨numbers, words, arguments⟩ => ⟨numbers, words, arguments⟩,
      fun ⟨numbers, words, arguments⟩ => ⟨numbers, words, arguments⟩⟩

variable {process : ProcessRecord}

theorem isWord_of_mem_columns (listable : IsListable process) :
    ∀ column ∈ (columns process).map String.toList, IsWord column := by
  have words := listable.words
  simp only [List.forall_mem_cons] at words
  obtain ⟨state, user, group, elapsedTime, cpuTime, command, _⟩ := words
  simp only [columns, List.map_cons, List.map_nil, List.forall_mem_cons, Numeral.isWord_text]
  exact ⟨state, trivial, trivial, user, trivial, group, trivial, trivial, trivial, trivial, trivial,
    elapsedTime, cpuTime, command, fun _ mem => by cases mem⟩

theorem ofColumns_columns (listable : IsListable process) :
    ofColumns none (columns process ++ [process.fullArgs]) = .ok process := by
  have numbers := listable.numbers
  simp only [List.forall_mem_cons] at numbers
  obtain ⟨pid, parentPid, uid, gid, threadCount, priority, virtualSize, residentSize, _⟩ := numbers
  simp only [columns, List.cons_append, List.nil_append, ofColumns, Option.getD_none,
    Numeral.integerOr_text pid, Numeral.integerOr_text parentPid, Numeral.integerOr_text uid,
    Numeral.integerOr_text gid, Numeral.integerOr_text threadCount, Numeral.integerOr_text priority,
    Numeral.integerOr_text virtualSize, Numeral.integerOr_text residentSize]

theorem fields?_write (layout : RowLayout) (listable : IsListable process) :
    fields? (write layout process) width = some (columns process ++ [process.fullArgs]) := by
  have areWords : ∀ column ∈ columns process, IsWord column.toList := by
    intro column mem
    exact isWord_of_mem_columns listable column.toList (List.mem_map_of_mem mem)
  exact fields?_around layout rfl areWords listable.arguments

theorem read?_write (layout : RowLayout) (listable : IsListable process) :
    read? none (write layout process) = some process := by
  rw [read?, fields?_write layout listable, Option.bind_some, ofColumns_columns listable]
  rfl

def numbers (process : ProcessRecord) : List Int :=
  [process.pid, process.parentPid, process.uid, process.gid, process.threadCount,
    process.priority, process.virtualSize, process.residentSize]

theorem read?_eq_some {known : Option Int} {row : String} {process : ProcessRecord} :
    read? known row = some process ↔
      ∃ columns, Text.fields? row width = some columns ∧ ofColumns known columns = .ok process := by
  rw [read?, Option.bind_eq_some_iff]
  refine exists_congr fun columns => and_congr_right fun _ => ?_
  cases ofColumns known columns with
  | error failure => simp [Except.toOption]
  | ok record => simp [Except.toOption]

/-- Any columns of a row have a record, which ends in the last of them. -/
theorem exists_ofColumns (known : Option Int) {columns : List String}
    (count : columns.length + 1 = width) (arguments : String) :
    ∃ process, ofColumns known (columns ++ [arguments]) = .ok process ∧
      process.fullArgs = arguments := by
  match columns, count with
  | [_, _, _, _, _, _, _, _, _, _, _, _, _, _], _ => exact ⟨_, rfl, rfl⟩

theorem isShort_of_read? {row : String} {process : ProcessRecord}
    (read : read? none row = some process) : ∀ n ∈ numbers process, Numeral.IsShort n := by
  obtain ⟨columns, _, made⟩ := read?_eq_some.1 read
  unfold ofColumns at made
  split at made
  · cases made
    simp [numbers, Numeral.isShort_integerOr Numeral.isShort_zero]
  · cases made

end ProcessRow

namespace ProcessListing

def write (header : String) (entries : List (RowLayout × ProcessRecord)) : List String :=
  header :: entries.map fun (layout, process) => ProcessRow.write layout process

variable {header : String} {entries : List (RowLayout × ProcessRecord)}

theorem ofLines_write (listable : ∀ entry ∈ entries, ProcessRow.IsListable entry.2) :
    ofLines none (write header entries) = ⟨entries.map (·.2), []⟩ := by
  induction entries with
  | nil => rfl
  | cons entry rest ih =>
    obtain ⟨first, listable⟩ := List.forall_mem_cons.1 listable
    have read := ProcessRow.read?_write entry.1 first
    have later := ih listable
    simp only [ofLines, write, List.drop_succ_cons, List.drop_zero, mk.injEq] at later ⊢
    obtain ⟨records, skipped⟩ := later
    rw [List.map_cons, List.filterMap_cons_some read, records, List.filter_cons_of_neg, skipped]
    · exact ⟨rfl, rfl⟩
    · simp [read]

end ProcessListing

def Journal.noteAll {σ : Type} [Journal σ] (events : List Journal.Event) (world : σ) : σ :=
  events.foldl (fun world event => Journal.note event world) world

/-- What is noted of a row that has no record. -/
def ProcessRow.skippedEvent (row : String) : Journal.Event where
  level := .debug
  logger := "procinv.processes"
  name := "process_row_skipped"
  fields := [("line", .text row)]

namespace ProcessLister

variable {σ : Type} [Journal σ]

theorem perform_forM_noteSkipped (rows : List String) (world : σ) :
    (rows.forM noteSkipped).perform world =
      (.ok (), Journal.noteAll (rows.map ProcessRow.skippedEvent) world) := by
  induction rows generalizing world with
  | nil => rfl
  | cons row rest ih => exact Action.perform_forM_cons.mpr ⟨_, rfl, ih _⟩

/-- Reading a listing gives its records and notes each of the other rows. -/
theorem perform_readListing_notes (known : Option Int) (lines : List String) (world : σ) :
    (readListing known lines).perform world =
      (.ok (ProcessListing.ofLines known lines).records,
        Journal.noteAll ((ProcessListing.ofLines known lines).skipped.map ProcessRow.skippedEvent)
          world) := by
  rw [readListing, Action.perform_then_eq_ok]
  exact ⟨_, perform_forM_noteSkipped _ world, rfl⟩

/-- Reading written rows gives their records, in order, and notes nothing. -/
theorem readListing_write (header : String) (entries : List (RowLayout × ProcessRecord))
    (listable : ∀ entry ∈ entries, ProcessRow.IsListable entry.2) (world : σ) :
    (readListing none (ProcessListing.write header entries)).perform world =
      (.ok (entries.map (·.2)), world) := by
  rw [readListing, ProcessListing.ofLines_write listable]
  rfl

/-- Two records in rows with wide, broken and missing blanks, one of them with a long number, a sign
and blanks inside its arguments. -/
def unevenRows : List (RowLayout × ProcessRecord) :=
  [(⟨[], fun _ => [' '], [], by decide, fun _ => by decide, by decide⟩,
      ⟨1, 0, "S", "root", 0, "root", 0, 1, 59, 2048, 512, "3-00:00:01", "00:09", "init", "init"⟩),
    (⟨['\t'], fun n => if n = 3 then ['\u3000'] else [' ', '\u00a0'], ['\r', '\u2028'], by decide,
        fun n => by split <;> decide, by decide⟩,
      ⟨-7, 10000000000000000000000, "Z+", "süd", 60001, "nobody", -2, 3, -20, 0, 1024, "12:05",
        "00:00", "sh", "sh  -c 'a\tb\u3000c'"⟩)]

def unasked : Replay := {}

theorem readListing_write_unevenRows :
    (∀ entry ∈ unevenRows, ProcessRow.IsListable entry.2) ∧
      (readListing none (ProcessListing.write "" unevenRows)).perform unasked =
        (.ok (unevenRows.map (·.2)), unasked) :=
  have listable : ∀ entry ∈ unevenRows, ProcessRow.IsListable entry.2 := by decide +kernel
  ⟨listable, readListing_write "" unevenRows listable unasked⟩

end ProcessLister

end HostInventory
