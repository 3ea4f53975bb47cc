import HostInventory.Process.Lister
import HostInventory.Proofs.Command.Output
import HostInventory.Proofs.Process.Listing

/-!
Listings that a command prints: a header and rows, each with a line feed after it. Arguments may
hold any blanks but the ends of lines, and some of these blanks cut lines all the same. Main
statement: all processes come back with their arguments just when no arguments hold such a blank.
-/
namespace HostInventory

open Text

/-- A layout whose blanks cut no line. -/
structure RowLayout.IsInline (layout : RowLayout) : Prop where
  before : IsUnbroken layout.before
  gap : ∀ n, IsUnbroken (layout.gap n)
  after : IsUnbroken layout.after

/-- A row as the listing command prints it. -/
structure PrintedRow where
  layout : RowLayout
  /-- All columns but the arguments. -/
  columns : List String
  arguments : String
  count : columns.length + 1 = ProcessRow.width
  areWords : ∀ column ∈ columns, IsWord column.toList
  trimmed : IsTrimmed arguments.toList
  oneLine : IsOneLine arguments.toList
  inline : layout.IsInline

namespace PrintedRow

variable (row : PrintedRow)

def line : List Char := row.layout.around row.columns row.arguments.toList

def Reads (record : ProcessRecord) : Prop :=
  ProcessRow.ofColumns none (row.columns ++ [row.arguments]) = .ok record

/-- The records of the lines into which the row is cut. -/
def records : List ProcessRecord :=
  ((splitLines (row.line ++ ['\n'])).map String.ofList).filterMap (ProcessRow.read? none)

variable {row : PrintedRow}

theorem wordChars (row : PrintedRow) : ∀ word ∈ row.columns.map String.toList, IsWord word := by
  intro word mem
  obtain ⟨column, listed, rfl⟩ := List.mem_map.mp mem
  exact row.areWords column listed

theorem isOneLine_line (row : PrintedRow) : IsOneLine row.line := by
  rw [line, RowLayout.around, isOneLine_append, isOneLine_append]
  exact ⟨⟨row.inline.before.isOneLine,
    isOneLine_written row.wordChars row.inline.gap row.oneLine⟩, row.inline.after.isOneLine⟩

theorem exists_read? (row : PrintedRow) (layout : RowLayout) {last : String}
    (trimmed : IsTrimmed last.toList) :
    ∃ record, ProcessRow.read? none (String.ofList (layout.around row.columns last.toList)) =
        some record ∧ ProcessRow.ofColumns none (row.columns ++ [last]) = .ok record ∧
      record.fullArgs = last := by
  obtain ⟨record, made, arguments⟩ := ProcessRow.exists_ofColumns none row.count last
  refine ⟨record, ?_, made, arguments⟩
  exact ProcessRow.read?_eq_some.mpr
    ⟨_, ProcessRow.fields?_around layout row.count row.areWords trimmed, made⟩

/-- Arguments that no boundary cuts come back in the only record of their row. -/
theorem records_of_unbroken (whole : IsUnbroken row.arguments.toList) :
    ∃ record, row.records = [record] ∧ row.Reads record := by
  have unbroken : IsUnbroken row.line := by
    rw [line, RowLayout.around, isUnbroken_append, isUnbroken_append,
      isUnbroken_written row.wordChars row.inline.gap]
    exact ⟨⟨row.inline.before, whole⟩, row.inline.after⟩
  have lines : splitLines (row.line ++ ['\n']) = [row.line] :=
    splitLines_boundary unbroken rfl (by decide) []
  obtain ⟨record, read, made, _⟩ := row.exists_read? row.layout row.trimmed
  refine ⟨record, ?_, made⟩
  rw [records, lines]
  exact List.filterMap_cons_some read

/-- Arguments that a boundary cuts come back shorter, in the first record of their row. -/
theorem records_of_broken (cut : ¬ IsUnbroken row.arguments.toList) :
    ∃ record more, row.records = record :: more ∧ record.fullArgs ≠ row.arguments := by
  obtain ⟨kept, blanks, boundary, back, same, trimmed, areBlanks, unbroken, cuts⟩ :=
    row.trimmed.exists_boundary cut
  let shorter : RowLayout := { row.layout with after := blanks, after_blank := areBlanks }
  have line_eq : row.line ++ ['\n'] =
      shorter.around row.columns kept ++ boundary :: (back ++ row.layout.after ++ ['\n']) := by
    simp only [line, RowLayout.around, shorter, same, written_append, List.append_assoc,
      List.cons_append]
  have piece : IsUnbroken (shorter.around row.columns kept) := by
    obtain ⟨keptWhole, blanksWhole⟩ := isUnbroken_append.mp unbroken
    rw [RowLayout.around, isUnbroken_append, isUnbroken_append,
      isUnbroken_written row.wordChars row.inline.gap]
    exact ⟨⟨row.inline.before, keptWhole⟩, blanksWhole⟩
  have other : boundary ≠ '\r' := by
    rintro rfl
    have mem : '\r' ∈ row.arguments.toList := by
      rw [same]
      exact List.mem_append_right _ List.mem_cons_self
    exact (row.oneLine '\r' mem).2 rfl
  have shown : IsTrimmed (String.ofList kept).toList := by
    rwa [String.toList_ofList]
  obtain ⟨record, read, _, arguments⟩ := row.exists_read? shorter shown
  rw [String.toList_ofList] at read
  refine ⟨record, ((splitLines (back ++ row.layout.after ++ ['\n'])).map String.ofList).filterMap
    (ProcessRow.read? none), ?_, ?_⟩
  · rw [records, line_eq, splitLines_boundary piece cuts other, List.map_cons,
      List.filterMap_cons_some read]
  · rw [arguments]
    intro whole
    have length := congrArg List.length same
    rw [← whole, String.toList_ofList] at length
    simp only [List.length_append, List.length_cons] at length
    omega

theorem fullArgs_of_reads {record : ProcessRecord} (reads : row.Reads record) :
    record.fullArgs = row.arguments := by
  obtain ⟨made, isMade, arguments⟩ := ProcessRow.exists_ofColumns none row.count row.arguments
  obtain rfl := Except.ok.inj (reads.symm.trans isMade)
  exact arguments

theorem records_ne_nil (row : PrintedRow) : row.records ≠ [] := by
  by_cases whole : IsUnbroken row.arguments.toList
  · obtain ⟨record, same, _⟩ := records_of_unbroken whole
    rw [same]
    exact List.cons_ne_nil _ _
  · obtain ⟨record, more, same, _⟩ := records_of_broken whole
    rw [same]
    exact List.cons_ne_nil _ _

theorem length_le_flatMap (rows : List PrintedRow) :
    rows.length ≤ (rows.flatMap PrintedRow.records).length := by
  induction rows with
  | nil => exact Nat.le_refl 0
  | cons row rest ih =>
    have some := List.length_pos_of_ne_nil row.records_ne_nil
    rw [List.flatMap_cons, List.length_append, List.length_cons]
    omega

theorem forall₂_flatMap {rows : List PrintedRow}
    (whole : ∀ row ∈ rows, IsUnbroken row.arguments.toList) :
    List.Forall₂ PrintedRow.Reads rows (rows.flatMap PrintedRow.records) := by
  induction rows with
  | nil => exact .nil
  | cons row rest ih =>
    obtain ⟨first, later⟩ := List.forall_mem_cons.mp whole
    obtain ⟨record, same, reads⟩ := records_of_unbroken first
    rw [List.flatMap_cons, same]
    exact .cons reads (ih later)

theorem map_fullArgs_of_forall₂ {rows : List PrintedRow} {records : List ProcessRecord}
    (reads : List.Forall₂ PrintedRow.Reads rows records) :
    records.map (·.fullArgs) = rows.map (·.arguments) := by
  induction reads with
  | nil => rfl
  | cons first _ ih => rw [List.map_cons, List.map_cons, fullArgs_of_reads first, ih]

theorem unbroken_of_map_fullArgs {rows : List PrintedRow}
    (same : (rows.flatMap PrintedRow.records).map (·.fullArgs) = rows.map (·.arguments)) :
    ∀ row ∈ rows, IsUnbroken row.arguments.toList := by
  induction rows with
  | nil => exact List.forall_mem_nil _
  | cons row rest ih =>
    by_cases whole : IsUnbroken row.arguments.toList
    · obtain ⟨record, single, _⟩ := records_of_unbroken whole
      rw [List.flatMap_cons, single] at same
      exact List.forall_mem_cons.mpr ⟨whole, ih (List.cons.inj same).2⟩
    · obtain ⟨record, more, first, shorter⟩ := records_of_broken whole
      rw [List.flatMap_cons, first] at same
      exact absurd (List.cons.inj same).1 shorter

end PrintedRow

namespace ProcessListing

def printed (header : List Char) (rows : List PrintedRow) : List Char :=
  unlines (header :: rows.map PrintedRow.line)

/-- The records that a header line has if a boundary cuts it. -/
def headerRecords (header : List Char) : List ProcessRecord :=
  (ofLines none ((splitLines (header ++ ['\n'])).map String.ofList)).records

variable {header : List Char} {rows : List PrintedRow}

theorem isOneLine_of_mem (oneLine : IsOneLine header) :
    ∀ line ∈ header :: rows.map PrintedRow.line, IsOneLine line := by
  intro line mem
  rcases List.mem_cons.mp mem with rfl | isRow
  · exact oneLine
  · obtain ⟨row, _, rfl⟩ := List.mem_map.mp isRow
    exact row.isOneLine_line

theorem records_printed (oneLine : IsOneLine header) :
    (ofLines none ((splitLines (printed header rows)).map String.ofList)).records =
      headerRecords header ++ rows.flatMap PrintedRow.records := by
  have some : 1 ≤ (splitLines (header ++ ['\n'])).length :=
    List.length_pos_of_ne_nil (splitLines_line_ne_nil oneLine)
  rw [printed, splitLines_unlines (isOneLine_of_mem oneLine), List.flatMap_cons, List.flatMap_map]
  simp only [ofLines, headerRecords, List.map_append]
  rw [List.drop_append_of_le_length (by rwa [List.length_map]), List.filterMap_append,
    List.map_flatMap, List.filterMap_flatMap]
  rfl

/-- The header is no record, and no boundary cuts any arguments. -/
structure Intact (header : List Char) (rows : List PrintedRow) : Prop where
  header : headerRecords header = []
  rows : ∀ row ∈ rows, IsUnbroken row.arguments.toList

theorem intact_iff :
    (headerRecords header ++ rows.flatMap PrintedRow.records).map (·.fullArgs) =
        rows.map (·.arguments) ↔ Intact header rows := by
  constructor
  · intro same
    have none : headerRecords header = [] := by
      have lengths := congrArg List.length same
      have enough := PrintedRow.length_le_flatMap rows
      rw [List.length_map, List.length_map, List.length_append] at lengths
      exact List.eq_nil_of_length_eq_zero (by omega)
    rw [none] at same
    exact ⟨none, PrintedRow.unbroken_of_map_fullArgs same⟩
  · intro intact
    rw [intact.header]
    exact PrintedRow.map_fullArgs_of_forall₂ (PrintedRow.forall₂_flatMap intact.rows)

end ProcessListing

namespace ProcessLister

variable {σ : Type} [Journal σ] {start : Command.Launcher σ} {environment : Environment}
  {config : Config} {words : List String} {finished : Command.Finished} {world between : σ}

/-- What a printed listing says: the records of its header and of its rows, in order. -/
theorem exists_perform_all {header : List Char} {rows : List PrintedRow} (oneLine : IsOneLine header)
    (shell : shellWords config.allProcessesCommand = .ok words) (some : words ≠ [])
    (started : (start words environment).perform world = (.ok finished, between))
    (stdout : finished.stdout = encodeUtf8 (ProcessListing.printed header rows))
    (stderr : ∃ complaints, decodeUtf8 finished.stderr = .ok complaints) :
    ∃ after, (all (Command.source start environment) config).perform world =
      (.ok (ProcessListing.headerRecords header ++ rows.flatMap PrintedRow.records), after) := by
  have noReturn : '\r' ∉ ProcessListing.printed header rows := by
    intro mem
    obtain ⟨line, isLine, inside⟩ := List.mem_flatMap.mp mem
    rcases List.mem_append.mp inside with inLine | inFeed
    · exact (ProcessListing.isOneLine_of_mem oneLine line isLine '\r' inLine).2 rfl
    · exact absurd (List.mem_singleton.mp inFeed) (by decide)
  obtain ⟨middle, sourced⟩ := Command.exists_perform_source shell some started
    (Command.lines_of_encoded noReturn stdout stderr)
  have read := perform_readListing_notes none
    ((splitLines (ProcessListing.printed header rows)).map String.ofList) middle
  rw [ProcessListing.records_printed oneLine] at read
  exact ⟨_, Action.perform_bind_eq_ok.mpr ⟨_, middle, sourced, read⟩⟩

/-- All arguments come back in order just when none of them holds a line boundary, and then there is
one record for each row. -/
theorem all_printed {header : List Char} {rows : List PrintedRow} (oneLine : IsOneLine header)
    (shell : shellWords config.allProcessesCommand = .ok words) (some : words ≠ [])
    (started : (start words environment).perform world = (.ok finished, between))
    (stdout : finished.stdout = encodeUtf8 (ProcessListing.printed header rows))
    (stderr : ∃ complaints, decodeUtf8 finished.stderr = .ok complaints) :
    ∃ records, ((all (Command.source start environment) config).perform world).1 = .ok records ∧
      (records.map (·.fullArgs) = rows.map (·.arguments) ↔ ProcessListing.Intact header rows) ∧
      (ProcessListing.Intact header rows → List.Forall₂ PrintedRow.Reads rows records) := by
  obtain ⟨after, performed⟩ := exists_perform_all oneLine shell some started stdout stderr
  refine ⟨_, congrArg Prod.fst performed, ProcessListing.intact_iff, ?_⟩
  intro intact
  rw [intact.header]
  exact PrintedRow.forall₂_flatMap intact.rows

def initColumns : List String :=
  ["S", "1", "0", "root", "0", "root", "0", "1", "59", "2048", "512", "01:00", "00:01", "init"]

theorem areWords_initColumns : ∀ column ∈ initColumns, IsWord column.toList := by
  decide +kernel

theorem isUnbroken_space : IsUnbroken [' '] := by
  decide

theorem isInline_plain : RowLayout.plain.IsInline where
  before := isUnbroken_nil
  gap _ := isUnbroken_space
  after := isUnbroken_nil

def spacedArguments : String := "init  -a\tb\u00a0c\u3000d"

theorem isTrimmed_spaced : IsTrimmed spacedArguments.toList := by
  decide +kernel

theorem isOneLine_spaced : IsOneLine spacedArguments.toList := by
  decide +kernel

def spacedRow : PrintedRow where
  layout := .plain
  columns := initColumns
  arguments := spacedArguments
  count := rfl
  areWords := areWords_initColumns
  trimmed := isTrimmed_spaced
  oneLine := isOneLine_spaced
  inline := isInline_plain

/-- A program that prints one row under a short header, whatever it is asked. -/
def printing (row : PrintedRow) : Command.Launcher Replay := fun _ _ =>
  pure ⟨encodeUtf8 (ProcessListing.printed ['S'] [row]), [], 0⟩

theorem shellWords_usual :
    shellWords ({} : Config).allProcessesCommand =
      .ok ["ps", "-eo", "s,pid,ppid,user,uid,group,gid,nlwp,pri,vsz,rss,etime,time,comm,args"] := by
  decide +kernel

theorem headerRecords_short : ProcessListing.headerRecords ['S'] = [] := by
  decide +kernel

def leftBy (row : PrintedRow) : Command.Finished :=
  ⟨encodeUtf8 (ProcessListing.printed ['S'] [row]), [], 0⟩

theorem intact_spacedRow : ProcessListing.Intact ['S'] [spacedRow] where
  header := headerRecords_short
  rows := by decide +kernel

theorem all_printed_spacedRow :
    IsOneLine ['S'] ∧
      (printing spacedRow ["ps"] []).perform unasked = (.ok (leftBy spacedRow), unasked) ∧
      decodeUtf8 (leftBy spacedRow).stderr = .ok [] ∧
      ProcessListing.Intact ['S'] [spacedRow] ∧
      ∃ records,
        ((all (Command.source (printing spacedRow) []) {}).perform unasked).1 = .ok records ∧
        (records.map (·.fullArgs) = [spacedArguments] ↔
          ProcessListing.Intact ['S'] [spacedRow]) ∧
        (ProcessListing.Intact ['S'] [spacedRow] →
          List.Forall₂ PrintedRow.Reads [spacedRow] records) := by
  have oneLine : IsOneLine ['S'] := by decide
  have complaints : decodeUtf8 [] = .ok [] := decodeUtf8_encodeUtf8 []
  have started (words : List String) :
      (printing spacedRow words []).perform unasked = (.ok (leftBy spacedRow), unasked) := rfl
  exact ⟨oneLine, started ["ps"], complaints, intact_spacedRow,
    all_printed oneLine shellWords_usual (List.cons_ne_nil _ _) (started _) rfl ⟨[], complaints⟩⟩

/-- Arguments with the columns of another process after a vertical tab. -/
def forgingArguments : String :=
  "init\x0bS 2 1 root 0 root 0 1 59 0 0 00:01 00:00 sh forged"

theorem isTrimmed_forging : IsTrimmed forgingArguments.toList := by
  decide +kernel

theorem isOneLine_forging : IsOneLine forgingArguments.toList := by
  decide +kernel

def forgingRow : PrintedRow where
  layout := .plain
  columns := initColumns
  arguments := forgingArguments
  count := rfl
  areWords := areWords_initColumns
  trimmed := isTrimmed_forging
  oneLine := isOneLine_forging
  inline := isInline_plain

/-- The record of the row, cut short, and a record of a process that there is not. -/
def forgedRecords : List ProcessRecord :=
  [⟨1, 0, "S", "root", 0, "root", 0, 1, 59, 2048, 512, "01:00", "00:01", "init", "init"⟩,
    ⟨2, 1, "S", "root", 0, "root", 0, 1, 59, 0, 0, "00:01", "00:00", "sh", "forged"⟩]

theorem records_forgingRow : forgingRow.records = forgedRecords := by
  decide +kernel

/-- A process can cut its own row short and make up a process by a vertical tab in its arguments. -/
theorem all_forgingRow :
    ((all (Command.source (printing forgingRow) []) {}).perform unasked).1 = .ok forgedRecords ∧
      ¬ List.Forall₂ PrintedRow.Reads [forgingRow] forgedRecords := by
  have oneLine : IsOneLine ['S'] := by decide
  obtain ⟨after, performed⟩ := exists_perform_all oneLine shellWords_usual (List.cons_ne_nil _ _)
    (rfl : (printing forgingRow _ []).perform unasked = (.ok (leftBy forgingRow), unasked)) rfl
    ⟨[], decodeUtf8_encodeUtf8 []⟩
  refine ⟨?_, ?_⟩
  · rw [performed, headerRecords_short, List.flatMap_singleton, records_forgingRow]
    rfl
  · intro reads
    cases reads with
    | cons _ rest => cases rest

end ProcessLister

end HostInventory
