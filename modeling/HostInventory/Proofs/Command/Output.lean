import HostInventory.Command
import HostInventory.Proofs.Text.Lines
import HostInventory.Proofs.Text.Utf8
import HostInventory.Replay

/-!
What is taken from a program that has been started and has ended. Main statements: the lines that it
printed come back as they are, whatever its status; and two runs that print the same give the same
lines unless the complaints of just one of them cannot be read.
-/
namespace HostInventory.Command

open Text

/-- A byte sequence that can be read as text. -/
def IsReadable (bytes : List UInt8) : Prop := ∃ text, decodeUtf8 bytes = .ok text

/-- The lines that bytes show; none if they cannot be read. -/
def shownLines (bytes : List UInt8) : List String :=
  match decode bytes with
  | .ok text => (splitLines text).map String.ofList
  | .error _ => []

/-- The lines that are taken from a program; none if an output of it cannot be read. -/
def Finished.taken (finished : Finished) : List String := finished.lines.toOption.getD []

/-- A command line whose program is started in this world and ends, leaving `finished`. -/
def Leaves {σ : Type} (start : Launcher σ) (environment : Environment) (command : String) (world : σ)
    (finished : Finished) : Prop :=
  ∃ words between, shellWords command = .ok words ∧ words ≠ [] ∧
    (start words environment).perform world = (.ok finished, between)

variable {bytes : List UInt8} {finished first second : Finished} {text : List Char}

theorem decode_encodeUtf8 (text : List Char) : decode (encodeUtf8 text) = .ok (unifyNewlines text) := by
  rw [decode, decodeUtf8_encodeUtf8]

theorem isReadable_encodeUtf8 (text : List Char) : IsReadable (encodeUtf8 text) :=
  ⟨text, decodeUtf8_encodeUtf8 text⟩

theorem IsReadable.decode (readable : IsReadable bytes) : ∃ text, decode bytes = .ok text := by
  obtain ⟨text, read⟩ := readable
  exact ⟨unifyNewlines text, by rw [Command.decode, read]⟩

theorem decode_of_unreadable (unreadable : ¬ IsReadable bytes) :
    ∃ place, decode bytes = .error (.undecodable place) := by
  cases read : decodeUtf8 bytes with
  | ok text => exact absurd ⟨text, read⟩ unreadable
  | error place => exact ⟨place, by rw [Command.decode, read]⟩

namespace Finished

theorem lines_of_readable (readable : IsReadable finished.stderr) :
    finished.lines =
      (decode finished.stdout).map fun text => (splitLines text).map String.ofList := by
  obtain ⟨complaints, read⟩ := readable.decode
  rw [lines, read]
  cases decode finished.stdout with
  | ok text => rfl
  | error failure => rfl

theorem lines_of_unreadable (unreadable : ¬ IsReadable finished.stderr) :
    ∃ place, finished.lines = .error (.undecodable place) := by
  obtain ⟨place, garbled⟩ := decode_of_unreadable unreadable
  rw [lines, garbled]
  by_cases readable : IsReadable finished.stdout
  · obtain ⟨text, read⟩ := readable.decode
    exact ⟨place, by rw [read]; rfl⟩
  · obtain ⟨first, garbledFirst⟩ := decode_of_unreadable readable
    exact ⟨first, by rw [garbledFirst]; rfl⟩

theorem lines_eq_error {failure : Failure} (failed : finished.lines = .error failure) :
    ∃ place, failure = .undecodable place := by
  by_cases readable : IsReadable finished.stderr
  · rw [lines_of_readable readable] at failed
    by_cases shown : IsReadable finished.stdout
    · obtain ⟨text, read⟩ := shown.decode
      rw [read] at failed
      cases failed
    · obtain ⟨place, garbled⟩ := decode_of_unreadable shown
      rw [garbled] at failed
      cases failed
      exact ⟨place, rfl⟩
  · obtain ⟨place, same⟩ := lines_of_unreadable readable
    rw [same] at failed
    cases failed
    exact ⟨place, rfl⟩

theorem taken_of_readable (readable : IsReadable finished.stderr) :
    finished.taken = shownLines finished.stdout := by
  rw [taken, lines_of_readable readable, shownLines]
  cases decode finished.stdout with
  | ok text => rfl
  | error failure => rfl

theorem taken_of_unreadable (unreadable : ¬ IsReadable finished.stderr) : finished.taken = [] := by
  obtain ⟨place, failed⟩ := lines_of_unreadable unreadable
  rw [taken, failed]
  rfl

/-- What is taken from two programs that print the same can differ only if the complaints of just one
of them can be read. -/
theorem taken_eq_iff (stdout : first.stdout = second.stdout) :
    first.taken = second.taken ↔
      (IsReadable first.stderr ↔ IsReadable second.stderr) ∨ shownLines first.stdout = [] := by
  by_cases readable : IsReadable first.stderr
  · rw [taken_of_readable readable]
    by_cases readableOther : IsReadable second.stderr
    · rw [taken_of_readable readableOther, stdout]
      simp only [readable, readableOther, true_or]
    · rw [taken_of_unreadable readableOther]
      simp only [readable, readableOther, iff_false, not_true_eq_false, false_or]
  · rw [taken_of_unreadable readable]
    by_cases readableOther : IsReadable second.stderr
    · rw [taken_of_readable readableOther, stdout, eq_comm]
      simp only [readable, readableOther, iff_true, false_or]
    · rw [taken_of_unreadable readableOther]
      simp only [readable, readableOther, true_or]

end Finished

theorem lines_of_encoded (oneText : '\r' ∉ text) (stdout : finished.stdout = encodeUtf8 text)
    (stderr : IsReadable finished.stderr) :
    finished.lines = .ok ((splitLines text).map String.ofList) := by
  rw [Finished.lines_of_readable stderr, stdout, decode_encodeUtf8, unifyNewlines_eq_self oneText]
  rfl

theorem shownLines_encodeUtf8 {lines : List String} (prints : Prints (lines.map String.toList) text)
    (unbroken : ∀ line ∈ lines, IsUnbroken line.toList) :
    shownLines (encodeUtf8 text) = lines := by
  have whole : ∀ line ∈ lines.map String.toList, IsUnbroken line := List.forall_mem_map.mpr unbroken
  rw [shownLines, decode_encodeUtf8]
  simp only [prints.splitLines_unifyNewlines whole, List.map_map]
  exact List.map_id'' (fun _ => String.ofList_toList) lines

variable {σ : Type} [Journal σ] {start : Launcher σ} {environment : Environment} {command : String}
  {world other : σ}

theorem Leaves.attempt (leaves : Leaves start environment command world finished) :
    ((Command.attempt start environment command).perform world).1 = finished.lines := by
  obtain ⟨words, between, shell, some, started⟩ := leaves
  have nonempty : words.isEmpty = false := List.isEmpty_eq_false_iff.mpr some
  simp only [Command.attempt, shell, Except.mapError, Action.perform_bind, Action.perform_ofExcept,
    nonempty, Bool.false_eq_true, if_false, started]
  cases finished.lines with
  | error failure => rfl
  | ok lines =>
    by_cases failed : finished.status ≠ 0
    · simp only [if_pos failed]
      rfl
    · simp only [if_neg failed]
      rfl

theorem Leaves.outcome (leaves : Leaves start environment command world finished) :
    ((source start environment command).perform world).1 = .ok finished.taken := by
  have attempted := leaves.attempt
  rw [source, Action.perform_recover, Finished.taken]
  generalize (Command.attempt start environment command).perform world = ended at attempted ⊢
  obtain ⟨outcome, left⟩ := ended
  obtain rfl : outcome = finished.lines := attempted
  cases shown : finished.lines with
  | ok lines => rfl
  | error failure =>
    obtain ⟨place, rfl⟩ := Finished.lines_eq_error shown
    rfl

theorem exists_perform_source {words : List String} {between : σ} {lines : List String}
    (shell : shellWords command = .ok words) (some : words ≠ [])
    (started : (start words environment).perform world = (.ok finished, between))
    (shown : finished.lines = .ok lines) :
    ∃ after, (source start environment command).perform world = (.ok lines, after) := by
  have leaves : Leaves start environment command world finished :=
    ⟨words, between, shell, some, started⟩
  have outcome := leaves.outcome
  rw [Finished.taken, shown] at outcome
  exact ⟨_, Prod.ext outcome rfl⟩

/-- The lines that a program prints as UTF-8 come back as they are, empty ones too, with whatever
ends it wrote after them. -/
theorem returns_printed {lines : List String} (unbroken : ∀ line ∈ lines, IsUnbroken line.toList)
    (prints : Prints (lines.map String.toList) text)
    (leaves : Leaves start environment command world finished)
    (stdout : finished.stdout = encodeUtf8 text) (stderr : IsReadable finished.stderr) :
    ((source start environment command).perform world).1 = .ok lines := by
  have taken : finished.taken = shownLines finished.stdout := Finished.taken_of_readable stderr
  have shown : shownLines (encodeUtf8 text) = lines := shownLines_encodeUtf8 prints unbroken
  rw [leaves.outcome, taken, stdout, shown]

/-- A program that leaves what its world holds ready for it. -/
def prepared : Launcher (Finished × Replay) := fun _ _ => do return (← get).1

theorem shellWords_ps : shellWords "ps" = .ok ["ps"] := by
  decide +kernel

theorem leaves_prepared (finished : Finished) :
    Leaves prepared [] "ps" (finished, {}) finished :=
  ⟨["ps"], (finished, {}), shellWords_ps, List.cons_ne_nil _ _, rfl⟩

def unevenLines : List String := ["", "a\tb", "", "süd"]

def unevenText : List Char := "\r\na\tb\n\r\nsüd".toList

theorem prints_unevenText : Prints (unevenLines.map String.toList) unevenText :=
  .ended _ .returnFeed (.ended _ .feed (.ended _ .returnFeed (.unended _ (by decide))))

def failedPrinter : Finished := ⟨encodeUtf8 unevenText, encodeUtf8 "ps: stopped".toList, 3⟩

theorem returns_printed_unevenText :
    (∀ line ∈ unevenLines, IsUnbroken line.toList) ∧
      Prints (unevenLines.map String.toList) unevenText ∧
      Leaves prepared [] "ps" (failedPrinter, {}) failedPrinter ∧
      IsReadable failedPrinter.stderr ∧
      ((source prepared [] "ps").perform (failedPrinter, {})).1 = .ok unevenLines :=
  have unbroken : ∀ line ∈ unevenLines, IsUnbroken line.toList := by decide +kernel
  have readable : IsReadable failedPrinter.stderr := isReadable_encodeUtf8 _
  ⟨unbroken, prints_unevenText, leaves_prepared _, readable,
    returns_printed unbroken prints_unevenText (leaves_prepared _) rfl readable⟩

/-- Two runs that print the same give the same lines, unless these are some lines and the complaints
of just one of the runs can be read. -/
theorem same_lines_iff (leaves : Leaves start environment command world first)
    (leavesOther : Leaves start environment command other second)
    (stdout : first.stdout = second.stdout) :
    ∃ lines others, ((source start environment command).perform world).1 = .ok lines ∧
      ((source start environment command).perform other).1 = .ok others ∧
      (lines = others ↔
        (IsReadable first.stderr ↔ IsReadable second.stderr) ∨ shownLines first.stdout = []) := by
  have lines := leaves.outcome
  have others := leavesOther.outcome
  exact ⟨first.taken, second.taken, lines, others, Finished.taken_eq_iff stdout⟩

def quiet : Finished := ⟨encodeUtf8 ['a', '\n'], [], 0⟩

def garbled : Finished := ⟨encodeUtf8 ['a', '\n'], [0xff], 0⟩

theorem isReadable_quiet : IsReadable quiet.stderr := isReadable_encodeUtf8 []

theorem not_isReadable_garbled : ¬ IsReadable garbled.stderr := by
  rintro ⟨text, read⟩
  have refused : decodeUtf8 garbled.stderr = .error ⟨0xff, 0, 1, .badStart⟩ := by
    decide +kernel
  rw [refused] at read
  cases read

theorem shownLines_quiet : shownLines quiet.stdout = ["a"] :=
  shownLines_encodeUtf8 (.ended ['a'] .feed .nothing) (by decide)

theorem same_lines_iff_garbled :
    Leaves prepared [] "ps" (quiet, {}) quiet ∧ Leaves prepared [] "ps" (garbled, {}) garbled ∧
      quiet.stdout = garbled.stdout ∧
      ∃ lines others, ((source prepared [] "ps").perform (quiet, {})).1 = .ok lines ∧
        ((source prepared [] "ps").perform (garbled, {})).1 = .ok others ∧
        (lines = others ↔
          (IsReadable quiet.stderr ↔ IsReadable garbled.stderr) ∨ shownLines quiet.stdout = []) :=
  ⟨leaves_prepared _, leaves_prepared _, rfl,
    same_lines_iff (leaves_prepared quiet) (leaves_prepared garbled) rfl⟩

/-- A byte among the complaints that is no text takes away the lines that were printed. -/
theorem lines_lost :
    Leaves prepared [] "ps" (quiet, {}) quiet ∧ Leaves prepared [] "ps" (garbled, {}) garbled ∧
      quiet.stdout = garbled.stdout ∧
      ((source prepared [] "ps").perform (quiet, {})).1 = .ok ["a"] ∧
      ((source prepared [] "ps").perform (garbled, {})).1 = .ok [] := by
  refine ⟨leaves_prepared _, leaves_prepared _, rfl, ?_, ?_⟩
  · rw [(leaves_prepared quiet).outcome, Finished.taken_of_readable isReadable_quiet,
      shownLines_quiet]
  · rw [(leaves_prepared garbled).outcome, Finished.taken_of_unreadable not_isReadable_garbled]

end HostInventory.Command
