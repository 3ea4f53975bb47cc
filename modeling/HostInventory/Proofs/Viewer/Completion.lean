import HostInventory.Proofs.Engine.Memory
import HostInventory.Proofs.Number.Limits
import HostInventory.Proofs.Process.Listing
import HostInventory.Proofs.Viewer.Feed
import HostInventory.Replay

/-!
Which collected snapshots get on screen. Rows of listings hold numbers that can be written, so only
a size, a time or a count of threads beyond its limit can be in the way.
-/
namespace HostInventory

open HostInventory.Action Text

theorem Action.perform_beside_eq_ok {σ τ α : Type} {a : Action σ α} {own : τ} {world : σ} {value : α}
    {after : τ × σ} :
    (beside a : Action (τ × σ) α).perform (own, world) = (.ok value, after) ↔
      ∃ left, a.perform world = (.ok value, left) ∧ after = (own, left) := by
  rw [perform_beside]
  rcases a.perform world with ⟨outcome, left⟩
  constructor
  · intro performed
    cases performed
    exact ⟨left, rfl, rfl⟩
  · rintro ⟨_, ⟨⟩, rfl⟩
    rfl

namespace ServiceListing

variable {scripts : List String} {row : String} {service : ServiceRecord}

theorem isShort_of_read? (read : read? scripts row = some service) :
    Numeral.IsShort service.processId := by
  unfold read? at read
  dsimp only at read
  split at read
  · obtain ⟨_, _, rfl⟩ := Option.map_eq_some_iff.mp read
    exact Numeral.isShort_zero
  split at read
  · unfold running? at read
    split at read
    · cases read
      exact Numeral.isShort_integerOr Numeral.isShort_zero _
    · cases read
  split at read
  · obtain ⟨_, _, rfl⟩ := Option.map_eq_some_iff.mp read
    exact Numeral.isShort_zero
  · cases read

end ServiceListing

theorem ServiceTable.isOk_rowOf {service : ServiceRecord} (short : Numeral.IsShort service.processId) :
    (rowOf service).isOk = true := by
  have written : Numeral.text? service.processId = .ok (Numeral.text service.processId) :=
    Numeral.text?_eq_ok_iff.mpr ⟨short, rfl⟩
  unfold rowOf
  rw [written]
  split
  · rfl
  · rfl

namespace Engine

variable {σ η : Type} [Journal σ] {engine : Engine σ η} {known : Option Int} {world : σ}
  {snapshot : Snapshot}

theorem exists_lines_of_snapshot
    (collected : (engine.snapshot.perform (known, world)).1 = .ok snapshot) :
    (∃ lines, snapshot.processes = (ProcessListing.ofLines none lines).records) ∧
      ∃ scripts lines, snapshot.services = ServiceListing.ofLines scripts lines := by
  rcases performed : engine.snapshot.perform (known, world) with ⟨outcome, left⟩
  rw [performed] at collected
  cases collected
  rw [snapshot_eq] at performed
  obtain ⟨prepared, ready, aside, performed⟩ := perform_bind_eq_ok.mp performed
  obtain ⟨bootTime, ⟨memory, told⟩, _, finished⟩ := perform_bind_eq_ok.mp performed
  obtain ⟨between, prepares, rfl⟩ := perform_beside_eq_ok.mp aside
  obtain ⟨after, completes, rfl⟩ := perform_beside_eq_ok.mp finished
  obtain ⟨listed, classified, _, lists, classifies, _⟩ := preparation_eq_ok.mp prepares
  obtain ⟨_, _, _, rfl, _⟩ := completion_eq_ok.mp completes
  constructor
  · obtain ⟨lines, _, _, reads⟩ := perform_bind_eq_ok.mp lists
    obtain ⟨_, _, recorded⟩ := perform_then_eq_ok.mp reads
    exact ⟨lines, (Except.ok.inj (congrArg Prod.fst recorded)).symm⟩
  · obtain ⟨scripts, _, _, reads⟩ := perform_bind_eq_ok.mp classifies
    obtain ⟨lines, _, same⟩ := perform_map_eq_ok.mp reads
    exact ⟨scripts, lines, same.symm⟩

end Engine

namespace Header

variable {snapshot : Snapshot}

theorem isOk_timeText_iff :
    (timeText (some snapshot)).isOk = true ↔
      (Date.earliest ≤ snapshot.bootTime ∧ snapshot.bootTime ≤ Date.latest) ∧
        snapshot.uptime < 86400 * Duration.dayLimit := by
  rw [← Date.isOk_format_iff, ← Duration.isOk_format_iff]
  unfold timeText
  dsimp only
  cases Date.format snapshot.bootTime with
  | error failure => exact iff_of_false nofun fun ⟨dated, _⟩ => nomatch dated
  | ok booted =>
    cases Duration.format snapshot.uptime with
    | error failure => exact iff_of_false nofun fun ⟨_, timed⟩ => nomatch timed
    | ok uptime => exact iff_of_true rfl ⟨rfl, rfl⟩

theorem isOk_countText_iff :
    (countText (some snapshot)).isOk = true ↔ Numeral.IsShort snapshot.threadCount := by
  rw [← Numeral.exists_text?_iff, ← isOk_iff]
  unfold countText
  dsimp only
  cases Numeral.text? snapshot.threadCount with
  | error failure => exact iff_of_false nofun nofun
  | ok threads => exact iff_of_true rfl rfl

end Header

theorem ProcessTable.isWritable_iff {process : ProcessRecord}
    (short : ∀ n ∈ ProcessRow.numbers process, Numeral.IsShort n) :
    IsWritable process ↔ process.residentSize < Size.limit := by
  simp only [ProcessRow.numbers, List.forall_mem_cons] at short
  obtain ⟨pid, parentPid, _, _, threadCount, _, _, residentSize, _⟩ := short
  rw [IsWritable, Size.isOk_format_iff residentSize]
  constructor
  · rintro ⟨_, _, _, sized⟩
    exact sized
  · intro sized
    exact ⟨pid, parentPid, threadCount, sized⟩

/-- Limits that a snapshot must keep to be shown while some pids are let through. -/
structure Snapshot.KeepsLimits (filter : Option PidSet) (snapshot : Snapshot) : Prop where
  bootTime : Date.earliest ≤ snapshot.bootTime ∧ snapshot.bootTime ≤ Date.latest
  uptime : snapshot.uptime < 86400 * Duration.dayLimit
  threadCount : Numeral.IsShort snapshot.threadCount
  /-- The record that counts for a pid is the last one. -/
  sizes : ∀ process, Selection.IsLast snapshot.processes process →
    Selection.admits filter process → process.residentSize < Size.limit

namespace Screen

variable {screen : Screen} {snapshot : Snapshot}

theorem canShow_iff
    (numbers : ∀ process ∈ snapshot.processes, ∀ n ∈ ProcessRow.numbers process, Numeral.IsShort n)
    (pids : ∀ service ∈ snapshot.services, Numeral.IsShort service.processId) :
    screen.CanShow snapshot ↔
      snapshot.KeepsLimits screen.processes.selection.filter := by
  constructor
  · rintro ⟨dated, counted, writable, _⟩
    obtain ⟨bootTime, uptime⟩ := Header.isOk_timeText_iff.mp dated
    refine ⟨bootTime, uptime, Header.isOk_countText_iff.mp counted, ?_⟩
    intro process last passes
    have visible := writable process (Selection.mem_visible.mpr ⟨last, passes⟩)
    exact (ProcessTable.isWritable_iff (numbers process last.mem)).mp visible
  · rintro ⟨bootTime, uptime, threadCount, sizes⟩
    refine ⟨Header.isOk_timeText_iff.mpr ⟨bootTime, uptime⟩,
      Header.isOk_countText_iff.mpr threadCount, ?_, ?_⟩
    · intro process mem
      obtain ⟨last, passes⟩ := Selection.mem_visible.mp mem
      exact (ProcessTable.isWritable_iff (numbers process last.mem)).mpr (sizes process last passes)
    · intro service mem
      exact ServiceTable.isOk_rowOf (pids service mem)

end Screen

namespace Viewer

variable {σ η : Type} [Journal σ] {engine : Engine σ η} {known : Option Int} {world : σ}
  {snapshot : Snapshot}

/-- A collected snapshot gets on screen, whatever has been on it, just when it keeps the limits. -/
theorem shows_collected (moves : List Move) (alive : (run moves {}).failure = none)
    (collected : (engine.snapshot.perform (known, world)).1 = .ok snapshot) :
    ((∃ screen, (Screen.display snapshot).perform (run moves {}).screen = (.ok (), screen)) ↔
        snapshot.KeepsLimits (run moves {}).screen.processes.selection.filter) ∧
      ∀ screen, (Screen.display snapshot).perform (run moves {}).screen = (.ok (), screen) →
        screen.Portrays snapshot := by
  have coherent : (run moves {}).screen.processes.Coherent :=
    ((inv_new.run moves).faithful alive).coherent
  obtain ⟨⟨lines, processes⟩, scripts, serviceLines, services⟩ :=
    Engine.exists_lines_of_snapshot collected
  constructor
  · rw [Screen.exists_perform_display_iff coherent]
    refine Screen.canShow_iff ?_ ?_
    · intro process mem
      rw [processes] at mem
      obtain ⟨row, _, read⟩ := List.mem_filterMap.mp mem
      exact ProcessRow.isShort_of_read? read
    · intro service mem
      rw [services] at mem
      obtain ⟨row, _, read⟩ := List.mem_filterMap.mp mem
      exact ServiceListing.isShort_of_read? read
  · intro screen done
    exact (Screen.portrays_of_display coherent done).2

/-- A host that lists some processes, and whose chain tells an uptime and a boot time. -/
def hostListing (entries : List (RowLayout × ProcessRecord)) : Replay where
  outputs := [(({} : Config).allProcessesCommand, .ok (ProcessListing.write "S" entries))]
  chain := { snapTime := some 60000000000, bootTime := some 1700000000 }

theorem exists_snapshot_hostListing {entries : List (RowLayout × ProcessRecord)}
    (listable : ∀ entry ∈ entries, ProcessRow.IsListable entry.2) :
    ∃ capturedAt, ((Replay.engine {}).snapshot.perform (none, hostListing entries)).1 =
      .ok ⟨entries.map (·.2), [], 60, 1700000000, 0, capturedAt⟩ := by
  have found : (hostListing entries).outputs.lookup ({} : Config).allProcessesCommand =
      some (.ok (ProcessListing.write "S" entries)) := List.lookup_cons_self
  have prints : (Replay.source ({} : Config).allProcessesCommand).perform (hostListing entries) =
      (.ok (ProcessListing.write "S" entries),
        { hostListing entries with commands := [({} : Config).allProcessesCommand] }) := by
    change (((hostListing entries).outputs.lookup _).getD _, _) = _
    rw [found]
    rfl
  have lists : (Replay.engine {}).allProcesses.perform (hostListing entries) =
      (.ok (entries.map (·.2)), _) :=
    perform_bind_eq_ok.mpr
      ⟨_, _, prints, ProcessLister.readListing_write "S" entries listable _⟩
  refine ⟨0, ?_⟩
  rw [Engine.snapshot, perform_bind, perform_beside, lists]
  rfl

def shellOfSize (size : Int) : ProcessRecord :=
  ⟨7, 1, "S", "root", 0, "root", 0, 1, 59, 0, size, "00:01", "00:00", "sh", "sh -i"⟩

theorem isListable_shellOfSize {size : Int} (short : Numeral.IsShort size) :
    ∀ entry ∈ [(RowLayout.plain, shellOfSize size)], ProcessRow.IsListable entry.2 := by
  intro entry mem
  cases List.mem_singleton.mp mem
  have others : ∀ n ∈ [7, 1, 0, 1, 59, 0], Numeral.IsShort n := by decide +kernel
  have words : ∀ s ∈ ["S", "root", "root", "00:01", "00:00", "sh"], IsWord s.toList := by
    decide +kernel
  have arguments : IsTrimmed "sh -i".toList := by decide +kernel
  exact ⟨by simpa [shellOfSize, short] using others, words, arguments⟩

/-- A snapshot with one process is on screen, and the rows are sorted by user. -/
def sorted : List Move :=
  let snapshot : Snapshot :=
    { processes := [shellOfSize 512], services := [⟨"nfs", 0, .stopped⟩], uptime := 0
      bootTime := 0, threadCount := 1, capturedAt := 0 }
  (Handover.putThenDrain [snapshot]).map .queue ++ [.press "f6"]

theorem shows_collected_largestProcess :
    (run sorted {}).failure = none ∧
      ∃ snapshot,
        ((Replay.engine {}).snapshot.perform
          (none, hostListing [(.plain, shellOfSize (Size.limit - 1))])).1 = .ok snapshot ∧
        ∃ screen, (Screen.display snapshot).perform (run sorted {}).screen = (.ok (), screen) ∧
          screen.Portrays snapshot := by
  have alive : (run sorted {}).failure = none := Option.isNone_iff_eq_none.1 (by decide +kernel)
  have short : Numeral.IsShort (Size.limit - 1) := by decide +kernel
  obtain ⟨capturedAt, collected⟩ := exists_snapshot_hostListing (isListable_shellOfSize short)
  obtain ⟨completes, portrays⟩ := shows_collected sorted alive collected
  have most := Duration.dayLimit_pos
  have booted : Date.earliest ≤ 1700000000 ∧ 1700000000 ≤ Date.latest := by decide
  have up : (60 : Int) < 86400 * Duration.dayLimit := by omega
  have sizes : ∀ process, Selection.IsLast [shellOfSize (Size.limit - 1)] process →
      Selection.admits (run sorted {}).screen.processes.selection.filter process →
        process.residentSize < Size.limit := by
    intro process last _
    cases List.mem_singleton.mp last.mem
    change (Size.limit : Int) - 1 < Size.limit
    omega
  obtain ⟨screen, done⟩ := completes.mpr ⟨booted, up, Numeral.isShort_zero, sizes⟩
  exact ⟨alive, _, collected, screen, done, portrays screen done⟩

/-- A size that can be listed and collected, and cannot be shown. -/
theorem not_shows_tooLargeProcess :
    ∃ snapshot,
      ((Replay.engine {}).snapshot.perform
        (none, hostListing [(.plain, shellOfSize Size.bound)])).1 = .ok snapshot ∧
      ¬ ∃ screen, (Screen.display snapshot).perform (run [] {}).screen = (.ok (), screen) := by
  have short : Numeral.IsShort Size.bound := by decide +kernel
  have unformattable : (Size.format Size.bound).isOk = false := by decide +kernel
  obtain ⟨capturedAt, collected⟩ := exists_snapshot_hostListing (isListable_shellOfSize short)
  refine ⟨_, collected, ?_⟩
  intro shown
  have canShow := (Screen.exists_perform_display_iff ProcessTable.faithful_new.coherent).mp shown
  have visible : shellOfSize Size.bound ∈
      ({ processes := [shellOfSize Size.bound] } : Selection).visible :=
    Selection.mem_visible.mpr ⟨Selection.isLast_singleton _, rfl⟩
  obtain ⟨_, _, _, sized⟩ := canShow.processes _ visible
  exact absurd sized (by rw [shellOfSize, unformattable]; decide)

end Viewer

end HostInventory
