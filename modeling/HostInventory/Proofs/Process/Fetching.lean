import HostInventory.Command
import HostInventory.Proofs.Engine.Alike
import HostInventory.Proofs.Process.Children
import HostInventory.Proofs.Process.PidList
import HostInventory.Proofs.Process.Printed

/-!
The records of the processes below a process and of its children. One command tells the pids, and
unless there are none, one more tells the records. Main statement: which commands are run, in which
order, and what comes of them.
-/
namespace HostInventory

theorem CommandSource.alike_recorded {σ : Type} (source : CommandSource σ) (command : String) :
    Action.Alike (fun kept world => kept.2 = world) (source.recorded command) (source command) := by
  rintro ⟨commands, world⟩ _ rfl
  exact ⟨rfl, rfl⟩

namespace ProcessLister

variable {σ τ : Type} [Journal σ] (source : CommandSource σ) (config : Config) {pids : PidSet}

/-- The world when a listing has been read: the rows that have no record are noted. -/
def afterReading (lines : List String) (world : σ) : σ := ((readListing none lines).perform world).2

/-- The outcome of one more command, a listing, with the commands and the world after it. -/
def listed (command : String) (commands : List String) (world : σ) :
    Except Failure (List ProcessRecord) × List String × σ :=
  match (source command).perform world with
  | (.ok lines, left) =>
    (.ok (ProcessListing.ofLines none lines).records, commands ++ [command],
      afterReading lines left)
  | (.error failure, left) => (.error failure, commands ++ [command], left)

/-- The same for a set of pids: without pids, nothing is run. -/
def fetched (pids : PidSet) (commands : List String) (world : σ) :
    Except Failure (List ProcessRecord) × List String × σ :=
  if pids = .empty then (.ok [], commands, world)
  else listed source (pidsCommand config pids) commands world

theorem perform_readListing (lines : List String) (world : σ) :
    (readListing none lines).perform world =
      (.ok (ProcessListing.ofLines none lines).records, afterReading lines world) := by
  rw [afterReading, perform_readListing_notes]

theorem perform_readListing_beside (lines : List String) (own : τ) (world : σ) :
    (readListing none lines).perform (own, world) =
      (.ok (ProcessListing.ofLines none lines).records, own, afterReading lines world) := by
  let R (kept : τ × σ) (bare : σ) : Prop := kept = (own, bare)
  have journals : Journal.Alike R := by
    rintro event _ bare rfl
    rfl
  obtain ⟨outcome, left⟩ := alike_readListing journals none lines (own, world) world rfl
  rw [perform_readListing lines world] at outcome left
  exact Prod.ext outcome left

theorem perform_list_recorded (command : String) (commands : List String) (world : σ) :
    (list source.recorded command).perform (commands, world) =
      listed source command commands world := by
  rw [list, Action.perform_bind, CommandSource.perform_recorded, listed]
  generalize (source command).perform world = ended
  obtain ⟨outcome, left⟩ := ended
  cases outcome with
  | ok lines => exact perform_readListing_beside lines _ left
  | error failure => rfl

theorem mapM_text? {pids : List Int} (short : ∀ pid ∈ pids, Numeral.IsShort pid) :
    pids.mapM Numeral.text? = .ok (pids.map Numeral.text) := by
  induction pids with
  | nil => rfl
  | cons pid rest ih =>
    obtain ⟨first, later⟩ := List.forall_mem_cons.mp short
    rw [List.mapM_cons, Numeral.text?_eq_ok_iff.mpr ⟨first, rfl⟩, ih later]
    rfl

theorem joined_toList (short : ∀ pid ∈ pids, Numeral.IsShort pid) :
    joined pids.toList = .ok pids.text := by
  have ascending : pids.toList.Pairwise fun p q => decide (p ≤ q) = true :=
    pids.ascending.imp fun before => decide_eq_true (Int.le_of_lt before)
  rw [joined, List.mergeSort_of_pairwise ascending, mapM_text? short]
  rfl

theorem perform_ofPids_recorded (short : ∀ pid ∈ pids, Numeral.IsShort pid)
    (commands : List String) (world : σ) :
    (ofPids source.recorded config pids.toList).perform (commands, world) =
      fetched source config pids commands world := by
  have written : pids.text.isEmpty = true ↔ pids = .empty := by
    rw [String.isEmpty_iff, ← String.toList_eq_nil_iff, PidSet.toList_text_eq_nil_iff]
  rw [ofPids, joined_toList short, Action.perform_bind, Action.perform_ofExcept, fetched]
  by_cases none : pids = .empty
  · simp only [written.mpr none, if_true, if_pos none, Action.perform_pure]
  · simp only [mt written.mp none, if_neg none, Bool.false_eq_true, if_false]
    exact perform_list_recorded source _ commands world

theorem isShort_of_mem_descendants {lines : List String} {parent q : Int}
    (mem : q ∈ ProcessTree.descendants (ProcessListing.ofLines none lines).records parent) :
    Numeral.IsShort q := by
  have linked (process : ProcessRecord)
      (link : process ∈ ProcessTree.links (ProcessListing.ofLines none lines).records) :
      Numeral.IsShort process.pid := by
    obtain ⟨row, _, read⟩ := List.mem_filterMap.mp (List.mem_filter.mp link).1
    exact ProcessRow.isShort_of_read? read process.pid List.mem_cons_self
  cases (ProcessTree.mem_descendants.mp mem).2 with
  | child link _ => exact linked _ link
  | further _ link _ => exact linked _ link

omit [Journal σ] in
theorem isShort_of_childPids {parent : Int} {world left : σ}
    (found : (childPids source config parent).perform world = (.ok pids, left)) :
    ∀ pid ∈ pids, Numeral.IsShort pid := by
  obtain ⟨shown, _, _, found⟩ := Action.perform_bind_eq_ok.mp found
  obtain ⟨lines, _, rfl⟩ := Action.perform_map_eq_ok.mp found
  intro pid mem
  obtain ⟨_, line, _, _, _, rfl⟩ := mem_childPidsOf.mp mem
  exact Numeral.isShort_integerOr (Numeral.isShort_of_oneDigit (by decide)) _

omit [Journal σ] in
theorem perform_childPids_recorded (parent : Int) (commands : List String) (world : σ) :
    (childPids source.recorded config parent).perform (commands, world) =
      (((childPids source config parent).perform world).1,
        commands ++ (if Numeral.IsShort parent then
          [config.childCommand ++ " " ++ Numeral.text parent] else []),
        ((childPids source config parent).perform world).2) := by
  simp only [childPids, Action.perform_bind, Action.perform_ofExcept]
  by_cases short : Numeral.IsShort parent
  · rw [Numeral.text?_eq_ok_iff.mpr ⟨short, rfl⟩, if_pos short]
    simp only [CommandSource.perform_recorded]
    generalize (source (config.childCommand ++ " " ++ Numeral.text parent)).perform world = ended
    obtain ⟨outcome, left⟩ := ended
    cases outcome with
    | ok lines => rfl
    | error failure => rfl
  · rw [if_neg short, List.append_nil]
    cases shown : Numeral.text? parent with
    | ok text => exact absurd (Numeral.text?_eq_ok_iff.mp shown).1 short
    | error failure => rfl

omit [Journal σ] in
theorem isShort_parent_of_childPids {parent : Int} {world left : σ}
    (found : (childPids source config parent).perform world = (.ok pids, left)) :
    Numeral.IsShort parent := by
  obtain ⟨shown, between, written, _⟩ := Action.perform_bind_eq_ok.mp found
  exact (Numeral.text?_eq_ok_iff.mp (congrArg Prod.fst written)).1

/-- What comes of asking for the processes below a parent and for its children, and what is run for
it. What was run before stays on record in front. -/
structure Fetches (parent : Int) : Prop where
  /-- Without a listing of all processes, nothing else is run. -/
  noListing : ∀ commands world failure left,
    (source config.allProcessesCommand).perform world = (.error failure, left) →
      (descendants source.recorded config parent).perform (commands, world) =
        (.error failure, commands ++ [config.allProcessesCommand], left)
  fromListing : ∀ commands world lines left,
    (source config.allProcessesCommand).perform world = (.ok lines, left) →
      ∃ pids : PidSet,
        (∀ q, q ∈ pids ↔ q ≠ parent ∧
          ProcessTree.Below (ProcessListing.ofLines none lines).records parent q) ∧
        (descendants source.recorded config parent).perform (commands, world) =
          fetched source config pids (commands ++ [config.allProcessesCommand])
            (afterReading lines left)
  /-- The second command does not list all processes once more. -/
  apart : ∀ pids, pidsCommand config pids ≠ config.allProcessesCommand
  /-- Only a parent whose pid cannot be written is not asked about. -/
  noChildPids : ∀ commands world failure left,
    (childPids source config parent).perform world = (.error failure, left) →
      (children source.recorded config parent).perform (commands, world) =
        (.error failure,
          commands ++ (if Numeral.IsShort parent then
            [config.childCommand ++ " " ++ Numeral.text parent] else []),
          left)
  fromChildPids : ∀ commands world pids left,
    (childPids source config parent).perform world = (.ok pids, left) →
      (children source.recorded config parent).perform (commands, world) =
        fetched source config pids
          (commands ++ [config.childCommand ++ " " ++ Numeral.text parent]) left
  /-- Keeping a record of the commands changes nothing else. -/
  unobserved :
    Action.Alike (fun kept world => kept.2 = world)
        (descendants source.recorded config parent) (descendants source config parent) ∧
      Action.Alike (fun kept world => kept.2 = world)
        (children source.recorded config parent) (children source config parent)

/-- Two commands at most, whatever the source answers. -/
theorem fetches (parent : Int) : Fetches source config parent where
  noListing := by
    intro commands world failure left failed
    rw [descendants, Action.perform_bind, all, perform_list_recorded, listed, failed]
  fromListing := by
    intro commands world lines left printed
    refine ⟨ProcessTree.descendants (ProcessListing.ofLines none lines).records parent,
      fun q => ProcessTree.mem_descendants, ?_⟩
    rw [descendants, Action.perform_bind, all, perform_list_recorded, listed, printed]
    exact perform_ofPids_recorded source config (fun _ mem => isShort_of_mem_descendants mem) _ _
  apart _ := pidsCommand_ne_allProcessesCommand
  noChildPids := by
    intro commands world failure left failed
    rw [children, Action.perform_bind, perform_childPids_recorded, failed]
  fromChildPids := by
    intro commands world pids left found
    rw [children, Action.perform_bind, perform_childPids_recorded, found,
      if_pos (isShort_parent_of_childPids source config found)]
    exact perform_ofPids_recorded source config (isShort_of_childPids source config found) _ _
  unobserved := by
    have journals : Journal.Alike fun (kept : List String × σ) world => kept.2 = world := by
      rintro event ⟨commands, world⟩ _ rfl
      rfl
    have sources := CommandSource.alike_recorded source
    exact ⟨alike_descendants journals sources config parent,
      alike_children journals sources config parent⟩

end ProcessLister

end HostInventory
