import HostInventory.Proofs.Number.Grammar
import HostInventory.Proofs.Process.Descendants
import HostInventory.Proofs.Process.Listing

/-!
The children of a process, found by the links between the records of a listing and by the lines that
the child command prints. Main statements: where the lines name the children that the listing has,
both ways find the same pids, and all of them are below the process; and which pids are found,
whatever is printed. Only the parent's own text is passed over, so that a parent spelled in another
way is its own child.
-/
namespace HostInventory

namespace ProcessTree

/-- The children that an index has for a parent, none for a parent that it does not have. -/
def indexed (index : List (Int × PidSet)) (parent : Int) : PidSet :=
  (index.lookup parent).getD .empty

theorem indexed_childIndex (records : List ProcessRecord) (parent : Int) :
    indexed (childIndex records) parent = children records parent := by
  rw [indexed, childIndex]
  by_cases known : parent ∈ (PidSet.ofList ((links records).map (·.parentPid))).toList
  · rw [List.lookup_graph _ known]
    rfl
  · have absent : (((PidSet.ofList ((links records).map (·.parentPid))).toList.map fun parent =>
        (parent, children records parent)).lookup parent) = none := by
      refine List.lookup_eq_none_iff.2 fun entry mem => ?_
      obtain ⟨other, listed, rfl⟩ := List.mem_map.1 mem
      exact bne_iff_ne.2 fun same => known (same ▸ listed)
    rw [absent]
    refine PidSet.ext fun q => iff_of_false (PidSet.not_mem_empty q) fun child => known ?_
    obtain ⟨process, mem, rfl, _, other⟩ := mem_children.1 child
    rw [← PidSet.mem_def, PidSet.mem_ofList]
    exact List.mem_map_of_mem (List.mem_filter.2 ⟨mem, by simpa using other⟩)

end ProcessTree

namespace ProcessLister

open ProcessTree

variable {σ : Type} {source : CommandSource σ} {config : Config}
  {records : List ProcessRecord} {parent q : Int} {lines : List String} {world after : σ}

theorem mem_childPidsOf {parent : String} :
    q ∈ childPidsOf parent lines ↔
      0 ≤ q ∧ ∃ line ∈ lines, Text.strip line ≠ "" ∧ Text.strip line ≠ parent ∧
        Numeral.integerOr (-1) (Text.strip line) = q := by
  have names (shown : String) (pid : Int) :
      (if shown.isEmpty || shown == parent then none else if 0 ≤ pid then some pid else none) =
          some q ↔ 0 ≤ q ∧ shown ≠ "" ∧ shown ≠ parent ∧ pid = q := by
    by_cases passed : shown = "" ∨ shown = parent
    · rcases passed with rfl | rfl <;> simp
    · obtain ⟨some, other⟩ := not_or.1 passed
      by_cases natural : 0 ≤ pid
      · simp only [String.isEmpty_iff, Bool.or_eq_true, beq_iff_eq, passed, if_false, natural,
          if_true, Option.some.injEq]
        exact ⟨fun same => ⟨same ▸ natural, some, other, same⟩, fun all => all.2.2.2⟩
      · simp only [String.isEmpty_iff, Bool.or_eq_true, beq_iff_eq, passed, if_false, natural]
        exact iff_of_false (fun same => by cases same) fun all => natural (all.2.2.2 ▸ all.1)
  simp only [childPidsOf, PidSet.mem_ofList, List.mem_filterMap, names]
  constructor
  · rintro ⟨line, mem, natural, named⟩
    exact ⟨natural, line, mem, named⟩
  · rintro ⟨natural, line, mem, named⟩
    exact ⟨line, mem, natural, named⟩

/-- Lines that name the children of a process in any order, each once or more, with blanks around
them. Lines without a name and the process itself may be among them. -/
structure NamesChildren (records : List ProcessRecord) (parent : Int) (lines : List String) :
    Prop where
  only : ∀ line ∈ lines, Text.strip line = "" ∨ Text.strip line = Numeral.text parent ∨
    ∃ process ∈ records, process.parentPid = parent ∧ Text.strip line = Numeral.text process.pid
  all : ∀ process ∈ records, process.parentPid = parent → process.pid ≠ parent →
    ∃ line ∈ lines, Text.strip line = Numeral.text process.pid

theorem text_ne_empty (n : Int) : Numeral.text n ≠ "" := by
  intro empty
  exact (Numeral.isWord_text n).1 (by rw [empty]; rfl)

theorem childPidsOf_eq_children (named : NamesChildren records parent lines)
    (short : ∀ process ∈ records, Numeral.IsShort process.pid)
    (natural : ∀ process ∈ records, 0 ≤ process.pid) (shortParent : Numeral.IsShort parent) :
    childPidsOf (Numeral.text parent) lines = ProcessTree.children records parent := by
  refine PidSet.ext fun q => ?_
  rw [mem_childPidsOf, mem_children]
  constructor
  · rintro ⟨_, line, mem, some, other, rfl⟩
    obtain empty | itself | ⟨process, listed, child, same⟩ := named.only line mem
    · exact absurd empty some
    · exact absurd itself other
    · have pid : Numeral.integerOr (-1) (Text.strip line) = process.pid := by
        rw [same, Numeral.integerOr_text (short process listed)]
      refine ⟨process, listed, child, pid.symm, fun loop => other ?_⟩
      rw [same, loop, child]
  · rintro ⟨process, listed, child, rfl, apart⟩
    obtain ⟨line, mem, same⟩ := named.all process listed child (child ▸ apart)
    have pid : Numeral.integerOr (-1) (Text.strip line) = process.pid := by
      rw [same, Numeral.integerOr_text (short process listed)]
    refine ⟨natural process listed, line, mem, same ▸ text_ne_empty _, fun itself => apart ?_, pid⟩
    rw [← pid, itself, Numeral.integerOr_text shortParent, child]

/-- Both ways to find children agree. -/
theorem childPids_eq_indexed (listing : List String)
    (natural : ∀ process ∈ (ProcessListing.ofLines none listing).records, 0 ≤ process.pid)
    (short : Numeral.IsShort parent)
    (named : NamesChildren (ProcessListing.ofLines none listing).records parent lines)
    (printed : (source (config.childCommand ++ " " ++ Numeral.text parent)).perform world =
      (.ok lines, after)) :
    (childPids source config parent).perform world =
        (.ok (indexed (childIndex (ProcessListing.ofLines none listing).records) parent), after) ∧
      ∀ pid ∈ indexed (childIndex (ProcessListing.ofLines none listing).records) parent,
        pid ∈ ProcessTree.descendants (ProcessListing.ofLines none listing).records parent := by
  have shorts : ∀ process ∈ (ProcessListing.ofLines none listing).records,
      Numeral.IsShort process.pid := by
    intro process mem
    obtain ⟨row, _, read⟩ := List.mem_filterMap.1 mem
    exact ProcessRow.isShort_of_read? read _ List.mem_cons_self
  have same := childPidsOf_eq_children named shorts natural short
  have written : Numeral.text? parent = .ok (Numeral.text parent) :=
    Numeral.text?_eq_ok_iff.2 ⟨short, rfl⟩
  rw [indexed_childIndex]
  constructor
  · simp only [childPids, Action.perform_bind, Action.perform_ofExcept, written, printed, same,
      Action.perform_pure]
  · intro pid child
    obtain ⟨process, mem, rfl, rfl, apart⟩ := mem_children.1 child
    exact mem_descendants.2
      ⟨apart, .child (List.mem_filter.2 ⟨mem, by simpa using apart⟩) rfl⟩

/-- A process that is its own parent, and three rows of its children, two of which have one pid. -/
def sharedPid : List ProcessRecord :=
  let process (pid parentPid : Int) (fullArgs : String) : ProcessRecord :=
    ⟨pid, parentPid, "S", "root", 0, "root", 0, 1, 59, 2048, 512, "01:00", "00:01", "sh", fullArgs⟩
  [process 0 0 "sched", process 7 0 "old", process 30 0 "init", process 7 0 "new", process 9 7 "sh"]

def sharedPidListing : List String :=
  ProcessListing.write "S PID" (sharedPid.map fun process => (RowLayout.plain, process))

def untidyAnswer : List String := ["0", " 30\t", "", "7", "  ", "7 "]

theorem childPids_eq_indexed_sharedPid :
    (∀ process ∈ (ProcessListing.ofLines none sharedPidListing).records, 0 ≤ process.pid) ∧
      NamesChildren (ProcessListing.ofLines none sharedPidListing).records 0 untidyAnswer ∧
      (childPids Replay.source {} 0).perform { outputs := [("pgrep -P 0", .ok untidyAnswer)] } =
        (.ok (indexed (childIndex (ProcessListing.ofLines none sharedPidListing).records) 0),
          { outputs := [("pgrep -P 0", .ok untidyAnswer)], commands := ["pgrep -P 0"] }) ∧
      (∀ pid ∈ indexed (childIndex (ProcessListing.ofLines none sharedPidListing).records) 0,
        pid ∈ ProcessTree.descendants (ProcessListing.ofLines none sharedPidListing).records 0) ∧
      indexed (childIndex (ProcessListing.ofLines none sharedPidListing).records) 0 =
        PidSet.ofList [7, 30] := by
  have listable : ∀ process ∈ sharedPid, ProcessRow.IsListable process := by decide +kernel
  have records : (ProcessListing.ofLines none sharedPidListing).records = sharedPid := by
    rw [sharedPidListing, ProcessListing.ofLines_write]
    · simp only [List.map_map, Function.comp_def, List.map_id']
    · simpa using listable
  have natural : ∀ process ∈ (ProcessListing.ofLines none sharedPidListing).records,
      0 ≤ process.pid := by
    rw [records]
    decide
  have named : NamesChildren (ProcessListing.ofLines none sharedPidListing).records 0
      untidyAnswer := by
    rw [records]
    exact ⟨by decide +kernel, by decide +kernel⟩
  have printed : (Replay.source (({} : Config).childCommand ++ " " ++ Numeral.text 0)).perform
      { outputs := [("pgrep -P 0", .ok untidyAnswer)] } = (.ok untidyAnswer, _) := rfl
  obtain ⟨answered, below⟩ :=
    childPids_eq_indexed sharedPidListing natural Numeral.isShort_zero named printed
  refine ⟨natural, named, answered, below, ?_⟩
  rw [records, indexed_childIndex]
  decide

end ProcessLister

end HostInventory

namespace HostInventory.ProcessLister

variable {σ : Type} {source : CommandSource σ} {config : Config} {parent q : Int}
  {lines : List String} {line : String} {world : σ}

theorem shows_strip : Numeral.Shows (Text.strip line) q ↔ Numeral.Shows line q := by
  rw [Numeral.shows_iff_denotes, Numeral.shows_iff_denotes, Text.toList_strip,
    Text.stripChars_stripChars]

theorem strip_ne_empty (shows : Numeral.Shows line q) : Text.strip line ≠ "" := by
  intro empty
  obtain ⟨_, letters, _, _, _, text, denotes⟩ := shows_strip.mpr shows
  rw [empty, List.append_assoc] at text
  have inner := (List.append_eq_nil_iff.mp text.symm).2
  exact denotes.isWord.1 (List.append_eq_nil_iff.mp inner).1

/-- The reader gives a number from zero on only where the line shows it: its default is negative. -/
theorem integerOr_eq_iff (natural : 0 ≤ q) :
    Numeral.integerOr (-1) (Text.strip line) = q ↔ Numeral.Shows line q := by
  rw [← shows_strip]
  constructor
  · intro read
    by_cases some : ∃ n, Numeral.Shows (Text.strip line) n
    · obtain ⟨n, shows⟩ := some
      rwa [← read, Numeral.integerOr_of_shows _ shows]
    · rw [Numeral.integerOr_of_not_shows _ (not_exists.mp some)] at read
      omega
  · exact Numeral.integerOr_of_shows _

theorem mem_childPidsOf_iff_shows {shown : String} :
    q ∈ childPidsOf shown lines ↔
      0 ≤ q ∧ ∃ line ∈ lines, Numeral.Shows line q ∧ Text.strip line ≠ shown := by
  rw [mem_childPidsOf]
  refine and_congr_right fun natural => exists_congr fun line => and_congr_right fun _ => ?_
  rw [integerOr_eq_iff natural]
  constructor
  · rintro ⟨_, other, shows⟩
    exact ⟨shows, other⟩
  · rintro ⟨shows, other⟩
    exact ⟨strip_ne_empty shows, other, shows⟩

theorem eq_of_shows_text (short : Numeral.IsShort parent) (shows : Numeral.Shows line q)
    (same : Text.strip line = Numeral.text parent) : q = parent := by
  have read := Numeral.integerOr_of_shows 0 (shows_strip.mpr shows)
  rw [same, Numeral.integerOr_text short] at read
  exact read.symm

/-- The pids that are found in the lines that the child command prints. -/
structure Finds (source : CommandSource σ) (config : Config) (parent : Int) (world : σ) : Prop where
  /-- A parent with too many digits cannot be asked about. -/
  unwritable : ¬ Numeral.IsShort parent →
    (childPids source config parent).perform world = (.error .unwritable, world)
  unanswered : ∀ failure left, Numeral.IsShort parent →
    (source (config.childCommand ++ " " ++ Numeral.text parent)).perform world =
        (.error failure, left) →
      (childPids source config parent).perform world = (.error failure, left)
  /-- Whatever is printed, the pids are the integers from zero on that the lines show, the parent
  only where a line spells it in another way than the question did. -/
  answered : ∀ lines left, Numeral.IsShort parent →
    (source (config.childCommand ++ " " ++ Numeral.text parent)).perform world =
        (.ok lines, left) →
      ∃ pids, (childPids source config parent).perform world = (.ok pids, left) ∧
        ∀ q, q ∈ pids ↔ 0 ≤ q ∧ ∃ line ∈ lines, Numeral.Shows line q ∧
          (q = parent → Text.strip line ≠ Numeral.text parent)

theorem finds_shown (source : CommandSource σ) (config : Config) (parent : Int) (world : σ) :
    Finds source config parent world := by
  constructor
  case unwritable =>
    intro long
    have unwritten : Numeral.text? parent = .error .unwritable :=
      if_neg (mt (Numeral.length_text_le_iff parent).mp long)
    simp only [childPids, Action.perform_bind, Action.perform_ofExcept, unwritten]
  case unanswered =>
    intro failure left short failed
    have written := Numeral.text?_eq_ok_iff.mpr ⟨short, rfl⟩
    simp only [childPids, Action.perform_bind, Action.perform_ofExcept, written, failed]
  case answered =>
    intro lines left short printed
    have written := Numeral.text?_eq_ok_iff.mpr ⟨short, rfl⟩
    refine ⟨childPidsOf (Numeral.text parent) lines, ?_, ?_⟩
    · simp only [childPids, Action.perform_bind, Action.perform_ofExcept, written, printed,
        Action.perform_pure]
    · intro q
      rw [mem_childPidsOf_iff_shows]
      refine and_congr_right fun _ => exists_congr fun line => and_congr_right fun _ => ?_
      refine and_congr_right fun shows => ⟨fun other _ => other, fun other same => ?_⟩
      exact other (eq_of_shows_text short shows same) same

/-- A host whose child command spells the parent with a sign. -/
def signedAnswer : Replay := { outputs := [("pgrep -P 10", .ok ["+10"])] }

/-- A process can be found among its own children. -/
theorem finds_parent :
    ¬ ∀ (parent : Int) (pids : PidSet) (left : Replay),
      (childPids Replay.source {} parent).perform signedAnswer = (.ok pids, left) →
        parent ∉ pids := by
  intro never
  have found : (childPids Replay.source {} 10).perform signedAnswer =
      (.ok (.ofList [10]), { signedAnswer with commands := ["pgrep -P 10"] }) := by rfl
  exact never 10 _ _ found (by decide)

end HostInventory.ProcessLister
