import HostInventory.Process.Tree
import Mathlib.Data.List.Chain
import Mathlib.Logic.Relation

/-!
What is below a process. The worklist loop finds exactly what can be reached along links through
pids that were unvisited when it started, so `descendants` holds the ends of the chains of links
that leave the start and do not come back to it. What is below a process further down is below the
upper one too, and is always less exactly if there are no cycles.
-/
namespace HostInventory.ProcessTree

open Relation (TransGen ReflTransGen)

/-- Some record makes `q` a child of `p`. -/
def Linked (records : List ProcessRecord) (p q : Int) : Prop :=
  ∃ process ∈ records, process.parentPid = p ∧ process.pid = q ∧ process.pid ≠ process.parentPid

theorem mem_children {records : List ProcessRecord} {p q : Int} :
    q ∈ children records p ↔ Linked records p q := by
  simp only [children, links, PidSet.mem_ofList, List.mem_map, List.mem_filter, decide_eq_true_eq,
    Linked]
  constructor
  · rintro ⟨process, ⟨⟨mem, other⟩, parent⟩, same⟩
    exact ⟨process, mem, parent, same, other⟩
  · rintro ⟨process, mem, parent, same, other⟩
    exact ⟨process, ⟨⟨mem, other⟩, parent⟩, same⟩

theorem below_iff_transGen {records : List ProcessRecord} {p q : Int} :
    Below records p q ↔ TransGen (Linked records) p q := by
  constructor
  · intro h
    induction h with
    | child mem parent =>
      obtain ⟨mem, other⟩ := List.mem_filter.1 mem
      exact .single ⟨_, mem, parent, rfl, by simpa using other⟩
    | further _ mem parent ih =>
      obtain ⟨mem, other⟩ := List.mem_filter.1 mem
      exact .tail ih ⟨_, mem, parent, rfl, by simpa using other⟩
  · intro h
    induction h with
    | single link =>
      obtain ⟨process, mem, parent, rfl, other⟩ := link
      exact .child (List.mem_filter.2 ⟨mem, by simpa using other⟩) parent
    | tail _ link ih =>
      obtain ⟨process, mem, parent, rfl, other⟩ := link
      exact .further ih (List.mem_filter.2 ⟨mem, by simpa using other⟩) parent

section Worklist

variable {next : Int → PidSet} {queue unvisited : List Int} {p q : Int}

/-- A link to a pid that is unvisited. -/
def Fresh (next : Int → PidSet) (unvisited : List Int) (p q : Int) : Prop :=
  q ∈ next p ∧ q ∈ unvisited

theorem Fresh.of_outside {a : Int} (h : Fresh next ((next a).outside unvisited) p q) :
    Fresh next unvisited p q := ⟨h.1, (PidSet.mem_outside.1 h.2).1⟩

/-- A path of fresh links either avoids the children of `a`, or its last part starts at the last one
that it meets. -/
theorem split_at_last_child (a : Int) (path : TransGen (Fresh next unvisited) p q) :
    TransGen (Fresh next ((next a).outside unvisited)) p q ∨
      ∃ m ∈ (next a).among unvisited,
        ReflTransGen (Fresh next ((next a).outside unvisited)) m q := by
  induction path with
  | @single b link =>
    by_cases child : b ∈ next a
    · exact .inr ⟨b, PidSet.mem_among.2 ⟨link.2, child⟩, .refl⟩
    · exact .inl (.single ⟨link.1, PidSet.mem_outside.2 ⟨link.2, child⟩⟩)
  | @tail b c _ link ih =>
    by_cases child : c ∈ next a
    · exact .inr ⟨c, PidSet.mem_among.2 ⟨link.2, child⟩, .refl⟩
    · have fresh : Fresh next ((next a).outside unvisited) b c :=
        ⟨link.1, PidSet.mem_outside.2 ⟨link.2, child⟩⟩
      rcases ih with path | ⟨m, mem, path⟩
      · exact .inl (path.tail fresh)
      · exact .inr ⟨m, mem, path.tail fresh⟩

theorem path_of_mem_reach (found : q ∈ reach next queue unvisited) :
    ∃ p ∈ queue, TransGen (Fresh next unvisited) p q := by
  fun_induction reach next queue unvisited with
  | case1 unvisited => cases found
  | case2 unvisited pid queue children ih =>
    rcases List.mem_append.1 found with child | later
    · obtain ⟨mem, child⟩ := PidSet.mem_among.1 child
      exact ⟨pid, List.mem_cons_self, .single ⟨child, mem⟩⟩
    · obtain ⟨p, mem, path⟩ := ih later
      have path := TransGen.mono (fun _ _ => Fresh.of_outside) _ _ path
      rcases List.mem_append.1 mem with waiting | child
      · exact ⟨p, List.mem_cons_of_mem _ waiting, path⟩
      · obtain ⟨mem, child⟩ := PidSet.mem_among.1 child
        exact ⟨pid, List.mem_cons_self, .head ⟨child, mem⟩ path⟩

theorem mem_reach_of_path (path : ∃ p ∈ queue, TransGen (Fresh next unvisited) p q) :
    q ∈ reach next queue unvisited := by
  fun_induction reach next queue unvisited with
  | case1 unvisited =>
    obtain ⟨p, mem, _⟩ := path
    cases mem
  | case2 unvisited pid queue children ih =>
    obtain ⟨p, mem, path⟩ := path
    refine List.mem_append.2 ?_
    rcases split_at_last_child pid path with path | ⟨m, child, path⟩
    · rcases List.mem_cons.1 mem with rfl | waiting
      · -- the first link of a path from `p` goes to a child of `p`
        obtain ⟨b, link, _⟩ := TransGen.head'_iff.1 path
        exact absurd link.1 (PidSet.mem_outside.1 link.2).2
      · exact .inr (ih ⟨p, List.mem_append_left _ waiting, path⟩)
    · rcases ReflTransGen.cases_head path with rfl | ⟨b, link, path⟩
      · exact .inl child
      · exact .inr (ih ⟨m, List.mem_append_right _ child, .head' link path⟩)

theorem mem_reach_iff :
    q ∈ reach next queue unvisited ↔ ∃ p ∈ queue, TransGen (Fresh next unvisited) p q :=
  ⟨path_of_mem_reach, mem_reach_of_path⟩

end Worklist

variable {records : List ProcessRecord} {start p q : Int}

/-- The pids that the search from `start` has not visited when it begins. -/
theorem mem_unvisited :
    q ∈ (PidSet.ofList (records.map (·.pid))).toList.filter (· ≠ start) ↔
      (∃ process ∈ records, process.pid = q) ∧ q ≠ start := by
  simp [← PidSet.mem_def]

theorem Linked.fresh (link : Linked records p q) (other : q ≠ start) :
    Fresh (children records)
      ((PidSet.ofList (records.map (·.pid))).toList.filter (· ≠ start)) p q := by
  refine ⟨mem_children.2 link, mem_unvisited.2 ⟨?_, other⟩⟩
  obtain ⟨process, mem, _, same, _⟩ := link
  exact ⟨process, mem, same⟩

/-- A path of links comes back to its start, or leads on from there without coming back. -/
theorem eq_or_fresh_of_path (path : TransGen (Linked records) start q) :
    q = start ∨ TransGen (Fresh (children records)
      ((PidSet.ofList (records.map (·.pid))).toList.filter (· ≠ start))) start q := by
  induction path with
  | @single b link =>
    by_cases back : b = start
    · exact .inl back
    · exact .inr (.single (link.fresh back))
  | @tail b c _ link ih =>
    by_cases back : c = start
    · exact .inl back
    · rcases ih with rfl | path
      · exact .inr (.single (link.fresh back))
      · exact .inr (path.tail (link.fresh back))

theorem mem_descendants :
    q ∈ descendants records start ↔ q ≠ start ∧ Below records start q := by
  rw [descendants, PidSet.mem_ofList, mem_reach_iff, below_iff_transGen]
  constructor
  · rintro ⟨p, mem, path⟩
    obtain rfl := List.mem_singleton.1 mem
    obtain ⟨_, _, last⟩ := TransGen.tail'_iff.1 path
    exact ⟨(mem_unvisited.1 last.2).2,
      TransGen.mono (fun _ _ link => mem_children.1 link.1) _ _ path⟩
  · rintro ⟨other, path⟩
    exact ⟨start, List.mem_singleton_self start, (eq_or_fresh_of_path path).resolve_left other⟩

/-- A path is a list of pids, each linked to the one before it. -/
theorem below_iff_chain :
    Below records p q ↔
      ∃ chain : List Int, (p :: chain).IsChain (Linked records) ∧ chain.getLast? = some q := by
  rw [below_iff_transGen]
  constructor
  · intro path
    induction path using TransGen.head_induction_on with
    | @single p link => exact ⟨[q], .cons_cons link (.singleton q), rfl⟩
    | @head p r link _ ih =>
      obtain ⟨chain, linked, last⟩ := ih
      exact ⟨r :: chain, .cons_cons link linked, by simp [List.getLast?_cons, last]⟩
  · rintro ⟨chain, linked, last⟩
    induction chain generalizing p with
    | nil => cases last
    | cons r chain ih =>
      obtain ⟨link, linked⟩ := List.isChain_cons_cons.1 linked
      cases chain with
      | nil =>
        obtain rfl := Option.some.inj last
        exact .single link
      | cons s chain => exact .head link (ih linked (by simpa [List.getLast?_cons] using last))

/-- The search ends, and finds the ends of all chains of links that lead from `start` to another
pid, and nothing else. -/
theorem mem_descendants_iff_chain (records : List ProcessRecord) (start q : Int) :
    q ∈ descendants records start ↔
      q ≠ start ∧
        ∃ chain : List Int, (start :: chain).IsChain (Linked records) ∧ chain.getLast? = some q := by
  rw [mem_descendants, below_iff_chain]

end HostInventory.ProcessTree

namespace HostInventory.ProcessTree

open Relation (TransGen)

variable {records : List ProcessRecord} {p q r : Int}

/-- No links lead from a process back to it. Records that are their own parents link nothing. -/
def IsAcyclic (records : List ProcessRecord) : Prop := ∀ pid, ¬ Below records pid pid

theorem Below.trans (upper : Below records p q) (lower : Below records q r) : Below records p r := by
  rw [below_iff_transGen] at upper lower ⊢
  exact upper.trans lower

theorem exists_between_of_cycle (cycle : Below records p p) :
    ∃ q, q ≠ p ∧ Below records p q ∧ Below records q p := by
  obtain ⟨q, link, back⟩ := TransGen.head'_iff.mp (below_iff_transGen.mp cycle)
  have apart : q ≠ p := by
    obtain ⟨process, _, parent, same, other⟩ := link
    rw [← parent, ← same]
    exact other
  refine ⟨q, apart, below_iff_transGen.mpr (.single link), below_iff_transGen.mpr ?_⟩
  rcases Relation.reflTransGen_iff_eq_or_transGen.mp back with same | path
  · exact absurd same.symm apart
  · exact path

theorem Below.lt (older : ∀ process ∈ links records, process.parentPid < process.pid)
    (below : Below records p q) : p < q := by
  induction below with
  | child mem parent =>
    rw [← parent]
    exact older _ mem
  | further _ mem parent ih =>
    have last := older _ mem
    rw [parent] at last
    exact Int.lt_trans ih last

/-- Where all parents have smaller pids than their children there are no cycles. -/
theorem isAcyclic_of_lt (older : ∀ process ∈ links records, process.parentPid < process.pid) :
    IsAcyclic records :=
  fun pid cycle => Int.lt_irrefl pid (cycle.lt older)

theorem eq_or_mem_of_mem_descendants (upper : q ∈ descendants records p)
    (lower : r ∈ descendants records q) : r = p ∨ r ∈ descendants records p := by
  obtain ⟨_, upper⟩ := mem_descendants.mp upper
  obtain ⟨_, lower⟩ := mem_descendants.mp lower
  by_cases back : r = p
  · exact .inl back
  · exact .inr (mem_descendants.mpr ⟨back, upper.trans lower⟩)

theorem not_mem_descendants_self : q ∉ descendants records q :=
  fun mem => (mem_descendants.mp mem).1 rfl

theorem IsAcyclic.mem_descendants_of_mem (acyclic : IsAcyclic records)
    (upper : q ∈ descendants records p) (lower : r ∈ descendants records q) :
    r ∈ descendants records p := by
  rcases eq_or_mem_of_mem_descendants upper lower with rfl | mem
  · have down := (mem_descendants.mp upper).2
    have back := (mem_descendants.mp lower).2
    exact absurd (down.trans back) (acyclic r)
  · exact mem

/-- A list has no cycles just when searching from what a search found always finds less. -/
theorem isAcyclic_iff :
    IsAcyclic records ↔ ∀ p q, q ∈ descendants records p →
      (∀ r ∈ descendants records q, r ∈ descendants records p) ∧
        ∃ r ∈ descendants records p, r ∉ descendants records q := by
  constructor
  · intro acyclic p q upper
    exact ⟨fun r lower => acyclic.mem_descendants_of_mem upper lower,
      q, upper, not_mem_descendants_self⟩
  · -- On a cycle there is another pid, below which the first one is found although it never is
    -- below itself.
    intro narrows pid cycle
    obtain ⟨q, apart, down, back⟩ := exists_between_of_cycle cycle
    have upper : q ∈ descendants records pid := mem_descendants.mpr ⟨apart, down⟩
    have lower : pid ∈ descendants records q := mem_descendants.mpr ⟨apart.symm, back⟩
    exact not_mem_descendants_self ((narrows pid q upper).1 pid lower)

end HostInventory.ProcessTree
