import HostInventory.Monitor.Handover

/-!
Whatever the order of puts, takes and shows, elements are shown in the order in which they were put,
none twice, and a drain ends with the newest element that was there when it found the queue empty.
-/
namespace HostInventory.Handover

variable {α : Type} {state : State α} {element : α} {move : Move α} {moves : List (Move α)}
  {places : List Nat}

/-- The element that has been taken in the drain at hand and not yet been shown. -/
def Phase.pending : Phase α → Option α
  | .idle => none
  | .draining last => last
  | .showing element => some element

theorem Phase.pending_ofTaken (last : Option α) : (Phase.ofTaken last).pending = last := by
  cases last <;> rfl

/-- The invariant of all orders of moves. `places` are the places at which what has been shown stands
among what has been put. -/
structure Inv (state : State α) (places : List Nat) : Prop where
  counted : state.taken ≤ state.put.length
  increasing : places.Pairwise (· < ·)
  before : ∀ place ∈ places, place < state.taken
  shown : state.shown.map some = places.map (state.put[·]?)
  /-- What is pending, or else what was shown last, is what was taken last. -/
  newest : state.phase.pending.or state.shown.getLast? = (state.put.take state.taken).getLast?
  pending : ∀ element, state.phase.pending = some element →
    ∃ place, state.taken = place + 1 ∧ state.put[place]? = some element ∧
      ∀ earlier ∈ places, earlier < place

theorem inv_new : Inv ({} : State α) [] where
  counted := Nat.le_refl 0
  increasing := .nil
  before _ mem := by cases mem
  shown := rfl
  newest := rfl
  pending _ given := by cases given

namespace Inv

theorem put (inv : Inv state places) (element : α) :
    Inv { state with put := state.put ++ [element] } places := by
  have counted := inv.counted
  constructor
  case counted => exact Nat.le_trans counted (by simp)
  case increasing => exact inv.increasing
  case before => exact inv.before
  case shown =>
    rw [inv.shown]
    -- What is shown has been taken, so a later put does not move it.
    refine List.map_congr_left fun place mem => ?_
    have inside : place < state.put.length := Nat.lt_of_lt_of_le (inv.before place mem) counted
    exact (List.getElem?_append_left inside).symm
  case newest =>
    rw [List.take_append_of_le_length counted]
    exact inv.newest
  case pending =>
    intro last given
    obtain ⟨place, taken, found, later⟩ := inv.pending last given
    have inside : place < state.put.length := by omega
    exact ⟨place, taken, (List.getElem?_append_left inside).trans found, later⟩

theorem turn (inv : Inv state places) {phase : Phase α}
    (same : phase.pending = state.phase.pending) : Inv { state with phase } places where
  counted := inv.counted
  increasing := inv.increasing
  before := inv.before
  shown := inv.shown
  newest := by rw [same]; exact inv.newest
  pending := by rw [same]; exact inv.pending

theorem take (inv : Inv state places) (found : state.put[state.taken]? = some element) :
    Inv { state with taken := state.taken + 1, phase := .draining (some element) } places := by
  have inside : state.taken < state.put.length := (List.getElem?_eq_some_iff.1 found).1
  constructor
  case counted => exact inside
  case increasing => exact inv.increasing
  case before => exact fun place mem => Nat.lt_succ_of_lt (inv.before place mem)
  case shown => exact inv.shown
  case newest =>
    rw [List.take_add_one, found, Option.toList_some, List.getLast?_concat]
    rfl
  case pending =>
    rintro _ ⟨⟩
    exact ⟨state.taken, rfl, found, inv.before⟩

theorem present (inv : Inv state places) (given : state.phase = .showing element) :
    ∃ place, Inv { state with phase := .idle, shown := state.shown ++ [element] }
      (places ++ [place]) := by
  have pending : state.phase.pending = some element := by rw [given]; rfl
  have newest := inv.newest
  obtain ⟨place, taken, found, later⟩ := inv.pending element pending
  refine ⟨place, inv.counted, ?_, ?_, ?_, ?_, nofun⟩
  · rw [List.pairwise_append]
    refine ⟨inv.increasing, List.pairwise_singleton _ _, fun earlier mem _ last => ?_⟩
    rw [List.mem_singleton.1 last]
    exact later earlier mem
  · intro shown mem
    rw [List.mem_append, List.mem_singleton] at mem
    rcases mem with mem | rfl
    · exact inv.before shown mem
    · exact taken ▸ Nat.lt_succ_self _
  · rw [List.map_append, List.map_append, inv.shown, List.map_singleton, List.map_singleton, found]
  · rw [pending] at newest
    rw [List.getLast?_concat]
    exact newest

theorem next (inv : Inv state places) (move : Move α) :
    ∃ more, Inv (next state move) (places ++ more) := by
  have unchanged : ∃ more, Inv state (places ++ more) := ⟨[], by rwa [List.append_nil]⟩
  cases phase : state.phase with
  | idle =>
    cases move with
    | put element => exact ⟨[], by rw [List.append_nil]; exact inv.put element⟩
    | beginDrain =>
      simp only [Handover.next, phase]
      refine ⟨[], ?_⟩
      rw [List.append_nil]
      exact inv.turn (by rw [phase]; rfl)
    | take | present =>
      simp only [Handover.next, phase]
      exact unchanged
  | draining last =>
    cases move with
    | put element => exact ⟨[], by rw [List.append_nil]; exact inv.put element⟩
    | take =>
      simp only [Handover.next, phase]
      refine ⟨[], ?_⟩
      rw [List.append_nil]
      cases found : state.put[state.taken]? with
      | none => exact inv.turn (by rw [phase, Phase.pending_ofTaken]; rfl)
      | some element => exact inv.take found
    | beginDrain | present =>
      simp only [Handover.next, phase]
      exact unchanged
  | showing element =>
    cases move with
    | put element => exact ⟨[], by rw [List.append_nil]; exact inv.put element⟩
    | present =>
      simp only [Handover.next, phase]
      obtain ⟨place, after⟩ := inv.present phase
      exact ⟨[place], after⟩
    | beginDrain | take =>
      simp only [Handover.next, phase]
      exact unchanged

theorem run (inv : Inv state places) (moves : List (Move α)) :
    ∃ more, Inv (run moves state) (places ++ more) := by
  induction moves generalizing state places with
  | nil => exact ⟨[], by rwa [List.append_nil]⟩
  | cons move rest ih =>
    obtain ⟨first, between⟩ := inv.next move
    obtain ⟨others, after⟩ := ih between
    exact ⟨first ++ others, by rwa [List.append_assoc] at after⟩

end Inv

theorem shown_next (state : State α) (move : Move α) :
    (next state move).shown = state.shown ++ (shows? state move).toList := by
  cases phase : state.phase with
  | idle => cases move <;> simp [next, shows?, phase]
  | draining last =>
    cases move with
    | put | beginDrain | present => simp [next, shows?, phase]
    | take =>
      simp only [next, shows?, phase, Option.toList_none, List.append_nil]
      split <;> rfl
  | showing element => cases move <;> simp [next, shows?, phase]

theorem shows?_eq_some :
    shows? state move = some element ↔ move = .present ∧ state.phase = .showing element := by
  cases move with
  | put | beginDrain | take => simp [shows?]
  | present => cases phase : state.phase <;> simp [shows?, phase]

theorem shows?_of_mem_closing {later : List α} (mem : move ∈ Move.take :: later.map .put) :
    shows? state move = none := by
  rw [List.mem_cons, List.mem_map] at mem
  rcases mem with rfl | ⟨element, _, rfl⟩
  · rfl
  · rfl

theorem run_append (before after : List (Move α)) (state : State α) :
    run (before ++ after) state = run after (run before state) := List.foldl_append

theorem run_puts (elements : List α) (state : State α) :
    run (elements.map .put) state = { state with put := state.put ++ elements } := by
  induction elements generalizing state with
  | nil => simp [run]
  | cons element rest ih =>
    have after := ih (next state (.put element))
    simp only [next, List.append_assoc, List.singleton_append] at after
    exact after

/-- The moves by which a drain ends that finds the queue empty, while others still put. -/
def closing (later : List α) : List (Move α) := .take :: later.map .put ++ [.present]

/-- A drain that finds the queue empty ends with the newest element shown. -/
theorem newest_shown (inv : Inv state places) {last : Option α}
    (draining : state.phase = .draining last) (empty : state.put.length ≤ state.taken)
    (later : List α) :
    (run (closing later) state).phase = .idle ∧
      (run (closing later) state).shown.getLast? = state.put.getLast? := by
  have newest := inv.newest
  rw [List.take_of_length_le empty, draining] at newest
  have found : state.put[state.taken]? = none := List.getElem?_eq_none empty
  have seen : next state .take = { state with phase := .ofTaken last } := by
    simp only [next, draining, found]
  have closed : run (closing later) state =
      next { state with phase := .ofTaken last, put := state.put ++ later } .present := by
    change run (later.map .put ++ [.present]) (next state .take) = _
    rw [seen, run_append, run_puts]
    rfl
  rw [closed, ← newest]
  cases last with
  | none => exact ⟨rfl, rfl⟩
  | some element => exact ⟨rfl, List.getLast?_concat⟩

end HostInventory.Handover
