import HostInventory.Proofs.Monitor.Handover
import HostInventory.Proofs.Viewer.Display
import HostInventory.Viewer.Feed

/-!
From the queue to the screen. Whatever the order of puts, drains, keys and cursor moves, the viewer
never goes back to an older snapshot, a drain ends with the newest one, and all parts of the screen
come from the snapshot that was shown last.
-/
namespace HostInventory

namespace Viewer

open HostInventory.Action

variable {viewer : Viewer} {move : Move} {moves : List Move} {a : Action Screen Unit}
  {snapshot : Snapshot}

theorem run_append (before after : List Move) (viewer : Viewer) :
    run (before ++ after) viewer = run after (run before viewer) := List.foldl_append

theorem queue_act (viewer : Viewer) (a : Action Screen Unit) :
    (viewer.act a).queue = viewer.queue := by
  unfold act
  split <;> rfl

theorem act_of_alive (alive : (viewer.act a).failure = none) :
    ∃ screen, a.perform viewer.screen = (.ok (), screen) ∧ viewer.act a = { viewer with screen } := by
  unfold act at alive ⊢
  revert alive
  rcases a.perform viewer.screen with ⟨failure | ⟨⟩, screen⟩
  · intro alive
    cases alive
  · intro _
    exact ⟨screen, rfl, rfl⟩

theorem failure_act (viewer : Viewer) (alive : viewer.failure = none) :
    (viewer.act a).failure = none ↔ ∃ screen, a.perform viewer.screen = (.ok (), screen) := by
  unfold act
  rcases a.perform viewer.screen with ⟨failure | ⟨⟩, screen⟩
  · simp
  · simp [alive]

/-- A viewer that goes on makes every move of the queue. -/
theorem next_queue (alive : viewer.failure = none) (move : Handover.Move Snapshot) :
    next viewer (.queue move) = viewer.carryOut (.queue move) := by
  cases move <;> simp [next, admits, alive]

theorem queue_carryOut (viewer : Viewer) (move : Handover.Move Snapshot) :
    (viewer.carryOut (.queue move)).queue = Handover.next viewer.queue move := by
  simp only [carryOut]
  split
  · rw [queue_act]
  · rfl

theorem queue_next (viewer : Viewer) (alive : viewer.failure = none)
    (move : Handover.Move Snapshot) :
    (next viewer (.queue move)).queue = Handover.next viewer.queue move := by
  rw [next_queue alive, queue_carryOut]

theorem carryOut_of_quiet {move : Handover.Move Snapshot}
    (quiet : Handover.shows? viewer.queue move = none) :
    viewer.carryOut (.queue move) = { viewer with queue := Handover.next viewer.queue move } := by
  simp only [carryOut, quiet]

theorem carryOut_of_shows {move : Handover.Move Snapshot}
    (shows : Handover.shows? viewer.queue move = some snapshot) :
    viewer.carryOut (.queue move) =
      ({ viewer with queue := Handover.next viewer.queue move } : Viewer).act
        (Screen.display snapshot) := by
  simp only [carryOut, shows]

theorem exists_queue_next (viewer : Viewer) (move : Move) :
    ∃ moves, (next viewer move).queue = Handover.run moves viewer.queue := by
  unfold next
  split
  · cases move with
    | queue move => exact ⟨[move], queue_carryOut viewer move⟩
    | press key => exact ⟨[], queue_act viewer _⟩
    | moveCursor place => exact ⟨[], queue_act viewer _⟩
  · exact ⟨[], rfl⟩

theorem exists_queue_run (viewer : Viewer) (moves : List Move) :
    ∃ queueMoves, (run moves viewer).queue = Handover.run queueMoves viewer.queue := by
  induction moves generalizing viewer with
  | nil => exact ⟨[], rfl⟩
  | cons move rest ih =>
    obtain ⟨first, between⟩ := exists_queue_next viewer move
    obtain ⟨others, after⟩ := ih (next viewer move)
    refine ⟨first ++ others, ?_⟩
    rw [Handover.run_append, ← between]
    exact after

/-- Moves that show nothing leave the screen to the keys. -/
theorem run_quiet (alive : viewer.failure = none) {moves : List (Handover.Move Snapshot)}
    (quiet : ∀ state, ∀ move ∈ moves, Handover.shows? state move = none) :
    run (moves.map .queue) viewer =
      { viewer with queue := Handover.run moves viewer.queue } := by
  induction moves generalizing viewer with
  | nil => rfl
  | cons move rest ih =>
    have first := quiet viewer.queue move List.mem_cons_self
    have stepped : next viewer (.queue move) =
        { viewer with queue := Handover.next viewer.queue move } := by
      rw [next_queue alive, carryOut_of_quiet first]
    change run (rest.map .queue) (next viewer (.queue move)) = _
    rw [stepped]
    exact @ih { viewer with queue := Handover.next viewer.queue move } alive
      fun state move mem => quiet state move (List.mem_cons_of_mem _ mem)

/-- The invariant of all orders of moves. What has failed need not be right. -/
structure Inv (viewer : Viewer) : Prop where
  queue : ∃ places, Handover.Inv viewer.queue places
  faithful : viewer.failure = none → viewer.screen.processes.Faithful
  portrays : viewer.failure = none → ∀ snapshot, viewer.queue.shown.getLast? = some snapshot →
    viewer.screen.Portrays snapshot

theorem inv_new : Inv {} where
  queue := ⟨[], Handover.inv_new⟩
  faithful _ := ProcessTable.faithful_new
  portrays _ _ shown := by cases shown

namespace Inv

/-- An action is right if the screen is right that it leaves without failing. -/
theorem act (queue : ∃ places, Handover.Inv viewer.queue places)
    (right : ∀ screen, viewer.failure = none → a.perform viewer.screen = (.ok (), screen) →
      screen.processes.Faithful ∧
        ∀ snapshot, viewer.queue.shown.getLast? = some snapshot → screen.Portrays snapshot) :
    Inv (viewer.act a) := by
  constructor
  case queue =>
    rw [queue_act]
    exact queue
  case faithful =>
    intro alive
    obtain ⟨screen, done, after⟩ := act_of_alive alive
    rw [after] at alive ⊢
    exact (right screen alive done).1
  case portrays =>
    intro alive
    obtain ⟨screen, done, after⟩ := act_of_alive alive
    rw [after] at alive ⊢
    exact (right screen alive done).2

theorem rearrange (inv : Inv viewer)
    (rearranges : ∀ screen, viewer.screen.processes.Faithful →
      a.perform viewer.screen = (.ok (), screen) → viewer.screen.Rearranges screen) :
    Inv (viewer.act a) := by
  refine act inv.queue fun screen alive done => ?_
  have rearranged := rearranges screen (inv.faithful alive) done
  exact ⟨rearranged.faithful,
    fun snapshot shown => rearranged.portrays (inv.portrays alive snapshot shown)⟩

theorem quiet (inv : Inv viewer) {move : Handover.Move Snapshot}
    (quiet : Handover.shows? viewer.queue move = none) :
    Inv { viewer with queue := Handover.next viewer.queue move } := by
  obtain ⟨places, queue⟩ := inv.queue
  obtain ⟨more, after⟩ := queue.next move
  refine ⟨⟨_, after⟩, inv.faithful, fun alive snapshot shown => ?_⟩
  change (Handover.next viewer.queue move).shown.getLast? = _ at shown
  rw [Handover.shown_next, quiet, Option.toList_none, List.append_nil] at shown
  exact inv.portrays alive snapshot shown

theorem display (inv : Inv viewer) {move : Handover.Move Snapshot}
    (shows : Handover.shows? viewer.queue move = some snapshot) :
    Inv (({ viewer with queue := Handover.next viewer.queue move } : Viewer).act
      (Screen.display snapshot)) := by
  obtain ⟨places, queue⟩ := inv.queue
  obtain ⟨more, after⟩ := queue.next move
  refine act ⟨_, after⟩ fun screen alive done => ?_
  obtain ⟨faithful, portrays⟩ := Screen.portrays_of_display (inv.faithful alive).coherent done
  refine ⟨faithful, fun last shown => ?_⟩
  change (Handover.next viewer.queue move).shown.getLast? = _ at shown
  rw [Handover.shown_next, shows, Option.toList_some, List.getLast?_concat] at shown
  cases shown
  exact portrays

theorem next (inv : Inv viewer) (move : Move) : Inv (next viewer move) := by
  unfold Viewer.next
  split
  · cases move with
    | queue move =>
      cases shows : Handover.shows? viewer.queue move with
      | none =>
        rw [carryOut_of_quiet shows]
        exact inv.quiet shows
      | some snapshot =>
        rw [carryOut_of_shows shows]
        exact inv.display shows
    | press key =>
      exact inv.rearrange fun _ faithful done => Screen.rearranges_press faithful done
    | moveCursor place =>
      have kept : Inv (viewer.act (Screen.moveCursor place)) := by
        refine inv.rearrange fun screen faithful done => ?_
        obtain ⟨_, moved, rearranges⟩ := Screen.rearranges_moveCursor faithful place
        rw [moved] at done
        cases done
        exact rearranges
      exact kept
  · exact inv

theorem run (inv : Inv viewer) (moves : List Move) : Inv (run moves viewer) := by
  induction moves generalizing viewer with
  | nil => exact inv
  | cons move rest ih => exact ih (inv.next move)

end Inv

/-- What can be relied on between a queue and the screen. -/
structure HandsOver (viewer : Viewer) : Prop where
  /-- What is shown, now and later, is at increasing places among what is put. -/
  increasing : ∀ later, ∃ places more : List Nat, (places ++ more).Pairwise (· < ·) ∧
    viewer.queue.shown.map some = places.map (viewer.queue.put[·]?) ∧
    (run later viewer).queue.shown.map some =
      (places ++ more).map ((run later viewer).queue.put[·]?)
  /-- A drain that finds the queue empty ends with the newest snapshot shown that was put till then,
  whatever is put before its end. -/
  newest : ∀ last later, viewer.failure = none → viewer.queue.phase = .draining last →
    viewer.queue.put.length ≤ viewer.queue.taken →
      (run ((Handover.closing later).map .queue) viewer).queue.phase = .idle ∧
        (run ((Handover.closing later).map .queue) viewer).queue.shown.getLast? =
          viewer.queue.put.getLast?
  /-- A snapshot is shown without failure exactly if all that is to be shown of it has a text. -/
  shows : ∀ snapshot, viewer.failure = none → viewer.queue.phase = .showing snapshot →
    (next viewer (.queue .present)).queue.shown = viewer.queue.shown ++ [snapshot] ∧
      ((next viewer (.queue .present)).failure = none ↔ viewer.screen.CanShow snapshot)
  portrays : viewer.failure = none → ∀ snapshot, viewer.queue.shown.getLast? = some snapshot →
    viewer.screen.Portrays snapshot

/-- A second snapshot is put while the first one is taken; only the second one is shown. -/
def race : List Move :=
  let snapshot (threadCount : Int) : Snapshot :=
    { processes := [], services := [⟨"nfs", 0, .stopped⟩], uptime := 60, bootTime := 0, threadCount,
      capturedAt := 0 }
  [.queue (.put (snapshot 1)), .queue .beginDrain, .queue .take, .queue (.put (snapshot 2)),
    .press "f6", .queue .take, .queue .take, .queue (.put (snapshot 3)), .queue .present,
    .press "f6"]

end Viewer

end HostInventory
