import HostInventory.Proofs.Monitor.Loops

/-!
Orderly runs of a monitor lose and duplicate nothing, whatever the polls give and whenever the
monitor is started again or stopped: at most one loop is alive, what it polls gets on the queue in
order, and between a stop and the next start nothing happens.
-/
namespace HostInventory.Monitor

variable {α : Type} {state : State α} {polled : List (Except Failure α)} {on : Bool} {loop other : Nat}
  {move : Move α} {moves : List (Move α)} {outcome : Except Failure α}

@[simp] theorem successes_append (before after : List (Except Failure α)) :
    successes (before ++ after) = successes before ++ successes after := List.filterMap_append

/-- What the loop that the monitor knows of has polled and not yet put on the queue. -/
def State.held (state : State α) : List α :=
  match state.current with
  | some loop => (state.phase loop).held
  | none => []

theorem State.held_of_current (current : state.current = some loop) :
    state.held = (state.phase loop).held := by
  rw [held, current]

/-- The invariant of orderly runs: `polled` has been polled so far, and `on` says whether a start is
the last thing that was asked for. -/
structure Inv (state : State α) (polled : List (Except Failure α)) (on : Bool) : Prop where
  waitable : PollRate.isWaitable state.rate = true
  alone : ∀ loop, (state.phase loop).isAlive = true → state.current = some loop
  account : state.queued ++ state.held = successes polled
  turned : on = (state.current.isSome && !state.joining)
  stopping : state.joining = true → state.stopAsked = true ∧ ∃ loop, state.current = some loop
  running : ∀ loop, on = true → state.current = some loop →
    state.stopAsked = false ∧ (state.phase loop).isAlive = true

theorem inv_ofRate {rate : Float}
    (waitable : PollRate.isWaitable (PollRate.atLeastShortest rate) = true) :
    Inv (ofRate rate : State α) [] false where
  waitable := waitable
  alone loop alive := by cases alive
  account := rfl
  turned := rfl
  stopping joining := by cases joining
  running loop on := by cases on

namespace Inv

theorem joining_of_on (inv : Inv state polled true) : state.joining = false := by
  have turned := inv.turned
  cases joining : state.joining with
  | false => rfl
  | true => simp [joining] at turned

theorem exists_current (inv : Inv state polled true) : ∃ loop, state.current = some loop := by
  have turned := inv.turned
  cases current : state.current with
  | none => simp [current] at turned
  | some loop => exact ⟨loop, rfl⟩

theorem isRunning_of_on (inv : Inv state polled true) : state.isRunning = true := by
  obtain ⟨loop, current⟩ := inv.exists_current
  rw [State.isRunning_of_current current]
  exact (inv.running loop rfl current).2

theorem current_of_off (inv : Inv state polled false) (idle : state.joining = false) :
    state.current = none := by
  have turned := inv.turned
  rw [idle, Bool.not_false, Bool.and_true] at turned
  exact Option.isSome_eq_false_iff.1 turned.symm |> Option.isNone_iff_eq_none.1

theorem eq_of_isAlive (inv : Inv state polled on) (current : state.current = some loop)
    (alive : (state.phase other).isAlive = true) : other = loop :=
  Option.some.inj ((inv.alone other alive).symm.trans current)

theorem joining_of_rest (inv : Inv state polled on) (rest : state.current = none) :
    state.joining = false := by
  cases joining : state.joining with
  | false => rfl
  | true =>
    obtain ⟨_, loop, current⟩ := inv.stopping joining
    rw [rest] at current
    cases current

theorem ended_of_rest (inv : Inv state polled on) (rest : state.current = none) (loop : Nat) :
    state.phase loop = .ended := by
  rw [← LoopPhase.isAlive_eq_false]
  cases alive : (state.phase loop).isAlive with
  | false => rfl
  | true =>
    have current := inv.alone loop alive
    rw [rest] at current
    cases current

theorem start_of_on (inv : Inv state polled true) : start state = state := if_pos inv.isRunning_of_on

theorem start (inv : Inv state polled on) (idle : state.joining = false) :
    Inv (start state) polled true := by
  cases on with
  | true =>
    rw [inv.start_of_on]
    exact inv
  | false =>
    have rest := inv.current_of_off idle
    have stopped := State.isRunning_of_rest rest
    have phase := phase_start stopped
    rw [start_of_stopped stopped] at phase ⊢
    constructor
    case waitable => exact inv.waitable
    case alone =>
      intro loop alive
      rw [phase] at alive
      split at alive
      · next same => rw [same]
      · rw [inv.ended_of_rest rest] at alive
        cases alive
    case account =>
      have before := inv.account
      rw [State.held, rest] at before
      rw [State.held_of_current rfl, phase, if_pos rfl]
      exact before
    case turned => rw [idle]; rfl
    case stopping =>
      intro joining
      rw [idle] at joining
      cases joining
    case running =>
      intro loop _ current
      have same : loop = state.loops.length := (Option.some.inj current).symm
      rw [phase, if_pos same]
      exact ⟨rfl, rfl⟩

theorem askStop (inv : Inv state polled on) :
    Inv { state with stopAsked := true, joining := state.current.isSome } polled false where
  waitable := inv.waitable
  alone := inv.alone
  account := inv.account
  turned := by simp
  stopping joining := ⟨rfl, Option.isSome_iff_exists.1 joining⟩
  running loop on := by cases on

theorem endStop (inv : Inv state polled on) (joining : state.joining = true)
    (stopped : state.isRunning = false) :
    Inv { state with joining := false, current := none } polled on := by
  obtain ⟨_, loop, current⟩ := inv.stopping joining
  have off : on = false := by rw [inv.turned, joining]; simp
  have ended : state.phase loop = .ended := by
    rwa [State.isRunning_of_current current, LoopPhase.isAlive_eq_false] at stopped
  constructor
  case waitable => exact inv.waitable
  case alone =>
    intro other alive
    have dead : (state.phase other).isAlive = true := alive
    rw [inv.eq_of_isAlive current dead, ended] at dead
    cases dead
  case account =>
    have before := inv.account
    rwa [State.held_of_current current, ended] at before
  case turned => exact off
  case stopping => intro joining; cases joining
  case running => intro loop _ current; cases current

theorem stepLoop (inv : Inv state polled on) (number : Nat) (outcome : Except Failure α) :
    Inv (Monitor.stepLoop state number outcome)
      (polled ++ (polled? state (.loop number outcome)).toList) on := by
  cases alive : (state.phase number).isAlive with
  | false =>
    -- A step of a loop that has ended is no step; only the known loop can still be alive.
    have ended := LoopPhase.isAlive_eq_false.1 alive
    have silent : polled? state (.loop number outcome) = none := by simp only [polled?, ended]
    rw [stepLoop_of_ended ended, silent, Option.toList_none, List.append_nil]
    exact inv
  | true =>
    have current := inv.alone number alive
    have frame := frame_stepLoop state number outcome
    have current' := frame.current.trans current
    constructor
    case waitable => rw [frame.rate]; exact inv.waitable
    case alone =>
      intro other alive
      by_cases same : other = number
      · rw [current', same]
      · rw [frame.others other same] at alive
        rw [frame.current]
        exact inv.alone other alive
    case account =>
      have before := inv.account
      rw [State.held_of_current current] at before
      rw [State.held_of_current current', queued_stepLoop, before, successes_append]
    case turned => rw [frame.current, frame.joining]; exact inv.turned
    case stopping => rw [frame.current, frame.joining, frame.stopAsked]; exact inv.stopping
    case running =>
      intro loop isOn known
      have same : loop = number := Option.some.inj (known.symm.trans current')
      have asked := (inv.running number isOn current).1
      rw [same, frame.stopAsked, phase_stepLoop, asked, inv.waitable]
      exact ⟨rfl, LoopPhase.isAlive_after outcome alive⟩

theorem next (inv : Inv state polled on) (patient : move.IsPatient state) :
    Inv (next state move) (polled ++ (polled? state move).toList) (move.turn on) := by
  cases move with
  | start =>
    have idle : state.joining = false := patient
    rw [next_start idle, polled?_start, Option.toList_none, List.append_nil]
    exact inv.start idle
  | askStop =>
    have idle : state.joining = false := patient
    simp only [Monitor.next, polled?_askStop, idle, Move.turn, Option.toList_none, List.append_nil]
    exact inv.askStop
  | endStop =>
    simp only [Monitor.next, polled?_endStop, Move.turn, Option.toList_none, List.append_nil]
    split
    · next ends =>
      have joining := (Bool.and_eq_true_iff.1 ends).1
      exact inv.endStop joining (patient joining)
    · exact inv
  | loop number outcome => exact inv.stepLoop number outcome

theorem run (inv : Inv state polled on) (orderly : IsOrderly moves state) :
    Inv (run moves state) (polled ++ polls moves state) (moves.foldl Move.turn on) := by
  induction moves generalizing state polled on with
  | nil =>
    rw [polls, List.append_nil]
    exact inv
  | cons move rest ih =>
    have after := ih (inv.next orderly.1) orderly.2
    rwa [List.append_assoc] at after

end Inv

namespace Inv

theorem next_of_on (inv : Inv state polled true) (current : state.current = some loop)
    (goesOn : move ≠ .askStop) :
    (∃ outcome, move = .loop loop outcome) ∨
      (move.isOf loop = false ∧ polled? state move = none ∧ Monitor.next state move = state) := by
  have idle := inv.joining_of_on
  cases move with
  | start =>
    exact .inr ⟨rfl, rfl, (next_start idle).trans inv.start_of_on⟩
  | askStop => exact absurd rfl goesOn
  | endStop => exact .inr ⟨rfl, rfl, by simp [Monitor.next, idle]⟩
  | loop number outcome =>
    by_cases own : number = loop
    · exact .inl ⟨outcome, by rw [own]⟩
    · have ended : state.phase number = .ended := by
        rw [← LoopPhase.isAlive_eq_false, Bool.eq_false_iff]
        exact fun alive => own (inv.eq_of_isAlive current alive)
      refine .inr ⟨by simp [Move.isOf, own], by simp only [polled?, ended], ?_⟩
      exact stepLoop_of_ended ended

theorem count_le_polls (inv : Inv state polled true) (current : state.current = some loop)
    {later : List (Move α)} (goesOn : .askStop ∉ later) :
    later.countP (·.isOf loop) ≤ 4 * (polls later state).length + (state.phase loop).toPoll := by
  -- By the moves: one of the loop ends a poll or comes closer to the next, any other does nothing.
  induction later generalizing state polled with
  | nil => exact Nat.zero_le _
  | cons move rest ih =>
    rw [List.mem_cons, not_or] at goesOn
    rw [List.countP_cons, polls, List.length_append]
    rcases inv.next_of_on current (Ne.symm goesOn.1) with
      ⟨outcome, rfl⟩ | ⟨foreign, silent, unchanged⟩
    · have frame := frame_stepLoop state loop outcome
      have rest := ih (inv.stepLoop loop outcome) (frame.current.trans current) goesOn.2
      have running := inv.running loop rfl current
      have closer := toPoll_stepLoop outcome running.1 (fun _ => inv.waitable) running.2
      have own : Move.isOf loop (.loop loop outcome) = true := beq_self_eq_true loop
      rw [own, if_pos rfl, Monitor.next]
      omega
    · rw [foreign, silent, unchanged]
      simpa using ih inv current goesOn.2

theorem current_endStop (inv : Inv state polled on) (joining : state.joining = true)
    (current : state.current = some loop) {outcomes : List (Except Failure α)}
    (enough : 4 ≤ outcomes.length) :
    (Monitor.next (Monitor.run (ownMoves loop outcomes) state) .endStop).current = none := by
  have frame := frame_ownMoves loop outcomes state
  have asked := (inv.stopping joining).1
  have ended : (Monitor.run (ownMoves loop outcomes) state).phase loop = .ended := by
    have bound := toEnd_ownMoves asked loop outcomes
    have most := (state.phase loop).toEnd_le
    rw [← LoopPhase.toEnd_eq_zero]
    omega
  have ends : ((Monitor.run (ownMoves loop outcomes) state).joining &&
      (Monitor.run (ownMoves loop outcomes) state).mayForget) = true := by
    rw [frame.joining, joining, State.mayForget, frame.current, current, Option.map_some, ended]
    rfl
  rw [Monitor.next, if_pos ends]

theorem queued_of_rest (inv : Inv state polled on) (rest : state.current = none)
    {later : List (Move α)} (unstarted : .start ∉ later) :
    (Monitor.run later state).queued = state.queued := by
  induction later generalizing state on with
  | nil => rfl
  | cons move others ih =>
    rw [List.mem_cons, not_or] at unstarted
    have idle := inv.joining_of_rest rest
    rw [run_cons]
    cases move with
    | start => exact absurd rfl unstarted.1
    | askStop =>
      simp only [Monitor.next, idle]
      exact ih inv.askStop rest unstarted.2
    | endStop =>
      simp only [Monitor.next, idle, Bool.false_and]
      exact ih inv rest unstarted.2
    | loop number outcome =>
      simp only [Monitor.next, stepLoop_of_ended (inv.ended_of_rest rest number)]
      exact ih inv rest unstarted.2

end Inv

theorem Inv.at_start (inv : Inv state polled on) (rest : state.current = none) :
    At (Monitor.next state .start) state.loops.length .testing false := by
  have idle := inv.joining_of_rest rest
  have stopped := State.isRunning_of_rest rest
  have phase := phase_start stopped state.loops.length
  rw [next_start idle]
  rw [start_of_stopped stopped, if_pos rfl] at *
  exact ⟨inv.waitable, rfl, phase, rfl, idle⟩

/-- What an orderly run from `new` to `state` keeps, and what can follow it. -/
structure LosesNothing (moves : List (Move α)) (new state : State α) : Prop where
  running : isOn moves = true → state.isRunning = true
  rest : isOn moves = false → state.joining = false →
    state.current = none ∧ state.isRunning = false
  queued : state.current = none → state.queued = successes (polls moves new)
  /-- A second start changes nothing, and no two loops are alive. -/
  again : isOn moves = true → next state .start = state
  alone : ∀ loop, (state.phase loop).isAlive = true → state.current = some loop
  /-- No poll, failed or not, keeps the loop from the polls after it. -/
  goesOn : ∀ loop later, isOn moves = true → state.current = some loop → .askStop ∉ later →
    later.countP (·.isOf loop) ≤ 4 * (polls later state).length + 3
  ends : ∀ loop outcomes, state.joining = true → state.current = some loop → 4 ≤ outcomes.length →
    (next (run (ownMoves loop outcomes) state) .endStop).current = none
  silent : ∀ later, state.current = none → .start ∉ later →
    (run later state).queued = state.queued
  /-- A stop at rest leaves no more than the wish to stop, which the next start takes back. -/
  idleStop : state.current = none →
    run [.askStop, .endStop] state = { state with stopAsked := true } ∧
      run [.askStop, .endStop, .start] state = next state .start
  /-- Any outcomes can be polled in a phase that follows. -/
  phase : ∀ starts outcomes, state.current = none →
    let phase := List.replicate (starts + 1) .start ++ phaseMoves state.loops.length outcomes
    IsOrderly phase state ∧ polls phase state = outcomes ∧ (run phase state).current = none ∧
      (run phase state).queued = state.queued ++ successes outcomes

namespace Inv

theorem idleStop (inv : Inv state polled on) (rest : state.current = none) :
    Monitor.run [.askStop, .endStop] state = { state with stopAsked := true } ∧
      Monitor.run [.askStop, .endStop, .start] state = Monitor.next state .start := by
  have idle := inv.joining_of_rest rest
  have asked : Monitor.run [.askStop, .endStop] state = { state with stopAsked := true } := by
    simp [Monitor.run, Monitor.next, idle, rest]
  refine ⟨asked, ?_⟩
  have stopped := State.isRunning_of_rest rest
  have stillStopped : State.isRunning { state with stopAsked := true } = false := stopped
  have stillIdle : State.joining { state with stopAsked := true } = false := idle
  have split : Monitor.run [.askStop, .endStop, .start] state =
      Monitor.next (Monitor.run [.askStop, .endStop] state) .start := rfl
  rw [split, asked, next_start idle, next_start stillIdle, start_of_stopped stopped,
    start_of_stopped stillStopped]

theorem phase (inv : Inv state polled on) (rest : state.current = none) (starts : Nat)
    (outcomes : List (Except Failure α)) :
    let phase := List.replicate (starts + 1) .start ++ phaseMoves state.loops.length outcomes
    IsOrderly phase state ∧ polls phase state = outcomes ∧ (Monitor.run phase state).current = none ∧
      (Monitor.run phase state).queued = state.queued ++ successes outcomes := by
  intro phase
  have here := inv.at_start rest
  obtain ⟨same, startable, quiet⟩ := here.starts starts
  obtain ⟨pollable, polledThere, ended⟩ := here.phaseMoves outcomes
  have orderly : IsOrderly phase state := by
    rw [IsOrderly, along_append, List.replicate_succ, run_cons, same]
    exact ⟨⟨inv.joining_of_rest rest, startable⟩, pollable⟩
  have polledNow : polls phase state = outcomes := by
    rw [polls_append, List.replicate_succ, run_cons, same, polls, quiet, polledThere]
    rfl
  have restThen : (Monitor.run phase state).current = none := by
    rw [run_append, List.replicate_succ, run_cons, same]
    exact ended
  refine ⟨orderly, polledNow, restThen, ?_⟩
  have before := inv.account
  have after := (inv.run orderly).account
  rw [State.held, rest, List.append_nil] at before
  rw [State.held, restThen, List.append_nil, polledNow, successes_append] at after
  rw [after, before]

end Inv

/-- Whatever is polled in phases from start to stop gets on the queue once and in order. -/
theorem loses_nothing {rate : Float}
    (waitable : PollRate.isWaitable (PollRate.atLeastShortest rate) = true)
    {moves : List (Move α)} (orderly : IsOrderly moves (ofRate rate)) :
    LosesNothing moves (ofRate rate) (run moves (ofRate rate)) := by
  have inv : Inv (run moves (ofRate rate)) (polls moves (ofRate rate)) (isOn moves) :=
    (inv_ofRate waitable).run orderly
  constructor
  case running =>
    intro on
    rw [on] at inv
    exact inv.isRunning_of_on
  case rest =>
    intro off idle
    rw [off] at inv
    have rest := inv.current_of_off idle
    exact ⟨rest, State.isRunning_of_rest rest⟩
  case queued =>
    intro rest
    have account := inv.account
    rwa [State.held, rest, List.append_nil] at account
  case again =>
    intro on
    rw [on] at inv
    exact (next_start inv.joining_of_on).trans inv.start_of_on
  case alone => exact inv.alone
  case goesOn =>
    intro loop later on current goesOn
    rw [on] at inv
    have counted := inv.count_le_polls current goesOn
    have most := ((run moves (ofRate rate)).phase loop).toPoll_le
    omega
  case ends => exact fun loop outcomes joining current => inv.current_endStop joining current
  case silent => exact fun later rest => inv.queued_of_rest rest
  case idleStop => exact inv.idleStop
  case phase => exact fun starts outcomes rest => inv.phase rest starts outcomes

/-- A stop before any start; a phase with a poll that fails, a second start and a stop that comes in
the middle of a poll; and a phase that is stopped while its loop waits. -/
def twoPhases : List (Move Nat) :=
  [.askStop, .endStop, .start, .loop 0 (.ok 7), .start, .loop 0 (.error .waitTooLong),
    .loop 0 (.ok 7), .loop 0 (.ok 7), .askStop, .loop 0 (.ok 7), .loop 0 (.ok 7), .loop 0 (.ok 7),
    .loop 0 (.ok 7), .endStop, .loop 0 (.ok 5), .start, .loop 1 (.ok 9), .loop 1 (.ok 9),
    .loop 1 (.ok 8), .askStop, .loop 1 (.ok 6), .loop 1 (.ok 6), .endStop]

theorem loses_nothing_twoPhases :
    PollRate.isWaitable (PollRate.atLeastShortest 2) = true ∧ IsOrderly twoPhases (ofRate 2) ∧
      LosesNothing twoPhases (ofRate 2) (run twoPhases (ofRate 2)) ∧
      (run twoPhases (ofRate 2)).queued = [7, 9] := by
  have waitable : PollRate.isWaitable (PollRate.atLeastShortest 2) = true := by decide
  have orderly : IsOrderly twoPhases (ofRate 2) := by decide
  have kept := loses_nothing waitable orderly
  exact ⟨waitable, orderly, kept, (kept.queued (by decide)).trans (by decide)⟩

end HostInventory.Monitor
