import HostInventory.Proofs.Monitor.Loops

/-!
How many loops go on polling. All loops look at one wish to stop, and a start takes that wish back:
a loop that a stop did not wait for then goes on polling beside the new one. This is the only way to
two pollers.
-/
namespace HostInventory.Monitor

variable {α : Type} {state : State α} {loop : Nat} {move : Move α} {moves : List (Move α)}

theorem isAlive_of_stepLoop {outcome : Except Failure α} {other : Nat}
    (alive : ((stepLoop state loop outcome).phase other).isAlive = true) :
    (state.phase other).isAlive = true := by
  by_cases same : other = loop
  · subst same
    cases before : (state.phase other).isAlive with
    | true => rfl
    | false =>
      rw [stepLoop_of_ended (LoopPhase.isAlive_eq_false.1 before), before] at alive
      exact alive
  · rwa [(frame_stepLoop state loop outcome).others other same] at alive

theorem isAlive_of_ownMoves {outcomes : List (Except Failure α)}
    (alive : ((run (ownMoves loop outcomes) state).phase loop).isAlive = true) :
    (state.phase loop).isAlive = true := by
  induction outcomes generalizing state with
  | nil => exact alive
  | cons outcome rest ih => exact isAlive_of_stepLoop (ih alive)

/-- The outcomes that bring a loop to its next test. -/
def LoopPhase.untilTest : LoopPhase α → List (Except Failure α)
  | .testing | .ended => []
  | .waiting => [.error .waitTooLong]
  | .polling | .putting _ => [.error .waitTooLong, .error .waitTooLong]

theorem phase_untilTest (waitable : PollRate.isWaitable state.rate = true)
    (alive : (state.phase loop).isAlive = true) :
    (run (ownMoves loop (state.phase loop).untilTest) state).phase loop = .testing := by
  have step := phase_stepLoop state loop (.error .waitTooLong)
  have frame := frame_stepLoop state loop (.error .waitTooLong)
  have again := phase_stepLoop (stepLoop state loop (.error .waitTooLong)) loop
    (.error .waitTooLong)
  rw [frame.rate, waitable] at again
  rw [waitable] at step
  cases phase : state.phase loop with
  | testing => exact phase
  | waiting =>
    rw [phase] at step
    exact step.trans (by simp [LoopPhase.after])
  | polling | putting =>
    rw [step, phase] at again
    exact again.trans (by simp [LoopPhase.after])
  | ended => rw [phase] at alive; cases alive

theorem canPollAgain_iff (waitable : PollRate.isWaitable state.rate = true) :
    CanPollAgain state loop ↔ (state.phase loop).isAlive = true ∧ state.stopAsked = false := by
  constructor
  · rintro ⟨outcomes, testing, unasked⟩
    have alive : ((run (ownMoves loop outcomes) state).phase loop).isAlive = true := by
      rw [testing]
      rfl
    rw [(frame_ownMoves loop outcomes state).stopAsked] at unasked
    exact ⟨isAlive_of_ownMoves alive, unasked⟩
  · rintro ⟨alive, unasked⟩
    refine ⟨(state.phase loop).untilTest, phase_untilTest waitable alive, ?_⟩
    rw [(frame_ownMoves loop _ state).stopAsked, unasked]

theorem rate_next (state : State α) (move : Move α) : (next state move).rate = state.rate := by
  cases move with
  | start =>
    simp only [next, start]
    split
    · rfl
    · split <;> rfl
  | askStop => simp only [next]; split <;> rfl
  | endStop => simp only [next]; split <;> rfl
  | loop number outcome => exact (frame_stepLoop state number outcome).rate

/-- What keeps a monitor at one poller: unless it is to stop, only the loop it knows of is alive. -/
structure KnowsPoller (state : State α) : Prop where
  waitable : PollRate.isWaitable state.rate = true
  stopping : state.joining = true → state.stopAsked = true
  known : state.stopAsked = false → ∀ loop, (state.phase loop).isAlive = true →
    state.current = some loop

namespace KnowsPoller

theorem hasOnePoller (knows : KnowsPoller state) : HasOnePoller state := by
  intro loop other here there
  rw [canPollAgain_iff knows.waitable] at here there
  have same := (knows.known here.2 loop here.1).symm.trans (knows.known there.2 other there.1)
  exact Option.some.inj same

theorem of_asked (waitable : PollRate.isWaitable state.rate = true)
    (asked : state.stopAsked = true) : KnowsPoller state where
  waitable := waitable
  stopping _ := asked
  known unasked := by rw [asked] at unasked; cases unasked

theorem start (knows : KnowsPoller state) (idle : state.joining = false)
    (ended : state.isRunning = false → ∀ phase ∈ state.loops, phase.isAlive = false) :
    KnowsPoller (start state) := by
  cases running : state.isRunning with
  | true =>
    have same : Monitor.start state = state := if_pos running
    rw [same]
    exact knows
  | false =>
    have phase := phase_start running
    rw [start_of_stopped running] at phase ⊢
    constructor
    case waitable => exact knows.waitable
    case stopping =>
      intro joining
      rw [idle] at joining
      cases joining
    case known =>
      intro _ loop alive
      rw [phase] at alive
      split at alive
      · next same => rw [same]
      · have dead := ended running _ (State.phase_mem_loops alive)
        rw [alive] at dead
        cases dead

theorem stepLoop (knows : KnowsPoller state) (number : Nat) (outcome : Except Failure α) :
    KnowsPoller (stepLoop state number outcome) := by
  have frame := frame_stepLoop state number outcome
  constructor
  case waitable => rw [frame.rate]; exact knows.waitable
  case stopping => rw [frame.joining, frame.stopAsked]; exact knows.stopping
  case known =>
    intro unasked loop alive
    rw [frame.stopAsked] at unasked
    rw [frame.current]
    exact knows.known unasked loop (isAlive_of_stepLoop alive)

theorem next (knows : KnowsPoller state) (ended : move.FindsAllEnded state) :
    KnowsPoller (next state move) := by
  cases move with
  | start =>
    cases joining : state.joining with
    | true =>
      simp only [Monitor.next, joining, if_true]
      exact knows
    | false =>
      rw [next_start joining]
      exact knows.start joining (ended joining)
  | askStop =>
    simp only [Monitor.next]
    split
    · exact knows
    · exact of_asked knows.waitable rfl
  | endStop =>
    simp only [Monitor.next]
    split
    · next ends =>
      have asked := knows.stopping (Bool.and_eq_true_iff.1 ends).1
      exact of_asked knows.waitable asked
    · exact knows
  | loop number outcome => exact knows.stepLoop number outcome

theorem hasOnePoller_of_along (knows : KnowsPoller state)
    (ended : Along Move.FindsAllEnded moves state) {before : List (Move α)}
    (reached : before <+: moves) : HasOnePoller (run before state) := by
  induction before generalizing state moves with
  | nil => exact knows.hasOnePoller
  | cons move rest ih =>
    obtain ⟨after, rfl⟩ := reached
    exact ih (knows.next ended.1) ended.2 (List.prefix_append rest after)

end KnowsPoller

/-- A start that finds another loop alive makes a second poller. -/
theorem findsAllEnded_of_hasOnePoller (waitable : PollRate.isWaitable state.rate = true)
    (one : HasOnePoller (next state move)) : move.FindsAllEnded state := by
  cases move with
  | askStop | endStop | loop => trivial
  | start =>
    intro idle stopped phase mem
    rw [next_start idle] at one
    rw [← Bool.not_eq_true]
    intro alive
    obtain ⟨loop, lt, rfl⟩ := List.getElem_of_mem mem
    have stands : state.phase loop = state.loops[loop] := by simp [State.phase, lt]
    have waits : PollRate.isWaitable (start state).rate = true := by
      rw [start_of_stopped stopped, waitable]
    have unasked : (start state).stopAsked = false := by rw [start_of_stopped stopped]
    have new : CanPollAgain (start state) state.loops.length := by
      rw [canPollAgain_iff waits, phase_start stopped, if_pos rfl]
      exact ⟨rfl, unasked⟩
    have old : CanPollAgain (start state) loop := by
      rw [canPollAgain_iff waits, phase_start stopped, if_neg (Nat.ne_of_lt lt), stands]
      exact ⟨alive, unasked⟩
    exact Nat.ne_of_lt lt (one loop _ old new)

theorem along_of_hasOnePoller (waitable : PollRate.isWaitable state.rate = true)
    (one : ∀ before, before <+: moves → HasOnePoller (run before state)) :
    Along Move.FindsAllEnded moves state := by
  induction moves generalizing state with
  | nil => trivial
  | cons move rest ih =>
    have first : HasOnePoller (next state move) := one [move] (List.prefix_append [move] rest)
    refine ⟨findsAllEnded_of_hasOnePoller waitable first, ih ?_ fun before reached => ?_⟩
    · rw [rate_next, waitable]
    · exact one (move :: before) ((List.prefix_cons_inj move).2 reached)

/-- There is never more than one poller exactly when every start finds all other loops ended. -/
theorem hasOnePoller_iff {rate : Float}
    (waitable : PollRate.isWaitable (PollRate.atLeastShortest rate) = true)
    (moves : List (Move α)) :
    (∀ before, before <+: moves → HasOnePoller (run before (ofRate rate))) ↔
      Along Move.FindsAllEnded moves (ofRate rate) := by
  have knows : KnowsPoller (ofRate rate : State α) :=
    ⟨waitable, nofun, nofun⟩
  exact ⟨along_of_hasOnePoller waitable, fun ended _ => knows.hasOnePoller_of_along ended⟩

def timely : List (Move Nat) :=
  [.start, .loop 0 (.ok 1), .askStop, .loop 0 (.ok 1), .loop 0 (.ok 1), .loop 0 (.ok 1),
    .loop 0 (.ok 1), .endStop, .start, .loop 1 (.ok 2)]

theorem hasOnePoller_timely :
    PollRate.isWaitable (PollRate.atLeastShortest 2) = true ∧
      ∀ before, before <+: timely → HasOnePoller (run before (ofRate 2)) := by
  have waitable : PollRate.isWaitable (PollRate.atLeastShortest 2) = true := by decide
  exact ⟨waitable, (hasOnePoller_iff waitable timely).2 (by decide)⟩

/-- A stop does not wait long enough for a poll, and the monitor is started again before it ends. -/
def overtaken : List (Move Nat) := [.start, .loop 0 (.ok 1), .askStop, .endStop, .start]

theorem reachable_run (rate : Float) (moves : List (Move α)) :
    Reachable rate (run moves (ofRate rate)) := by
  suffices every : ∀ state, Reachable rate state → Reachable rate (run moves state) from
    every _ .new
  intro state reached
  induction moves generalizing state with
  | nil => exact reached
  | cons move rest ih => exact ih _ (.move move reached)

theorem two_pollers :
    ¬ ∀ state : State Nat, Reachable 2 state → HasOnePoller state := by
  intro always
  have one := always (run overtaken (ofRate 2)) (reachable_run 2 overtaken)
  have old : CanPollAgain (run overtaken (ofRate 2)) 0 := by
    refine ⟨[.ok 1, .ok 1, .ok 1], ?_, ?_⟩ <;> decide
  have new : CanPollAgain (run overtaken (ofRate 2)) 1 := by
    refine ⟨[], ?_, ?_⟩ <;> decide
  exact absurd (one 0 1 old new) (by decide)

end HostInventory.Monitor
