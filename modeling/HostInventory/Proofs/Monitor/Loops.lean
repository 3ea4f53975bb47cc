import HostInventory.Monitor.Schedule

/-!
What one step of a loop does to the loop, to the queue and to everything else, and what the moves of
one phase come to. A step moves the loop along its own way, which depends on no other loop; whatever
it polls successfully is on its hands until it is on the queue.
-/
namespace HostInventory.Monitor

variable {α : Type} {state : State α} {loop other : Nat} {outcome : Except Failure α}

namespace LoopPhase

/-- Where a loop stands after a step. -/
def after (asked waitable : Bool) (outcome : Except Failure α) : LoopPhase α → LoopPhase α
  | .testing => if asked then .ended else .polling
  | .polling =>
    match outcome with
    | .ok polled => .putting polled
    | .error _ => .waiting
  | .putting _ => .waiting
  | .waiting => if asked || waitable then .testing else .ended
  | .ended => .ended

/-- What a loop has polled and not yet put on the queue. -/
def held : LoopPhase α → List α
  | .putting polled => [polled]
  | .testing | .polling | .waiting | .ended => []

/-- The steps to the next poll of a loop that is not to stop. -/
def toPoll : LoopPhase α → Nat
  | .polling | .ended => 0
  | .testing => 1
  | .waiting => 2
  | .putting _ => 3

def toEnd : LoopPhase α → Nat
  | .ended => 0
  | .testing => 1
  | .waiting => 2
  | .putting _ => 3
  | .polling => 4

theorem toEnd_le (phase : LoopPhase α) : phase.toEnd ≤ 4 := by
  cases phase <;> simp [toEnd]

theorem toPoll_le (phase : LoopPhase α) : phase.toPoll ≤ 3 := by
  cases phase <;> simp [toPoll]

theorem isAlive_eq_false {phase : LoopPhase α} : phase.isAlive = false ↔ phase = .ended := by
  cases phase <;> simp [isAlive]

theorem toEnd_eq_zero {phase : LoopPhase α} : phase.toEnd = 0 ↔ phase = .ended := by
  cases phase <;> simp [toEnd]

theorem toEnd_after (waitable : Bool) (outcome : Except Failure α) (phase : LoopPhase α) :
    (phase.after true waitable outcome).toEnd ≤ phase.toEnd - 1 := by
  cases phase with
  | polling => cases outcome <;> simp [after, toEnd]
  | testing | putting | waiting | ended => simp [after, toEnd]

theorem isAlive_after (outcome : Except Failure α) {phase : LoopPhase α}
    (alive : phase.isAlive = true) : (phase.after false true outcome).isAlive = true := by
  cases phase with
  | polling => cases outcome <;> rfl
  | testing | putting | waiting => rfl
  | ended => cases alive

end LoopPhase

namespace State

theorem lt_of_isAlive (alive : (state.phase loop).isAlive = true) : loop < state.loops.length := by
  refine Nat.lt_of_not_le fun beyond => ?_
  have none : state.loops[loop]? = none := List.getElem?_eq_none beyond
  rw [phase, none] at alive
  cases alive

theorem phase_mem_loops (alive : (state.phase loop).isAlive = true) :
    state.phase loop ∈ state.loops := by
  have lt := lt_of_isAlive alive
  have stands : state.phase loop = state.loops[loop] := by simp [phase, lt]
  rw [stands]
  exact List.getElem_mem lt

theorem phase_setPhase_self (phase : LoopPhase α) (lt : loop < state.loops.length) :
    (state.setPhase loop phase).phase loop = phase := by
  simp [State.phase, setPhase, lt]

theorem phase_setPhase_of_ne (phase : LoopPhase α) (ne : other ≠ loop) :
    (state.setPhase loop phase).phase other = state.phase other := by
  simp [State.phase, setPhase, List.getElem?_set_ne ne.symm]

theorem isRunning_of_rest (rest : state.current = none) : state.isRunning = false := by
  rw [isRunning, rest]

theorem isRunning_of_current (current : state.current = some loop) :
    state.isRunning = (state.phase loop).isAlive := by
  rw [isRunning, current]

end State

/-- What a step of a loop leaves as it was. -/
structure Frame (loop : Nat) (state after : State α) : Prop where
  rate : after.rate = state.rate
  stopAsked : after.stopAsked = state.stopAsked
  current : after.current = state.current
  joining : after.joining = state.joining
  others : ∀ other, other ≠ loop → after.phase other = state.phase other

theorem frame_setPhase (state : State α) (loop : Nat) (phase : LoopPhase α) :
    Frame loop state (state.setPhase loop phase) :=
  ⟨rfl, rfl, rfl, rfl, fun _ => State.phase_setPhase_of_ne phase⟩

theorem stepLoop_of_ended (ended : state.phase loop = .ended) :
    stepLoop state loop outcome = state := by
  simp only [stepLoop, ended]

theorem frame_stepLoop (state : State α) (loop : Nat) (outcome : Except Failure α) :
    Frame loop state (stepLoop state loop outcome) := by
  cases phase : state.phase loop with
  | testing | waiting =>
    simp only [stepLoop, phase]
    exact frame_setPhase _ _ _
  | polling =>
    simp only [stepLoop, phase]
    cases outcome with
    | ok polled => exact frame_setPhase _ _ _
    | error failure => exact ⟨rfl, rfl, rfl, rfl, fun _ => State.phase_setPhase_of_ne _⟩
  | putting polled =>
    simp only [stepLoop, phase]
    exact ⟨rfl, rfl, rfl, rfl, fun _ => State.phase_setPhase_of_ne _⟩
  | ended =>
    rw [stepLoop_of_ended phase]
    exact ⟨rfl, rfl, rfl, rfl, fun _ _ => rfl⟩

theorem phase_stepLoop (state : State α) (loop : Nat) (outcome : Except Failure α) :
    (stepLoop state loop outcome).phase loop =
      (state.phase loop).after state.stopAsked (PollRate.isWaitable state.rate) outcome := by
  have known : (state.phase loop).isAlive = true → loop < state.loops.length := State.lt_of_isAlive
  cases phase : state.phase loop with
  | testing | waiting =>
    rw [phase] at known
    simp only [stepLoop, phase, LoopPhase.after]
    exact State.phase_setPhase_self _ (known rfl)
  | polling =>
    rw [phase] at known
    simp only [stepLoop, phase, LoopPhase.after]
    cases outcome <;> exact State.phase_setPhase_self _ (known rfl)
  | putting polled =>
    rw [phase] at known
    simp only [stepLoop, phase, LoopPhase.after]
    exact State.phase_setPhase_self _ (known rfl)
  | ended => rw [stepLoop_of_ended phase, phase, LoopPhase.after]

/-- A step keeps account: what the loop held or has now polled is on the queue or in its hands. -/
theorem queued_stepLoop (state : State α) (loop : Nat) (outcome : Except Failure α) :
    (stepLoop state loop outcome).queued ++ ((stepLoop state loop outcome).phase loop).held =
      state.queued ++ (state.phase loop).held ++
        successes (polled? state (.loop loop outcome)).toList := by
  rw [phase_stepLoop]
  cases phase : state.phase loop with
  | testing | waiting =>
    simp only [stepLoop, phase, LoopPhase.after, polled?]
    split <;> simp [LoopPhase.held, successes, State.setPhase]
  | polling =>
    simp only [stepLoop, phase, LoopPhase.after, polled?]
    cases outcome <;> simp [LoopPhase.held, successes, State.setPhase, Except.toOption]
  | putting polled =>
    simp [stepLoop, phase, LoopPhase.after, polled?, LoopPhase.held, successes, State.setPhase]
  | ended => simp [stepLoop_of_ended phase, LoopPhase.after, polled?, phase, LoopPhase.held, successes]

/-- Each step of a loop that is not to stop ends a poll or comes one step closer to the next. -/
theorem toPoll_stepLoop (outcome : Except Failure α) (asked : state.stopAsked = false)
    (waitable : state.phase loop = .waiting → PollRate.isWaitable state.rate = true)
    (alive : (state.phase loop).isAlive = true) :
    ((stepLoop state loop outcome).phase loop).toPoll + 1 ≤
      (state.phase loop).toPoll + 4 * (polled? state (.loop loop outcome)).toList.length := by
  rw [phase_stepLoop, asked]
  cases phase : state.phase loop with
  | polling =>
    cases outcome <;> simp [polled?, phase, LoopPhase.after, LoopPhase.toPoll]
  | testing | putting => simp [polled?, phase, LoopPhase.after, LoopPhase.toPoll]
  | waiting => simp [polled?, phase, LoopPhase.after, LoopPhase.toPoll, waitable phase]
  | ended => rw [phase] at alive; cases alive

theorem next_start (idle : state.joining = false) : next state .start = start state := by
  simp [next, idle]

theorem start_of_stopped (stopped : state.isRunning = false) :
    start state = { state with
      stopAsked := false
      current := some state.loops.length
      loops := state.loops ++ [.testing] } :=
  if_neg (by rw [stopped]; exact Bool.false_ne_true)

theorem phase_start (stopped : state.isRunning = false) (loop : Nat) :
    (start state).phase loop =
      if loop = state.loops.length then .testing else state.phase loop := by
  rw [start_of_stopped stopped]
  simp only [State.phase, List.getElem?_append, List.getElem?_singleton]
  split
  · next lt => rw [if_neg (Nat.ne_of_lt lt)]
  · next ge =>
    have none : state.loops[loop]? = none := List.getElem?_eq_none (Nat.le_of_not_lt ge)
    rw [none]
    by_cases same : loop = state.loops.length
    · simp [same]
    · have above : loop - state.loops.length ≠ 0 := by omega
      simp [same, above]

theorem run_cons (move : Move α) (rest : List (Move α)) (state : State α) :
    run (move :: rest) state = run rest (next state move) := rfl

theorem run_append (before after : List (Move α)) (state : State α) :
    run (before ++ after) state = run after (run before state) := List.foldl_append

theorem frame_ownMoves (loop : Nat) (outcomes : List (Except Failure α)) (state : State α) :
    Frame loop state (run (ownMoves loop outcomes) state) := by
  induction outcomes generalizing state with
  | nil => exact ⟨rfl, rfl, rfl, rfl, fun _ _ => rfl⟩
  | cons outcome rest ih =>
    have step := frame_stepLoop state loop outcome
    have after := ih (stepLoop state loop outcome)
    exact ⟨after.rate.trans step.rate, after.stopAsked.trans step.stopAsked,
      after.current.trans step.current, after.joining.trans step.joining,
      fun other ne => (after.others other ne).trans (step.others other ne)⟩

theorem toEnd_ownMoves (asked : state.stopAsked = true) (loop : Nat)
    (outcomes : List (Except Failure α)) :
    ((run (ownMoves loop outcomes) state).phase loop).toEnd ≤
      (state.phase loop).toEnd - outcomes.length := by
  induction outcomes generalizing state with
  | nil => simp [ownMoves, run]
  | cons outcome rest ih =>
    have kept := (frame_stepLoop state loop outcome).stopAsked.trans asked
    have closer := LoopPhase.toEnd_after (PollRate.isWaitable state.rate) outcome (state.phase loop)
    rw [← asked, ← phase_stepLoop] at closer
    have after : ((run (ownMoves loop (outcome :: rest)) state).phase loop).toEnd ≤
        ((stepLoop state loop outcome).phase loop).toEnd - rest.length := ih kept
    rw [List.length_cons]
    omega

end HostInventory.Monitor

namespace HostInventory.Monitor

variable {α : Type} {state : State α} {loop : Nat}

theorem along_append (P : State α → Move α → Prop) (before after : List (Move α))
    (state : State α) :
    Along P (before ++ after) state ↔ Along P before state ∧ Along P after (run before state) := by
  induction before generalizing state with
  | nil => simp [Along, run]
  | cons move rest ih =>
    rw [List.cons_append, Along, Along, ih, and_assoc]
    rfl

theorem polls_append (before after : List (Move α)) (state : State α) :
    polls (before ++ after) state = polls before state ++ polls after (run before state) := by
  induction before generalizing state with
  | nil => rfl
  | cons move rest ih =>
    rw [List.cons_append, polls, polls, ih, List.append_assoc]
    rfl

/-- The monitor knows of a loop that stands at `phase`; `asked` says whether a stop is going on. -/
structure At (state : State α) (loop : Nat) (phase : LoopPhase α) (asked : Bool) : Prop where
  waitable : PollRate.isWaitable state.rate = true
  current : state.current = some loop
  phase : state.phase loop = phase
  stopAsked : state.stopAsked = asked
  joining : state.joining = asked

namespace At

variable {phase : LoopPhase α} {asked : Bool}

theorem step (here : At state loop phase asked) (outcome : Except Failure α) :
    At (next state (.loop loop outcome)) loop (phase.after asked true outcome) asked := by
  have frame := frame_stepLoop state loop outcome
  have moved := phase_stepLoop state loop outcome
  rw [here.phase, here.stopAsked, here.waitable] at moved
  exact ⟨by rw [next, frame.rate, here.waitable], frame.current.trans here.current, moved,
    frame.stopAsked.trans here.stopAsked, frame.joining.trans here.joining⟩

theorem askStop (here : At state loop phase false) : At (next state .askStop) loop phase true := by
  have asked : next state .askStop =
      { state with stopAsked := true, joining := state.current.isSome } := by
    simp only [next, here.joining]
    rfl
  rw [asked]
  exact ⟨here.waitable, here.current, here.phase, rfl, by rw [here.current]; rfl⟩

theorem startAgain (here : At state loop phase false) (alive : phase.isAlive = true) :
    next state .start = state := by
  have running : state.isRunning = true := by
    rw [State.isRunning_of_current here.current, here.phase, alive]
  exact (next_start here.joining).trans (if_pos running)

theorem polled?_polling (here : At state loop .polling asked) (outcome : Except Failure α) :
    polled? state (.loop loop outcome) = some outcome := by
  simp only [polled?, here.phase]

theorem polled?_of_ne (here : At state loop phase asked) (other : phase ≠ .polling)
    (outcome : Except Failure α) : polled? state (.loop loop outcome) = none := by
  have stands := here.phase
  cases phase with
  | polling => exact absurd rfl other
  | testing | putting | waiting | ended => simp only [polled?, stands]

theorem endStop (here : At state loop .ended true) :
    IsOrderly [.endStop] state ∧ (next state .endStop).current = none := by
  have stopped : state.isRunning = false := by
    rw [State.isRunning_of_current here.current, here.phase, LoopPhase.isAlive]
  have ends : (state.joining && state.mayForget) = true := by
    rw [here.joining, State.mayForget, here.current, Option.map_some, here.phase]
    rfl
  exact ⟨⟨fun _ => stopped, trivial⟩, by rw [next, if_pos ends]⟩

theorem pollMoves (here : At state loop .testing false) (outcome : Except Failure α) :
    At (run (pollMoves loop outcome) state) loop .testing false ∧
      IsOrderly (Monitor.pollMoves loop outcome) state ∧
      polls (Monitor.pollMoves loop outcome) state = [outcome] := by
  have polling : At (next state (.loop loop outcome)) loop .polling false := here.step outcome
  have given := polling.step outcome
  cases outcome with
  | ok polled =>
    have waiting := given.step (.ok polled)
    refine ⟨waiting.step (.ok polled), ⟨trivial, trivial, trivial, trivial, trivial⟩, ?_⟩
    simp [Monitor.pollMoves, polls, here.polled?_of_ne nofun, polling.polled?_polling,
      given.polled?_of_ne nofun, waiting.polled?_of_ne nofun]
  | error failure =>
    refine ⟨given.step (.error failure), ⟨trivial, trivial, trivial, trivial⟩, ?_⟩
    simp [Monitor.pollMoves, polls, here.polled?_of_ne nofun, polling.polled?_polling,
      given.polled?_of_ne nofun]

theorem lastPollMoves (here : At state loop .testing false) (outcome : Except Failure α) :
    At (run (lastPollMoves loop outcome) state) loop .ended true ∧
      IsOrderly (Monitor.lastPollMoves loop outcome) state ∧
      polls (Monitor.lastPollMoves loop outcome) state = [outcome] := by
  have polling : At (next state (.loop loop outcome)) loop .polling false := here.step outcome
  have asked := polling.askStop
  have given := asked.step outcome
  cases outcome with
  | ok polled =>
    have waiting := given.step (.ok polled)
    have testing := waiting.step (.ok polled)
    refine ⟨testing.step (.ok polled),
      ⟨trivial, polling.joining, trivial, trivial, trivial, trivial, trivial⟩, ?_⟩
    simp [Monitor.lastPollMoves, polls, here.polled?_of_ne nofun, asked.polled?_polling,
      given.polled?_of_ne nofun, waiting.polled?_of_ne nofun, testing.polled?_of_ne nofun]
  | error failure =>
    have testing := given.step (.error failure)
    refine ⟨testing.step (.error failure),
      ⟨trivial, polling.joining, trivial, trivial, trivial, trivial⟩, ?_⟩
    simp [Monitor.lastPollMoves, polls, here.polled?_of_ne nofun, asked.polled?_polling,
      given.polled?_of_ne nofun, testing.polled?_of_ne nofun]

/-- The moves of a phase can be made, poll what they are to poll, and end at rest. -/
theorem phaseMoves (here : At state loop .testing false) (outcomes : List (Except Failure α)) :
    IsOrderly (Monitor.phaseMoves loop outcomes) state ∧
      polls (Monitor.phaseMoves loop outcomes) state = outcomes ∧
      (run (Monitor.phaseMoves loop outcomes) state).current = none := by
  fun_induction Monitor.phaseMoves loop outcomes generalizing state with
  | case1 =>
    have asked := here.askStop
    have ended := asked.step (.error .waitTooLong)
    obtain ⟨orderly, rest⟩ := ended.endStop
    refine ⟨⟨here.joining, trivial, orderly⟩, ?_, rest⟩
    simp [polls, asked.polled?_of_ne nofun]
  | case2 outcome =>
    obtain ⟨ended, orderly, polled⟩ := here.lastPollMoves outcome
    obtain ⟨ends, rest⟩ := ended.endStop
    rw [IsOrderly, along_append, polls_append, run_append, polled]
    exact ⟨⟨orderly, ends⟩, rfl, rest⟩
  | case3 outcome others _ ih =>
    obtain ⟨tested, orderly, polled⟩ := here.pollMoves outcome
    obtain ⟨later, polledLater, rest⟩ := ih tested
    rw [IsOrderly, along_append, polls_append, run_append, polled, polledLater]
    exact ⟨⟨orderly, later⟩, rfl, rest⟩

theorem starts (here : At state loop .testing false) (number : Nat) :
    run (List.replicate number .start) state = state ∧
      IsOrderly (List.replicate number .start) state ∧
      polls (List.replicate number .start) state = [] := by
  have again := here.startAgain rfl
  induction number with
  | zero => exact ⟨rfl, trivial, rfl⟩
  | succ number ih =>
    rw [List.replicate_succ, run_cons, IsOrderly, Along, polls, again]
    exact ⟨ih.1, ⟨here.joining, ih.2.1⟩, ih.2.2⟩

end At

end HostInventory.Monitor
