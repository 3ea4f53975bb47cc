import HostInventory.Journal

/-!
The monitor: a loop that polls an engine and puts what it gets on a queue, started and stopped from
outside, and how long it waits between two polls. A stop asks the loop to end and waits for it, but
not for ever: a loop that is still in a poll when the wait is over is forgotten and goes on by
itself. One move is one step of the loop or of whoever starts and stops it, so that every order of
events is a list of moves.
-/
namespace HostInventory.PollRate

def shortest : Float := 0.1

/-- A rate as the monitor keeps it: what is not above the shortest wait counts as that. -/
def atLeastShortest (rate : Float) : Float := if shortest < rate then rate else shortest

/-- The longest wait that there can be, in seconds. -/
def longest : Float := 9223372036

def isWaitable (rate : Float) : Bool := rate ≤ longest

end HostInventory.PollRate

namespace HostInventory

namespace Monitor

inductive LoopPhase (α : Type) where
  /-- It is about to look whether it is to stop. -/
  | testing
  | polling
  /-- It is about to put on the queue what a poll gave. -/
  | putting (polled : α)
  | waiting
  | ended
  deriving DecidableEq, Repr

variable {α : Type}

def LoopPhase.isAlive : LoopPhase α → Bool
  | .ended => false
  | _ => true

structure State (α : Type) where
  rate : Float
  stopAsked : Bool := false
  /-- The loop that the monitor knows of. -/
  current : Option Nat := none
  /-- Whether a stop waits for the current loop to end. -/
  joining : Bool := false
  loops : List (LoopPhase α) := []
  /-- Everything that has been put on the queue, in order. -/
  queued : List α := []
  journal : List Journal.Event := []

def loopName : String := "InventoryMonitor"

def loopIsDaemon : Bool := true

def ofRate (rate : Float) : State α := { rate := PollRate.atLeastShortest rate }

namespace State

def setRate (state : State α) (rate : Float) : State α :=
  { state with rate := PollRate.atLeastShortest rate }

def phase (state : State α) (loop : Nat) : LoopPhase α := (state.loops[loop]?).getD .ended

def setPhase (state : State α) (loop : Nat) (phase : LoopPhase α) : State α :=
  { state with loops := state.loops.set loop phase }

/-- Whether the loop that the monitor knows of is alive. -/
def isRunning (state : State α) : Bool :=
  match state.current with
  | some loop => (state.phase loop).isAlive
  | none => false

/-- Whether a stop may end: the loop has ended, or it is in a poll that can take any time. -/
def mayForget (state : State α) : Bool :=
  match state.current.map state.phase with
  | some .testing | some .waiting => false
  | some .polling | some (.putting _) | some .ended | none => true

end State

def pollFailed : Journal.Event :=
  { level := .error, logger := "procinv.monitor", name := "inventory_poll_failed" }

/-- One step of a loop. `outcome` is what the poll gives that ends with this step. A wait that is
longer than waits can be ends the loop, unless a stop has been asked for and there is nothing to
wait for. -/
def stepLoop (state : State α) (loop : Nat) (outcome : Except Failure α) : State α :=
  match state.phase loop with
  | .testing => state.setPhase loop (if state.stopAsked then .ended else .polling)
  | .polling =>
    match outcome with
    | .ok polled => state.setPhase loop (.putting polled)
    | .error _ => { state with journal := state.journal ++ [pollFailed] }.setPhase loop .waiting
  | .putting polled => { state with queued := state.queued ++ [polled] }.setPhase loop .waiting
  | .waiting =>
    state.setPhase loop
      (if state.stopAsked || PollRate.isWaitable state.rate then .testing else .ended)
  | .ended => state

inductive Move (α : Type) where
  | start
  | askStop
  /-- The stop ends, because the loop has ended or because a poll takes too long to wait for. -/
  | endStop
  | loop (number : Nat) (outcome : Except Failure α)

def start (state : State α) : State α :=
  if state.isRunning then state
  else
    { state with
      stopAsked := false
      current := some state.loops.length
      loops := state.loops ++ [.testing] }

/-- The state after a move. Whoever starts and stops does one thing at a time. -/
def next (state : State α) : Move α → State α
  | .start => if state.joining then state else start state
  | .askStop =>
    if state.joining then state
    else { state with stopAsked := true, joining := state.current.isSome }
  | .endStop =>
    if state.joining && state.mayForget then { state with joining := false, current := none }
    else state
  | .loop number outcome => stepLoop state number outcome

def run (moves : List (Move α)) (state : State α) : State α := moves.foldl next state

inductive Reachable (rate : Float) : State α → Prop
  | new : Reachable rate (ofRate rate)
  | move {state : State α} (move : Move α) : Reachable rate state → Reachable rate (next state move)

/-- The moves of a loop from one test to the next: test, poll, put what there is to put, wait. -/
def pollMoves (loop : Nat) (outcome : Except Failure α) : List (Move α) :=
  let move : Move α := .loop loop outcome
  match outcome with
  | .ok _ => [move, move, move, move]
  | .error _ => [move, move, move]

/-- The moves that end a loop in a poll: the poll gives its outcome after the stop has been asked
for. -/
def lastPollMoves (loop : Nat) (outcome : Except Failure α) : List (Move α) :=
  let move : Move α := .loop loop outcome
  match outcome with
  | .ok _ => [move, .askStop, move, move, move, move]
  | .error _ => [move, .askStop, move, move, move]

/-- A phase from start to stop: the loop polls these outcomes, and is still in the last poll when it
is asked to stop; the stop waits for it. -/
def phaseMoves (loop : Nat) : List (Except Failure α) → List (Move α)
  | [] => [.askStop, .loop loop (.error .waitTooLong), .endStop]
  | [outcome] => lastPollMoves loop outcome ++ [.endStop]
  | outcome :: rest => pollMoves loop outcome ++ phaseMoves loop rest

end Monitor

end HostInventory
