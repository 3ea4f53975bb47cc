import HostInventory.Monitor.Basic

/-!
Runs of a monitor seen from outside: what is polled in them, and which of them are orderly. In an
orderly run whoever starts and stops does one thing at a time, and a stop waits until the loop has
ended, however long its last poll takes.
-/
namespace HostInventory.Monitor

variable {α : Type}

/-- The outcome of the poll that ends with a move, if one does. -/
def polled? (state : State α) : Move α → Option (Except Failure α)
  | .start | .askStop | .endStop => none
  | .loop number outcome =>
    match state.phase number with
    | .polling => some outcome
    | .testing | .putting _ | .waiting | .ended => none

@[simp] theorem polled?_start (state : State α) : polled? state .start = none := rfl

@[simp] theorem polled?_askStop (state : State α) : polled? state .askStop = none := rfl

@[simp] theorem polled?_endStop (state : State α) : polled? state .endStop = none := rfl

def polls : List (Move α) → State α → List (Except Failure α)
  | [], _ => []
  | move :: rest, state => (polled? state move).toList ++ polls rest (next state move)

def successes (outcomes : List (Except Failure α)) : List α := outcomes.filterMap Except.toOption

namespace Move

/-- Whether the monitor is to run after a move. -/
def turn (on : Bool) : Move α → Bool
  | .start => true
  | .askStop => false
  | .endStop | .loop _ _ => on

def isOf (loop : Nat) : Move α → Bool
  | .start | .askStop | .endStop => false
  | .loop number _ => number == loop

/-- Nothing is asked for during a stop, and a stop does not end before the loop has. -/
def IsPatient (state : State α) : Move α → Prop
  | .start | .askStop => state.joining = false
  | .endStop => state.joining = true → state.isRunning = false
  | .loop _ _ => True

/-- A start that adds a loop finds all others ended. -/
def FindsAllEnded (state : State α) : Move α → Prop
  | .start =>
    state.joining = false → state.isRunning = false →
      ∀ phase ∈ state.loops, phase.isAlive = false
  | .askStop | .endStop | .loop _ _ => True

instance (state : State α) : (move : Move α) → Decidable (move.FindsAllEnded state)
  | .start =>
    inferInstanceAs (Decidable (state.joining = false → state.isRunning = false →
      ∀ phase ∈ state.loops, phase.isAlive = false))
  | .askStop | .endStop | .loop _ _ => inferInstanceAs (Decidable True)

instance (state : State α) : (move : Move α) → Decidable (move.IsPatient state)
  | .start | .askStop => inferInstanceAs (Decidable (state.joining = false))
  | .endStop => inferInstanceAs (Decidable (state.joining = true → state.isRunning = false))
  | .loop _ _ => inferInstanceAs (Decidable True)

end Move

def isOn (moves : List (Move α)) : Bool := moves.foldl Move.turn false

/-- Every move of a run is one that `P` accepts where it is made. -/
def Along (P : State α → Move α → Prop) : List (Move α) → State α → Prop
  | [], _ => True
  | move :: rest, state => P state move ∧ Along P rest (next state move)

instance decidableAlong (P : State α → Move α → Prop) [∀ state move, Decidable (P state move)] :
    (moves : List (Move α)) → (state : State α) → Decidable (Along P moves state)
  | [], _ => inferInstanceAs (Decidable True)
  | move :: rest, state =>
    have := decidableAlong P rest (next state move)
    inferInstanceAs (Decidable (P state move ∧ Along P rest (next state move)))

abbrev IsOrderly (moves : List (Move α)) (state : State α) : Prop :=
  Along Move.IsPatient moves state

/-- The moves of a loop whose polls would have these outcomes. -/
def ownMoves (loop : Nat) (outcomes : List (Except Failure α)) : List (Move α) :=
  outcomes.map (.loop loop)

/-- A loop can come to a test by moves of its own and then goes on to a poll. -/
def CanPollAgain (state : State α) (loop : Nat) : Prop :=
  ∃ outcomes, (run (ownMoves loop outcomes) state).phase loop = .testing ∧
    (run (ownMoves loop outcomes) state).stopAsked = false

def HasOnePoller (state : State α) : Prop :=
  ∀ loop other, CanPollAgain state loop → CanPollAgain state other → loop = other

end HostInventory.Monitor
