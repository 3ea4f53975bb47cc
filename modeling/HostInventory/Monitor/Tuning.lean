import HostInventory.Monitor.Schedule

/-!
A monitor whose rate is changed while it runs: courses of moves and of new rates, and what one loop
polls in them.
-/
namespace HostInventory.Monitor

variable {α : Type}

/-- A move, or a new rate from outside. -/
inductive Event (α : Type) where
  | move (move : Move α)
  | assign (rate : Float)

namespace Event

/-- The rate that has been given last, as it was given, when it was this one before the event. -/
def given (rate : Float) : Event α → Float
  | .move _ => rate
  | .assign rate => rate

def isStepOf (loop : Nat) : Event α → Bool
  | .move step => step.isOf loop
  | .assign _ => false

def polledBy? (loop : Nat) (state : State α) : Event α → Option (Except Failure α)
  | .move step => if step.isOf loop then polled? state step else none
  | .assign _ => none

end Event

def react (state : State α) : Event α → State α
  | .move move => next state move
  | .assign rate => state.setRate rate

def course (events : List (Event α)) (state : State α) : State α := events.foldl react state

/-- The rate given last in a course: by an event, or else to the new monitor. -/
def lastGiven (first : Float) (events : List (Event α)) : Float := events.foldl Event.given first

def pollsBy (loop : Nat) : List (Event α) → State α → List (Except Failure α)
  | [], _ => []
  | event :: rest, state =>
    (event.polledBy? loop state).toList ++ pollsBy loop rest (react state event)

/-- A step of its own ends a loop that is about to look and is to stop, and a loop that is about to
wait, is not to stop, and would wait for longer than waits can be. -/
def IsEnding (state : State α) (given : Float) (loop : Nat) : Prop :=
  state.phase loop = .testing ∧ state.stopAsked = true ∨
    state.phase loop = .waiting ∧ state.stopAsked = false ∧ PollRate.longest < given

/-- All along a course nobody asks for a stop, and the loop is not to wait for too long. -/
def Unhindered (loop : Nat) (given : Float) (more : List (Event α)) (state : State α) : Prop :=
  ∀ before event, before ++ [event] <+: more →
    (course before state).stopAsked = false ∧
      ¬ (event.isStepOf loop = true ∧
        IsEnding (course before state) (lastGiven given before) loop)

end HostInventory.Monitor
