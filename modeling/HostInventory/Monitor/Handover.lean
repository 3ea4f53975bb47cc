/-!
The queue between a monitor and a viewer. The monitor puts; the viewer drains: it takes one element
after another until it finds the queue empty, and then shows the last one taken. Puts may fall
between any two of its moves.
-/
namespace HostInventory.Handover

/-- Where the viewer stands. -/
inductive Phase (α : Type) where
  | idle
  /-- It takes what there is; `last` is what it has taken last in this drain, if anything. -/
  | draining (last : Option α)
  /-- It has found the queue empty and is about to show what it has taken last. -/
  | showing (element : α)
  deriving DecidableEq, Repr

structure State (α : Type) where
  /-- Everything put so far, in order. -/
  put : List α := []
  taken : Nat := 0
  phase : Phase α := .idle
  /-- Everything shown so far, in order. -/
  shown : List α := []

inductive Move (α : Type) where
  | put (element : α)
  | beginDrain
  /-- Takes the next element, or finds the queue empty. -/
  | take
  | present

variable {α : Type}

def Phase.ofTaken : Option α → Phase α
  | none => .idle
  | some element => .showing element

def next (state : State α) : Move α → State α
  | .put element => { state with put := state.put ++ [element] }
  | .beginDrain =>
    match state.phase with
    | .idle => { state with phase := .draining none }
    | .draining _ | .showing _ => state
  | .take =>
    match state.phase with
    | .draining last =>
      match state.put[state.taken]? with
      | some element => { state with taken := state.taken + 1, phase := .draining (some element) }
      | none => { state with phase := .ofTaken last }
    | .idle | .showing _ => state
  | .present =>
    match state.phase with
    | .showing element => { state with phase := .idle, shown := state.shown ++ [element] }
    | .idle | .draining _ => state

def run (moves : List (Move α)) (state : State α) : State α := moves.foldl next state

def shows? (state : State α) : Move α → Option α
  | .present =>
    match state.phase with
    | .showing element => some element
    | .idle | .draining _ => none
  | .put _ | .beginDrain | .take => none

/-- The moves of putting some elements and then draining the queue without interruption. -/
def putThenDrain (elements : List α) : List (Move α) :=
  elements.map .put ++ .beginDrain :: List.replicate (elements.length + 1) .take ++ [.present]

end HostInventory.Handover
