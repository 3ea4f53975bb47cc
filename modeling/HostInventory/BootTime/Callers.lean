import HostInventory.BootTime.Oracle

/-!
Many callers that ask one oracle for the boot time at once. Each looks at the known boot time
without the lock, takes the lock only if there is none, looks again, and queries. One move of one
caller is one step, so every interleaving is a list of callers.
-/
namespace HostInventory.Callers

/-- Where a caller stands. -/
inductive Phase where
  /-- It is about to look without the lock. -/
  | asking
  /-- It has seen nothing and wants the lock. -/
  | waiting
  /-- It has the lock and is about to look again. -/
  | holding
  /-- It has the lock and is in a query. -/
  | querying
  /-- It has the lock and an answer to keep. -/
  | storing (bootTime : Int)
  /-- It has the lock and a failed query. -/
  | failing (failure : Failure)
  /-- It has the lock, and the boot time is known. -/
  | releasing
  /-- It is about to return what is known. -/
  | returning
  | returned (bootTime : Option Int)
  | failed (failure : Failure)
  deriving DecidableEq, Repr

namespace Phase

def isLocked : Phase → Bool
  | .holding | .querying | .storing _ | .failing _ | .releasing => true
  | _ => false

def isOver : Phase → Bool
  | .returned _ | .failed _ => true
  | _ => false

end Phase

structure State (σ : Type) where
  phase : Nat → Phase
  known : Option Int
  lockedBy : Option Nat
  /-- How the queries so far have ended, the last one first. -/
  answers : List (Except Failure Int)
  world : σ

variable {σ : Type}

/-- Nobody has moved yet. -/
def start (world : σ) : State σ := ⟨fun _ => .asking, none, none, [], world⟩

def State.move (state : State σ) (caller : Nat) (phase : Phase) : State σ :=
  { state with phase := fun other => if other = caller then phase else state.phase other }

/-- One move of a caller. A caller that wants the lock stays where it is while another has it. -/
def next (query : Action σ Int) (state : State σ) (caller : Nat) : State σ :=
  match state.phase caller with
  | .asking => state.move caller (if state.known.isSome then .returning else .waiting)
  | .waiting =>
    match state.lockedBy with
    | none => { state with lockedBy := some caller }.move caller .holding
    | some _ => state
  | .holding => state.move caller (if state.known.isSome then .releasing else .querying)
  | .querying =>
    match query.perform state.world with
    | (.ok bootTime, world) =>
      { state with answers := .ok bootTime :: state.answers, world }.move caller (.storing bootTime)
    | (.error failure, world) =>
      { state with answers := .error failure :: state.answers, world }.move caller
        (.failing failure)
  | .storing bootTime => { state with known := some bootTime }.move caller .releasing
  | .failing failure => { state with lockedBy := none }.move caller (.failed failure)
  | .releasing => { state with lockedBy := none }.move caller .returning
  | .returning => state.move caller (.returned state.known)
  | .returned _ | .failed _ => state

/-- What can happen: a caller moves, or the world changes by itself while no query is made. -/
inductive Step (query : Action σ Int) : State σ → State σ → Prop
  | move (state : State σ) (caller : Nat) : Step query state (next query state caller)
  | change (state : State σ) (world : σ) : Step query state { state with world }

/-- The states that can come about when nothing is known at first. -/
inductive Reachable (query : Action σ Int) : State σ → Prop
  | start (world : σ) : Reachable query (start world)
  | step {state after : State σ} : Reachable query state → Step query state after →
      Reachable query after

def run (query : Action σ Int) (schedule : List Nat) (state : State σ) : State σ :=
  schedule.foldl (next query) state

/-- A schedule in which each of `count` callers can come to its end: they look together, and then
take their turns in order. -/
def fairSchedule (count : Nat) : List Nat :=
  List.range count ++ (List.range count).flatMap fun caller => List.replicate 7 caller

def State.outcome (state : State σ) (caller : Nat) : Option (Except Failure (Option Int)) :=
  match state.phase caller with
  | .returned bootTime => some (.ok bootTime)
  | .failed failure => some (.error failure)
  | _ => none

end HostInventory.Callers
