import HostInventory.Monitor.Handover
import HostInventory.Viewer.Screen

/-!
The viewer as a whole: snapshots come to it over a queue, and keys and the cursor change what it
shows of them. It does one thing at a time, and a failure ends it; the queue may then still grow.
-/
namespace HostInventory.Screen

inductive Event where
  | display (snapshot : Snapshot)
  | sort
  | drillDown
  | clearFilter
  | moveCursor (place : Nat)

def carryOut : Event → Action Screen Unit
  | .display snapshot => display snapshot
  | .sort => sort
  | .drillDown => drillDown
  | .clearFilter => clearFilter
  | .moveCursor place => moveCursor place

/-- The sizes that an event brings have texts. -/
def Event.IsFormattable : Event → Prop
  | .display snapshot =>
    ∀ process ∈ snapshot.processes, (Size.format process.residentSize).isOk = true
  | .sort | .drillDown | .clearFilter | .moveCursor _ => True

/-- The screens that can come about from an empty one while sizes have texts. An event may fail
half-way; what it has changed until then stays changed. -/
inductive Reachable : Screen → Prop
  | new : Reachable {}
  | step {screen : Screen} (event : Event) : Reachable screen → event.IsFormattable →
      Reachable ((carryOut event).perform screen).2

end HostInventory.Screen

namespace HostInventory

structure Viewer where
  queue : Handover.State Snapshot := {}
  screen : Screen := {}
  failure : Option Failure := none

namespace Viewer

inductive Move where
  | queue (move : Handover.Move Snapshot)
  | press (key : String)
  | moveCursor (place : Nat)

def act (viewer : Viewer) (a : Action Screen Unit) : Viewer :=
  match a.perform viewer.screen with
  | (.ok (), screen) => { viewer with screen }
  | (.error failure, screen) => { viewer with screen, failure := some failure }

/-- Whether a move can be made: puts always, keys and the cursor between two drains. -/
def admits (viewer : Viewer) : Move → Bool
  | .queue (.put _) => true
  | .queue .beginDrain | .queue .take | .queue .present => viewer.failure.isNone
  | .press _ | .moveCursor _ =>
    match viewer.failure, viewer.queue.phase with
    | none, .idle => true
    | _, _ => false

/-- What a move does. What the queue shows is brought on the screen. -/
def carryOut (viewer : Viewer) : Move → Viewer
  | .queue move =>
    let after := { viewer with queue := Handover.next viewer.queue move }
    match Handover.shows? viewer.queue move with
    | some snapshot => after.act (Screen.display snapshot)
    | none => after
  | .press key => viewer.act (Screen.press key)
  | .moveCursor place => viewer.act (Screen.moveCursor place)

def next (viewer : Viewer) (move : Move) : Viewer :=
  if viewer.admits move then viewer.carryOut move else viewer

def run (moves : List Move) (viewer : Viewer) : Viewer := moves.foldl next viewer

end Viewer

end HostInventory
