import HostInventory.BootTime.Registry

/-!
Runs of a registry: orders that are carried out one after another, each in a world of its own. The
orders alone decide who is asked for the boot time: an engine with an oracle of its own, or the
oracle that was shared when the engine was built.
-/
namespace HostInventory.Registry

/-- What the users of a registry order. An engine is built from what it is given. -/
inductive Order (σ : Type) : Type 1 where
  | build {η : Type} (supplies : Supplies σ η)
  /-- Asks the engine with this number, counted from zero, for the boot time. -/
  | askEngine (number : Nat)
  | askShared
  | clear

/-- Who keeps a boot time: the shared oracle of the time after so many clearings, or the engine with
a number. -/
inductive Keeper where
  | shared (clears : Nat)
  | engine (number : Nat)
  deriving DecidableEq, Repr

structure Past (σ : Type) where
  clears : Nat := 0
  /-- For each engine who keeps its boot time, and how that one finds it out. -/
  engines : List (Keeper × Action σ Int) := []

variable {σ : Type} [Journal σ] (host : HostTimes σ)

def Order.request : Order σ → Request σ
  | .build supplies => .build (supplies.query? host)
  | .askEngine number => .askEngine number
  | .askShared => .askShared
  | .clear => .clear

namespace Past

/-- Who keeps the boot time of an engine that is built now, and how that one finds it out. -/
def keeperOf {η : Type} (past : Past σ) (supplies : Supplies σ η) : Keeper × Action σ Int :=
  (if supplies.isEmpty then .shared past.clears else .engine past.engines.length,
    (supplies.query? host).getD host.query)

def next (past : Past σ) : Order σ → Past σ
  | .build supplies => { past with engines := past.engines ++ [past.keeperOf host supplies] }
  | .askEngine _ | .askShared => past
  | .clear => { past with clears := past.clears + 1 }

def asked? (past : Past σ) : Order σ → Option (Keeper × Action σ Int)
  | .askEngine number => past.engines[number]?
  | .askShared => some (.shared past.clears, host.query)
  | .build _ | .clear => none

end Past

structure Turn (σ : Type) : Type 1 where
  order : Order σ
  world : σ

/-- A turn and what came of it. -/
structure Exchange (σ : Type) extends Turn σ where
  /-- Who was asked for the boot time, and how that one finds it out. -/
  asked : Option (Keeper × Action σ Int)
  outcome : Except Failure (Option Int)
  left : σ

/-- The boot time that this keeper told, if it was asked and told one. -/
def Exchange.toldBy (keeper : Keeper) (exchange : Exchange σ) : Option Int :=
  if exchange.asked.map (·.1) = some keeper then exchange.outcome.toOption.join else none

def carryOut (registry : Registry σ) (turn : Turn σ) : Except Failure (Option Int) × Registry σ × σ :=
  (serve host.query (turn.order.request host)).perform (registry, turn.world)

def exchange (past : Past σ) (registry : Registry σ) (turn : Turn σ) : Exchange σ :=
  { turn with
    asked := past.asked? host turn.order
    outcome := (registry.carryOut host turn).1
    left := (registry.carryOut host turn).2.2 }

def run (past : Past σ) (registry : Registry σ) : List (Turn σ) → List (Exchange σ)
  | [] => []
  | turn :: rest =>
    exchange host past registry turn ::
      run (past.next host turn.order) (registry.carryOut host turn).2.1 rest

end HostInventory.Registry
