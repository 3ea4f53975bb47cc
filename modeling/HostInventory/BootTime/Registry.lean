import HostInventory.BootTime.Oracle
import HostInventory.Statistics.HostChain

/-!
What an engine finds the boot time with. An engine that is given chains or a clock has an oracle of
its own, which takes from the host what is not given; all others share one, which comes about when
it is first needed. The shared oracle can be forgotten; an engine that was built with it goes on
with it.
-/
namespace HostInventory

/-- An oracle as others see it: how it queries the boot time, and what it knows of it. -/
structure SharedOracle (σ : Type) where
  query : Action σ Int
  known : Option Int := none

/-- All oracles ever made, the one that is shared now, and the oracle of each engine ever built. -/
structure Registry (σ : Type) where
  oracles : List (SharedOracle σ) := []
  shared : Option Nat := none
  engines : List Nat := []

namespace Registry

variable {σ : Type}

def make (registry : Registry σ) (query : Action σ Int) : Nat × Registry σ :=
  (registry.oracles.length, { registry with oracles := registry.oracles ++ [{ query }] })

/-- The number of the shared oracle, which is made over the host if there is none. -/
def sharedOracle (host : Action σ Int) (registry : Registry σ) : Nat × Registry σ :=
  match registry.shared with
  | some number => (number, registry)
  | none =>
    let (number, registry) := registry.make host
    (number, { registry with shared := some number })

def clear (registry : Registry σ) : Registry σ := { registry with shared := none }

/-- Builds an engine: with an oracle of its own if it brings a query, else with the shared one. -/
def build (host : Action σ Int) (own : Option (Action σ Int)) (registry : Registry σ) :
    Nat × Registry σ :=
  let (oracle, registry) :=
    match own with
    | some query => registry.make query
    | none => registry.sharedOracle host
  (registry.engines.length, { registry with engines := registry.engines ++ [oracle] })

def askOracle (number : Nat) : Action (Registry σ × σ) (Option Int) :=
  ExceptT.mk fun (registry, world) =>
    match registry.oracles[number]? with
    | none => (.ok none, registry, world)
    | some oracle =>
      let (outcome, known, world) := oracle.query.once.perform (oracle.known, world)
      (outcome.map some,
        { registry with oracles := registry.oracles.set number { oracle with known } }, world)

inductive Request (σ : Type) where
  | build (own : Option (Action σ Int))
  /-- Asks the engine with this number, counted from zero, for the boot time. -/
  | askEngine (number : Nat)
  | askShared
  | clear

/-- Answers a request: with a boot time if one is asked for. -/
def serve (host : Action σ Int) : Request σ → Action (Registry σ × σ) (Option Int)
  | .build own => do
    modify fun (registry, world) => ((registry.build host own).2, world)
    return none
  | .askEngine number => do
    match (← get).1.engines[number]? with
    | none => return none
    | some oracle => askOracle oracle
  | .askShared => do
    let (number, registry) := (← get).1.sharedOracle host
    modify fun (_, world) => (registry, world)
    askOracle number
  | .clear => do
    modify fun (registry, world) => (registry.clear, world)
    return none

end Registry

structure HostTimes (σ : Type) where
  bootTime : Action σ Float
  clock : Action σ Float

variable {σ η : Type} [Journal σ]

namespace HostTimes

/-- The oracle over the host's chains with a clock. The chains go by the host's own clock. -/
def oracle (host : HostTimes σ) (clock : Action σ Float) : Oracle σ HostChain :=
  ⟨HostChain.access host.bootTime host.clock, clock⟩

def query (host : HostTimes σ) : Action σ Int := (host.oracle host.clock).query

end HostTimes

/-- What an engine may be given to find the boot time with. -/
structure Supplies (σ η : Type) where
  chains : Option (ChainAccess σ η) := none
  clock : Option (Action σ Float) := none

namespace Supplies

/-- How an oracle of its own finds out the boot time, if there is one. -/
def query? (host : HostTimes σ) : Supplies σ η → Option (Action σ Int)
  | ⟨none, none⟩ => none
  | ⟨none, some clock⟩ => some (host.oracle clock).query
  | ⟨some chains, clock⟩ => some (⟨chains, clock.getD host.clock⟩ : Oracle σ η).query

omit [Journal σ] in
/-- Whether an engine is given neither chains nor a clock. -/
def isEmpty (supplies : Supplies σ η) : Bool := supplies.chains.isNone && supplies.clock.isNone

theorem query?_of_isEmpty {host : HostTimes σ} {supplies : Supplies σ η} :
    supplies.isEmpty = true → supplies.query? host = none := by
  rcases supplies with ⟨_ | chains, _ | clock⟩
  · intro _
    rfl
  all_goals
    intro empty
    cases empty

theorem exists_query? (host : HostTimes σ) {supplies : Supplies σ η} :
    supplies.isEmpty = false → ∃ query, supplies.query? host = some query := by
  rcases supplies with ⟨_ | chains, _ | clock⟩
  · intro given
    cases given
  all_goals
    intro _
    exact ⟨_, rfl⟩

end Supplies

end HostInventory
