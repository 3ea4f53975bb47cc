import HostInventory.Engine
import HostInventory.Proofs.Action
import HostInventory.Replay

/-!
Engines in two worlds that fit together, and hosts that do not change while they are asked. When
what two engines are built from is alike, so is what they answer. On a steady host it depends on a
view of the world only, and leaves the view as it is; the clock may move on.
-/
namespace HostInventory

open HostInventory.Action

variable {σ ω η θ : Type} [Journal σ] [Journal ω] {R : σ → ω → Prop}

namespace ProcessLister

variable {source : CommandSource σ} {twin : CommandSource ω} (journals : Journal.Alike R)
  (sources : ∀ command, Action.Alike R (source command) (twin command)) (config : Config)

include journals

theorem alike_readListing (known : Option Int) (lines : List String) :
    Action.Alike R (readListing known lines) (readListing known lines) :=
  (alike_forM fun _ => journals.log _).map _

include sources

theorem alike_list (command : String) (pid : Option Int) :
    Action.Alike R (list source command pid) (list twin command pid) := by
  cases pid with
  | none => exact (sources command).bind fun lines => alike_readListing journals none lines
  | some pid =>
    exact (alike_ofExcept _).bind fun shown =>
      (sources (command ++ shown)).bind fun lines => alike_readListing journals (some pid) lines

theorem alike_all : Action.Alike R (all source config) (all twin config) :=
  alike_list journals sources _ none

theorem alike_get? (pid : Int) : Action.Alike R (get? source config pid) (get? twin config pid) :=
  (alike_list journals sources _ (some pid)).map _

theorem alike_ofPids (pids : List Int) :
    Action.Alike R (ofPids source config pids) (ofPids twin config pids) := by
  refine (alike_ofExcept _).bind fun pidText => ?_
  split
  · exact alike_pure []
  · exact alike_list journals sources _ none

omit [Journal σ] [Journal ω] journals in
theorem alike_childPids (parent : Int) :
    Action.Alike R (childPids source config parent) (childPids twin config parent) :=
  (alike_ofExcept _).bind fun _ => (sources _).map _

theorem alike_children (parent : Int) :
    Action.Alike R (children source config parent) (children twin config parent) :=
  (alike_childPids sources config parent).bind fun _ => alike_ofPids journals sources config _

theorem alike_descendants (parent : Int) :
    Action.Alike R (descendants source config parent) (descendants twin config parent) :=
  (alike_all journals sources config).bind fun _ => alike_ofPids journals sources config _

end ProcessLister

theorem ServiceInventory.alike_services {source : CommandSource σ} {twin : CommandSource ω}
    {lister : DirectoryLister σ} {twinLister : DirectoryLister ω} (journals : Journal.Alike R)
    (sources : ∀ command, Action.Alike R (source command) (twin command))
    (listers : ∀ directory, Action.Alike R (lister directory) (twinLister directory))
    (config : Config) :
    Action.Alike R (services source config lister) (services twin config twinLister) := by
  refine Action.Alike.bind ?_ fun scripts => (sources _).map _
  refine (listers _).bind fun names => ?_
  cases names with
  | some names => exact alike_pure names
  | none => exact (journals.log _).map _

namespace Oracle

variable {S : η × σ → θ × ω → Prop} {oracle : Oracle σ η} {twin : Oracle ω θ}

theorem alike_consult {α : Type} {body : Action (η × σ) (Option α)}
    {twinBody : Action (θ × ω) (Option α)} (journals : Journal.Alike R)
    (chains : ChainAccess.Alike R S oracle.chains twin.chains)
    (bodies : Action.Alike S body twinBody) :
    Action.Alike R (oracle.consult body) (twin.consult twinBody) :=
  (chains.withOpen bodies).recover fun _ => (journals.log _).map _

omit [Journal σ] [Journal ω] in
theorem alike_snapTime? (chains : ChainAccess.Alike R S oracle.chains twin.chains) :
    Action.Alike S oracle.snapTime? twin.snapTime? :=
  (chains.lookup _).map _

omit [Journal σ] [Journal ω] in
theorem alike_storedBootTime? (chains : ChainAccess.Alike R S oracle.chains twin.chains) :
    Action.Alike S oracle.storedBootTime? twin.storedBootTime? := by
  refine (chains.lookup _).bind fun found => ?_
  cases found with
  | none => exact alike_pure none
  | some statistic =>
    refine (chains.read statistic).bind fun filled => ?_
    cases filled with
    | none => exact alike_pure none
    | some statistic => exact (chains.value statistic _).map _

theorem alike_uptime (journals : Journal.Alike R)
    (chains : ChainAccess.Alike R S oracle.chains twin.chains) :
    Action.Alike R oracle.uptime twin.uptime :=
  (alike_consult journals chains (alike_snapTime? chains)).map _

theorem alike_query (journals : Journal.Alike R)
    (chains : ChainAccess.Alike R S oracle.chains twin.chains)
    (clocks : Action.Alike R oracle.clock twin.clock) : Action.Alike R oracle.query twin.query := by
  refine (alike_consult journals chains (alike_storedBootTime? chains)).bind fun found => ?_
  cases found with
  | some bootTime => exact alike_pure bootTime
  | none =>
    refine clocks.bind fun _ => (alike_ofExcept _).bind fun _ => ?_
    exact (alike_uptime journals chains).bind fun _ => (journals.log _).map _

end Oracle

namespace Engine

/-- Engines with one configuration that are built from what is alike, but perhaps for their chains
and clocks. -/
structure Alike (R : σ → ω → Prop) (engine : Engine σ η) (twin : Engine ω θ) : Prop where
  journals : Journal.Alike R
  config : twin.config = engine.config
  source : ∀ command, Action.Alike R (engine.source command) (twin.source command)
  directories : ∀ directory,
    Action.Alike R (engine.directories directory) (twin.directories directory)
  kernelPids : Action.Alike R engine.kernelPids twin.kernelPids

namespace Alike

variable {S : η × σ → θ × ω → Prop} {engine : Engine σ η} {twin : Engine ω θ}
  (alike : Alike R engine twin)

include alike

theorem allProcesses : Action.Alike R engine.allProcesses twin.allProcesses := by
  rw [Engine.allProcesses, Engine.allProcesses, alike.config]
  exact ProcessLister.alike_all alike.journals alike.source _

theorem process? (pid : Int) : Action.Alike R (engine.process? pid) (twin.process? pid) := by
  rw [Engine.process?, Engine.process?, alike.config]
  exact ProcessLister.alike_get? alike.journals alike.source _ pid

theorem children (parent : Int) :
    Action.Alike R (engine.children parent) (twin.children parent) := by
  rw [Engine.children, Engine.children, alike.config]
  exact ProcessLister.alike_children alike.journals alike.source _ parent

theorem descendants (parent : Int) :
    Action.Alike R (engine.descendants parent) (twin.descendants parent) := by
  rw [Engine.descendants, Engine.descendants, alike.config]
  exact ProcessLister.alike_descendants alike.journals alike.source _ parent

theorem services : Action.Alike R engine.services twin.services := by
  rw [Engine.services, Engine.services, alike.config]
  exact ServiceInventory.alike_services alike.journals alike.source alike.directories _

theorem uptime (chains : ChainAccess.Alike R S engine.chains twin.chains) :
    Action.Alike R engine.uptime twin.uptime :=
  Oracle.alike_uptime alike.journals chains

theorem processCount : Action.Alike R engine.processCount twin.processCount :=
  (alike.kernelPids.map _).recover fun _ => (alike.journals.log _).map _

theorem threadCount : Action.Alike R engine.threadCount twin.threadCount := by
  rw [Engine.threadCount, Engine.threadCount, alike.config]
  refine (alike.source _).bind fun lines => ?_
  split
  · exact alike.processCount
  · exact alike_pure _

end Alike

end Engine

end HostInventory

namespace HostInventory

open HostInventory.Action

variable {σ η ν α : Type} {view : σ → ν} {shown : ν}

/-- Two worlds with the same view. -/
def Shows (view : σ → ν) (shown : ν) (world other : σ) : Prop :=
  view world = shown ∧ view other = shown

def ShowsWithChain (view : σ → ν) (shown : ν) (used other : η × σ) : Prop :=
  used.1 = other.1 ∧ Shows view shown used.2 other.2

theorem Action.Alike.keeps {a : Action σ α} (alike : Action.Alike (Shows view shown) a a) :
    Keeps (view · = shown) a :=
  fun world same => (alike world world ⟨same, same⟩).2.1

variable [Journal σ]

structure Engine.IsSteady (view : σ → ν) (engine : Engine σ η) : Prop where
  alike : ∀ shown, Engine.Alike (Shows view shown) engine engine
  chains : ∀ shown,
    ChainAccess.Alike (Shows view shown) (ShowsWithChain view shown) engine.chains engine.chains
  clock : ∀ shown, Keeps (view · = shown) engine.clock

namespace Engine.IsSteady

variable {engine : Engine σ η} (steady : engine.IsSteady view)

include steady

theorem keeps_log (event : Journal.Event) :
    Keeps (view · = shown) (Action.log event : Action σ Unit) :=
  ((steady.alike shown).journals.log event).keeps

theorem keeps_query : Keeps (view · = shown) engine.oracle.query := by
  -- The clock may give what it likes, so a query is not alike; it only keeps the view.
  have chains : ChainAccess.Alike _ _ engine.oracle.chains engine.oracle.chains :=
    steady.chains shown
  have stored := Oracle.alike_consult (steady.alike shown).journals chains
    (Oracle.alike_storedBootTime? chains)
  refine stored.keeps.bind fun found => ?_
  cases found with
  | some bootTime => exact keeps_pure bootTime
  | none =>
    refine (steady.clock shown).bind fun now => (keeps_ofExcept _).bind fun seconds => ?_
    refine ((steady.alike shown).uptime (steady.chains shown)).keeps.bind fun uptime => ?_
    exact (steady.keeps_log _).bind fun _ => keeps_pure _

end Engine.IsSteady

namespace Replay

/-- What the answers of a replayed host depend on while nobody writes new ones. -/
def script (replay : Replay) :
    List (String × Except Failure (List String)) × Option (List String) × ChainScript ×
      Except Failure (List Int) :=
  (replay.outputs, replay.scripts, replay.chain, replay.pids)

theorem alike_of_reads {look : Replay → ν} {a : Action (ChainScript × Replay) α}
    (reads : ∀ chain world other,
      a.perform (chain, world) = ((a.perform (chain, other)).1, chain, world)) :
    Action.Alike (ShowsWithChain look shown) a a := by
  rintro ⟨chain, world⟩ ⟨_, other⟩ ⟨rfl, shows⟩
  rw [reads chain world other, reads chain other other]
  exact ⟨rfl, rfl, shows⟩

theorem isSteady_engine (config : Config) : (engine config).IsSteady script where
  alike shown := {
    journals := fun _ _ _ shows => shows
    config := rfl
    source := fun command world other ⟨first, second⟩ => by
      have outputs : world.outputs = other.outputs := congrArg (·.1) (first.trans second.symm)
      exact ⟨congrArg (fun outputs => (outputs.lookup command).getD (.ok [])) outputs, first, second⟩
    directories := fun directory world other ⟨first, second⟩ => by
      have scripts : world.scripts = other.scripts := congrArg (·.2.1) (first.trans second.symm)
      exact ⟨congrArg Except.ok scripts, first, second⟩
    kernelPids := fun world other ⟨first, second⟩ => by
      have pids : world.pids = other.pids := congrArg (·.2.2.2) (first.trans second.symm)
      exact ⟨pids, first, second⟩ }
  chains shown := {
    connect := by
      rintro world other ⟨first, second⟩
      have chain : world.chain = other.chain := congrArg (·.2.2.1) (first.trans second.symm)
      have opened : ∀ replay : Replay, replay.chain.opening = .ok () →
          chains.connect.perform replay =
            (.ok replay.chain, { replay with opened := replay.opened + 1 }) := by
        intro replay granted
        simp [chains, perform, StateT.run, ExceptT.run, ExceptT.mk, granted]
      have refused : ∀ (replay : Replay) (failure : Failure), replay.chain.opening = .error failure →
          chains.connect.perform replay = (.error failure, replay) := by
        intro replay failure denied
        simp [chains, perform, StateT.run, ExceptT.run, ExceptT.mk, denied]
      show ChainAccess.BothOpen _ _ (chains.connect.perform world) (chains.connect.perform other)
      cases opening : other.chain.opening with
      | ok _ =>
        rw [opened world ((congrArg ChainScript.opening chain).trans opening), opened other opening]
        exact .opened ⟨chain, first, second⟩
      | error failure =>
        rw [refused world failure ((congrArg ChainScript.opening chain).trans opening),
          refused other failure opening]
        exact .refused ⟨first, second⟩
    lookup := fun key => alike_of_reads fun chain world other => by
      simp only [engine, chains, perform_bind, perform_get, perform_ofExcept]
      cases chain.lookup with
      | error failure => rfl
      | ok _ => by_cases misc : key = systemMisc <;> simp [misc]
    read := fun statistic => alike_of_reads fun chain world other => by
      simp only [engine, chains, perform_bind, perform_get, perform_ofExcept]
      cases chain.reading with
      | error failure => rfl
      | ok _ => rfl
    value := fun statistic name => alike_of_reads fun chain world other => by
      simp only [engine, chains, perform_bind, perform_get, perform_ofExcept]
      cases chain.value with
      | error failure => rfl
      | ok _ => rfl
    close := by
      rintro ⟨chain, world⟩ ⟨_, other⟩ ⟨rfl, shows⟩
      exact ⟨rfl, shows⟩ }
  clock _ := fun _ same => same

end Replay

end HostInventory
