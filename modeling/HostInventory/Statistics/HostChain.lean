import HostInventory.Number.Binary64
import HostInventory.Statistics.Chain

/-!
A chain that serves one statistic, computed from the host's boot time and the clock, and its runs.
The boot time is asked for until the host gives it, and then never again; closing bars looking up,
not reading. What happens to the world between two requests of a run is not the chain's doing, so
every request meets a world of its own.
-/
namespace HostInventory

structure HostChain where
  isClosed : Bool := false
  bootTime : Option Float := none

namespace HostChain

variable {σ : Type}

def isUnavailable (failure : Failure) : Bool := failure.isSystem || failure.isRuntime

def bootTime? (query : Action σ Float) : Action (HostChain × σ) (Option Float) :=
  ExceptT.mk fun (chain, world) =>
    match chain.bootTime with
    | some time => (.ok (some time), chain, world)
    | none =>
      match query.perform world with
      | (.ok time, world) => (.ok (some time), { chain with bootTime := some time }, world)
      | (.error failure, world) =>
        if isUnavailable failure then (.ok none, chain, world) else (.error failure, chain, world)

/-- The nanoseconds from boot to now, none before boot. -/
def nanoseconds (now boot : Float) : Except Failure Int := do
  return max 0 (← FloatText.truncate ((now - boot) * 1000000000))

def lookup (query clock : Action σ Float) (key : StatisticKey) :
    Action (HostChain × σ) (Option Statistic) := do
  let (chain, _) ← get
  if chain.isClosed then throw .chainClosed
  if key ≠ systemMisc then return none
  match ← bootTime? query with
  | none => return none
  | some boot =>
    let now ← clock.beside
    return some ⟨key, ← Action.ofExcept (nanoseconds now boot), []⟩

def read (query : Action σ Float) (statistic : Statistic) :
    Action (HostChain × σ) (Option Statistic) := do
  match ← bootTime? query with
  | none => return none
  | some boot =>
    return some (statistic.setField "boot_time" (← Action.ofExcept (FloatText.truncate boot)))

/-- The value of a field, zero for a field that has not been read. -/
def value (statistic : Statistic) (name : String) : Int := (statistic.fields.lookup name).getD 0

def close (chain : HostChain) : HostChain := { chain with isClosed := true }

def access (query clock : Action σ Float) : ChainAccess σ HostChain where
  connect := pure {}
  lookup := lookup query clock
  read := read query
  value statistic name := pure (value statistic name)
  close := modify fun (chain, world) => (chain.close, world)

/-- A chain together with the statistics that its user has at hand, each in a place of its own. -/
structure Session where
  chain : HostChain := {}
  statistics : Nat → Statistic := fun _ => ⟨systemMisc, 0, []⟩

/-- A statistic takes the place of the one that was there. -/
def Session.put (session : Session) (place : Nat) (statistic : Statistic) : Session :=
  { session with
    statistics := fun other => if other = place then statistic else session.statistics other }

/-- What can be asked of one chain. -/
inductive Request where
  | lookup (key : StatisticKey) (place : Nat)
  | read (place : Nat)
  | value (place : Nat) (name : String)
  | close
  deriving DecidableEq, Repr

inductive Answer where
  | found (statistic : Option Statistic)
  | readable (isReadable : Bool)
  | number (n : Int)
  | closed
  deriving DecidableEq, Repr

def onChain {α : Type} (a : Action (HostChain × σ) α) : Action (Session × σ) α :=
  ExceptT.mk fun (session, world) =>
    let (outcome, chain, world) := a.perform (session.chain, world)
    (outcome, { session with chain }, world)

def keep (place : Nat) (statistic : Statistic) : Action (Session × σ) Unit :=
  modify fun (session, world) => (session.put place statistic, world)

/-- Answers a request. A statistic that is found is put in a place, and reading fills in the one that
is there. -/
def serve (query clock : Action σ Float) : Request → Action (Session × σ) Answer
  | .lookup key place => do
    let found ← onChain (lookup query clock key)
    found.forM (keep place)
    return .found found
  | .read place => do
    let filled ← onChain (read query ((← get).1.statistics place))
    filled.forM (keep place)
    return .readable filled.isSome
  | .value place name => return .number (value ((← get).1.statistics place) name)
  | .close => do
    modify fun (session, world) => ({ session with chain := session.chain.close }, world)
    return .closed

end HostChain

/-- An action whose outcomes are kept beside the world, in order. It changes no outcome. -/
def Action.recorded {σ α : Type} (a : Action σ α) : Action (List (Except Failure α) × σ) α :=
  ExceptT.mk fun (outcomes, world) =>
    let (outcome, world) := a.perform world
    (outcome, outcomes ++ [outcome], world)

namespace HostChain

structure Turn (σ : Type) where
  request : Request
  world : σ

structure Exchange (σ : Type) extends Turn σ where
  before : Session
  outcome : Except Failure Answer
  after : Session
  /-- How the queries for the boot time ended that the turn took. -/
  queries : List (Except Failure Float)
  /-- What the clock gave in the turn. -/
  readings : List (Except Failure Float)

variable {σ : Type} (query clock : Action σ Float)

/-- Answers one request, with a record of what is asked of the host. -/
def exchange (session : Session) (turn : Turn σ) : Exchange σ :=
  let (outcome, after, queries, readings, _) :=
    (serve query.beside.recorded clock.recorded.beside turn.request).perform
      (session, [], [], turn.world)
  { turn with before := session, outcome, after, queries, readings }

def run (session : Session) : List (Turn σ) → List (Exchange σ)
  | [] => []
  | turn :: rest =>
    let exchange := exchange query clock session turn
    exchange :: run exchange.after rest

/-- How all queries for the boot time ended, in order. -/
def queries (exchanges : List (Exchange σ)) : List (Except Failure Float) :=
  exchanges.flatMap (·.queries)

/-- The boot time that the first successful query gave. -/
def learnt (exchanges : List (Exchange σ)) : Option Float :=
  (queries exchanges).findSome? Except.toOption

def IsClosed (exchanges : List (Exchange σ)) : Prop :=
  ∃ exchange ∈ exchanges, exchange.request = .close

/-- Requests that the boot time is needed for: looking up the one statistic that the chain has, while
it is open, and reading. -/
def Request.NeedsBootTime (isClosed : Prop) : Request → Prop
  | .lookup key _ => key = systemMisc ∧ ¬ isClosed
  | .read _ => True
  | .value _ _ | .close => False

end HostChain

end HostInventory
