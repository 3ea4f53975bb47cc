import HostInventory.Statistics.Chain

/-!
Keeping account of chains: each attempt to open one gets a number, and every opening, refusal and
closing is written down. Main use: to say that no chain stays open.
-/
namespace HostInventory

inductive ChainEvent where
  | opened (number : Nat)
  | refused (number : Nat)
  | closed (number : Nat)
  deriving DecidableEq, Repr

def ChainEvent.isAttempt : ChainEvent → Bool
  | .opened _ | .refused _ => true
  | .closed _ => false

/-- What has happened to chains so far, in order. -/
abbrev ChainLedger := List ChainEvent

namespace ChainLedger

def attempts (ledger : ChainLedger) : Nat := ledger.countP ChainEvent.isAttempt

/-- The chains that are open after one more event. -/
def track (standing : List Nat) : ChainEvent → List Nat
  | .opened number => number :: standing
  | .refused _ => standing
  | .closed number => standing.erase number

def standing (ledger : ChainLedger) : List Nat := ledger.foldl track []

end ChainLedger

namespace ChainAccess

variable {σ η α : Type}

/-- An action on an open chain, beside its number and the ledger. -/
def unledgered (a : Action (η × σ) α) : Action ((Nat × η) × ChainLedger × σ) α :=
  ExceptT.mk fun ((number, chain), ledger, world) =>
    let (outcome, chain, world) := a.perform (chain, world)
    (outcome, (number, chain), ledger, world)

/-- The same chains with account kept of them. A chain that is asked to close is written down as
closed, even if closing it fails. -/
def ledgered (chains : ChainAccess σ η) : ChainAccess (ChainLedger × σ) (Nat × η) where
  connect := ExceptT.mk fun (ledger, world) =>
    let number := ChainLedger.attempts ledger
    match chains.connect.perform world with
    | (.ok chain, world) => (.ok (number, chain), ledger ++ [.opened number], world)
    | (.error failure, world) => (.error failure, ledger ++ [.refused number], world)
  lookup key := unledgered (chains.lookup key)
  read statistic := unledgered (chains.read statistic)
  value statistic name := unledgered (chains.value statistic name)
  close := ExceptT.mk fun ((number, chain), ledger, world) =>
    let (outcome, chain, world) := chains.close.perform (chain, world)
    (outcome, (number, chain), ledger ++ [.closed number], world)

end ChainAccess

end HostInventory
