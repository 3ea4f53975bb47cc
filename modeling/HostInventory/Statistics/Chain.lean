import HostInventory.Action

/-!
The chain of the kernel's statistics: opened, looked up, read and closed. An open chain has a state
of its own, which exists from its opening to its closing only; `withOpen` is the one way to use it.
-/
namespace HostInventory

structure StatisticKey where
  origin : String
  number : Int
  name : String
  deriving DecidableEq, Repr

def systemMisc : StatisticKey := ⟨"unix", 0, "system_misc"⟩

/-- A statistic: the nanoseconds since boot at which it was taken, and its fields as far as they
have been read. -/
structure Statistic where
  key : StatisticKey
  snapTime : Int
  fields : List (String × Int)
  deriving DecidableEq, Repr

def Statistic.setField (statistic : Statistic) (name : String) (value : Int) : Statistic :=
  { statistic with fields := statistic.fields.filter (·.1 != name) ++ [(name, value)] }

/-- How to open a chain whose own state is `η`, and what can be done with an open one. Reading a
statistic fills in its fields, and gives nothing when it cannot be read. -/
structure ChainAccess (σ η : Type) where
  connect : Action σ η
  lookup : StatisticKey → Action (η × σ) (Option Statistic)
  read : Statistic → Action (η × σ) (Option Statistic)
  value : Statistic → String → Action (η × σ) Int
  close : Action (η × σ) Unit

namespace ChainAccess

variable {σ η α : Type}

/-- Opens a chain, runs `body` with it, and closes it however `body` ends. A failure of closing
takes the place of what `body` gave. -/
def withOpen (chains : ChainAccess σ η) (body : Action (η × σ) α) : Action σ α :=
  ExceptT.mk fun world =>
    match chains.connect.perform world with
    | (.ok chain, opened) =>
      let (outcome, used) := body.perform (chain, opened)
      let (closing, _, left) := chains.close.perform used
      ((closing.mapError Failure.outOfScope).bind fun _ => outcome, left)
    | (.error failure, left) => (.error failure.outOfScope, left)

theorem perform_withOpen (chains : ChainAccess σ η) (body : Action (η × σ) α) (world : σ) :
    (chains.withOpen body).perform world =
      match chains.connect.perform world with
      | (.ok chain, opened) =>
        let used := body.perform (chain, opened)
        let closed := chains.close.perform used.2
        ((closed.1.mapError Failure.outOfScope).bind fun _ => used.1, closed.2.2)
      | (.error failure, left) => (.error failure.outOfScope, left) := rfl

end ChainAccess

end HostInventory
