import HostInventory.Journal
import HostInventory.Number.Binary64
import HostInventory.Statistics.Chain

/-!
Uptime and boot time of the host. The uptime is read afresh each time; the boot time is found out
once and stays as it was found. Troubles of the system with the chain are noted and count as "not
available". A use of the chain is told step by step.
-/
namespace HostInventory

structure Oracle (σ η : Type) where
  chains : ChainAccess σ η
  clock : Action σ Float

namespace Oracle

variable {σ η α : Type} [Journal σ]

def noteUnavailable (failure : Failure) : Action σ Unit :=
  Action.log {
    level := .debug, logger := "procinv.uptime", name := "kstat_unavailable"
    fields := [("error", .text failure.message)] }

def noteDerived (bootTime : Int) : Action σ Unit :=
  Action.log {
    level := .info, logger := "procinv.uptime", name := "boot_time_derived"
    fields := [("boot_time", .whole bootTime)] }

/-- What a chain has to say, if it has anything to say. -/
def consult (oracle : Oracle σ η) (body : Action (η × σ) (Option α)) : Action σ (Option α) :=
  (oracle.chains.withOpen body).recover (·.isSystem) fun failure => do
    noteUnavailable failure
    return none

def snapTime? (oracle : Oracle σ η) : Action (η × σ) (Option Int) := do
  return (← oracle.chains.lookup systemMisc).map (·.snapTime)

/-- The boot time in the chain, if the statistic is there and can be read. -/
def storedBootTime? (oracle : Oracle σ η) : Action (η × σ) (Option Int) := do
  match ← oracle.chains.lookup systemMisc with
  | none => return none
  | some statistic =>
    match ← oracle.chains.read statistic with
    | none => return none
    | some statistic => return some (← oracle.chains.value statistic "boot_time")

/-- Whole seconds since boot, zero if they are not available. -/
def uptime (oracle : Oracle σ η) : Action σ Int := do
  return Int.fdiv ((← oracle.consult oracle.snapTime?).getD 0) 1000000000

/-- The boot time in seconds since the epoch: as stored in the chain, or else the whole seconds of
the clock less the uptime. -/
def query (oracle : Oracle σ η) : Action σ Int := do
  match ← oracle.consult oracle.storedBootTime? with
  | some bootTime => return bootTime
  | none =>
    let now ← Action.ofExcept (FloatText.truncate (← oracle.clock))
    let bootTime := now - (← oracle.uptime)
    noteDerived bootTime
    return bootTime

/-- The boot time if it has been found out, else the answer of a query, which is kept. -/
def bootTime (oracle : Oracle σ η) : Action (Option Int × σ) Int := oracle.query.once

end Oracle

/-- How the steps of one use of a chain end. A step that is not come to has no outcome. -/
structure Visit where
  opening : Except Failure Unit := .ok ()
  lookup : Option (Except Failure (Option Statistic)) := none
  reading : Option (Except Failure (Option Statistic)) := none
  value : Option (Except Failure Int) := none
  closing : Option (Except Failure Unit) := none

namespace Visit

variable {α : Type}

def failed? : Option (Except Failure α) → Option Failure
  | some (.error failure) => some failure
  | _ => none

/-- The failure of a use: that of opening, or else that of closing, each as it leaves the scope of
the use, or else that of what was done in between, as it is. -/
def failure? (visit : Visit) : Option Failure :=
  ((failed? (some visit.opening)).map Failure.outOfScope).or
    (((failed? visit.closing).map Failure.outOfScope).or
      ((failed? visit.lookup).or ((failed? visit.reading).or (failed? visit.value))))

def found? (visit : Visit) : Option Statistic :=
  match visit.lookup with
  | some (.ok found) => found
  | _ => none

def taken? (visit : Visit) : Option Int :=
  match visit.value with
  | some (.ok bootTime) => some bootTime
  | _ => none

end Visit

namespace ChainAccess

variable {σ η : Type} (chains : ChainAccess σ η)

def look (used : η × σ) : Visit × (η × σ) :=
  let (lookup, used) := (chains.lookup systemMisc).perform used
  ({ lookup := some lookup }, used)

/-- Looks the statistic up in an open chain and, if it is there, reads it for the boot time. -/
def lookAndRead (used : η × σ) : Visit × (η × σ) :=
  let (visit, used) := chains.look used
  match visit.found? with
  | none => (visit, used)
  | some statistic =>
    let (reading, used) := (chains.read statistic).perform used
    match reading with
    | .ok (some filled) =>
      let (value, used) := (chains.value filled "boot_time").perform used
      ({ visit with reading := some reading, value := some value }, used)
    | _ => ({ visit with reading := some reading }, used)

def visit (steps : η × σ → Visit × (η × σ)) (world : σ) : Visit × σ :=
  match chains.connect.perform world with
  | (.error failure, left) => ({ opening := .error failure }, left)
  | (.ok chain, opened) =>
    let (visit, used) := steps (chain, opened)
    let (closing, _, left) := chains.close.perform used
    ({ visit with closing := some closing }, left)

end ChainAccess

end HostInventory
