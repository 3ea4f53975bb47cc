import HostInventory.Engine
import HostInventory.Statistics.HostChain

/-!
A host whose answers are written down beforehand, and which writes down what it is asked. It stands
in for a real host wherever a run is to be repeated.
-/
namespace HostInventory

/-- How a chain behaves: what fails, and what the boot-time statistic holds. A chain keeps the
behaviour that it was opened with. -/
structure ChainScript where
  opening : Except Failure Unit := .ok ()
  lookup : Except Failure Unit := .ok ()
  reading : Except Failure Unit := .ok ()
  value : Except Failure Unit := .ok ()
  closing : Except Failure Unit := .ok ()
  snapTime : Option Int := none
  bootTime : Option Int := none
  isReadable : Bool := true

/-- Answers that are given one after another; the last one is given again and again. -/
abbrev Answers (α : Type) := List (Except Failure α)

/-- The next answer, `default` if there never was one, and the answers after it. -/
def Answers.next {α : Type} (default : α) : Answers α → Except Failure α × Answers α
  | [] => (.ok default, [])
  | [last] => (last, [last])
  | answer :: rest => (answer, rest)

structure Replay where
  outputs : List (String × Except Failure (List String)) := []
  scripts : Option (List String) := none
  chain : ChainScript := {}
  clock : Answers Float := []
  bootTime : Answers Float := []
  pids : Except Failure (List Int) := .ok []
  commands : List String := []
  directories : List String := []
  opened : Nat := 0
  closed : Nat := 0
  clockReadings : Nat := 0
  bootTimeQueries : Nat := 0
  journal : List Journal.Event := []

instance : Journal Replay where
  note event replay := { replay with journal := replay.journal ++ [event] }

namespace Replay

/-- The lines of a command; a command that nothing is written down for prints none. -/
def source : CommandSource Replay := fun command =>
  ExceptT.mk fun replay =>
    ((replay.outputs.lookup command).getD (.ok []),
      { replay with commands := replay.commands ++ [command] })

def setOutputs (replay : Replay) (outputs : List (String × Except Failure (List String))) :
    Replay :=
  { replay with outputs := outputs ++ replay.outputs }

def directoryLister : DirectoryLister Replay := fun directory =>
  ExceptT.mk fun replay =>
    (.ok replay.scripts, { replay with directories := replay.directories ++ [directory] })

def readClock : Action Replay Float :=
  ExceptT.mk fun replay =>
    let (answer, clock) := replay.clock.next 0
    (answer, { replay with clock, clockReadings := replay.clockReadings + 1 })

def queryBootTime : Action Replay Float :=
  ExceptT.mk fun replay =>
    let (answer, bootTime) := replay.bootTime.next 0
    (answer, { replay with bootTime, bootTimeQueries := replay.bootTimeQueries + 1 })

def kernelPids : Action Replay (List Int) := ExceptT.mk fun replay => (replay.pids, replay)

/-- The field that a chain reads into a statistic, if its script has one. -/
def readInto (script : ChainScript) (statistic : Statistic) : Statistic :=
  match script.bootTime with
  | some bootTime => statistic.setField "boot_time" bootTime
  | none => statistic

def chains : ChainAccess Replay ChainScript where
  connect := ExceptT.mk fun replay =>
    match replay.chain.opening with
    | .ok () => (.ok replay.chain, { replay with opened := replay.opened + 1 })
    | .error failure => (.error failure, replay)
  lookup key := do
    let (script, _) ← get
    Action.ofExcept script.lookup
    if key ≠ systemMisc then return none
    return script.snapTime.map fun time => ⟨key, time, []⟩
  read statistic := do
    let (script, _) ← get
    Action.ofExcept script.reading
    return if script.isReadable then some (readInto script statistic) else none
  value statistic name := do
    let (script, _) ← get
    Action.ofExcept script.value
    return HostChain.value statistic name
  close := ExceptT.mk fun (script, replay) =>
    (script.closing, script, { replay with closed := replay.closed + 1 })

def engine (config : Config) : Engine Replay ChainScript where
  config
  source
  chains
  directories := directoryLister
  clock := readClock
  kernelPids

def oracle : Oracle Replay ChainScript := ⟨chains, readClock⟩

end Replay

end HostInventory
