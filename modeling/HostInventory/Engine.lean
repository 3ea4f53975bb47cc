import HostInventory.BootTime.Oracle
import HostInventory.Process.Lister
import HostInventory.Service.Inventory

/-!
All questions about a host in one place. Every question runs fresh commands; nothing is kept from
one question to the next but the boot time. In a run of questions each meets a world of its own,
since what happens to the world in between is not the engine's doing.
-/
namespace HostInventory

structure Snapshot where
  processes : List ProcessRecord
  services : List ServiceRecord
  uptime : Int
  bootTime : Int
  threadCount : Int
  capturedAt : Float

structure Engine (σ η : Type) where
  config : Config
  source : CommandSource σ
  chains : ChainAccess σ η
  directories : DirectoryLister σ
  clock : Action σ Float
  kernelPids : Action σ (List Int)

namespace Engine

variable {σ η : Type} [Journal σ] (engine : Engine σ η)

def oracle : Oracle σ η := ⟨engine.chains, engine.clock⟩

def allProcesses : Action σ (List ProcessRecord) := ProcessLister.all engine.source engine.config

def process? (pid : Int) : Action σ (Option ProcessRecord) :=
  ProcessLister.get? engine.source engine.config pid

def children (parent : Int) : Action σ (List ProcessRecord) :=
  ProcessLister.children engine.source engine.config parent

def descendants (parent : Int) : Action σ (List ProcessRecord) :=
  ProcessLister.descendants engine.source engine.config parent

def services : Action σ (List ServiceRecord) :=
  ServiceInventory.services engine.source engine.config engine.directories

def uptime : Action σ Int := engine.oracle.uptime

def bootTime : Action (Option Int × σ) Int := engine.oracle.bootTime

def noteCountUnavailable (failure : Failure) : Action σ Unit :=
  Action.log {
    level := .warning, logger := "procinv.engine", name := "process_count_unavailable"
    fields := [("error", .text failure.message)] }

def noteCollected (processes services : Nat) : Action σ Unit :=
  Action.log {
    level := .debug, logger := "procinv.engine", name := "inventory_collected"
    fields := [("processes", .whole processes), ("services", .whole services)] }

/-- The number of pids that the kernel reports, zero if it reports trouble. -/
def processCount : Action σ Int :=
  Action.recover (do return (← engine.kernelPids).length)
    (fun failure => failure.isSystem || failure.isKernel)
    fun failure => do
      noteCountUnavailable failure
      return 0

/-- The number of threads: the lines of a listing with one line each, less its header. No listing at
all leaves the number of processes. -/
def threadCount : Action σ Int := do
  let lines ← engine.source engine.config.threadCommand
  if lines.isEmpty then engine.processCount else return lines.length - 1

/-- The host at this moment: processes, services, uptime, boot time, threads and the time, asked for
in this order. -/
def snapshot : Action (Option Int × σ) Snapshot := do
  let processes ← engine.allProcesses.beside
  let services ← engine.services.beside
  Action.beside (noteCollected processes.length services.length)
  let uptime ← engine.uptime.beside
  let bootTime ← engine.bootTime
  let threadCount ← engine.threadCount.beside
  let capturedAt ← engine.clock.beside
  return { processes, services, uptime, bootTime, threadCount, capturedAt }

inductive Request where
  | allProcesses
  | process (pid : Int)
  | children (parent : Int)
  | descendants (parent : Int)
  | services
  | uptime
  | bootTime
  | processCount
  | threadCount
  | snapshot
  deriving DecidableEq, Repr

inductive Answer where
  | processes (records : List ProcessRecord)
  | process (record : Option ProcessRecord)
  | services (records : List ServiceRecord)
  | number (n : Int)
  | snapshot (snapshot : Snapshot)

/-- Answers a request; the boot time is kept beside the world once it is known. -/
def serve : Request → Action (Option Int × σ) Answer
  | .allProcesses => return .processes (← engine.allProcesses.beside)
  | .process pid => return .process (← (engine.process? pid).beside)
  | .children parent => return .processes (← (engine.children parent).beside)
  | .descendants parent => return .processes (← (engine.descendants parent).beside)
  | .services => return .services (← engine.services.beside)
  | .uptime => return .number (← engine.uptime.beside)
  | .bootTime => return .number (← engine.bootTime)
  | .processCount => return .number (← engine.processCount.beside)
  | .threadCount => return .number (← engine.threadCount.beside)
  | .snapshot => return .snapshot (← engine.snapshot)

end Engine

end HostInventory

namespace HostInventory.Engine

structure Turn (σ : Type) where
  request : Request
  world : σ

/-- A turn and what came of it. -/
structure Exchange (σ : Type) extends Turn σ where
  outcome : Except Failure Answer
  known : Option Int
  left : σ

def Exchange.bootTime? {σ : Type} (exchange : Exchange σ) : Option Int :=
  match exchange.request, exchange.outcome with
  | .bootTime, .ok (.number bootTime) => some bootTime
  | .snapshot, .ok (.snapshot snapshot) => some snapshot.bootTime
  | _, _ => none

variable {σ η : Type} [Journal σ] (engine : Engine σ η)

def exchange (known : Option Int) (turn : Turn σ) : Exchange σ :=
  let (outcome, known, left) := (engine.serve turn.request).perform (known, turn.world)
  { turn with outcome, known, left }

/-- Answers all requests in their order; a new engine knows nothing. -/
def run (known : Option Int) : List (Turn σ) → List (Exchange σ)
  | [] => []
  | turn :: rest =>
    let exchange := engine.exchange known turn
    exchange :: run exchange.known rest

end HostInventory.Engine
