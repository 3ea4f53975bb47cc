import HostInventory.Engine
import HostInventory.Proofs.Engine.Alike

/-!
What an engine remembers. An engine without memory is told the boot time whenever it needs it. An
engine answers every request like one without memory that is told what is known, or else what a
fresh query finds; it remembers the boot time that such a query has found, and nothing else.
-/
namespace HostInventory.Engine

open HostInventory.Action

variable {σ η : Type} [Journal σ] (engine : Engine σ η)

def Request.needsBootTime : Request → Bool
  | .bootTime | .snapshot => true
  | _ => false

def Request.usesChains : Request → Bool
  | .uptime | .bootTime | .snapshot => true
  | _ => false

/-- What a snapshot collects before it needs the boot time: processes, services and uptime. -/
def preparation : Action σ (List ProcessRecord × List ServiceRecord × Int) := do
  let processes ← engine.allProcesses
  let services ← engine.services
  noteCollected processes.length services.length
  let uptime ← engine.uptime
  return (processes, services, uptime)

def completion (prepared : List ProcessRecord × List ServiceRecord × Int) (bootTime : Int) :
    Action σ Snapshot := do
  let (processes, services, uptime) := prepared
  let threadCount ← engine.threadCount
  let capturedAt ← engine.clock
  return { processes, services, uptime, bootTime, threadCount, capturedAt }

/-- The answer to a request without memory, where `tell` gives the boot time. -/
def answer (tell : Action σ Int) : Request → Action σ Answer
  | .allProcesses => return .processes (← engine.allProcesses)
  | .process pid => return .process (← engine.process? pid)
  | .children parent => return .processes (← engine.children parent)
  | .descendants parent => return .processes (← engine.descendants parent)
  | .services => return .services (← engine.services)
  | .uptime => return .number (← engine.uptime)
  | .bootTime => return .number (← tell)
  | .processCount => return .number (← engine.processCount)
  | .threadCount => return .number (← engine.threadCount)
  | .snapshot => do
    let prepared ← engine.preparation
    let bootTime ← tell
    return .snapshot (← engine.completion prepared bootTime)

/-- What is known, without asking anything, or else a fresh query. -/
def tell : Option Int → Action σ Int
  | some bootTime => pure bootTime
  | none => engine.oracle.query

/-- The world in which a turn comes to need the boot time, if it does. -/
def asked? (turn : Turn σ) : Option σ :=
  match turn.request with
  | .bootTime => some turn.world
  | .snapshot =>
    match engine.preparation.perform turn.world with
    | (.ok _, world) => some world
    | (.error _, _) => none
  | _ => none

/-- The boot time that a fresh query finds where a turn comes to need it. -/
def found? (turn : Turn σ) : Option Int :=
  (engine.asked? turn).bind fun world => (engine.oracle.query.perform world).1.toOption

theorem answer_of_unasked {turn : Turn σ} (unasked : engine.asked? turn = none)
    (tell other : Action σ Int) :
    (engine.answer tell turn.request).perform turn.world =
      (engine.answer other turn.request).perform turn.world := by
  obtain ⟨request, world⟩ := turn
  cases request with
  | bootTime => cases unasked
  | snapshot =>
    rw [asked?] at unasked
    rw [answer, answer, perform_bind, perform_bind]
    generalize engine.preparation.perform world = ended at unasked ⊢
    obtain ⟨outcome, ready⟩ := ended
    cases outcome with
    | ok prepared => cases unasked
    | error failure => rfl
  | allProcesses | process | children | descendants | services | uptime | processCount
  | threadCount => rfl

theorem asked?_of_needless {turn : Turn σ} (needless : turn.request.needsBootTime = false) :
    engine.asked? turn = none := by
  obtain ⟨request, world⟩ := turn
  cases request with
  | bootTime | snapshot => cases needless
  | allProcesses | process | children | descendants | services | uptime | processCount
  | threadCount => rfl

theorem snapshot_eq :
    engine.snapshot =
      engine.preparation.beside >>= fun prepared =>
        engine.bootTime >>= fun bootTime => (engine.completion prepared bootTime).beside := by
  simp only [snapshot, preparation, completion, beside_bind, beside_pure, bind_assoc, pure_bind]

theorem serve_eq_beside (request : Request) (tell : Action σ Int)
    (needless : request.needsBootTime = false) :
    engine.serve request = (engine.answer tell request).beside := by
  cases request with
  | bootTime | snapshot => cases needless
  | allProcesses | process | children | descendants | services | uptime | processCount
  | threadCount => rw [answer, beside_bind]; rfl

theorem perform_bootTime (known : Option Int) (world : σ) :
    engine.bootTime.perform (known, world) =
      (((engine.tell known).perform world).1,
        known.or (engine.oracle.query.perform world).1.toOption,
        ((engine.tell known).perform world).2) := by
  cases known with
  | some bootTime => rfl
  | none => exact perform_once_none engine.oracle.query world

/-- One request, whatever it is: the answer of an engine without memory, and what is remembered. -/
theorem perform_serve (request : Request) (known : Option Int) (world : σ) :
    (engine.serve request).perform (known, world) =
      (((engine.answer (engine.tell known) request).perform world).1,
        known.or (engine.found? ⟨request, world⟩),
        ((engine.answer (engine.tell known) request).perform world).2) := by
  cases request with
  | allProcesses | process | children | descendants | services | uptime | processCount
  | threadCount =>
    rw [engine.serve_eq_beside _ (engine.tell known) rfl, perform_beside,
      found?, engine.asked?_of_needless rfl, Option.bind_none, Option.or_none]
  | bootTime =>
    rw [serve, answer, perform_bind, perform_bind, perform_bootTime, found?, asked?,
      Option.bind_some]
    rcases (engine.tell known).perform world with ⟨outcome, left⟩
    cases outcome with
    | ok value => rfl
    | error failure => rfl
  | snapshot =>
    -- Only the middle one of its three parts sees the memory, and only if the first one succeeds.
    simp only [serve, answer, snapshot_eq, found?, asked?, perform_bind, perform_beside]
    rcases engine.preparation.perform world with ⟨outcome, ready⟩
    cases outcome with
    | error failure => rw [Option.bind_none, Option.or_none]
    | ok prepared =>
      simp only [perform_bootTime, Option.bind_some]
      rcases (engine.tell known).perform ready with ⟨outcome, asked⟩
      cases outcome with
      | error failure => rfl
      | ok bootTime =>
        simp only [perform_beside]
        rcases (engine.completion prepared bootTime).perform asked with ⟨outcome, left⟩
        cases outcome with
        | ok snapshot => rfl
        | error failure => rfl

section

variable {engine} {tell : Action σ Int} {world left : σ} {bootTime : Int} {snapshot : Snapshot}
  {prepared : List ProcessRecord × List ServiceRecord × Int}

theorem known_of_tell {known : Option Int}
    (tells : (engine.tell known).perform world = (.ok bootTime, left)) :
    known.or (engine.oracle.query.perform world).1.toOption = some bootTime := by
  cases known with
  | some known => cases tells; rfl
  | none => rw [show engine.oracle.query.perform world = (.ok bootTime, left) from tells]; rfl

theorem preparation_eq_ok :
    engine.preparation.perform world = (.ok prepared, left) ↔
      ∃ listed classified noted,
        engine.allProcesses.perform world = (.ok prepared.1, listed) ∧
        engine.services.perform listed = (.ok prepared.2.1, classified) ∧
        (noteCollected prepared.1.length prepared.2.1.length).perform classified = (.ok (), noted) ∧
        engine.uptime.perform noted = (.ok prepared.2.2, left) := by
  constructor
  · intro performed
    obtain ⟨processes, listed, lists, performed⟩ := perform_bind_eq_ok.mp performed
    obtain ⟨services, classified, classifies, performed⟩ := perform_bind_eq_ok.mp performed
    obtain ⟨noted, notes, performed⟩ := perform_then_eq_ok.mp performed
    obtain ⟨uptime, times, rfl⟩ := perform_map_eq_ok.mp performed
    exact ⟨listed, classified, noted, lists, classifies, notes, times⟩
  · rintro ⟨listed, classified, noted, lists, classifies, notes, times⟩
    refine perform_bind_eq_ok.mpr ⟨_, listed, lists, ?_⟩
    refine perform_bind_eq_ok.mpr ⟨_, classified, classifies, ?_⟩
    exact perform_then_eq_ok.mpr ⟨noted, notes, perform_map_eq_ok.mpr ⟨_, times, rfl⟩⟩

theorem completion_eq_ok :
    (engine.completion prepared bootTime).perform world = (.ok snapshot, left) ↔
      ∃ counted,
        engine.threadCount.perform world = (.ok snapshot.threadCount, counted) ∧
        engine.clock.perform counted = (.ok snapshot.capturedAt, left) ∧
        (snapshot.processes, snapshot.services, snapshot.uptime) = prepared ∧
        snapshot.bootTime = bootTime := by
  constructor
  · intro performed
    obtain ⟨count, counted, counts, performed⟩ := perform_bind_eq_ok.mp performed
    obtain ⟨now, reads, rfl⟩ := perform_map_eq_ok.mp performed
    exact ⟨counted, counts, reads, rfl, rfl⟩
  · rintro ⟨counted, counts, reads, rfl, rfl⟩
    exact perform_bind_eq_ok.mpr ⟨_, counted, counts, perform_map_eq_ok.mpr ⟨_, reads, rfl⟩⟩

theorem answer_snapshot_eq_ok :
    (engine.answer tell .snapshot).perform world = (.ok (.snapshot snapshot), left) ↔
      ∃ prepared bootTime ready told, engine.preparation.perform world = (.ok prepared, ready) ∧
        tell.perform ready = (.ok bootTime, told) ∧
        (engine.completion prepared bootTime).perform told = (.ok snapshot, left) := by
  constructor
  · intro performed
    obtain ⟨prepared, ready, prepares, performed⟩ := perform_bind_eq_ok.mp performed
    obtain ⟨bootTime, told, tells, performed⟩ := perform_bind_eq_ok.mp performed
    obtain ⟨snapshot, completes, same⟩ := perform_map_eq_ok.mp performed
    cases same
    exact ⟨prepared, bootTime, ready, told, prepares, tells, completes⟩
  · rintro ⟨prepared, bootTime, ready, told, prepares, tells, completes⟩
    refine perform_bind_eq_ok.mpr ⟨prepared, ready, prepares, ?_⟩
    exact perform_bind_eq_ok.mpr ⟨bootTime, told, tells, perform_map_eq_ok.mpr ⟨_, completes, rfl⟩⟩

end

namespace Alike

variable {engine} {ω θ : Type} [Journal ω] {R : σ → ω → Prop} {S : η × σ → θ × ω → Prop}
  {twin : Engine ω θ} (alike : Engine.Alike R engine twin)
  (chains : ChainAccess.Alike R S engine.chains twin.chains)

include alike

theorem answer_of_chainless {request : Request} (chainless : request.usesChains = false)
    (first : Action σ Int) (second : Action ω Int) :
    Action.Alike R (engine.answer first request) (twin.answer second request) := by
  cases request with
  | uptime | bootTime | snapshot => cases chainless
  | allProcesses => exact alike.allProcesses.map _
  | process pid => exact (alike.process? pid).map _
  | children parent => exact (alike.children parent).map _
  | descendants parent => exact (alike.descendants parent).map _
  | services => exact alike.services.map _
  | processCount => exact alike.processCount.map _
  | threadCount => exact alike.threadCount.map _

include chains

theorem answer_of_needless {request : Request} (needless : request.needsBootTime = false)
    (first : Action σ Int) (second : Action ω Int) :
    Action.Alike R (engine.answer first request) (twin.answer second request) := by
  cases request with
  | bootTime | snapshot => cases needless
  | uptime => exact (alike.uptime chains).map _
  | allProcesses | process | children | descendants | services | processCount | threadCount =>
    exact alike.answer_of_chainless rfl first second

theorem preparation : Action.Alike R engine.preparation twin.preparation :=
  alike.allProcesses.bind fun _ => alike.services.bind fun _ => (alike.journals.log _).bind fun _ =>
    (alike.uptime chains).map _

variable (clocks : Action.Alike R engine.clock twin.clock)

include clocks

theorem query : Action.Alike R engine.oracle.query twin.oracle.query :=
  Oracle.alike_query alike.journals chains clocks

theorem tell (known : Option Int) : Action.Alike R (engine.tell known) (twin.tell known) := by
  cases known with
  | some bootTime => exact alike_pure bootTime
  | none => exact alike.query chains clocks

theorem answer (known : Option Int) (request : Request) :
    Action.Alike R (engine.answer (engine.tell known) request)
      (twin.answer (twin.tell known) request) := by
  cases request with
  | bootTime => exact (alike.tell chains clocks known).map _
  | snapshot =>
    refine (alike.preparation chains).bind fun prepared => ?_
    refine (alike.tell chains clocks known).bind fun bootTime => ?_
    have completes : Action.Alike R (engine.completion prepared bootTime)
        (twin.completion prepared bootTime) :=
      alike.threadCount.bind fun _ => clocks.map _
    exact completes.map _
  | allProcesses | process | children | descendants | services | uptime | processCount
  | threadCount => exact alike.answer_of_needless chains rfl _ _

theorem found?_eq {request : Request} {world : σ} {other : ω} (related : R world other) :
    engine.found? ⟨request, world⟩ = twin.found? ⟨request, other⟩ := by
  have query := alike.query chains clocks
  cases request with
  | bootTime => exact congrArg Except.toOption (query world other related).1
  | snapshot =>
    obtain ⟨same, between⟩ := alike.preparation chains world other related
    rw [found?, found?, asked?, asked?]
    generalize engine.preparation.perform world = ended at same between ⊢
    generalize twin.preparation.perform other = ended' at same between ⊢
    obtain ⟨outcome, ready⟩ := ended
    obtain ⟨_, ready'⟩ := ended'
    cases same
    cases outcome with
    | ok prepared => exact congrArg Except.toOption (query ready ready' between).1
    | error failure => rfl
  | allProcesses | process | children | descendants | services | uptime | processCount
  | threadCount => rfl

end Alike

end HostInventory.Engine
