import HostInventory.Proofs.Engine.Runs
import HostInventory.Proofs.Statistics.Ledger

/-!
An engine with account kept of its chains. It does what the engine does without; its ledger is tidy
after every request, and no request adds more attempts than it may need.
-/
namespace HostInventory.Engine

open HostInventory.Action ChainLedger

variable {σ η : Type}

/-- The same engine with account kept of its chains. -/
def ledgered (engine : Engine σ η) : Engine (ChainLedger × σ) (Nat × η) where
  config := engine.config
  source command := (engine.source command).beside
  chains := engine.chains.ledgered
  directories directory := (engine.directories directory).beside
  clock := engine.clock.beside
  kernelPids := engine.kernelPids.beside

def Exchange.withoutLedger (exchange : Exchange (ChainLedger × σ)) : Exchange σ where
  request := exchange.request
  world := exchange.world.2
  outcome := exchange.outcome
  known := exchange.known
  left := exchange.left.2

/-- The chains that a request may try to open; less if the boot time is known already. -/
def Request.chainsAtMost (isKnown : Bool) : Request → Nat
  | .uptime => 1
  | .bootTime => if isKnown then 0 else 2
  | .snapshot => if isKnown then 1 else 3
  | _ => 0

/-- A run with account kept of the chains: the worlds that the requests meet are their own, but the
ledger goes on from one to the next. -/
def bookedRun [Journal σ] (engine : Engine σ η) (known : Option Int) (ledger : ChainLedger) :
    List (Turn σ) → List (Exchange (ChainLedger × σ))
  | [] => []
  | turn :: rest =>
    let exchange := engine.ledgered.exchange known ⟨turn.request, ledger, turn.world⟩
    exchange :: engine.bookedRun exchange.known exchange.left.1 rest

/-- A world beside a ledger of which `P` holds, and the same world by itself. -/
def BesideLedger (P : ChainLedger → Prop) (booked : ChainLedger × σ) (world : σ) : Prop :=
  P booked.1 ∧ booked.2 = world

def BesideNumber (used : (Nat × η) × ChainLedger × σ) (plain : η × σ) : Prop :=
  used.1.2 = plain.1 ∧ used.2.2 = plain.2

theorem alike_beside {α : Type} (P : ChainLedger → Prop) (a : Action σ α) :
    Action.Alike (BesideLedger P) (beside a) a := by
  rintro ⟨ledger, world⟩ _ ⟨holds, rfl⟩
  exact ⟨rfl, holds, rfl⟩

theorem alike_unledgered {α : Type} (a : Action (η × σ) α) :
    Action.Alike BesideNumber (ChainAccess.unledgered a) a := by
  rintro ⟨⟨number, chain⟩, ledger, world⟩ ⟨_, _⟩ ⟨rfl, rfl⟩
  exact ⟨rfl, rfl, rfl⟩

theorem alike_chains_ledgered (chains : ChainAccess σ η) :
    ChainAccess.Alike (BesideLedger fun _ => True) BesideNumber chains.ledgered chains where
  connect := by
    rintro ⟨ledger, world⟩ _ ⟨-, rfl⟩
    rw [chains.connect_ledgered]
    generalize chains.connect.perform world = ended
    obtain ⟨outcome, opened⟩ := ended
    cases outcome with
    | ok chain => exact .opened ⟨rfl, rfl⟩
    | error failure => exact .refused ⟨trivial, rfl⟩
  lookup key := alike_unledgered _
  read statistic := alike_unledgered _
  value statistic name := alike_unledgered _
  close := by
    rintro ⟨⟨number, chain⟩, ledger, world⟩ ⟨_, _⟩ ⟨rfl, rfl⟩
    exact ⟨rfl, trivial, rfl⟩

variable [Journal σ] (engine : Engine σ η)

theorem alike_ledgered (P : ChainLedger → Prop) :
    Engine.Alike (BesideLedger P) engine.ledgered engine where
  journals := by
    rintro event ⟨ledger, world⟩ _ ⟨holds, rfl⟩
    exact ⟨holds, rfl⟩
  config := rfl
  source command := alike_beside P _
  directories directory := alike_beside P _
  kernelPids := alike_beside P _

theorem withoutLedger_exchange (known : Option Int) (ledger : ChainLedger) (turn : Turn σ) :
    (engine.ledgered.exchange known ⟨turn.request, ledger, turn.world⟩).withoutLedger =
      engine.exchange known turn := by
  have alike := engine.alike_ledgered fun _ => True
  have chains := alike_chains_ledgered engine.chains
  have clocks : Action.Alike _ engine.ledgered.clock engine.clock :=
    alike_beside (fun _ => True) engine.clock
  have related : BesideLedger (fun _ => True) (ledger, turn.world) turn.world := ⟨trivial, rfl⟩
  obtain ⟨outcome, -, left⟩ := alike.answer chains clocks known turn.request _ _ related
  have found : engine.ledgered.found? ⟨turn.request, ledger, turn.world⟩ =
      engine.found? ⟨turn.request, turn.world⟩ := alike.found?_eq chains clocks related
  rw [exchange, exchange, perform_serve, perform_serve, outcome, found, ← left]
  rfl

theorem withoutLedger_bookedRun (known : Option Int) (ledger : ChainLedger)
    (turns : List (Turn σ)) :
    (engine.bookedRun known ledger turns).map (·.withoutLedger) = engine.run known turns := by
  induction turns generalizing known ledger with
  | nil => rfl
  | cons turn rest ih =>
    have same := engine.withoutLedger_exchange known ledger turn
    rw [bookedRun, List.map_cons, ih, same, run, ← same]
    rfl

omit [Journal σ] in
theorem attempts_of_alike {α : Type} {a : Action (ChainLedger × σ) α} {b : Action σ α}
    (alike : ∀ ledger, Action.Alike (BesideLedger (· = ledger)) a b) : AttemptsAtMost 0 a :=
  .of_keeps fun ledger world same => (alike ledger world world.2 ⟨same, rfl⟩).2.1

theorem attempts_preparation : AttemptsAtMost 1 engine.ledgered.preparation := by
  have processes :=
    attempts_of_alike fun ledger => (engine.alike_ledgered (· = ledger)).allProcesses
  have services := attempts_of_alike fun ledger => (engine.alike_ledgered (· = ledger)).services
  refine processes.bind (n := 1) fun _ => services.bind (n := 1) fun _ => ?_
  refine (attempts_log _).bind (n := 1) fun _ => ?_
  exact engine.oracle.attempts_uptime.bind fun _ => attempts_pure _

theorem attempts_completion (prepared : List ProcessRecord × List ServiceRecord × Int)
    (bootTime : Int) : AttemptsAtMost 0 (engine.ledgered.completion prepared bootTime) := by
  have threads := attempts_of_alike fun ledger => (engine.alike_ledgered (· = ledger)).threadCount
  exact threads.bind fun _ => (attempts_beside engine.clock).bind fun _ => attempts_pure _

theorem attempts_tell (known : Option Int) :
    AttemptsAtMost (if known.isSome then 0 else 2) (engine.ledgered.tell known) := by
  cases known with
  | some bootTime => exact attempts_pure bootTime
  | none => exact engine.oracle.attempts_query

theorem attempts_answer (known : Option Int) (request : Request) :
    AttemptsAtMost (request.chainsAtMost known.isSome)
      (engine.ledgered.answer (engine.ledgered.tell known) request) := by
  cases request with
  | uptime => exact engine.oracle.attempts_uptime.bind fun _ => attempts_pure _
  | bootTime => exact (engine.attempts_tell known).bind fun _ => attempts_pure _
  | snapshot =>
    have tells := engine.attempts_tell known
    have all : AttemptsAtMost (1 + ((if known.isSome then 0 else 2) + (0 + 0)))
        (engine.ledgered.answer (engine.ledgered.tell known) .snapshot) :=
      engine.attempts_preparation.bind fun prepared => tells.bind fun bootTime =>
        (engine.attempts_completion prepared bootTime).bind fun _ => attempts_pure _
    refine all.mono ?_
    rw [Request.chainsAtMost]
    split <;> decide
  | allProcesses | process | children | descendants | services | processCount | threadCount =>
    exact attempts_of_alike fun ledger =>
      (engine.alike_ledgered (· = ledger)).answer_of_chainless rfl _ (engine.tell known)

theorem ledger_exchange (known : Option Int) (ledger : ChainLedger) (turn : Turn σ) :
    GrowsAtMost (turn.request.chainsAtMost known.isSome) ledger
      (engine.ledgered.exchange known ⟨turn.request, ledger, turn.world⟩).left.1 := by
  have left := congrArg (·.2)
    (engine.ledgered.result_exchange known ⟨turn.request, ledger, turn.world⟩)
  have adds := engine.attempts_answer known turn.request ledger turn.world
  rw [← left] at adds
  exact adds

theorem exists_visits_of_bookedRun {turns : List (Turn σ)} {exchange : Exchange (ChainLedger × σ)}
    (known : Option Int) (visits : List Bool)
    (mem : exchange ∈ engine.bookedRun known (ofVisits 0 visits) turns) :
    ∃ total, exchange.left.1 = ofVisits 0 total := by
  induction turns generalizing known visits with
  | nil => cases mem
  | cons turn rest ih =>
    -- The numbers of what is added go on where those of the ledger end.
    obtain ⟨added, -, grown⟩ := engine.ledger_exchange known (ofVisits 0 visits) turn
    have number : attempts (ofVisits 0 visits) = 0 + visits.length := by
      rw [attempts_ofVisits, Nat.zero_add]
    rw [number, ← ofVisits_append] at grown
    rcases List.mem_cons.mp mem with rfl | later
    · exact ⟨visits ++ added, grown⟩
    · rw [grown] at later
      exact ih _ _ later

theorem exists_eq_exchange_of_bookedRun {turns : List (Turn σ)} {known : Option Int}
    {ledger : ChainLedger} {earlier later : List (Exchange (ChainLedger × σ))}
    {exchange : Exchange (ChainLedger × σ)}
    (split : engine.bookedRun known ledger turns = earlier ++ exchange :: later) :
    ∃ (turn : Turn σ) (before : ChainLedger), exchange = engine.ledgered.exchange
      (known.or (engine.firstFound (earlier.map (·.withoutLedger.toTurn))))
      ⟨turn.request, before, turn.world⟩ := by
  induction turns generalizing known ledger earlier with
  | nil =>
    rw [bookedRun] at split
    cases earlier <;> cases split
  | cons turn rest ih =>
    rw [bookedRun] at split
    cases earlier with
    | nil =>
      refine ⟨turn, ledger, ?_⟩
      rw [List.map_nil, firstFound, List.findSome?_nil, Option.or_none]
      exact (List.cons.inj split).1.symm
    | cons first earlier =>
      obtain ⟨head, tail⟩ := List.cons.inj split
      have same := engine.withoutLedger_exchange known ledger turn
      rw [head] at same
      have turns : first.withoutLedger.toTurn = turn := congrArg (·.toTurn) same
      have memory : first.known = known.or (engine.found? turn) :=
        (congrArg (·.known) same).trans (engine.known_exchange known turn)
      rw [head, memory] at tail
      rw [List.map_cons, firstFound_cons, turns, ← Option.or_assoc]
      exact ih tail

/-- What holds of the account that is kept of a run's chains. -/
structure KeepsBooks (engine : Engine σ η) (known : Option Int) (turns : List (Turn σ)) : Prop where
  /-- The run is what it is without account being kept. -/
  plain : (engine.bookedRun known [] turns).map (·.withoutLedger) = engine.run known turns
  /-- After every request, whether it is answered or fails, the ledger is tidy. -/
  tidy : ∀ exchange ∈ engine.bookedRun known [] turns, exchange.left.1.IsTidy
  /-- A request adds no more attempts than it may need: less if the boot time is known by then. -/
  few : ∀ earlier exchange later, engine.bookedRun known [] turns = earlier ++ exchange :: later →
    ∃ added, exchange.left.1 = exchange.world.1 ++ added ∧
      attempts added ≤ exchange.request.chainsAtMost
        (known.or (engine.firstFound (earlier.map (·.withoutLedger.toTurn)))).isSome

theorem keeps_books (engine : Engine σ η) (known : Option Int) (turns : List (Turn σ)) :
    engine.KeepsBooks known turns where
  plain := engine.withoutLedger_bookedRun known [] turns
  tidy exchange mem := by
    obtain ⟨visits, total⟩ := engine.exists_visits_of_bookedRun known [] mem
    rw [total]
    exact isTidy_ofVisits 0 visits
  few earlier exchange later split := by
    obtain ⟨turn, before, rfl⟩ := engine.exists_eq_exchange_of_bookedRun split
    obtain ⟨visits, few, grown⟩ := engine.ledger_exchange _ before turn
    refine ⟨ofVisits (attempts before) visits, grown, ?_⟩
    rw [attempts_ofVisits]
    exact few

/-- Chains that fail to close are closed once all the same; a second one is tried only while the
boot time is not known. -/
example :
    ((Replay.engine {}).bookedRun none []
      [⟨.bootTime, { chain := { closing := .error .chainClosed } }⟩,
        ⟨.bootTime, { chain := { closing := .error .chainClosed } }⟩]).map (·.left.1) =
      [[.opened 0, .closed 0, .opened 1, .closed 1],
        [.opened 0, .closed 0, .opened 1, .closed 1]] := by decide

end HostInventory.Engine
