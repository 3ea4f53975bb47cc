import HostInventory.Proofs.Engine.Alike
import HostInventory.Proofs.Engine.Memory
import Mathlib.Data.List.Forall2

/-!
Runs of an engine. Whatever has been asked before and whatever failed, the only thing that a run
carries from one request to the next is the boot time that its first successful query found.
-/
namespace HostInventory.Engine

open HostInventory.Action

variable {σ η : Type} [Journal σ]

def Exchange.result (exchange : Exchange σ) : Except Failure Answer × σ :=
  (exchange.outcome, exchange.left)

/-- The boot time that the first successful query of the turns finds. -/
def firstFound (engine : Engine σ η) (turns : List (Turn σ)) : Option Int :=
  turns.findSome? engine.found?

/-- A snapshot that holds what separate requests are answered, each made in the world that the one
before it left, and after them the time of the clock. -/
def Gathers (engine : Engine σ η) (known : Option Int) (world : σ) (snapshot : Snapshot)
    (left : σ) : Prop :=
  ∃ listed classified noted timed told counted,
    (engine.exchange known ⟨.allProcesses, world⟩).result =
      (.ok (.processes snapshot.processes), listed) ∧
    (engine.exchange known ⟨.services, listed⟩).result =
      (.ok (.services snapshot.services), classified) ∧
    (noteCollected snapshot.processes.length snapshot.services.length).perform classified =
      (.ok (), noted) ∧
    (engine.exchange known ⟨.uptime, noted⟩).result = (.ok (.number snapshot.uptime), timed) ∧
    (engine.exchange known ⟨.bootTime, timed⟩).result = (.ok (.number snapshot.bootTime), told) ∧
    (engine.exchange (some snapshot.bootTime) ⟨.threadCount, told⟩).result =
      (.ok (.number snapshot.threadCount), counted) ∧
    engine.clock.perform counted = (.ok snapshot.capturedAt, left)

/-- Two exchanges over one turn that differ at most because of what was known of the boot time. -/
structure AgreesButForBootTime (engine : Engine σ η) (exchange other : Exchange σ) : Prop where
  turn : exchange.toTurn = other.toTurn
  unasked : engine.asked? exchange.toTurn = none → exchange.result = other.result
  snapshots : ∀ snapshot twin, exchange.outcome = .ok (.snapshot snapshot) →
    other.outcome = .ok (.snapshot twin) →
    snapshot.processes = twin.processes ∧ snapshot.services = twin.services ∧
      snapshot.uptime = twin.uptime

/-- A snapshot that holds what a new engine answers to each of the separate requests. -/
structure Portrays (engine : Engine σ η) (world : σ) (snapshot : Snapshot) : Prop where
  processes : (engine.exchange none ⟨.allProcesses, world⟩).outcome =
    .ok (.processes snapshot.processes)
  services : (engine.exchange none ⟨.services, world⟩).outcome = .ok (.services snapshot.services)
  uptime : (engine.exchange none ⟨.uptime, world⟩).outcome = .ok (.number snapshot.uptime)
  threadCount : (engine.exchange none ⟨.threadCount, world⟩).outcome =
    .ok (.number snapshot.threadCount)

variable (engine : Engine σ η) (known : Option Int)

theorem result_exchange (turn : Turn σ) :
    (engine.exchange known turn).result =
      (engine.answer (engine.tell known) turn.request).perform turn.world := by
  rw [exchange, perform_serve]
  rfl

theorem result_of_outcome {turn : Turn σ} {outcome : Except Failure Answer}
    (ends : (engine.exchange known turn).outcome = outcome) :
    (engine.exchange known turn).result = (outcome, (engine.exchange known turn).left) :=
  Prod.ext ends rfl

theorem request_of_snapshot {turn : Turn σ} {snapshot : Snapshot}
    (gathered : (engine.exchange known turn).outcome = .ok (.snapshot snapshot)) :
    turn.request = .snapshot := by
  obtain ⟨request, world⟩ := turn
  have result := engine.result_of_outcome known gathered
  rw [result_exchange] at result
  cases request with
  | snapshot => rfl
  | allProcesses | process | children | descendants | services | uptime | bootTime | processCount
  | threadCount =>
    obtain ⟨_, _, same⟩ := perform_map_eq_ok.mp result
    cases same

theorem known_exchange (turn : Turn σ) :
    (engine.exchange known turn).known = known.or (engine.found? turn) := by
  rw [exchange, perform_serve]

theorem firstFound_cons (turn : Turn σ) (rest : List (Turn σ)) :
    engine.firstFound (turn :: rest) = (engine.found? turn).or (engine.firstFound rest) := by
  rw [firstFound, List.findSome?_cons]
  cases engine.found? turn with
  | some bootTime => rfl
  | none => rfl

theorem run_append (earlier later : List (Turn σ)) :
    engine.run known (earlier ++ later) =
      engine.run known earlier ++ engine.run (known.or (engine.firstFound earlier)) later := by
  induction earlier generalizing known with
  | nil => rw [firstFound, List.findSome?_nil, Option.or_none]; rfl
  | cons turn rest ih =>
    rw [List.cons_append, run, run, known_exchange, ih, firstFound_cons, Option.or_assoc,
      List.cons_append]

theorem toTurn_run (turns : List (Turn σ)) :
    (engine.run known turns).map (·.toTurn) = turns := by
  induction turns generalizing known with
  | nil => rfl
  | cons turn rest ih => rw [run, List.map_cons, ih]; rfl

theorem eq_exchange_of_run {turns : List (Turn σ)} {earlier later : List (Exchange σ)}
    {exchange : Exchange σ} (split : engine.run known turns = earlier ++ exchange :: later) :
    exchange =
      engine.exchange (known.or (engine.firstFound (earlier.map (·.toTurn)))) exchange.toTurn := by
  have all : turns = earlier.map (·.toTurn) ++ exchange.toTurn :: later.map (·.toTurn) := by
    rw [← engine.toTurn_run known turns, split, List.map_append, List.map_cons]
  rw [all, run_append, run] at split
  -- Both halves are as long as the turns before the exchange, so the cut is at the same place.
  have lengths : (engine.run known (earlier.map (·.toTurn))).length = earlier.length := by
    have turns := congrArg List.length (engine.toTurn_run known (earlier.map (·.toTurn)))
    rwa [List.length_map, List.length_map] at turns
  exact (List.cons.inj (List.append_inj split lengths).2).1.symm

theorem gathers_iff {world left : σ} {snapshot : Snapshot} :
    engine.Gathers known world snapshot left ↔
      (engine.exchange known ⟨.snapshot, world⟩).result = (.ok (.snapshot snapshot), left) := by
  rw [result_exchange, answer_snapshot_eq_ok]
  simp only [Gathers, result_exchange, answer, perform_map_eq_ok, Answer.processes.injEq,
    Answer.services.injEq, Answer.number.injEq, exists_eq_right, preparation_eq_ok,
    completion_eq_ok]
  constructor
  · rintro ⟨listed, classified, noted, timed, told, counted, lists, classifies, notes, times, tells,
      counts, reads⟩
    exact ⟨_, _, timed, told, ⟨listed, classified, noted, lists, classifies, notes, times⟩, tells,
      counted, counts, reads, rfl, rfl⟩
  · rintro ⟨_, _, timed, told, ⟨listed, classified, noted, lists, classifies, notes, times⟩, tells,
      counted, counts, reads, rfl, rfl⟩
    exact ⟨listed, classified, noted, timed, told, counted, lists, classifies, notes, times, tells,
      counts, reads⟩

omit [Journal σ] in
theorem mem_bootTime? {exchange : Exchange σ} {bootTime : Int} :
    bootTime ∈ exchange.bootTime? ↔
      exchange.request = .bootTime ∧ exchange.outcome = .ok (.number bootTime) ∨
        ∃ snapshot, exchange.request = .snapshot ∧ exchange.outcome = .ok (.snapshot snapshot) ∧
          snapshot.bootTime = bootTime := by
  obtain ⟨⟨request, world⟩, outcome, known, left⟩ := exchange
  rw [Exchange.bootTime?]
  split
  · simp_all
  · simp_all
  · simp_all

theorem exists_eq_exchange {turns : List (Turn σ)} {exchange : Exchange σ}
    (mem : exchange ∈ engine.run known turns) :
    ∃ before, exchange = engine.exchange before exchange.toTurn := by
  obtain ⟨earlier, later, split⟩ := List.append_of_mem mem
  exact ⟨_, engine.eq_exchange_of_run known split⟩

theorem known_of_told {turn : Turn σ} {bootTime : Int}
    (told : bootTime ∈ (engine.exchange known turn).bootTime?) :
    (engine.exchange known turn).known = some bootTime := by
  obtain ⟨request, world⟩ := turn
  rw [known_exchange]
  rcases mem_bootTime?.mp told with ⟨asks, outcome⟩ | ⟨snapshot, asks, outcome, same⟩
  · obtain rfl : request = .bootTime := asks
    have result := engine.result_of_outcome known outcome
    rw [result_exchange] at result
    obtain ⟨_, tells, same⟩ := perform_map_eq_ok.mp result
    cases same
    exact known_of_tell tells
  · obtain rfl : request = .snapshot := asks
    have result := engine.result_of_outcome known outcome
    rw [result_exchange] at result
    obtain ⟨prepared, _, ready, _, prepares, tells, completes⟩ := answer_snapshot_eq_ok.mp result
    obtain ⟨_, _, _, _, rfl⟩ := completion_eq_ok.mp completes
    rw [← same, found?, asked?, prepares]
    exact known_of_tell tells

theorem told_eq {turns : List (Turn σ)} {exchange : Exchange σ} {bootTime : Int}
    (mem : exchange ∈ engine.run known turns) (told : bootTime ∈ exchange.bootTime?) :
    known.or (engine.firstFound turns) = some bootTime := by
  induction turns generalizing known with
  | nil => cases mem
  | cons turn rest ih =>
    rw [firstFound_cons, ← Option.or_assoc, ← known_exchange]
    rcases List.mem_cons.mp mem with rfl | mem
    · rw [engine.known_of_told known told, Option.some_or]
    · exact ih _ mem

theorem agrees_exchange (other : Option Int) (turn : Turn σ) :
    engine.AgreesButForBootTime (engine.exchange known turn) (engine.exchange other turn) where
  turn := rfl
  unasked unasked := by
    rw [result_exchange, result_exchange]
    exact engine.answer_of_unasked unasked _ _
  snapshots snapshot twin first second := by
    obtain ⟨request, world⟩ := turn
    obtain rfl : request = .snapshot := engine.request_of_snapshot known first
    have one := engine.result_of_outcome known first
    have two := engine.result_of_outcome other second
    rw [result_exchange] at one two
    obtain ⟨prepared, _, _, _, prepares, _, completes⟩ := answer_snapshot_eq_ok.mp one
    obtain ⟨again, _, _, _, repeats, _, concludes⟩ := answer_snapshot_eq_ok.mp two
    obtain ⟨_, _, _, rfl, _⟩ := completion_eq_ok.mp completes
    obtain ⟨_, _, _, rfl, _⟩ := completion_eq_ok.mp concludes
    have same := prepares.symm.trans repeats
    simp only [Prod.mk.injEq, Except.ok.injEq] at same
    exact same.1

theorem agrees_run (other : Option Int) (turns : List (Turn σ)) :
    List.Forall₂ engine.AgreesButForBootTime (engine.run known turns) (engine.run other turns) := by
  induction turns generalizing known other with
  | nil => exact .nil
  | cons turn rest ih => exact .cons (engine.agrees_exchange known other turn) (ih _ _)

section

variable {engine known} {ν : Type} {view : σ → ν} (steady : engine.IsSteady view)
  {request : Request} {world between left : σ} {outcome : Except Failure Answer} {shown : ν}

include steady

theorem IsSteady.alike_answer (needless : request.needsBootTime = false)
    (known other : Option Int) :
    Action.Alike (Shows view shown) (engine.answer (engine.tell known) request)
      (engine.answer (engine.tell other) request) :=
  (steady.alike shown).answer_of_needless (steady.chains shown) needless _ _

theorem IsSteady.outcome_eq (needless : request.needsBootTime = false)
    (shows : view between = view world)
    (result : (engine.exchange known ⟨request, between⟩).result = (outcome, left)) :
    (engine.exchange none ⟨request, world⟩).outcome = outcome := by
  rw [result_exchange] at result
  have same := (steady.alike_answer needless none known world between ⟨rfl, shows⟩).1
  calc (engine.exchange none ⟨request, world⟩).outcome
      = ((engine.answer (engine.tell none) request).perform world).1 :=
        congrArg Prod.fst (engine.result_exchange none ⟨request, world⟩)
    _ = ((engine.answer (engine.tell known) request).perform between).1 := same
    _ = outcome := congrArg Prod.fst result

theorem IsSteady.view_eq (needless : request.needsBootTime = false)
    (result : (engine.exchange known ⟨request, world⟩).result = (outcome, left)) :
    view left = view world := by
  rw [result_exchange] at result
  exact (steady.alike_answer needless known known).keeps.left rfl result

theorem IsSteady.view_eq_bootTime
    (result : (engine.exchange known ⟨.bootTime, world⟩).result = (outcome, left)) :
    view left = view world := by
  rw [result_exchange] at result
  have tells : Keeps (view · = view world) (engine.tell known) := by
    cases known with
    | some bootTime => exact keeps_pure bootTime
    | none => exact steady.keeps_query
  have answers : Keeps (view · = view world) (engine.answer (engine.tell known) .bootTime) :=
    tells.bind fun _ => keeps_pure _
  exact answers.left rfl result

theorem Gathers.portrays {snapshot : Snapshot}
    (gathers : engine.Gathers known world snapshot left) : engine.Portrays world snapshot := by
  obtain ⟨listed, classified, noted, timed, told, counted, lists, classifies, notes, times, tells,
    counts, -⟩ := gathers
  have atListed : view listed = view world := steady.view_eq rfl lists
  have atClassified : view classified = view world := (steady.view_eq rfl classifies).trans atListed
  have atNoted : view noted = view world := (steady.keeps_log _).left atClassified notes
  have atTimed : view timed = view world := (steady.view_eq rfl times).trans atNoted
  have atTold : view told = view world := (steady.view_eq_bootTime tells).trans atTimed
  exact ⟨steady.outcome_eq rfl rfl lists, steady.outcome_eq rfl atListed classifies,
    steady.outcome_eq rfl atNoted times, steady.outcome_eq rfl atTold counts⟩

end

/-- What holds of a run of an engine that knows `known` of the boot time when the run begins. -/
structure IsConsistent (engine : Engine σ η) (known : Option Int) (turns : List (Turn σ)) :
    Prop where
  /-- All boot times that are told are one number. -/
  one : ∀ first ∈ engine.run known turns, ∀ second ∈ engine.run known turns,
    ∀ bootTime ∈ first.bootTime?, ∀ other ∈ second.bootTime?, bootTime = other
  /-- As long as nothing is known and no query has succeeded, a fresh query is made where the boot
  time is needed; afterwards what the first successful query found is told without a query. -/
  told : ∀ earlier exchange later, engine.run known turns = earlier ++ exchange :: later →
    exchange.result =
      (engine.answer (engine.tell (known.or (engine.firstFound (earlier.map (·.toTurn)))))
        exchange.request).perform exchange.world
  /-- What does not need the boot time is answered as by a new engine. -/
  needless : ∀ exchange ∈ engine.run known turns, exchange.request.needsBootTime = false →
    exchange.result = (engine.exchange none exchange.toTurn).result
  /-- A snapshot succeeds just where the separate requests do, and gathers their answers. -/
  gathered : ∀ earlier exchange later, engine.run known turns = earlier ++ exchange :: later →
    exchange.request = .snapshot → ∀ snapshot left,
      exchange.result = (.ok (.snapshot snapshot), left) ↔
        engine.Gathers (known.or (engine.firstFound (earlier.map (·.toTurn)))) exchange.world
          snapshot left
  /-- On a host that does not change meanwhile it does not matter when the requests are made. -/
  portrayed : ∀ (ν : Type) (view : σ → ν), engine.IsSteady view →
    ∀ exchange ∈ engine.run known turns, ∀ snapshot,
      exchange.outcome = .ok (.snapshot snapshot) → engine.Portrays exchange.world snapshot
  /-- A request, such as a snapshot that fails at any stage, changes no later answer, except that
  it may have found the boot time. -/
  harmless : ∀ earlier turn later, turns = earlier ++ turn :: later →
    let before := known.or (engine.firstFound earlier)
    let after := before.or (engine.found? turn)
    engine.run known turns =
        engine.run known earlier ++ engine.exchange before turn :: engine.run after later ∧
      engine.run known (earlier ++ later) = engine.run known earlier ++ engine.run before later ∧
      List.Forall₂ engine.AgreesButForBootTime (engine.run after later) (engine.run before later)

theorem consistent_run (engine : Engine σ η) (known : Option Int) (turns : List (Turn σ)) :
    engine.IsConsistent known turns where
  one first memFirst second memSecond bootTime told other tells :=
    Option.some.inj
      ((engine.told_eq known memFirst told).symm.trans (engine.told_eq known memSecond tells))
  told earlier exchange later split := by
    have made := engine.eq_exchange_of_run known split
    exact (congrArg Exchange.result made).trans (engine.result_exchange _ _)
  needless exchange mem needless := by
    obtain ⟨before, made⟩ := engine.exists_eq_exchange known mem
    rw [congrArg Exchange.result made, result_exchange, result_exchange]
    exact engine.answer_of_unasked (engine.asked?_of_needless needless) _ _
  gathered earlier exchange later split asks snapshot left := by
    have made := engine.eq_exchange_of_run known split
    rw [gathers_iff, congrArg Exchange.result made, ← asks]
  portrayed ν view steady exchange mem snapshot gathered := by
    obtain ⟨before, made⟩ := engine.exists_eq_exchange known mem
    have outcome := (congrArg Exchange.outcome made).symm.trans gathered
    have asks := engine.request_of_snapshot before outcome
    have result := engine.result_of_outcome before outcome
    obtain ⟨⟨request, world⟩, _⟩ := exchange
    obtain rfl : request = .snapshot := asks
    exact ((engine.gathers_iff before).mpr result).portrays steady
  harmless earlier turn later split := by
    intro before after
    refine ⟨?_, engine.run_append known earlier later, engine.agrees_run after before later⟩
    rw [split, run_append, run, known_exchange]

end HostInventory.Engine
