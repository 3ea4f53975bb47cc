import HostInventory.BootTime.Oracle
import HostInventory.Proofs.Action
import HostInventory.Replay
import Mathlib.Data.Rat.Floor

/-!
What an oracle answers, whatever a chain and the clock do. Each use of a chain may fail when it is
opened, looked into, read or closed; the outcome of the oracle is told from the outcomes of these
steps. Main statement: the uptime and a boot time that is not known yet, in every world.
-/
namespace HostInventory

open HostInventory.Action

namespace Visit

variable {α : Type} {visit : Visit} {failure : Failure}

/-- What a use gives where it is to give `value?`: the failure of a step, or else this value. -/
def outcome (visit : Visit) (value? : Option α) : Except Failure (Option α) :=
  match visit.failure? with
  | some failure => .error failure
  | none => .ok value?

/-- Opening or closing fails, and this is the failure. -/
def FailsAtScope (visit : Visit) (failure : Failure) : Prop :=
  visit.opening = .error failure ∨ visit.closing = some (.error failure)

theorem outcome_closed (opened : visit.opening = .ok ()) (unclosed : visit.closing = none)
    (closing : Except Failure Unit) (value? : Option α) :
    { visit with closing := some closing }.outcome value? =
      (closing.mapError Failure.outOfScope).bind fun _ => visit.outcome value? := by
  cases closing with
  | error failure => simp [outcome, failure?, failed?, opened, Except.bind, Except.mapError]
  | ok _ => simp [outcome, failure?, failed?, unclosed, Except.bind, Except.mapError]

end Visit

namespace ChainAccess

variable {σ η α : Type} {chains : ChainAccess σ η} {body : Action (η × σ) (Option α)}
  {steps : η × σ → Visit × (η × σ)} {value? : Visit → Option α} {failure : Failure} {world : σ}

/-- Steps with an open chain that go as an action does: they end as it does and leave the same. -/
structure Follows (body : Action (η × σ) (Option α)) (steps : η × σ → Visit × (η × σ))
    (value? : Visit → Option α) : Prop where
  opened : ∀ used, (steps used).1.opening = .ok ()
  unclosed : ∀ used, (steps used).1.closing = none
  /-- What was found does not depend on how the chain is closed later. -/
  kept : ∀ visit closing, value? { visit with closing } = value? visit
  perform : ∀ used,
    body.perform used = ((steps used).1.outcome (value? (steps used).1), (steps used).2)

theorem Follows.perform_withOpen (follows : Follows body steps value?) (world : σ) :
    (chains.withOpen body).perform world =
      ((chains.visit steps world).1.outcome (value? (chains.visit steps world).1),
        (chains.visit steps world).2) := by
  rw [ChainAccess.perform_withOpen, visit]
  rcases chains.connect.perform world with ⟨opening, opened⟩
  cases opening with
  | error failure => rfl
  | ok chain =>
    simp only [follows.perform, follows.kept]
    rw [Visit.outcome_closed (follows.opened _) (follows.unclosed _)]

theorem follows_look (value : Statistic → α) :
    Follows (do return (← chains.lookup systemMisc).map value) chains.look
      fun visit => visit.found?.map value where
  opened _ := rfl
  unclosed _ := rfl
  kept _ _ := rfl
  perform used := by
    rw [perform_bind, look]
    rcases (chains.lookup systemMisc).perform used with ⟨lookup, left⟩
    cases lookup with
    | ok found => rfl
    | error failure => rfl

theorem follows_lookAndRead (oracle : Oracle σ η) :
    Follows oracle.storedBootTime? oracle.chains.lookAndRead Visit.taken? where
  opened used := by
    simp only [lookAndRead, look]
    split
    · rfl
    · split <;> rfl
  unclosed used := by
    simp only [lookAndRead, look]
    split
    · rfl
    · split <;> rfl
  kept _ _ := rfl
  perform used := by
    rw [Oracle.storedBootTime?, lookAndRead, look, perform_bind]
    rcases (oracle.chains.lookup systemMisc).perform used with ⟨lookup, looked⟩
    cases lookup with
    | error failure => rfl
    | ok found =>
      cases found with
      | none => rfl
      | some statistic =>
        simp only [Visit.found?, perform_bind]
        rcases (oracle.chains.read statistic).perform looked with ⟨reading, filled⟩
        cases reading with
        | error failure => rfl
        | ok read =>
          cases read with
          | none => rfl
          | some statistic =>
            simp only [perform_bind]
            rcases (oracle.chains.value statistic "boot_time").perform filled with ⟨value, left⟩
            cases value with
            | error failure => rfl
            | ok bootTime => rfl

/-- If opening or closing fails, the use fails with this failure as it leaves the scope, whatever was
found or failed in between. -/
theorem failure?_visit (opened : ∀ used, (steps used).1.opening = .ok ())
    (fails : (chains.visit steps world).1.FailsAtScope failure) :
    (chains.visit steps world).1.failure? = some failure.outOfScope := by
  rw [visit] at fails ⊢
  generalize chains.connect.perform world = connected at fails ⊢
  obtain ⟨opening, chain⟩ := connected
  cases opening with
  | error first =>
    obtain opening | closing := fails
    · cases opening
      rfl
    · cases closing
  | ok chain =>
    obtain opening | closing := fails
    · have opening : (steps (chain, _)).1.opening = .error failure := opening
      rw [opened] at opening
      cases opening
    · simp only [Option.some.injEq] at closing ⊢
      rw [Visit.failure?, opened, closing]
      rfl

end ChainAccess

namespace Oracle

variable {σ η α : Type} [Journal σ] {oracle : Oracle σ η} {world : σ} {failure : Failure}
  {body : Action (η × σ) (Option α)} {steps : η × σ → Visit × (η × σ)}
  {value? : Visit → Option α}

/-- What a use of a chain leaves once a failure of it has been noted. -/
def afterNote (visited : Visit × σ) : σ :=
  match visited.1.failure? with
  | none => visited.2
  | some failure => ((noteUnavailable failure).perform visited.2).2

/-- The uptime that a use of a chain tells: the whole seconds of the statistic, nought if there is
no statistic or the system was in trouble. -/
def toldUptime (visited : Visit × σ) : Except Failure Int × σ :=
  match visited.1.failure? with
  | none =>
    (.ok ((visited.1.found?.map fun statistic => ⌊(statistic.snapTime : ℚ) / 1000000000⌋).getD 0),
      visited.2)
  | some failure =>
    if failure.isSystem then (.ok 0, afterNote visited) else (.error failure, visited.2)

/-- The whole seconds of the clock, which is asked first, less the uptime. -/
def derived (oracle : Oracle σ η) (world : σ) : Except Failure Int × σ :=
  match oracle.clock.perform world with
  | (.error failure, left) => (.error failure, left)
  | (.ok now, left) =>
    match FloatText.truncate now with
    | .error failure => (.error failure, left)
    | .ok seconds =>
      match oracle.uptime.perform left with
      | (.error failure, left) => (.error failure, left)
      | (.ok uptime, left) =>
        (.ok (seconds - uptime), ((noteDerived (seconds - uptime)).perform left).2)

/-- The boot time that a use of a chain tells: the one that was taken from it, or else a derived
one, if no failure but troubles of the system stands against it. -/
def toldBootTime (oracle : Oracle σ η) (visited : Visit × σ) : Except Failure Int × σ :=
  match visited.1.failure? with
  | none =>
    match visited.1.taken? with
    | some bootTime => (.ok bootTime, visited.2)
    | none => oracle.derived (afterNote visited)
  | some failure =>
    if failure.isSystem then oracle.derived (afterNote visited) else (.error failure, visited.2)

theorem perform_consult (follows : ChainAccess.Follows body steps value?) (world : σ) :
    (oracle.consult body).perform world =
      match (oracle.chains.visit steps world).1.failure? with
      | none =>
        (.ok (value? (oracle.chains.visit steps world).1), (oracle.chains.visit steps world).2)
      | some failure =>
        if failure.isSystem then (.ok none, afterNote (oracle.chains.visit steps world))
        else (.error failure, (oracle.chains.visit steps world).2) := by
  rw [consult, perform_recover, follows.perform_withOpen]
  generalize oracle.chains.visit steps world = visited
  obtain ⟨visit, left⟩ := visited
  simp only [Visit.outcome, afterNote]
  cases visit.failure? with
  | none => rfl
  | some failure => rfl

theorem fdiv_eq_floor (time : Int) : Int.fdiv time 1000000000 = ⌊(time : ℚ) / 1000000000⌋ := by
  have floor := Rat.floor_intCast_div_natCast time 1000000000
  rw [Int.fdiv_eq_ediv_of_nonneg time (by decide)]
  exact_mod_cast floor.symm

theorem perform_uptime (oracle : Oracle σ η) (world : σ) :
    oracle.uptime.perform world =
      toldUptime (oracle.chains.visit oracle.chains.look world) := by
  have consulted : (oracle.consult oracle.snapTime?).perform world = _ :=
    perform_consult (ChainAccess.follows_look (·.snapTime)) world
  rw [uptime, perform_bind, consulted, toldUptime]
  generalize oracle.chains.visit oracle.chains.look world = visited
  cases visited.1.failure? with
  | none =>
    cases visited.1.found? with
    | none => rfl
    | some statistic => simp [fdiv_eq_floor]
  | some failure =>
    by_cases trouble : failure.isSystem
    · simp [trouble]
    · simp [trouble]

theorem perform_derivation (oracle : Oracle σ η) (world : σ) :
    perform (do
        let now ← Action.ofExcept (FloatText.truncate (← oracle.clock))
        let bootTime := now - (← oracle.uptime)
        noteDerived bootTime
        return bootTime) world = oracle.derived world := by
  rw [perform_bind, derived]
  rcases oracle.clock.perform world with ⟨clock, asked⟩
  cases clock with
  | error failure => rfl
  | ok now =>
    simp only [perform_bind, perform_ofExcept]
    cases FloatText.truncate now with
    | error failure => rfl
    | ok seconds =>
      simp only
      rcases oracle.uptime.perform asked with ⟨uptime, left⟩
      cases uptime with
      | error failure => rfl
      | ok uptime => rfl

theorem perform_query (oracle : Oracle σ η) (world : σ) :
    oracle.query.perform world =
      oracle.toldBootTime (oracle.chains.visit oracle.chains.lookAndRead world) := by
  rw [query, perform_bind, perform_consult (ChainAccess.follows_lookAndRead oracle), toldBootTime]
  generalize oracle.chains.visit oracle.chains.lookAndRead world = visited
  cases failed : visited.1.failure? with
  | none =>
    have left : afterNote visited = visited.2 := by rw [afterNote, failed]
    cases visited.1.taken? with
    | some bootTime => rfl
    | none => exact left ▸ oracle.perform_derivation visited.2
  | some failure =>
    by_cases trouble : failure.isSystem
    · simp only [trouble, if_true]
      exact oracle.perform_derivation (afterNote visited)
    · simp only [trouble]
      rfl

theorem isSystem_of_truncate {now : Float} (failed : FloatText.truncate now = .error failure) :
    failure.isSystem = false := by
  unfold FloatText.truncate at failed
  split at failed
  · cases failed; rfl
  · split at failed
    · cases failed; rfl
    · cases failed

theorem isSystem_of_uptime (failed : (oracle.uptime.perform world).1 = .error failure) :
    failure.isSystem = false := by
  rw [perform_uptime, toldUptime] at failed
  split at failed
  · cases failed
  · split at failed
    · cases failed
    · next other =>
      cases failed
      exact Bool.eq_false_iff.mpr other

/-- A trouble of the system that leaves a derivation comes from the clock. -/
theorem clock_of_derived (failed : (oracle.derived world).1 = .error failure)
    (trouble : failure.isSystem = true) : (oracle.clock.perform world).1 = .error failure := by
  rw [derived] at failed
  rcases clock : oracle.clock.perform world with ⟨answer, asked⟩
  rw [clock] at failed
  cases answer with
  | error other =>
    cases failed
    rfl
  | ok now =>
    exfalso
    simp only at failed
    split at failed
    · next unfit =>
      cases failed
      rw [isSystem_of_truncate unfit] at trouble
      cases trouble
    · split at failed
      · next timed =>
        cases failed
        rw [isSystem_of_uptime (congrArg Prod.fst timed)] at trouble
        cases trouble
      · cases failed

/-- The outcome of an oracle in a world, for every way in which a chain and the clock can behave. -/
structure ExactOutcome (oracle : Oracle σ η) (world : σ) : Prop where
  uptime : oracle.uptime.perform world =
    toldUptime (oracle.chains.visit oracle.chains.look world)
  /-- What is told is kept, if it is a boot time. -/
  bootTime : oracle.bootTime.perform (none, world) =
    ((oracle.toldBootTime (oracle.chains.visit oracle.chains.lookAndRead world)).1,
      (oracle.toldBootTime (oracle.chains.visit oracle.chains.lookAndRead world)).1.toOption,
      (oracle.toldBootTime (oracle.chains.visit oracle.chains.lookAndRead world)).2)
  /-- A failure of opening or closing, as it leaves the scope, stands for whatever was found or
  failed in between. -/
  uptimeScope : ∀ failure,
    (oracle.chains.visit oracle.chains.look world).1.FailsAtScope failure →
    (oracle.uptime.perform world).1 =
      if failure.isSystem then .ok 0 else .error failure.outOfScope
  bootTimeScope : ∀ failure,
    (oracle.chains.visit oracle.chains.lookAndRead world).1.FailsAtScope failure →
    (oracle.bootTime.perform (none, world)).1 =
      if failure.isSystem then
        (oracle.derived (afterNote (oracle.chains.visit oracle.chains.lookAndRead world))).1
      else .error failure.outOfScope
  /-- The end of an iteration does not leave where a chain is opened or closed. -/
  uptimeExhausted : ∀ message,
    (oracle.chains.visit oracle.chains.look world).1.FailsAtScope (.reported .exhausted message) →
    (oracle.uptime.perform world).1 = .error (.reported .runtime "generator raised StopIteration")
  bootTimeExhausted : ∀ message,
    (oracle.chains.visit oracle.chains.lookAndRead world).1.FailsAtScope
      (.reported .exhausted message) →
    (oracle.bootTime.perform (none, world)).1 =
      .error (.reported .runtime "generator raised StopIteration")
  uptimeFailure : ∀ failure, (oracle.uptime.perform world).1 = .error failure →
    failure.isSystem = false
  /-- Only the clock's own trouble of the system leaves. -/
  bootTimeFailure : ∀ failure, (oracle.bootTime.perform (none, world)).1 = .error failure →
    failure.isSystem = true →
    (oracle.clock.perform
      (afterNote (oracle.chains.visit oracle.chains.lookAndRead world))).1 = .error failure

theorem uptime_of_failsAtScope
    (fails : (oracle.chains.visit oracle.chains.look world).1.FailsAtScope failure) :
    (oracle.uptime.perform world).1 =
      if failure.isSystem then .ok 0 else .error failure.outOfScope := by
  have failed := ChainAccess.failure?_visit (fun _ => rfl) fails
  rw [perform_uptime, toldUptime, failed]
  simp only [Failure.isSystem_outOfScope]
  split <;> rfl

theorem bootTime_of_failsAtScope
    (fails : (oracle.chains.visit oracle.chains.lookAndRead world).1.FailsAtScope failure) :
    (oracle.bootTime.perform (none, world)).1 =
      if failure.isSystem then
        (oracle.derived (afterNote (oracle.chains.visit oracle.chains.lookAndRead world))).1
      else .error failure.outOfScope := by
  have failed := ChainAccess.failure?_visit (ChainAccess.follows_lookAndRead oracle).opened fails
  rw [bootTime, perform_once_none, perform_query, toldBootTime, failed]
  simp only [Failure.isSystem_outOfScope]
  split <;> rfl

theorem exact_outcome (oracle : Oracle σ η) (world : σ) : ExactOutcome oracle world where
  uptime := oracle.perform_uptime world
  bootTime := by rw [bootTime, perform_once_none, perform_query]
  uptimeScope failure := uptime_of_failsAtScope
  bootTimeScope failure := bootTime_of_failsAtScope
  uptimeExhausted message := uptime_of_failsAtScope
  bootTimeExhausted message := bootTime_of_failsAtScope
  uptimeFailure failure := isSystem_of_uptime
  bootTimeFailure failure failed trouble := by
    rw [bootTime, perform_once_none, perform_query, toldBootTime] at failed
    split at failed
    · split at failed
      · cases failed
      · exact clock_of_derived failed trouble
    · split at failed
      · exact clock_of_derived failed trouble
      · next other =>
        cases failed
        exact absurd trouble other

/-- A chain in which nothing is found and which fails when it is closed. -/
def closingWith (failure : Failure) : Replay where
  chain := { closing := .error failure }

def refusal : Failure := .reported .value "close failed"

def overrun : Failure := .reported .exhausted "close failed"

/-- That nothing is found does not give nought if closing fails, and the end of an iteration is not
raised as it is. -/
theorem closing_overrules :
    (Replay.chains.visit Replay.chains.look (closingWith refusal)).1.found? = none ∧
      refusal.isSystem = false ∧
      (Replay.oracle.uptime.perform (closingWith refusal)).1 ≠ .ok 0 ∧
      (Replay.chains.visit Replay.chains.look (closingWith overrun)).1.closing =
        some (.error overrun) ∧
      overrun.isSystem = false ∧
      (Replay.oracle.uptime.perform (closingWith overrun)).1 ≠ .error overrun := by
  refine ⟨rfl, rfl, ?_, rfl, rfl, ?_⟩
  · intro nought
    cases nought
  · intro raised
    cases raised

end Oracle

end HostInventory
