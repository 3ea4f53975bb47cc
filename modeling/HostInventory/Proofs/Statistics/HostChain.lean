import HostInventory.Proofs.Action
import HostInventory.Statistics.HostChain

/-!
How a turn of a chain over the host can go. There are a few ways, told apart by the request, the
chain and what the host says, and `serves_exchange` gives the one that was taken.
-/
namespace HostInventory

open HostInventory.Action

@[simp] theorem Action.perform_recorded {σ α : Type} (a : Action σ α)
    (outcomes : List (Except Failure α)) (world : σ) :
    a.recorded.perform (outcomes, world) =
      ((a.perform world).1, outcomes ++ [(a.perform world).1], (a.perform world).2) := rfl

theorem Statistic.lookup_setField (statistic : Statistic) (name : String) (n : Int) :
    (statistic.setField name n).fields.lookup name = some n := by
  have absent : (statistic.fields.filter (·.1 != name)).lookup name = none := by
    rw [List.lookup_eq_none_iff]
    intro field mem
    have other : (field.1 != name) = true := (List.mem_filter.mp mem).2
    rw [bne_iff_ne] at other ⊢
    exact other.symm
  rw [Statistic.setField, List.lookup_append, absent]
  simp

namespace HostChain

variable {σ : Type} {chain : HostChain}

/-- The answers that tell a user that the boot time is not to be had now. -/
inductive Request.Misses : Request → Answer → Prop
  | lookup (key : StatisticKey) (place : Nat) : Misses (.lookup key place) (.found none)
  | read (place : Nat) : Misses (.read place) (.readable false)

/-- The statistic that is made of a reading of the clock: the seconds since boot as nanoseconds,
without a fraction, and none before boot. -/
def sample (reading : Except Failure Float) (boot : Float) : Except Failure Statistic :=
  reading.bind fun now =>
    (FloatText.truncate ((now - boot) * 1000000000)).map fun whole => ⟨systemMisc, max 0 whole, []⟩

def filledIn (statistic : Statistic) (boot : Float) : Except Failure Statistic :=
  (FloatText.truncate boot).map (statistic.setField "boot_time")

def Session.taking (session : Session) (place : Nat) : Except Failure Statistic → Session
  | .ok statistic => session.put place statistic
  | .error _ => session

/-- How a chain comes by the boot time: the queries that this takes, what comes of them, and the chain
afterwards. -/
inductive Consults (chain : HostChain) :
    List (Except Failure Float) → Except Failure (Option Float) → HostChain → Prop
  | known {boot : Float} : chain.bootTime = some boot → Consults chain [] (.ok (some boot)) chain
  | told {boot : Float} : chain.bootTime = none →
    Consults chain [.ok boot] (.ok (some boot)) { chain with bootTime := some boot }
  | missed {failure : Failure} : chain.bootTime = none → isUnavailable failure = true →
    Consults chain [.error failure] (.ok none) chain
  | failed {failure : Failure} : chain.bootTime = none → isUnavailable failure = false →
    Consults chain [.error failure] (.error failure) chain

/-- How a turn can go: the request, its outcome, what is left, and what was asked of the host. -/
inductive Serves (before : Session) : Request → Except Failure Answer → Session →
    List (Except Failure Float) → List (Except Failure Float) → Prop
  | barred (key : StatisticKey) (place : Nat) : before.chain.isClosed = true →
    Serves before (.lookup key place) (.error .chainClosed) before [] []
  | passed (key : StatisticKey) (place : Nat) : before.chain.isClosed = false → key ≠ systemMisc →
    Serves before (.lookup key place) (.ok (.found none)) before [] []
  | missed {request : Request} {answer : Answer} {failure : Failure} :
    request.NeedsBootTime (before.chain.isClosed = true) → request.Misses answer →
    before.chain.bootTime = none → isUnavailable failure = true →
    Serves before request (.ok answer) before [.error failure] []
  | failed {request : Request} {failure : Failure} :
    request.NeedsBootTime (before.chain.isClosed = true) →
    before.chain.bootTime = none → isUnavailable failure = false →
    Serves before request (.error failure) before [.error failure] []
  | lookedUp (place : Nat) (reading : Except Failure Float) {boot : Float}
    {queries : List (Except Failure Float)} {chain : HostChain} : before.chain.isClosed = false →
    Consults before.chain queries (.ok (some boot)) chain →
    Serves before (.lookup systemMisc place)
      ((sample reading boot).map fun statistic => .found (some statistic))
      (Session.taking { before with chain } place (sample reading boot)) queries [reading]
  | read (place : Nat) {boot : Float} {queries : List (Except Failure Float)} {chain : HostChain} :
    Consults before.chain queries (.ok (some boot)) chain →
    Serves before (.read place)
      ((filledIn (before.statistics place) boot).map fun _ => .readable true)
      (Session.taking { before with chain } place (filledIn (before.statistics place) boot))
      queries []
  | valued (place : Nat) (name : String) :
    Serves before (.value place name) (.ok (.number (value (before.statistics place) name))) before
      [] []
  | closed : Serves before .close (.ok .closed) { before with chain := before.chain.close } [] []

theorem perform_bootTime? (query : Action σ Float) (chain : HostChain) (world : σ) :
    (bootTime? query).perform (chain, world) =
      match chain.bootTime with
      | some boot => (.ok (some boot), chain, world)
      | none =>
        match query.perform world with
        | (.ok boot, left) => (.ok (some boot), { chain with bootTime := some boot }, left)
        | (.error failure, left) =>
          if isUnavailable failure then (.ok none, chain, left)
          else (.error failure, chain, left) := rfl

theorem exists_consults (query : Action σ Float) (chain : HostChain)
    (readings : List (Except Failure Float)) (world : σ) :
    ∃ queries found kept left, Consults chain queries found kept ∧
      (bootTime? query).perform (chain, world) = (found, kept, left) ∧
      (bootTime? query.beside.recorded).perform (chain, [], readings, world) =
        (found, kept, queries, readings, left) := by
  rw [perform_bootTime?, perform_bootTime?]
  cases known : chain.bootTime with
  | some boot => exact ⟨_, _, _, _, .known known, rfl, rfl⟩
  | none =>
    simp only [perform_recorded, perform_beside, List.nil_append]
    generalize query.perform world = answer
    obtain ⟨answer, left⟩ := answer
    cases answer with
    | ok boot => exact ⟨_, _, _, _, .told known, rfl, rfl⟩
    | error failure =>
      cases unavailable : isUnavailable failure with
      | true =>
        refine ⟨_, _, _, left, .missed known unavailable, ?_⟩
        simp only [unavailable, if_true, and_self]
      | false =>
        refine ⟨_, _, _, left, .failed known unavailable, ?_⟩
        simp only [unavailable, Bool.false_eq_true, if_false, and_self]

/-- What a user of a chain gets from what the chain gives: a statistic is put in its place. -/
def handOver (session : Session) (place : Nat) (answer : Option Statistic → Answer) :
    Except Failure (Option Statistic) × HostChain × σ → Except Failure Answer × Session × σ
  | (.ok (some statistic), chain, left) =>
    (.ok (answer (some statistic)), Session.put { session with chain } place statistic, left)
  | (.ok none, chain, left) => (.ok (answer none), { session with chain }, left)
  | (.error failure, chain, left) => (.error failure, { session with chain }, left)

theorem perform_onChain (a : Action (HostChain × σ) (Option Statistic)) (place : Nat)
    (answer : Option Statistic → Answer) (session : Session) (world : σ) :
    perform (do
        let found ← onChain a
        found.forM (keep place)
        return answer found) (session, world) =
      handOver session place answer (a.perform (session.chain, world)) := by
  have performed : (onChain a).perform (session, world) =
      ((a.perform (session.chain, world)).1,
        { session with chain := (a.perform (session.chain, world)).2.1 },
        (a.perform (session.chain, world)).2.2) := rfl
  rw [perform_bind, performed]
  generalize a.perform (session.chain, world) = ended
  obtain ⟨found, chain, left⟩ := ended
  cases found with
  | error failure => rfl
  | ok found =>
    cases found with
    | none => rfl
    | some statistic => rfl

theorem handOver_map (session : Session) (place : Nat) (answer : Option Statistic → Answer)
    (made : Except Failure Statistic) (chain : HostChain) (left : σ) :
    handOver session place answer (made.map some, chain, left) =
      (made.map fun statistic => answer (some statistic),
        Session.taking { session with chain } place made, left) := by
  cases made with
  | ok statistic => rfl
  | error failure => rfl

theorem perform_lookup_of_closed (query clock : Action σ Float) (key : StatisticKey) (world : σ)
    (isClosed : chain.isClosed = true) :
    (lookup query clock key).perform (chain, world) = (.error .chainClosed, chain, world) := by
  rw [lookup, perform_bind, perform_get]
  simp only [isClosed, if_true]
  rfl

theorem perform_lookup_of_other (query clock : Action σ Float) {key : StatisticKey} (world : σ)
    (isOpen : chain.isClosed = false) (other : key ≠ systemMisc) :
    (lookup query clock key).perform (chain, world) = (.ok none, chain, world) := by
  rw [lookup, perform_bind, perform_get]
  simp only [isOpen, Bool.false_eq_true, if_false, if_pos other]
  rfl

theorem perform_lookup (query clock : Action σ Float) (world : σ)
    (isOpen : chain.isClosed = false) :
    (lookup query clock systemMisc).perform (chain, world) =
      match (bootTime? query).perform (chain, world) with
      | (.ok (some boot), kept, left) =>
        ((sample (clock.perform left).1 boot).map some, kept, (clock.perform left).2)
      | (.ok none, left) => (.ok none, left)
      | (.error failure, left) => (.error failure, left) := by
  rw [lookup, perform_bind, perform_get]
  simp only [isOpen, Bool.false_eq_true, if_false, ne_eq, not_true_eq_false]
  rw [perform_bind]
  generalize (bootTime? query).perform (chain, world) = ended
  obtain ⟨found, kept, left⟩ := ended
  cases found with
  | error failure => rfl
  | ok found =>
    cases found with
    | none => rfl
    | some boot =>
      simp only [perform_bind, perform_beside, sample]
      generalize clock.perform left = told
      obtain ⟨reading, later⟩ := told
      cases reading with
      | error failure => rfl
      | ok now =>
        simp only [perform_ofExcept, Except.bind, nanoseconds]
        cases FloatText.truncate ((now - boot) * 1000000000) with
        | error failure => rfl
        | ok whole => rfl

theorem perform_read (query : Action σ Float) (statistic : Statistic) (world : σ) :
    (read query statistic).perform (chain, world) =
      match (bootTime? query).perform (chain, world) with
      | (.ok (some boot), left) => ((filledIn statistic boot).map some, left)
      | (.ok none, left) => (.ok none, left)
      | (.error failure, left) => (.error failure, left) := by
  rw [read, perform_bind]
  generalize (bootTime? query).perform (chain, world) = ended
  obtain ⟨found, left⟩ := ended
  cases found with
  | error failure => rfl
  | ok found =>
    cases found with
    | none => rfl
    | some boot =>
      simp only [perform_bind, perform_ofExcept, filledIn]
      cases FloatText.truncate boot with
      | error failure => rfl
      | ok time => rfl

theorem perform_serve_lookup (query clock : Action σ Float) (key : StatisticKey) (place : Nat)
    (session : Session) (world : σ) :
    (serve query clock (.lookup key place)).perform (session, world) =
      handOver session place .found ((lookup query clock key).perform (session.chain, world)) :=
  perform_onChain (lookup query clock key) place .found session world

theorem perform_serve_read (query clock : Action σ Float) (place : Nat) (session : Session)
    (world : σ) :
    (serve query clock (.read place)).perform (session, world) =
      handOver session place (fun filled => .readable filled.isSome)
        ((read query (session.statistics place)).perform (session.chain, world)) :=
  perform_onChain (read query (session.statistics place)) place
    (fun filled => .readable filled.isSome) session world

/-- One of the ways is taken, and the record that is kept of it makes no difference to it. -/
theorem serves_exchange (query clock : Action σ Float) (session : Session) (turn : Turn σ) :
    Serves session turn.request (exchange query clock session turn).outcome
        (exchange query clock session turn).after (exchange query clock session turn).queries
        (exchange query clock session turn).readings ∧
      ∃ left, (serve query clock turn.request).perform (session, turn.world) =
        ((exchange query clock session turn).outcome, (exchange query clock session turn).after,
          left) := by
  obtain ⟨request, world⟩ := turn
  obtain ⟨queries, found, kept, left, consults, plain, recorded⟩ :=
    exists_consults query session.chain ([] : List (Except Failure Float)) world
  cases request with
  | lookup key place =>
    simp only [exchange, perform_serve_lookup]
    cases isClosed : session.chain.isClosed with
    | true =>
      rw [perform_lookup_of_closed _ _ _ _ isClosed, perform_lookup_of_closed _ _ _ _ isClosed]
      exact ⟨.barred key place isClosed, _, rfl⟩
    | false =>
      by_cases other : key = systemMisc
      · subst other
        rw [perform_lookup _ _ _ isClosed, perform_lookup _ _ _ isClosed, recorded, plain]
        have needs : (Request.lookup systemMisc place).NeedsBootTime
            (session.chain.isClosed = true) := ⟨rfl, by rw [isClosed]; exact Bool.false_ne_true⟩
        cases consults with
        | missed unknown unavailable =>
          exact ⟨.missed needs (.lookup systemMisc place) unknown unavailable, _, rfl⟩
        | failed unknown unfit => exact ⟨.failed needs unknown unfit, _, rfl⟩
        | known known =>
          simp only [handOver_map]
          exact ⟨.lookedUp place _ isClosed (.known known), _, rfl⟩
        | told unknown =>
          simp only [handOver_map]
          exact ⟨.lookedUp place _ isClosed (.told unknown), _, rfl⟩
      · rw [perform_lookup_of_other _ _ _ isClosed other,
          perform_lookup_of_other _ _ _ isClosed other]
        exact ⟨.passed key place isClosed other, _, rfl⟩
  | read place =>
    simp only [exchange, perform_serve_read, perform_read, recorded, plain]
    cases consults with
    | missed unknown unavailable =>
      exact ⟨.missed trivial (.read place) unknown unavailable, _, rfl⟩
    | failed unknown unfit => exact ⟨.failed trivial unknown unfit, _, rfl⟩
    | known known =>
      simp only [handOver_map]
      exact ⟨.read place (.known known), _, rfl⟩
    | told unknown =>
      simp only [handOver_map]
      exact ⟨.read place (.told unknown), _, rfl⟩
  | value place name => exact ⟨.valued place name, _, rfl⟩
  | close => exact ⟨.closed, _, rfl⟩

end HostChain

end HostInventory
