import HostInventory.Proofs.Number.FloatText
import HostInventory.Proofs.Statistics.HostChain
import Mathlib.Data.List.Basic

/-!
A chain over the host asks for the boot time until a query succeeds, and then never again; all that
it serves comes from that one answer. A run carries from turn to turn what it has learnt, and
whether the chain was closed.
-/
namespace HostInventory.HostChain

variable {σ : Type} {query clock : Action σ Float} {chain kept : HostChain}
  {before after session : Session} {request : Request} {outcome : Except Failure Answer}
  {failure : Failure} {boot : Float}

theorem exists_of_map_ok {α β : Type} {f : α → β} {made : Except Failure α} {result : β}
    (told : made.map f = .ok result) : ∃ value, made = .ok value ∧ f value = result := by
  cases made with
  | error failure => cases told
  | ok value => exact ⟨value, rfl, Except.ok.inj told⟩

theorem sample_eq_ok_iff {reading : Except Failure Float} {statistic : Statistic} :
    sample reading boot = .ok statistic ↔
      ∃ now whole, reading = .ok now ∧ FloatText.IsCut ((now - boot) * 1000000000) whole ∧
        statistic = ⟨systemMisc, max 0 whole, []⟩ := by
  constructor
  · intro made
    cases reading with
    | error failure => cases made
    | ok now =>
      obtain ⟨whole, told, rfl⟩ := exists_of_map_ok made
      exact ⟨now, whole, rfl, FloatText.truncate_eq_ok_iff.mp told, rfl⟩
  · rintro ⟨now, whole, rfl, cut, rfl⟩
    change (FloatText.truncate ((now - boot) * 1000000000)).map _ = _
    rw [FloatText.truncate_eq_ok_iff.mpr cut]
    rfl

theorem filledIn_eq_ok_iff {statistic filled : Statistic} :
    filledIn statistic boot = .ok filled ↔
      ∃ time, FloatText.IsCut boot time ∧ filled = statistic.setField "boot_time" time := by
  constructor
  · intro made
    obtain ⟨time, told, rfl⟩ := exists_of_map_ok made
    exact ⟨time, FloatText.truncate_eq_ok_iff.mp told, rfl⟩
  · rintro ⟨time, cut, rfl⟩
    rw [filledIn, FloatText.truncate_eq_ok_iff.mpr cut]
    rfl

@[simp] theorem Session.chain_taking (session : Session) (place : Nat)
    (made : Except Failure Statistic) : (session.taking place made).chain = session.chain := by
  cases made with
  | ok statistic => rfl
  | error failure => rfl

@[simp] theorem Session.statistics_taking_beside (session : Session) (chain : HostChain)
    (place : Nat) (made : Except Failure Statistic) :
    (Session.taking { session with chain } place made).statistics =
      (session.taking place made).statistics := by
  cases made with
  | ok statistic => rfl
  | error failure => rfl

theorem Session.statistics_taking (session : Session) (place : Nat)
    (made : Except Failure Statistic) (other : Nat) :
    (session.taking place made).statistics other = session.statistics other ∨
      made = .ok ((session.taking place made).statistics other) := by
  cases made with
  | error failure => exact .inl rfl
  | ok statistic =>
    simp only [taking, put]
    split
    · exact .inr rfl
    · exact .inl rfl

/-- Every boot time at hand was there at first, or is the one that has been learnt. -/
def Session.StoresOnly (session : Session) (first : Nat → Statistic) (learnt : Option Float) :
    Prop :=
  ∀ place time, (session.statistics place).fields.lookup "boot_time" = some time →
    (first place).fields.lookup "boot_time" = some time ∨
      ∃ boot, learnt = some boot ∧ FloatText.IsCut boot time

theorem Session.storesOnly_self (session : Session) (learnt : Option Float) :
    session.StoresOnly session.statistics learnt :=
  fun _ _ present => .inl present

namespace Consults

variable {queries : List (Except Failure Float)} {ended : Except Failure (Option Float)}

theorem found (consults : Consults chain queries (.ok (some boot)) kept) :
    kept.bootTime = some boot ∧ kept.isClosed = chain.isClosed ∧
      (chain.bootTime = some boot ∧ queries = [] ∨ chain.bootTime = none ∧ queries = [.ok boot]) := by
  cases consults with
  | known known => exact ⟨known, rfl, .inl ⟨known, rfl⟩⟩
  | told unknown => exact ⟨rfl, rfl, .inr ⟨unknown, rfl⟩⟩

theorem asks_iff (consults : Consults chain queries ended kept) :
    queries ≠ [] ↔ chain.bootTime = none := by
  cases consults with
  | known known => simp [known]
  | told unknown | missed unknown | failed unknown => simp [unknown]

theorem not_failed (consults : Consults chain queries (.ok (some boot)) kept) :
    .error failure ∉ queries := by
  obtain ⟨-, -, ⟨-, rfl⟩ | ⟨-, rfl⟩⟩ := consults.found
  · exact List.not_mem_nil
  · simp

end Consults

theorem Request.NeedsBootTime.ne_close {isClosed : Prop} (needs : request.NeedsBootTime isClosed) :
    request ≠ .close := by
  rintro rfl
  exact needs

namespace Serves

variable {queries readings : List (Except Failure Float)}

section AllRequests

variable (serves : Serves before request outcome after queries readings)
include serves

theorem length_queries_le : queries.length ≤ 1 := by
  cases serves with
  | lookedUp place reading isOpen consults | read place consults =>
    obtain ⟨-, -, ⟨-, rfl⟩ | ⟨-, rfl⟩⟩ := consults.found
    · exact Nat.zero_le 1
    · exact Nat.le_refl 1
  | missed | failed => exact Nat.le_refl 1
  | barred | passed | valued | closed => exact Nat.zero_le 1

theorem asks_iff :
    queries ≠ [] ↔
      request.NeedsBootTime (before.chain.isClosed = true) ∧ before.chain.bootTime = none := by
  cases serves with
  | barred key place isClosed => simp [Request.NeedsBootTime, isClosed]
  | passed key place isOpen other => simp [Request.NeedsBootTime, other]
  | missed needs misses unknown | failed needs unknown => simp [needs, unknown]
  | lookedUp place reading isOpen consults =>
    simp [consults.asks_iff, Request.NeedsBootTime, isOpen]
  | read place consults => simp [consults.asks_iff, Request.NeedsBootTime]
  | valued place name => simp [Request.NeedsBootTime]
  | closed => simp [Request.NeedsBootTime]

/-- A query that fails leaves everything as it was. It is a miss, or its failure is the outcome. -/
theorem of_failed (failed : .error failure ∈ queries) :
    after = before ∧
      (isUnavailable failure = true ∧ (∃ answer, request.Misses answer ∧ outcome = .ok answer) ∨
        isUnavailable failure = false ∧ outcome = .error failure) := by
  cases serves with
  | missed needs misses unknown unavailable =>
    cases List.mem_singleton.mp failed
    exact ⟨rfl, .inl ⟨unavailable, _, misses, rfl⟩⟩
  | failed needs unknown unfit =>
    cases List.mem_singleton.mp failed
    exact ⟨rfl, .inr ⟨unfit, rfl⟩⟩
  | lookedUp place reading isOpen consults | read place consults =>
    exact absurd failed consults.not_failed
  | barred | passed | valued | closed => exact absurd failed List.not_mem_nil

theorem bootTime :
    after.chain.bootTime = before.chain.bootTime.or (queries.findSome? Except.toOption) := by
  cases serves with
  | lookedUp place reading isOpen consults | read place consults =>
    obtain ⟨kept, -, ⟨known, rfl⟩ | ⟨unknown, rfl⟩⟩ := consults.found
    · simp [kept, known]
    · simp [kept, unknown, Except.toOption]
  | missed needs misses unknown | failed needs unknown => simp [unknown, Except.toOption]
  | barred | passed | valued | closed => exact (Option.or_none).symm

theorem isClosed_iff :
    after.chain.isClosed = true ↔ before.chain.isClosed = true ∨ request = .close := by
  cases serves with
  | lookedUp place reading isOpen consults | read place consults =>
    simp [consults.found.2.1]
  | missed needs | failed needs => simp [needs.ne_close]
  | barred | passed | valued => simp
  | closed => simp [close]

theorem storesOnly : after.StoresOnly before.statistics after.chain.bootTime := by
  cases serves with
  | barred | passed | missed | failed | valued | closed => exact Session.storesOnly_self _ _
  | @lookedUp place reading boot queries chain isOpen consults =>
    intro other time present
    rw [Session.statistics_taking_beside] at present
    rcases before.statistics_taking place (sample reading boot) other with same | made
    · rw [same] at present
      exact .inl present
    · obtain ⟨_, _, -, -, sampled⟩ := sample_eq_ok_iff.mp made
      rw [sampled] at present
      cases present
  | @read place boot queries chain consults =>
    intro other time present
    rw [Session.statistics_taking_beside] at present
    rcases before.statistics_taking place (filledIn (before.statistics place) boot) other with
      same | made
    · rw [same] at present
      exact .inl present
    · obtain ⟨whole, cut, filled⟩ := filledIn_eq_ok_iff.mp made
      rw [filled, Statistic.lookup_setField] at present
      cases present
      exact .inr ⟨boot, by simp [consults.found.1], cut⟩

end AllRequests

theorem of_closed {key : StatisticKey} {place : Nat}
    (serves : Serves before (.lookup key place) outcome after queries readings)
    (isClosed : before.chain.isClosed = true) :
    outcome = .error .chainClosed ∧ after = before := by
  cases serves with
  | barred => exact ⟨rfl, rfl⟩
  | passed key place isOpen | lookedUp place reading isOpen =>
    exact absurd isClosed (by simp [isOpen])
  | missed needs | failed needs => exact absurd isClosed needs.2

theorem of_other {key : StatisticKey} {place : Nat}
    (serves : Serves before (.lookup key place) outcome after queries readings)
    (isOpen : ¬ before.chain.isClosed = true) (other : key ≠ systemMisc) :
    outcome = .ok (.found none) ∧ after = before := by
  cases serves with
  | barred key place isClosed => exact absurd isClosed isOpen
  | passed => exact ⟨rfl, rfl⟩
  | lookedUp => exact absurd rfl other
  | missed needs | failed needs => exact absurd needs.1 other

theorem of_lookup {place : Nat}
    (serves : Serves before (.lookup systemMisc place) outcome after queries readings)
    (isOpen : ¬ before.chain.isClosed = true) (learnt : after.chain.bootTime = some boot) :
    ∃ reading, readings = [reading] ∧
      outcome = (sample reading boot).map (fun statistic => .found (some statistic)) ∧
      after.statistics = (before.taking place (sample reading boot)).statistics := by
  cases serves with
  | barred key place isClosed => exact absurd isClosed isOpen
  | passed key place isOpen other => exact absurd rfl other
  | missed needs misses unknown | failed needs unknown => rw [unknown] at learnt; cases learnt
  | @lookedUp place reading boot' queries chain isOpen consults =>
    rw [Session.chain_taking, consults.found.1] at learnt
    cases learnt
    exact ⟨reading, rfl, rfl, before.statistics_taking_beside chain place _⟩

theorem of_read {place : Nat}
    (serves : Serves before (.read place) outcome after queries readings)
    (learnt : after.chain.bootTime = some boot) :
    outcome = (filledIn (before.statistics place) boot).map (fun _ => .readable true) ∧
      after.statistics =
        (before.taking place (filledIn (before.statistics place) boot)).statistics := by
  cases serves with
  | missed needs misses unknown | failed needs unknown => rw [unknown] at learnt; cases learnt
  | @read place boot' queries chain consults =>
    rw [Session.chain_taking, consults.found.1] at learnt
    cases learnt
    exact ⟨rfl, before.statistics_taking_beside chain place _⟩

theorem of_found {statistic : Statistic}
    (serves : Serves before request (.ok (.found (some statistic))) after queries readings) :
    ∃ now boot whole, after.chain.bootTime = some boot ∧ .ok now ∈ readings ∧
      FloatText.IsCut ((now - boot) * 1000000000) whole ∧ statistic.snapTime = max 0 whole := by
  generalize told : Except.ok (Answer.found (some statistic)) = outcome at serves
  cases serves with
  | passed | valued | closed | barred | failed => cases told
  | missed needs misses =>
    cases told
    cases misses
  | @lookedUp place reading boot queries chain isOpen consults =>
    obtain ⟨made, sampled, same⟩ := exists_of_map_ok told.symm
    cases same
    obtain ⟨now, whole, rfl, cut, rfl⟩ := sample_eq_ok_iff.mp sampled
    exact ⟨now, boot, whole, by simp [consults.found.1], List.mem_singleton_self _, cut, rfl⟩
  | read place =>
    obtain ⟨filled, -, same⟩ := exists_of_map_ok told.symm
    cases same

theorem of_value {place : Nat} {name : String}
    (serves : Serves before (.value place name) outcome after queries readings) :
    outcome = .ok (.number (value (before.statistics place) name)) ∧ after = before := by
  cases serves with
  | missed needs | failed needs => cases needs
  | valued => exact ⟨rfl, rfl⟩

end Serves

/-- What a user can rely on in a turn of a chain that is closed or not, where `known` is the boot time
that was learnt before the turn, and `learnt` the one that has been learnt when it is over. -/
structure Exchange.IsServed (isClosed : Prop) (known learnt : Option Float)
    (exchange : Exchange σ) : Prop where
  /-- The boot time is asked for at most once, and only where it is needed and not known yet. -/
  once : exchange.queries.length ≤ 1
  asks_iff : exchange.queries ≠ [] ↔ exchange.request.NeedsBootTime isClosed ∧ known = none
  /-- A query that fails changes nothing. -/
  unchanged : ∀ failure, .error failure ∈ exchange.queries → exchange.after = exchange.before
  /-- It is a miss if the boot time is not to be had now. Any other failure is the outcome. -/
  missed : ∀ failure, .error failure ∈ exchange.queries → isUnavailable failure = true →
    ∃ answer, exchange.request.Misses answer ∧ exchange.outcome = .ok answer
  failed : ∀ failure, .error failure ∈ exchange.queries → isUnavailable failure = false →
    exchange.outcome = .error failure
  /-- Nothing is looked up once the chain is closed. -/
  barred : isClosed → ∀ key place, exchange.request = .lookup key place →
    exchange.outcome = .error .chainClosed ∧ exchange.after = exchange.before
  passed : ¬ isClosed → ∀ key place, exchange.request = .lookup key place → key ≠ systemMisc →
    exchange.outcome = .ok (.found none) ∧ exchange.after = exchange.before
  /-- What is looked up comes from the boot time and one reading of the clock. -/
  lookedUp : ¬ isClosed → ∀ place boot, exchange.request = .lookup systemMisc place →
    learnt = some boot → ∃ reading, exchange.readings = [reading] ∧
      exchange.outcome = (sample reading boot).map (fun statistic => .found (some statistic)) ∧
      exchange.after.statistics =
        (exchange.before.taking place (sample reading boot)).statistics
  /-- What is filled in comes from the boot time alone. -/
  read : ∀ place boot, exchange.request = .read place → learnt = some boot →
    exchange.outcome =
        (filledIn (exchange.before.statistics place) boot).map (fun _ => .readable true) ∧
      exchange.after.statistics = (exchange.before.taking place
        (filledIn (exchange.before.statistics place) boot)).statistics
  /-- Nothing is found that was taken before boot. -/
  snapTime : ∀ statistic, exchange.outcome = .ok (.found (some statistic)) →
    0 ≤ statistic.snapTime ∧ ∃ now boot whole, learnt = some boot ∧
      .ok now ∈ exchange.readings ∧ FloatText.IsCut ((now - boot) * 1000000000) whole ∧
      statistic.snapTime = max 0 whole
  told : ∀ place name, exchange.request = .value place name →
    exchange.outcome = .ok (.number (value (exchange.before.statistics place) name)) ∧
      exchange.after = exchange.before

theorem Serves.isServed {exchange : Exchange σ}
    (serves : Serves exchange.before exchange.request exchange.outcome exchange.after
      exchange.queries exchange.readings) :
    exchange.IsServed (exchange.before.chain.isClosed = true) exchange.before.chain.bootTime
      exchange.after.chain.bootTime := by
  obtain ⟨⟨request, world⟩, before, outcome, after, queries, readings⟩ := exchange
  refine
    { once := serves.length_queries_le
      asks_iff := serves.asks_iff
      unchanged := fun failure failed => (serves.of_failed failed).1
      missed := ?missed, failed := ?failed, barred := ?barred, passed := ?passed
      lookedUp := ?lookedUp, read := ?read, snapTime := ?snapTime, told := ?told }
  case missed =>
    intro failure failed unavailable
    rcases (serves.of_failed failed).2 with ⟨-, misses⟩ | ⟨unfit, -⟩
    · exact misses
    · exact absurd unavailable (by simp [unfit])
  case failed =>
    intro failure failed unfit
    rcases (serves.of_failed failed).2 with ⟨unavailable, -⟩ | ⟨-, fails⟩
    · exact absurd unavailable (by simp [unfit])
    · exact fails
  case barred =>
    rintro isClosed key place rfl
    exact serves.of_closed isClosed
  case passed =>
    rintro isOpen key place rfl other
    exact serves.of_other isOpen other
  case lookedUp =>
    rintro isOpen place boot rfl learnt
    exact serves.of_lookup isOpen learnt
  case read =>
    rintro place boot rfl learnt
    exact serves.of_read learnt
  case snapTime =>
    rintro statistic rfl
    obtain ⟨now, boot, whole, learnt, read, cut, elapsed⟩ := serves.of_found
    exact ⟨elapsed ▸ Int.le_max_left 0 whole, now, boot, whole, learnt, read, cut, elapsed⟩
  case told =>
    rintro place name rfl
    exact serves.of_value

section Runs

variable {exchange : Exchange σ} {earlier later : List (Exchange σ)} {first : Nat → Statistic}

theorem queries_append : queries (earlier ++ later) = queries earlier ++ queries later :=
  List.flatMap_append

theorem queries_singleton : queries [exchange] = exchange.queries :=
  List.flatMap_singleton _ _

theorem learnt_append : learnt (earlier ++ later) = (learnt earlier).or (learnt later) := by
  rw [learnt, queries_append, List.findSome?_append]
  rfl

theorem isClosed_append_singleton :
    IsClosed (earlier ++ [exchange]) ↔ IsClosed earlier ∨ exchange.request = .close := by
  simp [IsClosed, or_and_right, exists_or]

theorem not_mem_of_learnt (unknown : learnt earlier = none) (boot : Float) :
    .ok boot ∉ queries earlier := by
  intro success
  have nothing := List.findSome?_eq_none_iff.mp unknown _ success
  cases nothing

/-- What a chain in use has in mind of the turns so far, and what its user has at hand. -/
structure Knows (first : Nat → Statistic) (earlier : List (Exchange σ)) (session : Session) :
    Prop where
  bootTime : session.chain.bootTime = learnt earlier
  isClosed_iff : session.chain.isClosed = true ↔ IsClosed earlier
  last : ∀ front boot back, queries earlier = front ++ .ok boot :: back → back = []
  storesOnly : session.StoresOnly first (learnt earlier)

theorem knows_nil (first : Nat → Statistic) :
    Knows first ([] : List (Exchange σ)) { statistics := first } where
  bootTime := rfl
  isClosed_iff := by simp [IsClosed]
  last front boot back found := by
    have inside : .ok boot ∈ queries ([] : List (Exchange σ)) := by rw [found]; simp
    cases inside
  storesOnly := Session.storesOnly_self _ _

namespace Knows

/-- One turn: it is served as it should be, and the chain keeps what it learns. -/
theorem step (exchange : Exchange σ) (knows : Knows first earlier exchange.before)
    (serves : Serves exchange.before exchange.request exchange.outcome exchange.after
      exchange.queries exchange.readings) :
    exchange.IsServed (IsClosed earlier) (learnt earlier) (learnt (earlier ++ [exchange])) ∧
      Knows first (earlier ++ [exchange]) exchange.after := by
  have told : exchange.after.chain.bootTime = learnt (earlier ++ [exchange]) := by
    rw [serves.bootTime, knows.bootTime, learnt_append, learnt, learnt, queries_singleton]
  have served := serves.isServed
  rw [propext knows.isClosed_iff, knows.bootTime, told] at served
  refine ⟨served, told, ?isClosed, ?last, ?storesOnly⟩
  case isClosed =>
    rw [serves.isClosed_iff, knows.isClosed_iff, isClosed_append_singleton]
  case last =>
    intro front boot back found
    rw [queries_append, queries_singleton] at found
    by_cases asked : exchange.queries = []
    · rw [asked, List.append_nil] at found
      exact knows.last front boot back found
    · -- What is asked now is asked because nothing has succeeded so far.
      have unknown : learnt earlier = none := (served.asks_iff.mp asked).2
      have one : exchange.queries.length = 1 :=
        Nat.le_antisymm served.once (List.length_pos_iff.mpr asked)
      rcases List.eq_nil_or_concat' back with rfl | ⟨back, answer, rfl⟩
      · rfl
      · rw [← List.cons_append, ← List.append_assoc] at found
        have before := List.append_inj_left' found one
        exact absurd (before ▸ by simp) (not_mem_of_learnt unknown boot)
  case storesOnly =>
    intro place time present
    rcases serves.storesOnly place time present with before | ⟨boot, learns, cut⟩
    · rcases knows.storesOnly place time before with atFirst | ⟨boot, learns, cut⟩
      · exact .inl atFirst
      · exact .inr ⟨boot, by rw [learnt_append, learns, Option.some_or], cut⟩
    · exact .inr ⟨boot, told ▸ learns, cut⟩

theorem of_run (knows : Knows first earlier session) {turns : List (Turn σ)}
    {front back : List (Exchange σ)}
    (ran : run query clock session turns = front ++ exchange :: back) :
    exchange.IsServed (IsClosed (earlier ++ front)) (learnt (earlier ++ front))
        (learnt (earlier ++ front ++ [exchange])) ∧
      Knows first (earlier ++ front ++ [exchange]) exchange.after := by
  induction turns generalizing earlier session front with
  | nil => cases front <;> cases ran
  | cons turn turns ih =>
    have stepped := step (HostChain.exchange query clock session turn) knows
      (serves_exchange query clock session turn).1
    cases front with
    | nil =>
      cases ran
      rw [List.append_nil]
      exact stepped
    | cons head front =>
      obtain ⟨rfl, rest⟩ := List.cons.inj ran
      have whole := ih stepped.2 rest
      rw [List.append_assoc earlier, List.singleton_append] at whole
      exact whole

end Knows

/-- What the user of a chain can rely on in a run of it. -/
structure AsksOnce (first : Nat → Statistic) (exchanges : List (Exchange σ)) : Prop where
  /-- No query follows one that succeeds. -/
  last : ∀ front boot back, queries exchanges = front ++ .ok boot :: back → back = []
  served : ∀ earlier exchange later, exchanges = earlier ++ exchange :: later →
    exchange.IsServed (IsClosed earlier) (learnt earlier) (learnt (earlier ++ [exchange]))
  storesOnly : ∀ earlier exchange later, exchanges = earlier ++ exchange :: later →
    exchange.after.StoresOnly first (learnt (earlier ++ [exchange]))

end Runs

end HostInventory.HostChain
