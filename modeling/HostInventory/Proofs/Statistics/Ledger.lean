import HostInventory.BootTime.Oracle
import HostInventory.Proofs.Action
import HostInventory.Statistics.Ledger

/-!
Ledgers of chains that are used one after another, and how many chains an action opens. In such a
ledger every chain that was opened is closed before anything else happens, so no chain stays open
and no two are open together. The bounds of two actions add up.
-/
namespace HostInventory

def ChainEvent.number : ChainEvent → Nat
  | .opened number | .refused number | .closed number => number

namespace ChainLedger

/-- Nothing is left open or closed twice, and there is never more than one open chain. -/
structure IsTidy (ledger : ChainLedger) : Prop where
  closedOnce : ∀ number, .opened number ∈ ledger →
    ledger.count (.opened number) = 1 ∧ ledger.count (.closed number) = 1
  openedBefore : ∀ earlier number later, ledger = earlier ++ .closed number :: later →
    .opened number ∈ earlier
  neverClosed : ∀ number, .refused number ∈ ledger → .closed number ∉ ledger
  alone : ∀ moment, moment <+: ledger → (standing moment).length ≤ 1
  settled : standing ledger = []

/-- The ledger of attempts that are made one after another, numbered from `first` on; `true` stands
for one that opens a chain. -/
def ofVisits (first : Nat) : List Bool → ChainLedger
  | [] => []
  | true :: rest => .opened first :: .closed first :: ofVisits (first + 1) rest
  | false :: rest => .refused first :: ofVisits (first + 1) rest

theorem attempts_append (ledger later : ChainLedger) :
    attempts (ledger ++ later) = attempts ledger + attempts later := List.countP_append

theorem attempts_ofVisits (first : Nat) (visits : List Bool) :
    attempts (ofVisits first visits) = visits.length := by
  induction visits generalizing first with
  | nil => rfl
  | cons visit rest ih =>
    have shorter := ih (first + 1)
    rw [attempts] at shorter ⊢
    cases visit with
    | true => rw [ofVisits, List.countP_cons, List.countP_cons, shorter]; rfl
    | false => rw [ofVisits, List.countP_cons, shorter]; rfl

theorem ofVisits_append (first : Nat) (visits later : List Bool) :
    ofVisits first (visits ++ later) =
      ofVisits first visits ++ ofVisits (first + visits.length) later := by
  induction visits generalizing first with
  | nil => rfl
  | cons visit rest ih =>
    have next : first + (visit :: rest).length = first + 1 + rest.length := by
      rw [List.length_cons]; omega
    rw [next, List.cons_append]
    cases visit with
    | true => rw [ofVisits, ofVisits, ih]; rfl
    | false => rw [ofVisits, ofVisits, ih]; rfl

/-- What comes after a ledger once at most `n` more attempts have been made, one after another. -/
def GrowsAtMost (n : Nat) (ledger after : ChainLedger) : Prop :=
  ∃ visits : List Bool, visits.length ≤ n ∧ after = ledger ++ ofVisits (attempts ledger) visits

namespace GrowsAtMost

variable {m n : Nat} {ledger middle after : ChainLedger}

theorem refl (ledger : ChainLedger) : GrowsAtMost 0 ledger ledger :=
  ⟨[], Nat.le_refl 0, (List.append_nil ledger).symm⟩

theorem mono (grows : GrowsAtMost m ledger after) (le : m ≤ n) : GrowsAtMost n ledger after := by
  obtain ⟨visits, few, rfl⟩ := grows
  exact ⟨visits, Nat.le_trans few le, rfl⟩

theorem trans (first : GrowsAtMost m ledger middle) (second : GrowsAtMost n middle after) :
    GrowsAtMost (m + n) ledger after := by
  obtain ⟨visits, few, rfl⟩ := first
  obtain ⟨others, fewer, rfl⟩ := second
  refine ⟨visits ++ others, ?_, ?_⟩
  · rw [List.length_append]
    exact Nat.add_le_add few fewer
  · rw [attempts_append, attempts_ofVisits, ofVisits_append, List.append_assoc]

end GrowsAtMost

theorem first_le_number {first : Nat} {visits : List Bool} {event : ChainEvent}
    (mem : event ∈ ofVisits first visits) : first ≤ event.number := by
  induction visits generalizing first with
  | nil => cases mem
  | cons visit rest ih =>
    cases visit with
    | true =>
      rcases List.mem_cons.mp mem with rfl | later
      · exact Nat.le_refl first
      · rcases List.mem_cons.mp later with rfl | within
        · exact Nat.le_refl first
        · exact Nat.le_of_succ_le (ih within)
    | false =>
      rcases List.mem_cons.mp mem with rfl | within
      · exact Nat.le_refl first
      · exact Nat.le_of_succ_le (ih within)

theorem isTidy_nil : IsTidy [] where
  closedOnce number mem := by cases mem
  openedBefore earlier number later split := by
    cases earlier with
    | nil => cases split
    | cons event earlier => cases split
  neverClosed number mem := by cases mem
  alone moment before := by rw [List.prefix_nil.mp before]; exact Nat.zero_le 1
  settled := rfl

theorem IsTidy.refused {first : Nat} {ledger : ChainLedger} (tidy : IsTidy ledger)
    (fresh : ∀ event ∈ ledger, first < event.number) : IsTidy (.refused first :: ledger) where
  closedOnce number mem := by
    have later : .opened number ∈ ledger := (List.mem_cons.mp mem).resolve_left nofun
    have notOpened : ChainEvent.refused first ≠ .opened number := nofun
    have notClosed : ChainEvent.refused first ≠ .closed number := nofun
    rw [List.count_cons_of_ne notOpened, List.count_cons_of_ne notClosed]
    exact tidy.closedOnce number later
  openedBefore earlier number later split := by
    cases earlier with
    | nil => cases split
    | cons event earlier =>
      have rest := (List.cons.inj split).2
      exact List.mem_cons_of_mem _ (tidy.openedBefore earlier number later rest)
  neverClosed number mem closed := by
    have closedLater : .closed number ∈ ledger := (List.mem_cons.mp closed).resolve_left nofun
    rcases List.mem_cons.mp mem with same | later
    · cases same
      exact absurd (fresh _ closedLater) (Nat.lt_irrefl first)
    · exact tidy.neverClosed number later closedLater
  alone moment before := by
    rcases List.prefix_cons_iff.mp before with rfl | ⟨rest, rfl, within⟩
    · exact Nat.zero_le 1
    · exact tidy.alone rest within
  settled := tidy.settled

theorem standing_visit (first : Nat) (ledger : ChainLedger) :
    standing (.opened first :: .closed first :: ledger) = standing ledger := by
  rw [standing, List.foldl_cons, List.foldl_cons, track, track, List.erase_cons_head]
  rfl

theorem IsTidy.visit {first : Nat} {ledger : ChainLedger} (tidy : IsTidy ledger)
    (fresh : ∀ event ∈ ledger, first < event.number) :
    IsTidy (.opened first :: .closed first :: ledger) where
  closedOnce number mem := by
    have none : ∀ event ∈ ledger, event.number ≠ first :=
      fun event mem => Nat.ne_of_gt (fresh event mem)
    rcases List.mem_cons.mp mem with same | later
    · cases same
      have opened : ledger.count (.opened first) = 0 :=
        List.count_eq_zero.mpr fun mem => none _ mem rfl
      have closed : ledger.count (.closed first) = 0 :=
        List.count_eq_zero.mpr fun mem => none _ mem rfl
      simp [opened, closed]
    · have within : .opened number ∈ ledger := (List.mem_cons.mp later).resolve_left nofun
      have ne : first ≠ number := fun same => none _ within same.symm
      simp [ne, tidy.closedOnce number within]
  openedBefore earlier number later split := by
    match earlier, split with
    | [], split => cases split
    | [_], split => cases split; exact List.mem_singleton_self _
    | _ :: _ :: earlier, split =>
      have rest := (List.cons.inj (List.cons.inj split).2).2
      have within := tidy.openedBefore earlier number later rest
      exact List.mem_cons_of_mem _ (List.mem_cons_of_mem _ within)
  neverClosed number mem closed := by
    have within : .refused number ∈ ledger :=
      (List.mem_cons.mp ((List.mem_cons.mp mem).resolve_left nofun)).resolve_left nofun
    rcases List.mem_cons.mp ((List.mem_cons.mp closed).resolve_left nofun) with same | later
    · cases same
      exact absurd (fresh _ within) (Nat.lt_irrefl first)
    · exact tidy.neverClosed number within later
  alone moment before := by
    rcases List.prefix_cons_iff.mp before with rfl | ⟨rest, rfl, within⟩
    · exact Nat.zero_le 1
    · rcases List.prefix_cons_iff.mp within with rfl | ⟨rest, rfl, inside⟩
      · exact Nat.le_refl 1
      · rw [standing_visit]
        exact tidy.alone rest inside
  settled := (standing_visit first ledger).trans tidy.settled

theorem isTidy_ofVisits (first : Nat) (visits : List Bool) : IsTidy (ofVisits first visits) := by
  induction visits generalizing first with
  | nil => exact isTidy_nil
  | cons visit rest ih =>
    have fresh : ∀ event ∈ ofVisits (first + 1) rest, first < event.number :=
      fun event mem => first_le_number mem
    cases visit with
    | true => exact (ih (first + 1)).visit fresh
    | false => exact (ih (first + 1)).refused fresh

end ChainLedger

open HostInventory.Action ChainLedger

variable {σ η α β : Type}

/-- Whatever its outcome, the action adds to a ledger at most `n` attempts, one after another. -/
def Action.AttemptsAtMost (n : Nat) (a : Action (ChainLedger × σ) α) : Prop :=
  ∀ ledger world, GrowsAtMost n ledger (a.perform (ledger, world)).2.1

namespace Action.AttemptsAtMost

variable {m n : Nat} {a : Action (ChainLedger × σ) α} {next : α → Action (ChainLedger × σ) β}

theorem of_keeps (keeps : ∀ ledger, Keeps (fun world : ChainLedger × σ => world.1 = ledger) a) :
    AttemptsAtMost 0 a := by
  intro ledger world
  rw [keeps ledger (ledger, world) rfl]
  exact GrowsAtMost.refl ledger

theorem mono (few : AttemptsAtMost m a) (le : m ≤ n) : AttemptsAtMost n a :=
  fun ledger world => (few ledger world).mono le

theorem bind (first : AttemptsAtMost m a) (later : ∀ value, AttemptsAtMost n (next value)) :
    AttemptsAtMost (m + n) (a >>= next) := by
  intro ledger world
  have begins := first ledger world
  rw [perform_bind]
  rcases performed : perform a (ledger, world) with ⟨outcome, middle, between⟩
  rw [performed] at begins
  cases outcome with
  | error failure => exact begins.mono (Nat.le_add_right m n)
  | ok value => exact begins.trans (later value middle between)

theorem recover {accepts : Failure → Bool} {handle : Failure → Action (ChainLedger × σ) α}
    (first : AttemptsAtMost m a) (later : ∀ failure, AttemptsAtMost n (handle failure)) :
    AttemptsAtMost (m + n) (a.recover accepts handle) := by
  intro ledger world
  have begins := first ledger world
  rw [perform_recover]
  rcases performed : perform a (ledger, world) with ⟨outcome, middle, between⟩
  rw [performed] at begins
  cases outcome with
  | ok value => exact begins.mono (Nat.le_add_right m n)
  | error failure =>
    by_cases accepted : accepts failure
    · simp only [accepted, if_true]
      exact begins.trans (later failure middle between)
    · simp only [accepted, Bool.false_eq_true, if_false]
      exact begins.mono (Nat.le_add_right m n)

end Action.AttemptsAtMost

theorem Action.attempts_pure (value : α) :
    AttemptsAtMost 0 (pure value : Action (ChainLedger × σ) α) :=
  .of_keeps fun _ => keeps_pure value

theorem Action.attempts_ofExcept (outcome : Except Failure α) :
    AttemptsAtMost 0 (ofExcept outcome : Action (ChainLedger × σ) α) :=
  .of_keeps fun _ => keeps_ofExcept outcome

theorem Action.attempts_beside (a : Action σ α) :
    AttemptsAtMost 0 (beside a : Action (ChainLedger × σ) α) := .of_keeps fun _ _ same => same

theorem Action.attempts_log [Journal σ] (event : Journal.Event) :
    AttemptsAtMost 0 (log event : Action (ChainLedger × σ) Unit) := .of_keeps fun _ _ same => same

namespace ChainAccess

variable (chains : ChainAccess σ η)

def IsUsing (number : Nat) (ledger : ChainLedger) (used : (Nat × η) × ChainLedger × σ) : Prop :=
  used.1.1 = number ∧ used.2.1 = ledger

theorem keeps_unledgered (a : Action (η × σ) α) (number : Nat) (ledger : ChainLedger) :
    Keeps (IsUsing number ledger) (unledgered a) := fun _ uses => uses

theorem connect_ledgered (ledger : ChainLedger) (world : σ) :
    chains.ledgered.connect.perform (ledger, world) =
      match chains.connect.perform world with
      | (.ok chain, world) =>
        (.ok (attempts ledger, chain), ledger ++ [.opened (attempts ledger)], world)
      | (.error failure, world) =>
        (.error failure, ledger ++ [.refused (attempts ledger)], world) := rfl

theorem ledger_close (used : (Nat × η) × ChainLedger × σ) :
    (chains.ledgered.close.perform used).2.2.1 = used.2.1 ++ [.closed used.1.1] := rfl

/-- Whatever is done with an open chain, using chains comes down to one attempt. -/
theorem attempts_withOpen {body : Action ((Nat × η) × ChainLedger × σ) α}
    (keeps : ∀ number ledger, Keeps (IsUsing number ledger) body) :
    AttemptsAtMost 1 (chains.ledgered.withOpen body) := by
  intro ledger world
  rw [perform_withOpen, connect_ledgered]
  rcases chains.connect.perform world with ⟨outcome, opened⟩
  cases outcome with
  | error failure => exact ⟨[false], Nat.le_refl 1, rfl⟩
  | ok chain =>
    refine ⟨[true], Nat.le_refl 1, ?_⟩
    have uses := keeps (attempts ledger) (ledger ++ [.opened (attempts ledger)])
    obtain ⟨sameNumber, sameLedger⟩ :=
      uses ((attempts ledger, chain), ledger ++ [.opened (attempts ledger)], opened) ⟨rfl, rfl⟩
    simp only [ledger_close, sameNumber, sameLedger, ofVisits, List.append_assoc,
      List.singleton_append]

end ChainAccess

namespace Oracle

variable (oracle : Oracle σ η)

/-- The same oracle with account kept of its chains. -/
def ledgered : Oracle (ChainLedger × σ) (Nat × η) := ⟨oracle.chains.ledgered, oracle.clock.beside⟩

theorem keeps_snapTime? (number : Nat) (ledger : ChainLedger) :
    Keeps (ChainAccess.IsUsing number ledger) oracle.ledgered.snapTime? :=
  (ChainAccess.keeps_unledgered _ number ledger).bind fun _ => keeps_pure _

theorem keeps_storedBootTime? (number : Nat) (ledger : ChainLedger) :
    Keeps (ChainAccess.IsUsing number ledger) oracle.ledgered.storedBootTime? := by
  refine (ChainAccess.keeps_unledgered _ number ledger).bind fun found => ?_
  cases found with
  | none => exact keeps_pure none
  | some statistic =>
    refine (ChainAccess.keeps_unledgered _ number ledger).bind fun filled => ?_
    cases filled with
    | none => exact keeps_pure none
    | some statistic =>
      exact (ChainAccess.keeps_unledgered _ number ledger).bind fun _ => keeps_pure _

variable [Journal σ]

theorem attempts_consult {body : Action ((Nat × η) × ChainLedger × σ) (Option α)}
    (keeps : ∀ number ledger, Keeps (ChainAccess.IsUsing number ledger) body) :
    AttemptsAtMost 1 (oracle.ledgered.consult body) :=
  (oracle.chains.attempts_withOpen keeps).recover fun _ =>
    (attempts_log _).bind fun _ => attempts_pure _

theorem attempts_uptime : AttemptsAtMost 1 oracle.ledgered.uptime :=
  (oracle.attempts_consult oracle.keeps_snapTime?).bind fun _ => attempts_pure _

theorem attempts_query : AttemptsAtMost 2 oracle.ledgered.query := by
  refine (oracle.attempts_consult oracle.keeps_storedBootTime?).bind (n := 1) fun found => ?_
  cases found with
  | some bootTime => exact (attempts_pure bootTime).mono (Nat.zero_le 1)
  | none =>
    -- The clock is read between the two chains, when none is open.
    refine (attempts_beside oracle.clock).bind (n := 1) fun now => ?_
    refine (attempts_ofExcept _).bind (n := 1) fun seconds => ?_
    exact oracle.attempts_uptime.bind fun uptime => (attempts_log _).bind fun _ => attempts_pure _

end Oracle

end HostInventory
