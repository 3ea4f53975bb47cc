import HostInventory.Proofs.BootTime.Callers
import Mathlib.Algebra.Order.BigOperators.Group.List
import Mathlib.Algebra.Order.Ring.Nat

/-!
The boot time is fixed once, however the callers of an oracle interleave. A caller has at most seven
moves before it, and as long as not all have come to their ends, one of them can make the next of
its moves.
-/
namespace HostInventory.Callers

variable {σ : Type} {query : Action σ Int} {state after : State σ} {caller : Nat}
  {group schedule : List Nat}

/-- How many moves a caller in this phase has before it, at most. -/
def Phase.movesLeft : Phase → Nat
  | .asking => 7
  | .waiting => 6
  | .holding => 5
  | .querying => 4
  | .storing _ | .failing _ => 3
  | .releasing => 2
  | .returning => 1
  | .returned _ | .failed _ => 0

theorem Phase.movesLeft_le (phase : Phase) : phase.movesLeft ≤ 7 := by
  cases phase <;> simp [movesLeft]

theorem Phase.isOver_iff (phase : Phase) : phase.isOver ↔ phase.movesLeft = 0 := by
  cases phase <;> simp [isOver, movesLeft]

/-- A caller that has come to its end, or that waits for the lock of another. -/
def State.Idle (state : State σ) (caller : Nat) : Prop :=
  (state.phase caller).isOver ∨ state.phase caller = .waiting ∧ state.lockedBy ≠ none

theorem next_of_over (query : Action σ Int) (ended : (state.phase caller).isOver) :
    next query state caller = state := by
  cases h : state.phase caller with
  | returned | failed => simp only [next, h]
  | _ => rw [h] at ended; cases ended

theorem next_of_idle (query : Action σ Int) (idle : state.Idle caller) :
    next query state caller = state := by
  rcases idle with ended | ⟨waits, locked⟩
  · exact next_of_over query ended
  · obtain ⟨holder, lock⟩ := Option.ne_none_iff_exists'.mp locked
    simp only [next, waits, lock]

theorem movesLeft_next_lt (query : Action σ Int) (busy : ¬ state.Idle caller) :
    ((next query state caller).phase caller).movesLeft < (state.phase caller).movesLeft := by
  cases h : state.phase caller with
  | asking =>
    cases known : state.known <;> simp [next, h, known, Phase.movesLeft]
  | waiting =>
    cases lock : state.lockedBy with
    | none => simp [next, h, lock, Phase.movesLeft]
    | some holder =>
      have locked : state.lockedBy ≠ none := Option.ne_none_iff_exists'.mpr ⟨holder, lock⟩
      exact absurd (.inr ⟨h, locked⟩) busy
  | holding =>
    cases known : state.known <;> simp [next, h, known, Phase.movesLeft]
  | querying =>
    rcases outcome : query.perform state.world with ⟨failure | bootTime, world⟩ <;>
      simp [next, h, outcome, Phase.movesLeft]
  | storing | failing | releasing | returning => simp [next, h, Phase.movesLeft]
  | returned | failed => exact absurd (.inl (by rw [h]; rfl)) busy

theorem movesLeft_next_le (query : Action σ Int) (state : State σ) (caller other : Nat) :
    ((next query state caller).phase other).movesLeft ≤ (state.phase other).movesLeft := by
  by_cases idle : state.Idle caller
  · rw [next_of_idle query idle]
  · by_cases h : other = caller
    · rw [h]; exact (movesLeft_next_lt query idle).le
    · rw [(frame_next query state caller).others other h]

def State.movesLeft (state : State σ) (group : List Nat) : Nat :=
  (group.map fun caller => (state.phase caller).movesLeft).sum

theorem State.movesLeft_le (state : State σ) (group : List Nat) :
    state.movesLeft group ≤ 7 * group.length := by
  induction group with
  | nil => exact Nat.le_refl 0
  | cons caller rest ih =>
    have own := (state.phase caller).movesLeft_le
    simp only [movesLeft, List.map_cons, List.sum_cons, List.length_cons] at ih ⊢
    omega

theorem State.movesLeft_next_le (query : Action σ Int) (state : State σ) (caller : Nat)
    (group : List Nat) : (next query state caller).movesLeft group ≤ state.movesLeft group :=
  List.sum_le_sum fun other _ => Callers.movesLeft_next_le query state caller other

theorem State.movesLeft_next_lt (query : Action σ Int) (mem : caller ∈ group)
    (busy : ¬ state.Idle caller) :
    (next query state caller).movesLeft group < state.movesLeft group :=
  List.sum_lt_sum _ _ (fun other _ => Callers.movesLeft_next_le query state caller other)
    ⟨caller, mem, Callers.movesLeft_next_lt query busy⟩

namespace Leads

theorem movesLeft_le (leads : Leads query schedule state after) (group : List Nat) :
    after.movesLeft group ≤ state.movesLeft group := by
  induction leads with
  | nil => exact Nat.le_refl _
  | move caller _ ih => exact ih.trans (State.movesLeft_next_le query _ caller group)
  | change _ _ ih => exact ih

theorem idle_of_movesLeft_eq (leads : Leads query schedule state after)
    (within : ∀ caller ∈ schedule, caller ∈ group)
    (same : after.movesLeft group = state.movesLeft group) :
    ∀ caller ∈ schedule, state.Idle caller := by
  induction leads with
  | nil => nofun
  | @move rest state after first leads ih =>
    have idle : state.Idle first := by
      by_contra busy
      have less := State.movesLeft_next_lt query (within first (.head rest)) busy
      exact absurd same ((leads.movesLeft_le group).trans_lt less).ne
    rw [next_of_idle query idle] at ih
    intro caller mem
    rcases List.mem_cons.mp mem with rfl | mem
    · exact idle
    · exact ih (fun caller mem => within caller (.tail first mem)) same caller mem
  | change _ _ ih => exact ih within same

theorem holder_mem (leads : Leads query schedule state after)
    (within : ∀ caller ∈ schedule, caller ∈ group)
    (holder : ∀ caller, state.lockedBy = some caller → caller ∈ group) :
    ∀ caller, after.lockedBy = some caller → caller ∈ group := by
  induction leads with
  | nil => exact holder
  | @move rest state after first _ ih =>
    refine ih (fun caller mem => within caller (.tail first mem)) ?_
    intro caller locked
    rcases (frame_next query state first).lock with same | free | taken
    · exact holder caller (same.symm.trans locked)
    · rw [free] at locked; cases locked
    · rw [taken] at locked
      obtain rfl := Option.some.inj locked
      exact within first (.head rest)
  | change _ _ ih => exact ih within holder

theorem phase_of_over (leads : Leads query schedule state after)
    (ended : (state.phase caller).isOver) : after.phase caller = state.phase caller := by
  induction leads with
  | nil => rfl
  | move first _ ih =>
    by_cases h : caller = first
    · rw [← h, next_of_over query ended] at ih; exact ih ended
    · rw [(frame_next query _ first).others caller h] at ih; exact ih ended
  | change _ _ ih => exact ih ended

end Leads

/-- If all of a group are idle, nobody among them waits: the one that has the lock would not be
idle. -/
theorem over_of_idle (inv : Inv state)
    (holder : ∀ caller, state.lockedBy = some caller → caller ∈ group)
    (idle : ∀ caller ∈ group, state.Idle caller) :
    ∀ caller ∈ group, (state.phase caller).isOver := by
  intro caller mem
  rcases idle caller mem with ended | ⟨-, locked⟩
  · exact ended
  · obtain ⟨owner, lock⟩ := Option.ne_none_iff_exists'.mp locked
    obtain ⟨going, notWaiting⟩ := inv.not_over_of_locked lock
    rcases idle owner (holder owner lock) with ended | ⟨waits, -⟩
    · rw [going] at ended; cases ended
    · exact absurd waits notWaiting

/-- A group that moves in rounds comes to its end, once there are as many rounds as it has moves
before it. -/
theorem over_of_rounds {rounds : List (List Nat)} (inv : Inv state)
    (holder : ∀ caller, state.lockedBy = some caller → caller ∈ group)
    (fair : ∀ round ∈ rounds, ∀ caller, caller ∈ round ↔ caller ∈ group)
    (enough : state.movesLeft group ≤ rounds.length)
    (leads : Leads query rounds.flatten state after) :
    ∀ caller ∈ group, (after.phase caller).isOver := by
  induction rounds generalizing state with
  | nil =>
    intro caller mem
    have own : (after.phase caller).movesLeft ≤ after.movesLeft group :=
      List.single_le_sum (fun _ _ => Nat.zero_le _) _ (List.mem_map.mpr ⟨caller, mem, rfl⟩)
    have none := (own.trans (leads.movesLeft_le group)).trans enough
    exact (Phase.isOver_iff _).mpr (Nat.le_zero.mp none)
  | cons round rounds ih =>
    obtain ⟨between, first, rest⟩ := leads.split
    have turn := fair round (.head rounds)
    rcases (first.movesLeft_le group).lt_or_eq with less | same
    · exact ih (first.inv inv) (first.holder_mem (fun caller => (turn caller).mp) holder)
        (fun round mem => fair round (.tail _ mem))
        (Nat.le_of_lt_succ (less.trans_le enough)) rest
    · have idle := first.idle_of_movesLeft_eq (fun caller => (turn caller).mp) same
      have ended := over_of_idle inv holder fun caller mem => idle caller ((turn caller).mpr mem)
      intro caller mem
      have stays := first.phase_of_over (ended caller mem)
      rw [rest.phase_of_over (stays ▸ ended caller mem), stays]
      exact ended caller mem

end HostInventory.Callers

namespace HostInventory.Callers

variable {σ : Type} {query : Action σ Int} {state after : State σ} {caller : Nat}
  {schedule : List Nat}

namespace Inv

theorem successes_cases (inv : Inv state) :
    state.successes = [] ∨ ∃ bootTime, state.successes = [bootTime] := by
  cases known : state.known with
  | some bootTime => exact .inr ⟨bootTime, inv.kept bootTime known⟩
  | none =>
    cases lock : state.lockedBy with
    | none => exact .inl (inv.free lock known)
    | some holder =>
      have locked := (inv.owner holder).mp lock
      have fits := inv.fits holder
      cases phase : state.phase holder with
      | holding => rw [phase] at fits; exact .inl (fits known)
      | querying | failing => rw [phase] at fits; exact .inl fits.2
      | storing bootTime => rw [phase] at fits; exact .inr ⟨bootTime, fits.2⟩
      | releasing =>
        rw [phase] at fits
        obtain ⟨bootTime, found⟩ := fits
        exact absurd (known.symm.trans found) nofun
      | asking | waiting | returning | returned | failed => rw [phase] at locked; cases locked

theorem not_querying (inv : Inv state) (found : state.successes ≠ []) (caller : Nat) :
    state.phase caller ≠ .querying := by
  intro phase
  have fits := inv.fits caller
  rw [phase] at fits
  exact found fits.2

end Inv

/-- After a success no query ends, and none is under way. -/
theorem Leads.settled (leads : Leads query schedule state after) (inv : Inv state)
    (found : state.successes ≠ []) :
    after.answers = state.answers ∧ ∀ caller, after.phase caller ≠ .querying := by
  induction leads with
  | nil => exact ⟨rfl, inv.not_querying found⟩
  | @move rest state after caller _ ih =>
    have same := (frame_next query state caller).answers (inv.not_querying found caller)
    rw [State.successes, ← same] at found
    rw [← same]
    exact ih (inv_next query inv caller) found
  | change world _ ih => exact ih (inv.change world) found

theorem next_of_failing {failure : Failure} (inv : Inv state)
    (phase : state.phase caller = .failing failure) :
    (next query state caller).phase caller = .failed failure ∧
      (next query state caller).known = none ∧ (next query state caller).lockedBy = none := by
  have fits := inv.fits caller
  rw [phase] at fits
  simp only [next, phase, move_phase_self, move_known, move_lockedBy, fits.1, and_self]

/-- What the callers of an oracle can rely on in a state: in it, and whatever follows. -/
structure FixedOnce (query : Action σ Int) (state : State σ) : Prop where
  /-- No two callers are in a query. -/
  alone : ∀ first second, state.phase first = .querying → state.phase second = .querying →
    first = second
  /-- No two queries have succeeded. -/
  one : state.successes.length ≤ 1
  /-- Who has returned has returned what the one successful query found. -/
  returns : ∀ caller outcome, state.phase caller = .returned outcome →
    ∃ bootTime, outcome = some bootTime ∧ state.successes = [bootTime]
  /-- After a success no query is made. -/
  settled : state.successes ≠ [] → ∀ schedule after, Leads query schedule state after →
    after.answers = state.answers ∧ ∀ caller, after.phase caller ≠ .querying
  /-- A caller whose query fails leaves with the failure, whatever others do meanwhile. It leaves
  nothing known, and the lock free. -/
  fails : ∀ caller failure world, state.phase caller = .querying →
    query.perform state.world = (.error failure, world) →
    ∀ schedule between, Leads query schedule (next query state caller) between →
      caller ∉ schedule →
      (next query between caller).phase caller = .failed failure ∧
        (next query between caller).known = none ∧ (next query between caller).lockedBy = none
  /-- Callers that move in turns, in any order within a turn, come to their ends, if who has the
  lock is among them. -/
  proceeds : ∀ (group : List Nat) (rounds : List (List Nat)) after,
    (∀ caller, state.lockedBy = some caller → caller ∈ group) →
    (∀ round ∈ rounds, ∀ caller, caller ∈ round ↔ caller ∈ group) →
    7 * group.length ≤ rounds.length → Leads query rounds.flatten state after →
    ∀ caller ∈ group, (after.phase caller).isOver

theorem fixed_once (reachable : Reachable query state) : FixedOnce query state where
  alone first second inFirst inSecond := by
    have lockFirst := (reachable.inv.owner first).mpr (by rw [inFirst]; rfl)
    have lockSecond := (reachable.inv.owner second).mpr (by rw [inSecond]; rfl)
    exact Option.some.inj (lockFirst.symm.trans lockSecond)
  one := by
    rcases reachable.inv.successes_cases with empty | ⟨bootTime, found⟩
    · rw [empty]; exact Nat.zero_le 1
    · rw [found]; exact Nat.le_refl 1
  returns caller outcome phase := by
    have fits := reachable.inv.fits caller
    rw [phase] at fits
    obtain ⟨bootTime, rfl⟩ := Option.ne_none_iff_exists'.mp fits.1
    exact ⟨bootTime, rfl, reachable.inv.kept bootTime fits.2⟩
  settled found schedule after leads := leads.settled reachable.inv found
  fails caller failure world phase outcome schedule between leads absent := by
    have failing : (next query state caller).phase caller = .failing failure := by
      simp only [next, phase, outcome, move_phase_self]
    rw [← leads.phase_of_not_mem absent] at failing
    exact next_of_failing (leads.inv (inv_next query reachable.inv caller)) failing
  proceeds group rounds after holder fair enough leads :=
    over_of_rounds reachable.inv holder fair ((state.movesLeft_le group).trans enough) leads

def foretold : Action (List (Except Failure Int)) Int :=
  ExceptT.mk fun
    | [] => (.error .notANumber, [])
    | outcome :: rest => (outcome, rest)

/-- Three callers look at once; the query of the first fails, the second asks again. -/
def secondQuery : State (List (Except Failure Int)) :=
  run foretold [0, 1, 2, 0, 0, 0, 0, 1, 1, 2, 1, 1, 1, 1, 2, 2, 2, 2]
    (start [.error .notANumber, .ok 1000, .ok 2000])

theorem fixed_once_secondQuery :
    Reachable foretold secondQuery ∧
      (List.range 3).map secondQuery.outcome =
        [some (.error .notANumber), some (.ok (some 1000)), some (.ok (some 1000))] ∧
      FixedOnce foretold secondQuery :=
  have reachable : Reachable foretold secondQuery := (leads_run _ _ _).reachable (.start _)
  ⟨reachable, rfl, fixed_once reachable⟩

end HostInventory.Callers
