import HostInventory.Config
import HostInventory.Monitor.Basic
import HostInventory.Monitor.Tuning
import HostInventory.Proofs.Monitor.Pollers

/-!
How long a loop goes on polling, and which rates it can wait for. Main statement: whatever its polls
give and however the rate is changed, a loop ends only where it is told to stop or is to wait for
longer than waits can be, and until then there are at most three steps from one poll to the next.
Nothing keeps rates from being too long.
-/
namespace HostInventory.PollRate

open Float.Model (UnpackedFloat)

variable {mantissa : Nat} {exponent : Int} {positive : 0 < mantissa} {a b : Float}

/-- What is above a positive number, told from sign, exponent and mantissa. -/
def IsAbove (mantissa : Nat) (exponent : Int) : UnpackedFloat → Prop
  | .infinity .positive => True
  | .finite .positive other scale _ => exponent < scale ∨ exponent = scale ∧ mantissa < other
  | .infinity .negative | .finite .negative _ _ _ | .zero _ | .notANumber => False

theorem compare_eq_lt_iff (x : UnpackedFloat) :
    UnpackedFloat.compare (.finite .positive mantissa exponent positive) x = some .lt ↔
      IsAbove mantissa exponent x := by
  have gt : some Ordering.gt ≠ some .lt := by decide
  have incomparable : (none : Option Ordering) ≠ some .lt := by decide
  cases x with
  | infinity sign =>
    cases sign with
    | positive => exact iff_of_true rfl trivial
    | negative => exact iff_of_false gt id
  | notANumber => exact iff_of_false incomparable id
  | zero sign => exact iff_of_false gt id
  | finite sign other scale _ =>
    cases sign with
    | positive =>
      change some ((compare exponent scale).then (compare mantissa other)) = some .lt ↔
        exponent < scale ∨ exponent = scale ∧ mantissa < other
      rw [Option.some_inj, Ordering.then_eq_lt, Int.compare_eq_lt, Nat.compare_eq_lt,
        Int.compare_eq_eq]
    | negative => exact iff_of_false gt id

theorem le_eq_true_iff (x : UnpackedFloat) :
    UnpackedFloat.le x (.finite .positive mantissa exponent positive) = true ↔
      x ≠ .notANumber ∧ ¬ IsAbove mantissa exponent x := by
  cases x with
  | infinity sign =>
    cases sign with
    | positive => exact iff_of_false Bool.false_ne_true fun both => both.2 trivial
    | negative => exact iff_of_true rfl ⟨UnpackedFloat.noConfusion, id⟩
  | notANumber => exact iff_of_false Bool.false_ne_true fun both => both.1 rfl
  | zero sign => exact iff_of_true rfl ⟨UnpackedFloat.noConfusion, id⟩
  | finite sign other scale proper =>
    cases sign with
    | positive =>
      have isNumber : UnpackedFloat.finite .positive other scale proper ≠ .notANumber :=
        UnpackedFloat.noConfusion
      rw [and_iff_right isNumber]
      change ((compare scale exponent).then (compare other mantissa)).isLE = true ↔
        ¬ (exponent < scale ∨ exponent = scale ∧ mantissa < other)
      rw [Ordering.isLE_then_iff_and, Int.isLE_compare, Nat.isLE_compare, Int.compare_eq_lt]
      omega
    | negative => exact iff_of_true rfl ⟨UnpackedFloat.noConfusion, id⟩

theorem lt_iff_compare :
    a < b ↔ a.toModel.unpack.compare b.toModel.unpack = some .lt := by
  have asModels : a < b ↔ a.lt b = true := Iff.rfl
  have ofModels : a.toModel < b.toModel ↔ a.toModel.lt b.toModel = true := Iff.rfl
  rw [asModels, Float.lt, decide_eq_true_eq, ofModels, Float.Model.lt, UnpackedFloat.lt, beq_iff_eq]

theorem le_iff_le : a ≤ b ↔ a.toModel.unpack.le b.toModel.unpack = true := by
  have asModels : a ≤ b ↔ a.le b = true := Iff.rfl
  have ofModels : a.toModel ≤ b.toModel ↔ a.toModel.le b.toModel = true := Iff.rfl
  rw [asModels, Float.le, decide_eq_true_eq, ofModels, Float.Model.le]

theorem unpack_shortest :
    shortest.toModel.unpack = .finite .positive 7205759403792794 (-56) (by decide) := rfl

/-- The longest wait is a whole number of seconds, scaled to 53 binary digits. -/
theorem unpack_longest :
    longest.toModel.unpack = .finite .positive (9223372036 * 524288) (-19) (by decide) := rfl

theorem shortest_lt_iff {rate : Float} :
    shortest < rate ↔ IsAbove 7205759403792794 (-56) rate.toModel.unpack := by
  rw [lt_iff_compare, unpack_shortest, compare_eq_lt_iff]

theorem longest_lt_iff {rate : Float} :
    longest < rate ↔ IsAbove (9223372036 * 524288) (-19) rate.toModel.unpack := by
  rw [lt_iff_compare, unpack_longest, compare_eq_lt_iff]

theorem shortest_lt_of_longest_lt {rate : Float} (long : longest < rate) : shortest < rate := by
  rw [longest_lt_iff] at long
  rw [shortest_lt_iff]
  unfold IsAbove at long ⊢
  split at long
  · trivial
  · omega
  all_goals cases long

theorem isWaitable_iff {rate : Float} (above : shortest < rate) :
    isWaitable rate = true ↔ ¬ longest < rate := by
  have isNumber : rate.toModel.unpack ≠ .notANumber := by
    intro none
    rw [shortest_lt_iff, none] at above
    exact above
  rw [isWaitable, decide_eq_true_eq, le_iff_le, unpack_longest, le_eq_true_iff, longest_lt_iff]
  exact and_iff_right isNumber

theorem isWaitable_shortest : isWaitable shortest = true := by
  decide

/-- Any rate can be waited for once it has been given to a monitor, unless it is too long. -/
theorem isWaitable_atLeastShortest_iff (rate : Float) :
    isWaitable (atLeastShortest rate) = true ↔ ¬ longest < rate := by
  unfold atLeastShortest
  by_cases above : shortest < rate
  · rw [if_pos above]
    exact isWaitable_iff above
  · rw [if_neg above]
    exact iff_of_true isWaitable_shortest (mt shortest_lt_of_longest_lt above)

end HostInventory.PollRate

namespace HostInventory.Monitor

variable {α : Type} {state : State α} {loop : Nat} {event : Event α} {events more : List (Event α)}
  {given first : Float}

theorem Event.isStepOf_eq_true :
    event.isStepOf loop = true ↔ ∃ outcome, event = .move (.loop loop outcome) := by
  constructor
  · intro step
    cases event with
    | move move =>
      cases move with
      | start | askStop | endStop => cases step
      | loop number outcome =>
        obtain rfl : number = loop := eq_of_beq step
        exact ⟨outcome, rfl⟩
    | assign rate => cases step
  · rintro ⟨outcome, rfl⟩
    exact beq_self_eq_true loop

theorem phase_react_of_foreign (alive : (state.phase loop).isAlive = true)
    (foreign : event.isStepOf loop = false) : (react state event).phase loop = state.phase loop := by
  cases event with
  | assign rate => rfl
  | move move =>
    cases move with
    | askStop =>
      simp only [react, next]
      split <;> rfl
    | endStop =>
      simp only [react, next]
      split <;> rfl
    | loop number outcome =>
      have other : loop ≠ number := fun same => by
        rw [same] at foreign
        exact Bool.false_ne_true (foreign.symm.trans (beq_self_eq_true number))
      exact (frame_stepLoop state number outcome).others loop other
    | start =>
      simp only [react, next]
      split
      · rfl
      · cases running : state.isRunning with
        | true => rw [start, if_pos running]
        | false =>
          have older := Nat.ne_of_lt (State.lt_of_isAlive alive)
          rw [phase_start running, if_neg older]

theorem LoopPhase.isAlive_after_eq_false {phase : LoopPhase α} {asked waitable : Bool}
    {outcome : Except Failure α} (alive : phase.isAlive = true) :
    (phase.after asked waitable outcome).isAlive = false ↔
      phase = .testing ∧ asked = true ∨ phase = .waiting ∧ asked = false ∧ waitable = false := by
  cases phase with
  | testing => cases asked <;> simp [after, isAlive]
  | polling => cases outcome <;> simp [after, isAlive]
  | putting polled => simp [after, isAlive]
  | waiting => cases asked <;> cases waitable <;> simp [after, isAlive]
  | ended => cases alive

theorem isAlive_react_eq_false (kept : state.rate = PollRate.atLeastShortest given)
    (alive : (state.phase loop).isAlive = true) :
    ((react state event).phase loop).isAlive = false ↔
      event.isStepOf loop = true ∧ IsEnding state given loop := by
  cases own : event.isStepOf loop with
  | false =>
    rw [phase_react_of_foreign alive own, alive]
    simp
  | true =>
    obtain ⟨outcome, rfl⟩ := Event.isStepOf_eq_true.mp own
    have tooLong : PollRate.isWaitable state.rate = false ↔ PollRate.longest < given := by
      rw [← Bool.not_eq_true, kept, PollRate.isWaitable_atLeastShortest_iff, Classical.not_not]
    have stepped : (react state (.move (.loop loop outcome))).phase loop =
        (state.phase loop).after state.stopAsked (PollRate.isWaitable state.rate) outcome :=
      phase_stepLoop state loop outcome
    rw [stepped, LoopPhase.isAlive_after_eq_false alive, tooLong, IsEnding]
    exact (and_iff_right rfl).symm

theorem course_append (before after : List (Event α)) (state : State α) :
    course (before ++ after) state = course after (course before state) := List.foldl_append

/-- A monitor keeps the rate that it was given last, or the shortest one in its place. -/
theorem rate_react (kept : state.rate = PollRate.atLeastShortest given) :
    (react state event).rate = PollRate.atLeastShortest (event.given given) := by
  cases event with
  | move move => exact (rate_next state move).trans kept
  | assign rate => rfl

theorem rate_course (kept : state.rate = PollRate.atLeastShortest given) :
    (course events state).rate = PollRate.atLeastShortest (lastGiven given events) := by
  induction events generalizing state given with
  | nil => exact kept
  | cons event rest ih => exact ih (rate_react kept)

theorem Unhindered.here (free : Unhindered loop given (event :: more) state) :
    state.stopAsked = false ∧ ¬ (event.isStepOf loop = true ∧ IsEnding state given loop) :=
  free [] event (List.prefix_append [event] more)

theorem Unhindered.later (free : Unhindered loop given (event :: more) state) :
    Unhindered loop (event.given given) more (react state event) := by
  intro before next reached
  exact free (event :: before) next ((List.prefix_cons_inj event).mpr reached)

/-- What is not hindered goes on: at most three steps of the loop end no poll before the next one. -/
theorem Unhindered.goesOn (free : Unhindered loop given more state)
    (kept : state.rate = PollRate.atLeastShortest given)
    (alive : (state.phase loop).isAlive = true) :
    ((course more state).phase loop).isAlive = true ∧
      more.countP (·.isStepOf loop) ≤
        4 * (pollsBy loop more state).length + (state.phase loop).toPoll := by
  -- By the events: one of the loop ends a poll or comes closer to the next, any other does nothing.
  induction more generalizing state given with
  | nil => exact ⟨alive, Nat.zero_le _⟩
  | cons event rest ih =>
    obtain ⟨unasked, goes⟩ := free.here
    have stays : ((react state event).phase loop).isAlive = true := by
      rw [← Bool.not_eq_false, isAlive_react_eq_false kept alive]
      exact goes
    obtain ⟨lives, bound⟩ := ih free.later (rate_react kept) stays
    refine ⟨lives, ?_⟩
    rw [List.countP_cons, pollsBy, List.length_append]
    cases own : event.isStepOf loop with
    | false =>
      rw [phase_react_of_foreign alive own] at bound
      simp only [Bool.false_eq_true, if_false]
      omega
    | true =>
      obtain ⟨outcome, rfl⟩ := Event.isStepOf_eq_true.mp own
      have polled : Event.polledBy? loop state (.move (.loop loop outcome)) =
          polled? state (.loop loop outcome) := if_pos own
      have waitable : state.phase loop = .waiting → PollRate.isWaitable state.rate = true := by
        intro waiting
        rw [kept, PollRate.isWaitable_atLeastShortest_iff]
        intro long
        exact goes ⟨own, .inr ⟨waiting, unasked, long⟩⟩
      have closer := toPoll_stepLoop outcome unasked waitable alive
      have stepped : react state (.move (.loop loop outcome)) = stepLoop state loop outcome := rfl
      rw [stepped] at bound
      rw [polled, stepped, if_pos rfl]
      omega

/-- How a loop of a monitor that was made with a rate fares after some events. -/
structure Endures (first : Float) (events : List (Event α)) (loop : Nat) : Prop where
  /-- Nothing ends a loop but its finding that it is to stop, or a wait that is too long. -/
  ends : ∀ event, ((course events (ofRate first)).phase loop).isAlive = true →
    (((course (events ++ [event]) (ofRate first)).phase loop).isAlive = false ↔
      event.isStepOf loop = true ∧
        IsEnding (course events (ofRate first)) (lastGiven first events) loop)
  /-- As long as neither comes, it lives and polls at every fourth of its steps at least, whatever
  the outcomes. -/
  goesOn : ∀ more, ((course events (ofRate first)).phase loop).isAlive = true →
    Unhindered loop (lastGiven first events) more (course events (ofRate first)) →
    ((course (events ++ more) (ofRate first)).phase loop).isAlive = true ∧
      more.countP (·.isStepOf loop) ≤
        4 * (pollsBy loop more (course events (ofRate first))).length + 3

/-- For every rate, however it is given, and all outcomes of polls: a loop goes on until it is told to
stop, unless it is to wait for longer than waits can be. -/
theorem endures (first : Float) (events : List (Event α)) (loop : Nat) :
    Endures first events loop := by
  have kept : (course events (ofRate first)).rate =
      PollRate.atLeastShortest (lastGiven first events) := rate_course rfl
  constructor
  case ends =>
    intro event alive
    rw [course_append]
    exact isAlive_react_eq_false kept alive
  case goesOn =>
    intro more alive free
    obtain ⟨lives, bound⟩ := free.goesOn kept alive
    have most := ((course events (ofRate first)).phase loop).toPoll_le
    rw [course_append]
    refine ⟨lives, ?_⟩
    omega

def onePoll : List (Event Nat) :=
  [.move .start, .move (.loop 0 (.ok 1)), .move (.loop 0 (.ok 1)), .move (.loop 0 (.ok 1)),
    .move (.loop 0 (.ok 1))]

def endlessRate : Float := (Config.ofEnvironment [("PROCINV_POLL_RATE", "inf")]).pollRate

/-- An endless rate ends the loop after its first poll. Nobody has asked it to stop. -/
theorem ends_unasked :
    (pollsBy 0 onePoll (ofRate endlessRate)).length = 1 ∧
      (course onePoll (ofRate endlessRate)).queued = [1] ∧
      (course onePoll (ofRate endlessRate)).phase 0 = .ended ∧
      (course onePoll (ofRate endlessRate)).stopAsked = false := by
  decide +kernel

end HostInventory.Monitor
