import HostInventory.BootTime.Callers

/-!
What holds of callers that ask one oracle, in whatever order they move: who has the lock, what is
known, and how many queries have succeeded fit together. A caller that is left alone is told what
the oracle tells one caller.
-/
namespace HostInventory.Callers

variable {σ : Type} {query : Action σ Int} {state after : State σ} {caller other : Nat}
  {schedule : List Nat}

@[simp] theorem move_phase_self (state : State σ) (caller : Nat) (phase : Phase) :
    (state.move caller phase).phase caller = phase := if_pos rfl

theorem move_phase_of_ne (state : State σ) (phase : Phase) (ne : other ≠ caller) :
    (state.move caller phase).phase other = state.phase other := if_neg ne

theorem forall_move {phase : Phase} (P : Nat → Phase → Prop) (own : P caller phase)
    (others : ∀ other, other ≠ caller → P other (state.phase other)) :
    ∀ other, P other ((state.move caller phase).phase other) := by
  intro other
  by_cases h : other = caller
  · rw [h, move_phase_self]
    exact own
  · rw [move_phase_of_ne state phase h]
    exact others other h

@[simp] theorem move_known (state : State σ) (caller : Nat) (phase : Phase) :
    (state.move caller phase).known = state.known := rfl

@[simp] theorem move_lockedBy (state : State σ) (caller : Nat) (phase : Phase) :
    (state.move caller phase).lockedBy = state.lockedBy := rfl

@[simp] theorem move_world (state : State σ) (caller : Nat) (phase : Phase) :
    (state.move caller phase).world = state.world := rfl

/-- What a move of a caller leaves as it was. -/
structure Frame (caller : Nat) (state after : State σ) : Prop where
  others : ∀ other, other ≠ caller → after.phase other = state.phase other
  lock : after.lockedBy = state.lockedBy ∨ after.lockedBy = none ∨ after.lockedBy = some caller
  answers : state.phase caller ≠ .querying → after.answers = state.answers

theorem frame_next (query : Action σ Int) (state : State σ) (caller : Nat) :
    Frame caller state (next query state caller) := by
  cases h : state.phase caller with
  | asking | holding | returning =>
    simp only [next, h]
    exact ⟨fun _ => move_phase_of_ne _ _, .inl rfl, fun _ => rfl⟩
  | waiting =>
    simp only [next, h]
    cases state.lockedBy with
    | none => exact ⟨fun _ => move_phase_of_ne _ _, .inr (.inr rfl), fun _ => rfl⟩
    | some => exact ⟨fun _ _ => rfl, .inl rfl, fun _ => rfl⟩
  | querying =>
    simp only [next, h]
    rcases query.perform state.world with ⟨failure | bootTime, world⟩
    · exact ⟨fun _ => move_phase_of_ne _ _, .inl rfl, absurd h⟩
    · exact ⟨fun _ => move_phase_of_ne _ _, .inl rfl, absurd h⟩
  | storing =>
    simp only [next, h]
    exact ⟨fun _ => move_phase_of_ne _ _, .inl rfl, fun _ => rfl⟩
  | failing | releasing =>
    simp only [next, h]
    exact ⟨fun _ => move_phase_of_ne _ _, .inr (.inl rfl), fun _ => rfl⟩
  | returned | failed =>
    simp only [next, h]
    exact ⟨fun _ _ => rfl, .inl rfl, fun _ => rfl⟩

/-- The boot times that queries have found, the last one first. -/
def State.successes (state : State σ) : List Int := state.answers.filterMap Except.toOption

/-- What the phase of a caller says about what all callers share. -/
def State.Fits (state : State σ) : Phase → Prop
  | .holding => state.known = none → state.successes = []
  | .querying | .failing _ => state.known = none ∧ state.successes = []
  | .storing bootTime => state.known = none ∧ state.successes = [bootTime]
  | .releasing | .returning => ∃ bootTime, state.known = some bootTime
  | .returned bootTime => bootTime ≠ none ∧ state.known = bootTime
  | .asking | .waiting | .failed _ => True

/-- The invariant of all interleavings. -/
structure Inv (state : State σ) : Prop where
  owner : ∀ caller, state.lockedBy = some caller ↔ (state.phase caller).isLocked
  kept : ∀ bootTime, state.known = some bootTime → state.successes = [bootTime]
  /-- Only a caller that has the lock may have found a boot time that is not yet known. -/
  free : state.lockedBy = none → state.known = none → state.successes = []
  fits : ∀ caller, state.Fits (state.phase caller)

theorem State.Fits.of_unlocked {phase : Phase} (fits : state.Fits phase)
    (unlocked : phase.isLocked = false)
    (kept : state.known = none ∨ after.known = state.known) : after.Fits phase := by
  cases phase with
  | asking | waiting | failed => trivial
  | holding | querying | storing | failing | releasing => cases unlocked
  | returning =>
    obtain ⟨bootTime, known⟩ := fits
    rcases kept with none | same
    · rw [none] at known; cases known
    · exact ⟨bootTime, same.trans known⟩
  | returned bootTime =>
    refine ⟨fits.1, ?_⟩
    rcases kept with none | same
    · exact absurd (fits.2.symm.trans none) fits.1
    · exact same.trans fits.2

namespace Inv

theorem unlocked_of_ne (inv : Inv state) (locked : state.lockedBy = some caller)
    (ne : other ≠ caller) : (state.phase other).isLocked = false := by
  cases h : (state.phase other).isLocked with
  | false => rfl
  | true =>
    have := (inv.owner other).mpr h
    rw [locked] at this
    exact absurd (Option.some.inj this).symm ne

theorem not_over_of_locked (inv : Inv state) (locked : state.lockedBy = some caller) :
    (state.phase caller).isOver = false ∧ state.phase caller ≠ .waiting := by
  have := (inv.owner caller).mp locked
  cases h : state.phase caller <;> simp_all [Phase.isLocked, Phase.isOver]

theorem goOn (inv : Inv state) {phase : Phase}
    (same : phase.isLocked = (state.phase caller).isLocked) (fits : state.Fits phase) :
    Inv (state.move caller phase) where
  owner := forall_move (fun other phase => state.lockedBy = some other ↔ phase.isLocked)
    (by rw [same]; exact inv.owner caller) fun other _ => inv.owner other
  kept := inv.kept
  free := inv.free
  fits := forall_move (fun _ => state.Fits) fits fun other _ => inv.fits other

theorem take (inv : Inv state) (free : state.lockedBy = none) (caller : Nat) :
    Inv ({ state with lockedBy := some caller }.move caller .holding) where
  owner := by
    refine forall_move (fun other phase => some caller = some other ↔ phase.isLocked)
      (iff_of_true rfl rfl) fun other ne => ?_
    rw [← inv.owner other, free]
    exact iff_of_false (fun same => ne (Option.some.inj same).symm) (Option.some_ne_none other).symm
  kept := inv.kept
  free locked := by cases locked
  fits := forall_move (fun _ => state.Fits) (inv.free free) fun other _ => inv.fits other

theorem work (inv : Inv state) {known : Option Int} {answers : List (Except Failure Int)}
    {world : σ} {phase : Phase} (locked : (state.phase caller).isLocked) (keeps : phase.isLocked)
    (grows : state.known = none ∨ known = state.known)
    (kept : ∀ bootTime, known = some bootTime → answers.filterMap Except.toOption = [bootTime])
    (fits : { state with known, answers, world }.Fits phase) :
    Inv ({ state with known, answers, world }.move caller phase) where
  owner := forall_move (fun other phase => state.lockedBy = some other ↔ phase.isLocked)
    (iff_of_true ((inv.owner caller).mpr locked) keeps) fun other _ => inv.owner other
  kept := kept
  free none := by
    rw [move_lockedBy, (inv.owner caller).mpr locked] at none
    cases none
  fits := by
    refine forall_move (fun _ => { state with known, answers, world }.Fits) fits fun other ne => ?_
    have unlocked := inv.unlocked_of_ne ((inv.owner caller).mpr locked) ne
    exact (inv.fits other).of_unlocked unlocked grows

theorem release (inv : Inv state) {phase : Phase} (locked : (state.phase caller).isLocked)
    (leaves : phase.isLocked = false) (empty : state.known = none → state.successes = [])
    (fits : state.Fits phase) : Inv ({ state with lockedBy := none }.move caller phase) where
  owner := by
    refine forall_move (fun other phase => none = some other ↔ phase.isLocked)
      (iff_of_false (Option.some_ne_none caller).symm (by rw [leaves]; decide)) fun other ne => ?_
    rw [inv.unlocked_of_ne ((inv.owner caller).mpr locked) ne]
    exact iff_of_false (Option.some_ne_none other).symm (by decide)
  kept := inv.kept
  free _ := empty
  fits := forall_move (fun _ => state.Fits) fits fun other _ => inv.fits other

theorem change (inv : Inv state) (world : σ) : Inv { state with world } :=
  ⟨inv.owner, inv.kept, inv.free, inv.fits⟩

end Inv

theorem inv_start (world : σ) : Inv (start world) where
  owner _ := iff_of_false nofun nofun
  kept _ := nofun
  free _ _ := rfl
  fits _ := trivial

theorem inv_next (query : Action σ Int) (inv : Inv state) (caller : Nat) :
    Inv (next query state caller) := by
  have fits := inv.fits caller
  cases h : state.phase caller with
  | asking =>
    simp only [next, h]
    cases known : state.known with
    | none => exact inv.goOn (by rw [h]; rfl) trivial
    | some bootTime => exact inv.goOn (by rw [h]; rfl) ⟨bootTime, known⟩
  | waiting =>
    simp only [next, h]
    cases lock : state.lockedBy with
    | none => exact inv.take lock caller
    | some => exact inv
  | holding =>
    simp only [next, h]
    rw [h] at fits
    cases known : state.known with
    | none => exact inv.goOn (by rw [h]; rfl) ⟨known, fits known⟩
    | some bootTime => exact inv.goOn (by rw [h]; rfl) ⟨bootTime, known⟩
  | querying =>
    simp only [next, h]
    rw [h] at fits
    obtain ⟨none, empty⟩ := fits
    have unknown (bootTime : Int) : state.known ≠ some bootTime := by
      rw [none]
      exact (Option.some_ne_none bootTime).symm
    rcases query.perform state.world with ⟨failure | bootTime, world⟩
    · exact inv.work (by rw [h]; rfl) rfl (.inr rfl) (fun _ known => absurd known (unknown _))
        ⟨none, empty⟩
    · exact inv.work (by rw [h]; rfl) rfl (.inr rfl) (fun _ known => absurd known (unknown _))
        ⟨none, congrArg (bootTime :: ·) empty⟩
  | storing bootTime =>
    simp only [next, h]
    rw [h] at fits
    exact inv.work (by rw [h]; rfl) rfl (.inl fits.1) (by rintro _ ⟨⟩; exact fits.2) ⟨bootTime, rfl⟩
  | failing failure =>
    simp only [next, h]
    rw [h] at fits
    exact inv.release (by rw [h]; rfl) rfl (fun _ => fits.2) trivial
  | releasing =>
    simp only [next, h]
    rw [h] at fits
    have found := Option.ne_none_iff_exists'.mpr fits
    exact inv.release (by rw [h]; rfl) rfl (fun unknown => absurd unknown found) fits
  | returning =>
    simp only [next, h]
    rw [h] at fits
    exact inv.goOn (by rw [h]; rfl) ⟨Option.ne_none_iff_exists'.mpr fits, rfl⟩
  | returned | failed => simpa only [next, h] using inv

theorem Reachable.inv (reachable : Reachable query state) : Inv state := by
  induction reachable with
  | start world => exact inv_start world
  | step _ step ih =>
    cases step with
    | move caller => exact inv_next query ih caller
    | change world => exact ih.change world

/-- The callers of a schedule move one after another, and in between the world changes at will. -/
inductive Leads (query : Action σ Int) : List Nat → State σ → State σ → Prop
  | nil (state : State σ) : Leads query [] state state
  | move {schedule : List Nat} {state after : State σ} (caller : Nat) :
      Leads query schedule (next query state caller) after →
      Leads query (caller :: schedule) state after
  | change {schedule : List Nat} {state after : State σ} (world : σ) :
      Leads query schedule { state with world } after → Leads query schedule state after

theorem leads_run (query : Action σ Int) (schedule : List Nat) (state : State σ) :
    Leads query schedule state (run query schedule state) := by
  induction schedule generalizing state with
  | nil => exact .nil state
  | cons caller rest ih => exact .move caller (ih _)

namespace Leads

theorem reachable (leads : Leads query schedule state after) (reachable : Reachable query state) :
    Reachable query after := by
  induction leads with
  | nil => exact reachable
  | move caller _ ih => exact ih (reachable.step (.move _ caller))
  | change world _ ih => exact ih (reachable.step (.change _ world))

theorem inv (leads : Leads query schedule state after) (inv : Inv state) : Inv after := by
  induction leads with
  | nil => exact inv
  | move caller _ ih => exact ih (inv_next query inv caller)
  | change world _ ih => exact ih (inv.change world)

theorem split {first second : List Nat} (leads : Leads query (first ++ second) state after) :
    ∃ between, Leads query first state between ∧ Leads query second between after := by
  generalize whole : first ++ second = schedule at leads
  induction leads generalizing first with
  | nil state =>
    obtain ⟨rfl, rfl⟩ := List.append_eq_nil_iff.mp whole
    exact ⟨state, .nil state, .nil state⟩
  | @move rest state after caller leads ih =>
    cases first with
    | nil =>
      obtain rfl : second = caller :: rest := whole
      exact ⟨state, .nil state, .move caller leads⟩
    | cons head first =>
      obtain ⟨rfl, rfl⟩ := List.cons_eq_cons.mp whole
      obtain ⟨between, left, right⟩ := ih rfl
      exact ⟨between, .move _ left, right⟩
  | change world _ ih =>
    obtain ⟨between, left, right⟩ := ih whole
    exact ⟨between, .change world left, right⟩

theorem phase_of_not_mem (leads : Leads query schedule state after) (absent : caller ∉ schedule) :
    after.phase caller = state.phase caller := by
  induction leads with
  | nil => rfl
  | move first _ ih =>
    rw [List.mem_cons, not_or] at absent
    rw [ih absent.2, (frame_next query _ first).others _ absent.1]
  | change _ _ ih => exact ih absent

end Leads

/-- A caller that asks while nobody has the lock, and is left alone, is told what one who asks the
oracle by itself is told, and leaves as much known. -/
theorem run_alone (query : Action σ Int) (asks : state.phase caller = .asking)
    (free : state.lockedBy = none) :
    (run query (List.replicate 7 caller) state).outcome caller =
        some ((query.once.perform (state.known, state.world)).1.map some) ∧
      ((run query (List.replicate 7 caller) state).known,
          (run query (List.replicate 7 caller) state).world) =
        (query.once.perform (state.known, state.world)).2 := by
  cases known : state.known with
  | some bootTime =>
    simp [run, List.replicate, next, asks, known, State.outcome, Except.map]
  | none =>
    rw [Action.perform_once_none]
    rcases h : query.perform state.world with ⟨failure | bootTime, world⟩
    · simp [run, List.replicate, next, asks, known, free, h, State.outcome, Except.map,
        Except.toOption]
    · simp [run, List.replicate, next, asks, known, free, h, State.outcome, Except.map,
        Except.toOption]

end HostInventory.Callers
