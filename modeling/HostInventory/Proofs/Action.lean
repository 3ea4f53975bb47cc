import HostInventory.Action
import HostInventory.Journal
import HostInventory.Statistics.Chain

/-!
What an action keeps of the world, whether it succeeds or fails, and actions in two worlds that fit
together. A property that every part of an action keeps is kept by the whole, and what is built from
parts that are alike is alike.
-/
namespace HostInventory.Action

variable {σ τ α β : Type} {P : σ → Prop} {a : Action σ α} {next : α → Action σ β}

theorem isOk_iff {outcome : Except Failure α} :
    outcome.isOk = true ↔ ∃ value, outcome = .ok value := by
  cases outcome with
  | ok value => exact ⟨fun _ => ⟨value, rfl⟩, fun _ => rfl⟩
  | error failure => exact ⟨nofun, nofun⟩

theorem outcome_bind_eq_ok {outcome : Except Failure α} {next : α → Except Failure β} {value : β} :
    outcome >>= next = .ok value ↔ ∃ first, outcome = .ok first ∧ next first = .ok value := by
  cases outcome with
  | ok first => exact ⟨fun later => ⟨first, rfl, later⟩, fun ⟨_, same, later⟩ => by cases same; exact later⟩
  | error failure => exact ⟨nofun, nofun⟩

theorem mapM_cons_eq_ok {f : α → Except Failure β} {x : α} {rest : List α} {values : List β} :
    (x :: rest).mapM f = .ok values ↔
      ∃ first others, f x = .ok first ∧ rest.mapM f = .ok others ∧ values = first :: others := by
  simp only [List.mapM_cons, outcome_bind_eq_ok, pure, Except.pure, Except.ok.injEq]
  constructor
  · rintro ⟨first, made, others, later, rfl⟩
    exact ⟨first, others, made, later, rfl⟩
  · rintro ⟨first, others, made, later, rfl⟩
    exact ⟨first, made, others, later, rfl⟩

/-- If `P` holds of the world before the action it holds after it, whatever the outcome. -/
def Keeps (P : σ → Prop) (a : Action σ α) : Prop := ∀ world, P world → P (a.perform world).2

theorem keeps_pure (value : α) : Keeps P (pure value : Action σ α) := fun _ holds => holds

theorem keeps_ofExcept (outcome : Except Failure α) : Keeps P (ofExcept outcome : Action σ α) :=
  fun _ holds => holds

theorem keeps_get : Keeps P (get : Action σ σ) := fun _ holds => holds

theorem keeps_modify {f : σ → σ} (keeps : ∀ world, P world → P (f world)) :
    Keeps P (modify f : Action σ Unit) := keeps

theorem Keeps.bind (first : Keeps P a) (later : ∀ value, Keeps P (next value)) :
    Keeps P (a >>= next) := by
  intro world holds
  have between := first world holds
  rw [perform_bind]
  rcases performed : perform a world with ⟨outcome, middle⟩
  rw [performed] at between
  cases outcome with
  | ok value => exact later value middle between
  | error failure => exact between

/-- What follows may use what holds when it begins, where that says more than `P`. -/
theorem keeps_get_bind {next : σ → Action σ β}
    (later : ∀ world, P world → P ((next world).perform world).2) : Keeps P (get >>= next) := by
  intro world holds
  rw [perform_bind, perform_get]
  exact later world holds

theorem keeps_forM {f : β → Action σ Unit} {xs : List β} (each : ∀ x, Keeps P (f x)) :
    Keeps P (xs.forM f) := by
  induction xs with
  | nil => exact keeps_pure ()
  | cons x rest ih => exact (each x).bind fun _ => ih

theorem Keeps.left {world left : σ} {outcome : Except Failure α} (keeps : Keeps P a)
    (holds : P world) (performed : a.perform world = (outcome, left)) : P left := by
  have after := keeps world holds
  rwa [performed] at after

theorem perform_map_eq_ok {f : α → β} {world left : σ} {result : β} :
    perform (a >>= fun value => pure (f value)) world = (.ok result, left) ↔
      ∃ value, perform a world = (.ok value, left) ∧ f value = result := by
  rw [perform_bind_eq_ok]
  constructor
  · rintro ⟨value, between, performed, made⟩
    cases made
    exact ⟨value, performed, rfl⟩
  · rintro ⟨value, performed, rfl⟩
    exact ⟨value, left, performed, rfl⟩

theorem perform_once (a : Action σ α) (known : Option α) (world : σ) :
    perform (once a) (known, world) =
      ((perform (known.elim a pure) world).1,
        known.or (perform (known.elim a pure) world).1.toOption,
        (perform (known.elim a pure) world).2) := by
  cases known with
  | none => exact perform_once_none a world
  | some value => rfl

theorem ext_perform {b : Action σ α} (same : ∀ world, a.perform world = b.perform world) : a = b :=
  funext same

theorem beside_pure (value : α) :
    (beside (pure value : Action σ α) : Action (τ × σ) α) = pure value := rfl

theorem beside_bind (a : Action σ α) (next : α → Action σ β) :
    (beside (a >>= next) : Action (τ × σ) β) = beside a >>= fun value => beside (next value) := by
  refine ext_perform fun (own, world) => ?_
  rw [perform_beside, perform_bind, perform_bind, perform_beside]
  generalize perform a world = ended
  obtain ⟨outcome, left⟩ := ended
  cases outcome with
  | ok value => rfl
  | error failure => rfl

end HostInventory.Action

namespace HostInventory

variable {σ ω η θ α β : Type} {R : σ → ω → Prop}

namespace Action

/-- Performed in worlds that `R` relates, the actions have one outcome and leave worlds that `R`
relates. -/
def Alike (R : σ → ω → Prop) (a : Action σ α) (b : Action ω α) : Prop :=
  ∀ world other, R world other →
    (a.perform world).1 = (b.perform other).1 ∧ R (a.perform world).2 (b.perform other).2

theorem alike_pure (value : α) : Alike R (pure value) (pure value) :=
  fun _ _ related => ⟨rfl, related⟩

theorem alike_ofExcept (outcome : Except Failure α) :
    Alike R (ofExcept outcome) (ofExcept outcome) :=
  fun _ _ related => ⟨rfl, related⟩

theorem Alike.bind {a : Action σ α} {b : Action ω α} {next : α → Action σ β}
    {others : α → Action ω β} (first : Alike R a b)
    (later : ∀ value, Alike R (next value) (others value)) :
    Alike R (a >>= next) (b >>= others) := by
  intro world other related
  obtain ⟨same, between⟩ := first world other related
  rw [perform_bind, perform_bind]
  generalize perform a world = ended, perform b other = twin at same between ⊢
  obtain ⟨outcome, left⟩ := ended
  obtain ⟨twinOutcome, twinLeft⟩ := twin
  cases same
  cases outcome with
  | ok value => exact later value left twinLeft between
  | error failure => exact ⟨rfl, between⟩

theorem Alike.map {a : Action σ α} {b : Action ω α} (alike : Alike R a b) (f : α → β) :
    Alike R (a >>= fun value => pure (f value)) (b >>= fun value => pure (f value)) :=
  alike.bind fun value => alike_pure (f value)

theorem alike_forM {f : β → Action σ Unit} {g : β → Action ω Unit} {xs : List β}
    (each : ∀ x, Alike R (f x) (g x)) : Alike R (xs.forM f) (xs.forM g) := by
  induction xs with
  | nil => exact alike_pure ()
  | cons x rest ih => exact (each x).bind fun _ => ih

theorem Alike.recover {a : Action σ α} {b : Action ω α} {accepts : Failure → Bool}
    {handle : Failure → Action σ α} {others : Failure → Action ω α} (first : Alike R a b)
    (later : ∀ failure, Alike R (handle failure) (others failure)) :
    Alike R (a.recover accepts handle) (b.recover accepts others) := by
  intro world other related
  obtain ⟨same, between⟩ := first world other related
  rw [perform_recover, perform_recover]
  generalize perform a world = ended, perform b other = twin at same between ⊢
  obtain ⟨outcome, left⟩ := ended
  obtain ⟨twinOutcome, twinLeft⟩ := twin
  cases same
  cases outcome with
  | ok value => exact ⟨rfl, between⟩
  | error failure =>
    by_cases accepted : accepts failure
    · simp only [accepted, if_true]
      exact later failure left twinLeft between
    · simpa only [accepted, Bool.false_eq_true, if_false, true_and] using between

end Action

/-- An event that both worlds note leaves worlds that fit together. -/
def Journal.Alike [Journal σ] [Journal ω] (R : σ → ω → Prop) : Prop :=
  ∀ (event : Journal.Event) world other, R world other →
    R (Journal.note event world) (Journal.note event other)

theorem Journal.Alike.log [Journal σ] [Journal ω] (journals : Journal.Alike R)
    (event : Journal.Event) : Action.Alike R (Action.log event) (Action.log event) :=
  fun world other related => ⟨rfl, journals event world other related⟩

namespace ChainAccess

inductive BothOpen (R : σ → ω → Prop) (S : η × σ → θ × ω → Prop) :
    Except Failure η × σ → Except Failure θ × ω → Prop
  | opened {chain : η} {world : σ} {twin : θ} {other : ω} : S (chain, world) (twin, other) →
      BothOpen R S (.ok chain, world) (.ok twin, other)
  | refused {failure : Failure} {world : σ} {other : ω} : R world other →
      BothOpen R S (.error failure, world) (.error failure, other)

/-- Chains that behave the same in worlds that fit together; `S` says how open chains, with their
worlds, fit together. -/
structure Alike (R : σ → ω → Prop) (S : η × σ → θ × ω → Prop) (chains : ChainAccess σ η)
    (twins : ChainAccess ω θ) : Prop where
  connect : ∀ world other, R world other →
    BothOpen R S (chains.connect.perform world) (twins.connect.perform other)
  lookup : ∀ key, Action.Alike S (chains.lookup key) (twins.lookup key)
  read : ∀ statistic, Action.Alike S (chains.read statistic) (twins.read statistic)
  value : ∀ statistic name,
    Action.Alike S (chains.value statistic name) (twins.value statistic name)
  close : ∀ used other, S used other →
    (chains.close.perform used).1 = (twins.close.perform other).1 ∧
      R (chains.close.perform used).2.2 (twins.close.perform other).2.2

theorem Alike.withOpen {S : η × σ → θ × ω → Prop} {chains : ChainAccess σ η}
    {twins : ChainAccess ω θ} {body : Action (η × σ) α} {twin : Action (θ × ω) α}
    (alike : Alike R S chains twins) (bodies : Action.Alike S body twin) :
    Action.Alike R (chains.withOpen body) (twins.withOpen twin) := by
  intro world other related
  rw [perform_withOpen, perform_withOpen]
  have opening := alike.connect world other related
  generalize chains.connect.perform world = first, twins.connect.perform other = second at opening ⊢
  cases opening with
  | opened open_ =>
    obtain ⟨sameOutcome, used⟩ := bodies _ _ open_
    obtain ⟨sameClosing, closed⟩ := alike.close _ _ used
    refine ⟨?_, closed⟩
    simp only [sameOutcome, sameClosing]
  | refused left => exact ⟨rfl, left⟩

end ChainAccess

end HostInventory
