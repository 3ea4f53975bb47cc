import HostInventory.Failure

/-!
Computations that read and change an outside world and may fail. What a computation changed before
it failed stays changed.
-/
namespace HostInventory

/-- A computation over the outside world `σ`. -/
abbrev Action (σ : Type) := ExceptT Failure (StateM σ)

namespace Action

variable {σ τ α β : Type}

/-- Runs an action: its outcome, and the world afterwards. -/
def perform (a : Action σ α) (world : σ) : Except Failure α × σ := StateT.run (ExceptT.run a) world

def ofExcept (outcome : Except Failure α) : Action σ α := ExceptT.mk (pure outcome)

/-- An action beside which a state of its own is kept, untouched. -/
def beside (a : Action σ α) : Action (τ × σ) α :=
  ExceptT.mk fun (own, world) =>
    let (outcome, world) := a.perform world
    (outcome, own, world)

/-- Goes on with `handle` after a failure that `accepts` names; other failures leave. -/
def recover (a : Action σ α) (accepts : Failure → Bool) (handle : Failure → Action σ α) :
    Action σ α :=
  ExceptT.mk fun world =>
    match a.perform world with
    | (.ok value, world) => (.ok value, world)
    | (.error failure, world) =>
      if accepts failure then (handle failure).perform world else (.error failure, world)

/-- The value that was found earlier, or else the one that the action finds now, which is kept
beside the world. A failure leaves nothing to keep. -/
def once (a : Action σ α) : Action (Option α × σ) α :=
  ExceptT.mk fun (known, world) =>
    match known with
    | some value => (.ok value, some value, world)
    | none =>
      match a.perform world with
      | (.ok value, world) => (.ok value, some value, world)
      | (.error failure, world) => (.error failure, none, world)

@[simp] theorem perform_pure (value : α) (world : σ) :
    perform (pure value) world = (.ok value, world) := rfl

@[simp] theorem perform_throw (failure : Failure) (world : σ) :
    perform (throw failure : Action σ α) world = (.error failure, world) := rfl

@[simp] theorem perform_ofExcept (outcome : Except Failure α) (world : σ) :
    perform (ofExcept outcome) world = (outcome, world) := rfl

@[simp] theorem perform_get (world : σ) : perform (get : Action σ σ) world = (.ok world, world) := rfl

@[simp] theorem perform_modify (f : σ → σ) (world : σ) :
    perform (modify f : Action σ Unit) world = (.ok (), f world) := rfl

theorem perform_bind (a : Action σ α) (next : α → Action σ β) (world : σ) :
    perform (a >>= next) world =
      match perform a world with
      | (.ok value, world) => perform (next value) world
      | (.error failure, world) => (.error failure, world) := by
  simp only [perform, ExceptT.run_bind, StateT.run_bind]
  rcases StateT.run (ExceptT.run a) world with ⟨outcome, world⟩
  cases outcome <;> rfl

/-- Two actions succeed together when the first does, and then the second from where it left. -/
theorem perform_bind_eq_ok {a : Action σ α} {next : α → Action σ β} {world after : σ} {value : β} :
    perform (a >>= next) world = (.ok value, after) ↔
      ∃ first between, perform a world = (.ok first, between) ∧
        perform (next first) between = (.ok value, after) := by
  rw [perform_bind]
  rcases perform a world with ⟨outcome, between⟩
  cases outcome with
  | ok first => exact ⟨fun h => ⟨first, between, rfl, h⟩, by rintro ⟨_, _, ⟨⟩, h⟩; exact h⟩
  | error failure => exact ⟨fun h => (by cases h), fun ⟨_, _, h, _⟩ => by cases h⟩

theorem perform_then_eq_ok {a : Action σ Unit} {next : Unit → Action σ β} {world after : σ}
    {value : β} :
    perform (a >>= next) world = (.ok value, after) ↔
      ∃ between, perform a world = (.ok (), between) ∧
        perform (next ()) between = (.ok value, after) := by
  rw [perform_bind_eq_ok]
  exact ⟨fun ⟨_, between, h⟩ => ⟨between, h⟩, fun ⟨between, h⟩ => ⟨(), between, h⟩⟩

@[simp] theorem perform_forM_nil (f : β → Action σ Unit) (world : σ) :
    perform ([].forM f) world = (.ok (), world) := rfl

theorem perform_forM_cons {f : β → Action σ Unit} {x : β} {rest : List β} {world after : σ} :
    perform ((x :: rest).forM f) world = (.ok (), after) ↔
      ∃ between, perform (f x) world = (.ok (), between) ∧
        perform (rest.forM f) between = (.ok (), after) := perform_then_eq_ok

theorem perform_discard (a : Action σ α) (world : σ) :
    perform (discard a) world = ((perform a world).1.map fun _ => (), (perform a world).2) := by
  have forgets : discard a = a >>= fun _ => pure () := rfl
  rw [forgets, perform_bind]
  rcases perform a world with ⟨outcome, after⟩
  cases outcome with
  | ok value => rfl
  | error failure => rfl

theorem perform_recover (a : Action σ α) (accepts : Failure → Bool) (handle : Failure → Action σ α)
    (world : σ) :
    perform (recover a accepts handle) world =
      match perform a world with
      | (.ok value, world) => (.ok value, world)
      | (.error failure, world) =>
        if accepts failure then perform (handle failure) world else (.error failure, world) := rfl

@[simp] theorem perform_beside (a : Action σ α) (own : τ) (world : σ) :
    perform (beside a : Action (τ × σ) α) (own, world) =
      ((perform a world).1, own, (perform a world).2) := rfl

@[simp] theorem perform_once_some (a : Action σ α) (value : α) (world : σ) :
    perform (once a) (some value, world) = (.ok value, some value, world) := rfl

theorem perform_once_none (a : Action σ α) (world : σ) :
    perform (once a) (none, world) =
      ((perform a world).1, (perform a world).1.toOption, (perform a world).2) := by
  have run : perform (once a) (none, world) =
      match perform a world with
      | (.ok value, world) => (.ok value, some value, world)
      | (.error failure, world) => (.error failure, none, world) := rfl
  rw [run]
  rcases perform a world with ⟨outcome, after⟩
  cases outcome with
  | ok value => rfl
  | error failure => rfl

end Action

end HostInventory
