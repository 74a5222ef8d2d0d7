import Mathlib.Logic.Relation

/-!
# Synchronous code

A synchronous block of a program with a mutable state either returns a value or raises
an exception, and the changes it made to the state before raising stay. Blocks compose
as a monad; `try`/`except` runs its handler in the state the exception left behind.
-/

namespace Cooperative

/-- A block over states `σ` that returns an `α` or raises an `ε`. -/
def Action (ε σ α : Type) : Type := σ → Except ε α × σ

/-- Whether a run returned, and its value and its last state pass a test. -/
def returnedWith {ε σ α : Type} (test : α → σ → Bool) : Except ε α × σ → Bool
  | (.ok value, state) => test value state
  | (.error _, _) => false

theorem returnedWith_iff {ε σ α : Type} {test : α → σ → Bool} {result : Except ε α × σ} :
    returnedWith test result = true ↔
      ∃ value state, result = (.ok value, state) ∧ test value state = true := by
  rcases result with ⟨error | value, state⟩
  · simp [returnedWith]
  · constructor
    · exact fun passed => ⟨value, state, rfl, passed⟩
    · rintro ⟨_, _, ⟨rfl, rfl⟩, passed⟩
      exact passed

namespace Action

variable {ε σ τ α β : Type}

instance : Monad (Action ε σ) where
  pure value := fun state => (.ok value, state)
  bind first rest := fun state =>
    match first state with
    | (.ok value, state) => rest value state
    | (.error error, state) => (.error error, state)

instance : MonadExcept ε (Action ε σ) where
  throw error := fun state => (.error error, state)
  tryCatch body handler := fun state =>
    match body state with
    | (.ok value, state) => (.ok value, state)
    | (.error error, state) => handler error state

/-- Reads a part of the state. -/
def read (view : σ → α) : Action ε σ α := fun state => (.ok (view state), state)

/-- Changes the state. -/
def update (change : σ → σ) : Action ε σ Unit := fun state => (.ok (), change state)

/-- A block over a component of a larger state. -/
def zoom (get : τ → σ) (put : σ → τ → τ) (body : Action ε σ α) : Action ε τ α := fun state =>
  ((body (get state)).1, put (body (get state)).2 state)

@[simp]
theorem pure_apply (value : α) (state : σ) :
    (pure value : Action ε σ α) state = (.ok value, state) := rfl

@[simp]
theorem throw_apply (error : ε) (state : σ) :
    (throw error : Action ε σ α) state = (.error error, state) := rfl

theorem bind_apply (first : Action ε σ α) (rest : α → Action ε σ β) (state : σ) :
    (first >>= rest) state =
      match first state with
      | (.ok value, state) => rest value state
      | (.error error, state) => (.error error, state) := rfl

theorem bind_of_ok {first : Action ε σ α} {rest : α → Action ε σ β} {state state' : σ} {value : α}
    (returned : first state = (.ok value, state')) :
      (first >>= rest) state = rest value state' := by
  rw [bind_apply, returned]

theorem bind_of_error {first : Action ε σ α} {rest : α → Action ε σ β} {state state' : σ}
    {error : ε} (raised : first state = (.error error, state')) :
    (first >>= rest) state = (.error error, state') := by
  rw [bind_apply, raised]

/-- A sequence returns exactly when both parts return, the second from where the first stopped. -/
theorem bind_eq_ok_iff {first : Action ε σ α} {rest : α → Action ε σ β} {state final : σ}
    {result : β} :
    (first >>= rest) state = (.ok result, final) ↔
      ∃ value middle, first state = (.ok value, middle) ∧
        rest value middle = (.ok result, final) := by
  rw [bind_apply]
  rcases first state with ⟨_ | value, middle⟩
  · simp
  · constructor
    · exact fun returned => ⟨value, middle, rfl, returned⟩
    · rintro ⟨_, _, ⟨⟩, returned⟩
      exact returned

theorem tryCatch_apply (body : Action ε σ α) (handler : ε → Action ε σ α) (state : σ) :
    (tryCatch body handler) state =
      match body state with
      | (.ok value, state) => (.ok value, state)
      | (.error error, state) => handler error state := rfl

/-- The invariant survives the block, whether it returns or raises. -/
def Preserves (invariant : σ → Prop) (body : Action ε σ α) : Prop :=
  ∀ state, invariant state → invariant (body state).2

section Preserves

variable {invariant : σ → Prop}

theorem preserves_pure (value : α) : (pure value : Action ε σ α).Preserves invariant :=
  fun _ holds => holds

theorem preserves_throw (error : ε) : (throw error : Action ε σ α).Preserves invariant :=
  fun _ holds => holds

theorem preserves_bind {first : Action ε σ α} {rest : α → Action ε σ β}
    (firstKeeps : first.Preserves invariant)
    (restKeeps : ∀ value, (rest value).Preserves invariant) :
    (first >>= rest).Preserves invariant := by
  intro state holds
  have middle := firstKeeps state holds
  rw [bind_apply]
  revert middle
  rcases first state with ⟨_ | value, state'⟩ <;> intro middle
  · exact middle
  · exact restKeeps value state' middle

theorem preserves_tryCatch {body : Action ε σ α} {handler : ε → Action ε σ α}
    (bodyKeeps : body.Preserves invariant)
    (handlerKeeps : ∀ error, (handler error).Preserves invariant) :
    (tryCatch body handler).Preserves invariant := by
  intro state holds
  have middle := bodyKeeps state holds
  rw [tryCatch_apply]
  revert middle
  rcases body state with ⟨error | _, state'⟩ <;> intro middle
  · exact handlerKeeps error state' middle
  · exact middle

end Preserves

/-- The block leaves a part of the state as it was, whether it returns or raises. -/
def Keeps {κ : Type} (view : σ → κ) (body : Action ε σ α) : Prop :=
  ∀ state, view (body state).2 = view state

section Keeps

variable {κ : Type} {view : σ → κ}

theorem keeps_pure (value : α) : (pure value : Action ε σ α).Keeps view :=
  fun _ => rfl

theorem keeps_throw (error : ε) : (throw error : Action ε σ α).Keeps view :=
  fun _ => rfl

theorem keeps_bind {first : Action ε σ α} {rest : α → Action ε σ β}
    (firstKeeps : first.Keeps view) (restKeeps : ∀ value, (rest value).Keeps view) :
    (first >>= rest).Keeps view := by
  intro state
  have kept := firstKeeps state
  rw [bind_apply]
  revert kept
  rcases first state with ⟨_ | value, middle⟩ <;> intro kept
  · exact kept
  · exact (restKeeps value middle).trans kept

theorem keeps_tryCatch {body : Action ε σ α} {handler : ε → Action ε σ α}
    (bodyKeeps : body.Keeps view) (handlerKeeps : ∀ error, (handler error).Keeps view) :
    (tryCatch body handler).Keeps view := by
  intro state
  have kept := bodyKeeps state
  rw [tryCatch_apply]
  revert kept
  rcases body state with ⟨error | _, middle⟩ <;> intro kept
  · exact (handlerKeeps error middle).trans kept
  · exact kept

end Keeps

/-- What every step of a relation keeps is kept along the relation. -/
theorem holds_of_steps {step : σ → σ → Prop} {invariant : σ → Prop} {state final : σ}
    (keeps : ∀ state state', step state state' → invariant state → invariant state')
    (moved : Relation.ReflTransGen step state final) (holds : invariant state) :
    invariant final := by
  induction moved with
  | refl => exact holds
  | tail _ last ih => exact keeps _ _ last ih

/-- From every state the block moves along the steps of a relation. -/
def Follows (step : σ → σ → Prop) (body : Action ε σ α) : Prop :=
  ∀ state, Relation.ReflTransGen step state (body state).2

section Follows

variable {step : σ → σ → Prop}

theorem follows_pure (value : α) : (pure value : Action ε σ α).Follows step :=
  fun _ => .refl

theorem follows_throw (error : ε) : (throw error : Action ε σ α).Follows step :=
  fun _ => .refl

theorem follows_bind {first : Action ε σ α} {rest : α → Action ε σ β}
    (firstFollows : first.Follows step) (restFollows : ∀ value, (rest value).Follows step) :
    (first >>= rest).Follows step := by
  intro state
  have moved := firstFollows state
  rw [bind_apply]
  revert moved
  rcases first state with ⟨_ | value, state'⟩ <;> intro moved
  · exact moved
  · exact moved.trans (restFollows value state')

theorem follows_tryCatch {body : Action ε σ α} {handler : ε → Action ε σ α}
    (bodyFollows : body.Follows step) (handlerFollows : ∀ error, (handler error).Follows step) :
    (tryCatch body handler).Follows step := by
  intro state
  have moved := bodyFollows state
  rw [tryCatch_apply]
  revert moved
  rcases body state with ⟨error | _, state'⟩ <;> intro moved
  · exact moved.trans (handlerFollows error state')
  · exact moved

end Follows

end Action

end Cooperative
