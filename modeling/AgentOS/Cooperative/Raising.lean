import AgentOS.Cooperative.Coroutine

/-!
# Exceptions

Which exceptions leave a block: every rule bounds the exceptions of a composed block by those
of its parts, whatever the state.
-/

namespace Cooperative

namespace Action

variable {ε σ τ α β : Type} {allowed : ε → Prop}

/-- Every exception that leaves the block is an allowed one. -/
def RaisesOnly (allowed : ε → Prop) (body : Action ε σ α) : Prop :=
  ∀ state error final, body state = (.error error, final) → allowed error

theorem raisesOnly_pure (value : α) : (pure value : Action ε σ α).RaisesOnly allowed := by
  rintro state error final ⟨⟩

theorem raisesOnly_update (change : σ → σ) :
    (update change : Action ε σ Unit).RaisesOnly allowed := by
  rintro state error final ⟨⟩

theorem raisesOnly_read (view : σ → α) : (read view : Action ε σ α).RaisesOnly allowed := by
  rintro state error final ⟨⟩

theorem raisesOnly_throw {error : ε} (permitted : allowed error) :
    (throw error : Action ε σ α).RaisesOnly allowed := by
  rintro state other final ⟨⟩
  exact permitted

theorem raisesOnly_bind {first : Action ε σ α} {rest : α → Action ε σ β}
    (firstRaises : first.RaisesOnly allowed)
    (restRaises : ∀ value, (rest value).RaisesOnly allowed) :
    (first >>= rest).RaisesOnly allowed := by
  intro state error final raised
  rw [bind_apply] at raised
  rcases ended : first state with ⟨other | value, middle⟩ <;> rw [ended] at raised
  · cases raised
    exact firstRaises state _ _ ended
  · exact restRaises value middle error final raised

theorem raisesOnly_tryCatch {body : Action ε σ α} {handler : ε → Action ε σ α}
    (handlerRaises : ∀ error, (handler error).RaisesOnly allowed) :
    (tryCatch body handler).RaisesOnly allowed := by
  intro state error final raised
  rw [tryCatch_apply] at raised
  rcases ended : body state with ⟨other | value, middle⟩ <;> rw [ended] at raised
  · exact handlerRaises other middle error final raised
  · cases raised

theorem raisesOnly_zoom {get : τ → σ} {put : σ → τ → τ} {body : Action ε σ α}
    (raises : body.RaisesOnly allowed) : (body.zoom get put).RaisesOnly allowed := by
  intro state error final raised
  rcases ended : body (get state) with ⟨result, part⟩
  have shape : body.zoom get put state = (result, put part state) := by
    simp only [zoom, ended]
  rw [shape] at raised
  cases raised
  exact raises _ _ _ ended

end Action

namespace Coro

variable {ε σ τ α β : Type} {allowed : ε → Prop}

/-- Every exception that leaves the coroutine is an allowed one. -/
def RaisesOnly (allowed : ε → Prop) : Coro ε σ α → Prop
  | ret _ => True
  | raise error => allowed error
  | act _ next => ∀ state, (next state).RaisesOnly allowed

theorem raisesOnly_pure (value : α) : (pure value : Coro ε σ α).RaisesOnly allowed := trivial

theorem raisesOnly_sync {body : Action ε σ α} (raises : body.RaisesOnly allowed) :
    (sync body).RaisesOnly allowed := by
  intro state
  change (done (body state).1).RaisesOnly allowed
  rcases ended : body state with ⟨error | value, final⟩
  · exact raises state error final ended
  · trivial

theorem raisesOnly_bind {first : Coro ε σ α} {rest : α → Coro ε σ β}
    (firstRaises : first.RaisesOnly allowed)
    (restRaises : ∀ value, (rest value).RaisesOnly allowed) :
    (first >>= rest).RaisesOnly allowed := by
  induction first with
  | ret value => exact restRaises value
  | raise error => exact firstRaises
  | act effect next ih => exact fun state => ih state (firstRaises state)

theorem raisesOnly_tryCatch {body : Coro ε σ α} {handler : ε → Coro ε σ α} {inner : ε → Prop}
    (bodyRaises : body.RaisesOnly inner)
    (handlerRaises : ∀ error, inner error → (handler error).RaisesOnly allowed) :
    (tryCatch body handler).RaisesOnly allowed := by
  induction body with
  | ret value => trivial
  | raise error => exact handlerRaises error bodyRaises
  | act effect next ih => exact fun state => ih state (bodyRaises state)

theorem RaisesOnly.run {body : Coro ε σ α} (raises : body.RaisesOnly allowed) :
    body.run.RaisesOnly allowed := by
  induction body with
  | ret value => exact Action.raisesOnly_pure value
  | raise error => exact Action.raisesOnly_throw raises
  | act effect next ih => exact fun state => ih state (raises state) (effect state)

end Coro

end Cooperative
