import AgentOS.Cooperative.Action

/-!
# Coroutines

An asynchronous function runs until it awaits, lets other tasks run, and goes on later.
A `Coro` is the finite tree of its atomic steps: each step changes the state at once and
the continuation depends on the state the step found. `run` is the meaning of a coroutine
that nobody interrupts; the interleaved meaning is in `AgentOS.Cooperative.Pool`.

`Follows` is the rule for runs that others may interrupt: every atomic step moves along a
relation, in every environment that moves along it too.
-/

namespace Cooperative

/-- A coroutine over states `σ` that ends by returning an `α` or raising an `ε`. -/
inductive Coro (ε σ α : Type) where
  | ret (value : α)
  | raise (error : ε)
  /-- One atomic step; the continuation is chosen by the state before the step. -/
  | act (effect : σ → σ) (next : σ → Coro ε σ α)

namespace Coro

variable {ε σ τ α β γ : Type}

/-- Sequential composition. -/
def bind (rest : α → Coro ε σ β) : Coro ε σ α → Coro ε σ β
  | ret value => rest value
  | raise error => raise error
  | act effect next => act effect fun state => (next state).bind rest

/-- `try`/`except`. -/
def handle (handler : ε → Coro ε σ α) : Coro ε σ α → Coro ε σ α
  | ret value => ret value
  | raise error => handler error
  | act effect next => act effect fun state => (next state).handle handler

instance : Monad (Coro ε σ) where
  pure := ret
  bind first rest := first.bind rest

instance : MonadExcept ε (Coro ε σ) where
  throw := raise
  tryCatch body handler := body.handle handler

/-- How a synchronous block ends. -/
def done : Except ε α → Coro ε σ α
  | .ok value => ret value
  | .error error => raise error

/-- A synchronous block is one atomic step. -/
def sync (body : Action ε σ α) : Coro ε σ α :=
  act (fun state => (body state).2) fun state => done (body state).1

/-- A coroutine over a component of a larger state. -/
def zoom (get : τ → σ) (put : σ → τ → τ) : Coro ε σ α → Coro ε τ α
  | ret value => ret value
  | raise error => raise error
  | act effect next =>
      act (fun state => put (effect (get state)) state) fun state =>
        (next (get state)).zoom get put

/-- The uninterrupted run. -/
def run : Coro ε σ α → Action ε σ α
  | ret value => fun state => (.ok value, state)
  | raise error => fun state => (.error error, state)
  | act effect next => fun state => (next state).run (effect state)

theorem done_ok_bind (value : α) (rest : α → Coro ε σ β) : done (.ok value) >>= rest = rest value :=
  rfl

theorem bind_assoc (first : Coro ε σ α) (second : α → Coro ε σ β) (third : β → Coro ε σ γ) :
    first >>= second >>= third = first >>= fun value => second value >>= third := by
  induction first with
  | ret value => rfl
  | raise error => rfl
  | act effect next ih => exact congrArg (act effect) (funext ih)

theorem zoom_bind (get : τ → σ) (put : σ → τ → τ) (first : Coro ε σ α) (rest : α → Coro ε σ β) :
    (first >>= rest).zoom get put =
      first.zoom get put >>= fun value => (rest value).zoom get put := by
  induction first with
  | ret value => rfl
  | raise error => rfl
  | act effect next ih => exact congrArg (act _) (funext fun state => ih (get state))

@[simp]
theorem run_pure (value : α) (state : σ) :
    (pure value : Coro ε σ α).run state = (.ok value, state) := rfl

@[simp]
theorem run_throw (error : ε) (state : σ) :
    (throw error : Coro ε σ α).run state = (.error error, state) := rfl

@[simp]
theorem run_done (result : Except ε α) (state : σ) :
    (done result : Coro ε σ α).run state = (result, state) := by
  cases result <;> rfl

@[simp]
theorem run_sync (body : Action ε σ α) (state : σ) : (sync body).run state = body state := by
  simp [sync, run]

theorem run_bind (first : Coro ε σ α) (rest : α → Coro ε σ β) (state : σ) :
    (first >>= rest).run state =
      match first.run state with
      | (.ok value, state) => (rest value).run state
      | (.error error, state) => (.error error, state) := by
  induction first generalizing state with
  | ret value => rfl
  | raise error => rfl
  | act effect next ih => exact ih state (effect state)

/-- What follows only converts the value. -/
theorem run_map (convert : α → β) (body : Coro ε σ α) (state : σ) :
    (body >>= fun value => pure (convert value)).run state =
      ((body.run state).1.map convert, (body.run state).2) := by
  rw [run_bind]
  rcases body.run state with ⟨error | value, final⟩ <;> rfl

theorem run_bind_of_ok {first : Coro ε σ α} {rest : α → Coro ε σ β} {state state' : σ}
    {value : α} (returned : first.run state = (.ok value, state')) :
    (first >>= rest).run state = (rest value).run state' := by
  rw [run_bind, returned]

theorem run_bind_of_error {first : Coro ε σ α} {rest : α → Coro ε σ β} {state state' : σ}
    {error : ε} (raised : first.run state = (.error error, state')) :
    (first >>= rest).run state = (.error error, state') := by
  rw [run_bind, raised]

/-- A sequence returns exactly when both parts return, the second from where the first stopped. -/
theorem run_bind_eq_ok_iff {first : Coro ε σ α} {rest : α → Coro ε σ β} {state final : σ}
    {result : β} :
    (first >>= rest).run state = (.ok result, final) ↔
      ∃ value middle, first.run state = (.ok value, middle) ∧
        (rest value).run middle = (.ok result, final) := by
  rw [run_bind]
  rcases first.run state with ⟨_ | value, middle⟩
  · simp
  · constructor
    · exact fun returned => ⟨value, middle, rfl, returned⟩
    · rintro ⟨_, _, ⟨⟩, returned⟩
      exact returned

theorem run_tryCatch (body : Coro ε σ α) (handler : ε → Coro ε σ α) (state : σ) :
    (tryCatch body handler).run state =
      match body.run state with
      | (.ok value, state) => (.ok value, state)
      | (.error error, state) => (handler error).run state := by
  induction body generalizing state with
  | ret value => rfl
  | raise error => rfl
  | act effect next ih => exact ih state (effect state)

theorem run_zoom {get : τ → σ} {put : σ → τ → τ}
    (getPut : ∀ part whole, get (put part whole) = part)
    (putPut : ∀ part part' whole, put part (put part' whole) = put part whole)
    (putGet : ∀ whole, put (get whole) whole = whole) (body : Coro ε σ α) (state : τ) :
    (body.zoom get put).run state =
      ((body.run (get state)).1, put (body.run (get state)).2 state) := by
  induction body generalizing state with
  | ret value => simp [zoom, run, putGet]
  | raise error => simp [zoom, run, putGet]
  | act effect next ih => simp [zoom, run, ih, getPut, putPut]

/-! ### Steps of a relation -/

/--
Every atomic step moves along the steps of a relation, in every environment that does so
too: between two steps of the coroutine the state has moved along the relation as well.
-/
def FollowsFrom (step : σ → σ → Prop) (origin : σ) : Coro ε σ α → Prop
  | ret _ => True
  | raise _ => True
  | act effect next =>
      ∀ state, Relation.ReflTransGen step origin state →
        Relation.ReflTransGen step state (effect state) ∧
          (next state).FollowsFrom step (effect state)

/-- The coroutine follows the relation from every state. -/
def Follows (step : σ → σ → Prop) (body : Coro ε σ α) : Prop :=
  ∀ origin, body.FollowsFrom step origin

section Follows

variable {step : σ → σ → Prop}

theorem followsFrom_done (result : Except ε α) (origin : σ) :
    (done result : Coro ε σ α).FollowsFrom step origin := by
  cases result <;> trivial

theorem followsFrom_bind {first : Coro ε σ α} {rest : α → Coro ε σ β} {origin : σ}
    (firstFollows : first.FollowsFrom step origin)
    (restFollows : ∀ value state, Relation.ReflTransGen step origin state →
      (rest value).FollowsFrom step state) :
    (first >>= rest).FollowsFrom step origin := by
  induction first generalizing origin with
  | ret value => exact restFollows value origin .refl
  | raise error => trivial
  | act effect next ih =>
      intro state moved
      have step := firstFollows state moved
      refine ⟨step.1, ih state step.2 ?_⟩
      intro value later movedOn
      exact restFollows value later ((moved.trans step.1).trans movedOn)

/-- After a synchronous block the rest may use what the block established. -/
theorem followsFrom_sync_bind {body : Action ε σ α} {rest : α → Coro ε σ β} {origin : σ}
    (follows : body.Follows step)
    (restFollows : ∀ value state final, body state = (.ok value, final) →
      (rest value).FollowsFrom step final) :
    (sync body >>= rest).FollowsFrom step origin := by
  intro state _
  refine ⟨follows state, ?_⟩
  change ((done (body state).1).bind rest).FollowsFrom step (body state).2
  rcases ended : body state with ⟨_ | value, final⟩
  · trivial
  · exact restFollows value state final ended

theorem followsFrom_tryCatch {body : Coro ε σ α} {handler : ε → Coro ε σ α} {origin : σ}
    (bodyFollows : body.FollowsFrom step origin)
    (handlerFollows : ∀ error, (handler error).Follows step) :
    (tryCatch body handler).FollowsFrom step origin := by
  induction body generalizing origin with
  | ret value => trivial
  | raise error => exact handlerFollows error origin
  | act effect next ih =>
      intro state moved
      exact ⟨(bodyFollows state moved).1, ih state (bodyFollows state moved).2⟩

theorem follows_pure (value : α) : (pure value : Coro ε σ α).Follows step := fun _ => trivial

theorem follows_throw (error : ε) : (throw error : Coro ε σ α).Follows step := fun _ => trivial

theorem follows_sync {body : Action ε σ α} (follows : body.Follows step) :
    (sync body).Follows step := by
  intro origin state _
  exact ⟨follows state, followsFrom_done _ _⟩

theorem follows_bind {first : Coro ε σ α} {rest : α → Coro ε σ β}
    (firstFollows : first.Follows step) (restFollows : ∀ value, (rest value).Follows step) :
    (first >>= rest).Follows step := by
  intro origin
  apply followsFrom_bind (firstFollows origin)
  intro value state _
  exact restFollows value state

theorem follows_tryCatch {body : Coro ε σ α} {handler : ε → Coro ε σ α}
    (bodyFollows : body.Follows step) (handlerFollows : ∀ error, (handler error).Follows step) :
    (tryCatch body handler).Follows step :=
  fun origin => followsFrom_tryCatch (bodyFollows origin) handlerFollows

/--
A coroutine over a component follows a relation on the whole, when the component moves along
its own steps whatever happens to the whole, and its steps are steps of the whole.
-/
theorem followsFrom_zoom {get : τ → σ} {put : σ → τ → τ} {whole : τ → τ → Prop}
    (getPut : ∀ part state, get (put part state) = part)
    (putPut : ∀ part part' state, put part (put part' state) = put part state)
    (putGet : ∀ state, put (get state) state = state)
    (projects : ∀ state state', whole state state' →
      Relation.ReflTransGen step (get state) (get state'))
    (lifts : ∀ state part, step (get state) part → whole state (put part state))
    {body : Coro ε σ α} {origin : τ} (follows : body.FollowsFrom step (get origin)) :
    (body.zoom get put).FollowsFrom whole origin := by
  have lifted : ∀ state part, Relation.ReflTransGen step (get state) part →
      Relation.ReflTransGen whole state (put part state) := by
    intro state part moved
    induction moved with
    | refl => rw [putGet]
    | @tail middle final _ last ih =>
        have next := lifts (put middle state) final (by rwa [getPut])
        rw [putPut] at next
        exact ih.tail next
  induction body generalizing origin with
  | ret value => trivial
  | raise error => trivial
  | act effect next ih =>
      intro state moved
      have since : Relation.ReflTransGen step (get origin) (get state) := by
        induction moved with
        | refl => exact .refl
        | tail _ last ih => exact ih.trans (projects _ _ last)
      have taken := follows (get state) since
      refine ⟨lifted state _ taken.1, ih (get state) ?_⟩
      rw [getPut]
      exact taken.2

/-- An uninterrupted run moves along the steps. -/
theorem FollowsFrom.run {body : Coro ε σ α} {origin : σ} (follows : body.FollowsFrom step origin) :
    Relation.ReflTransGen step origin (body.run origin).2 := by
  induction body generalizing origin with
  | ret value => exact .refl
  | raise error => exact .refl
  | act effect next ih =>
      have first := follows origin .refl
      exact first.1.trans (ih origin first.2)

theorem Follows.run {body : Coro ε σ α} (follows : body.Follows step) :
    body.run.Follows step :=
  fun state => (follows state).run

end Follows

end Coro

end Cooperative
