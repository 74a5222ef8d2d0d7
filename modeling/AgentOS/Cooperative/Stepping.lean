import AgentOS.Cooperative.Ownership

/-!
# Atomic steps along a relation

`Steps` says that every atomic step of a coroutine is a step of a relation, in every
environment that moves along the relation, and that the coroutine ends only as is allowed for
the state it ends in. The state before a step is related to the one after it, and not only
the state at the start of a block to the one at its end.
-/

namespace Cooperative

open Relation

namespace Coro

variable {ε σ α β κ : Type}

/-- Each atomic step is a step of the relation, and the end is allowed for the state then. -/
def Steps (step : σ → σ → Prop) (ends : Except ε α → σ → Prop) : Coro ε σ α → σ → Prop
  | ret value, origin => ends (.ok value) origin
  | raise error, origin => ends (.error error) origin
  | act effect next, origin =>
      ∀ state, ReflTransGen step origin state →
        step state (effect state) ∧ (next state).Steps step ends (effect state)

variable {step : σ → σ → Prop} {ends : Except ε α → σ → Prop} {later : Except ε β → σ → Prop}
  {origin : σ}

theorem steps_done {result : Except ε α} (allowed : ends result origin) :
    (done result : Coro ε σ α).Steps step ends origin := by
  cases result <;> exact allowed

theorem steps_sync {body : Action ε σ α}
    (moves : ∀ state, ReflTransGen step origin state →
      step state (body state).2 ∧ ends (body state).1 (body state).2) :
    (sync body).Steps step ends origin := by
  intro state since
  exact ⟨(moves state since).1, steps_done (moves state since).2⟩

theorem steps_bind {first : Coro ε σ α} {rest : α → Coro ε σ β}
    (steps : first.Steps step ends origin)
    (goesOn : ∀ value state, ReflTransGen step origin state → ends (.ok value) state →
      (rest value).Steps step later state)
    (stops : ∀ error state, ends (.error error) state → later (.error error) state) :
    (first >>= rest).Steps step later origin := by
  induction first generalizing origin with
  | ret value => exact goesOn value origin .refl steps
  | raise error => exact stops error origin steps
  | act effect next ih =>
      intro state since
      have taken := steps state since
      refine ⟨taken.1, ih state taken.2 ?_⟩
      intro value final moved
      exact goesOn value final ((since.tail taken.1).trans moved)

/-- Whatever the outcome of the first part, the rest deals with it. -/
theorem steps_attempt_bind {body : Coro ε σ α} {rest : Except ε α → Coro ε σ β}
    (steps : body.Steps step ends origin)
    (goesOn : ∀ result state, ReflTransGen step origin state → ends result state →
      (rest result).Steps step later state) :
    (body.attempt >>= rest).Steps step later origin := by
  induction body generalizing origin with
  | ret value => exact goesOn _ origin .refl steps
  | raise error => exact goesOn _ origin .refl steps
  | act effect next ih =>
      intro state since
      have taken := steps state since
      refine ⟨taken.1, ih state taken.2 ?_⟩
      intro result final moved
      exact goesOn result final ((since.tail taken.1).trans moved)

/-- The handler deals with every error from where it was raised. -/
theorem steps_tryCatch {body : Coro ε σ α} {handler : ε → Coro ε σ α}
    {final : Except ε α → σ → Prop} (steps : body.Steps step ends origin)
    (returns : ∀ value state, ends (.ok value) state → final (.ok value) state)
    (handles : ∀ error state, ReflTransGen step origin state → ends (.error error) state →
      (handler error).Steps step final state) :
    (tryCatch body handler).Steps step final origin := by
  induction body generalizing origin with
  | ret value => exact returns value origin steps
  | raise error => exact handles error origin .refl steps
  | act effect next ih =>
      intro state since
      have taken := steps state since
      refine ⟨taken.1, ih state taken.2 ?_⟩
      intro error reached moved
      exact handles error reached ((since.tail taken.1).trans moved)

theorem Steps.mono {ends' : Except ε α → σ → Prop} {body : Coro ε σ α}
    (steps : body.Steps step ends origin)
    (weaker : ∀ result state, ends result state → ends' result state) :
    body.Steps step ends' origin := by
  induction body generalizing origin with
  | ret value => exact weaker _ _ steps
  | raise error => exact weaker _ _ steps
  | act effect next ih =>
      intro state since
      exact ⟨(steps state since).1, ih state (steps state since).2⟩

/-- A coroutine that leaves a view alone steps along every relation that only looks at it. -/
theorem Keeps.steps {view : σ → κ} {kept : Except ε α → Prop} {body : Coro ε σ α}
    (keeps : body.Keeps view kept) (same : ∀ state state', view state' = view state →
      step state state') (origin : σ) : body.Steps step (fun result _ => kept result) origin := by
  induction body generalizing origin with
  | ret value => exact keeps
  | raise error => exact keeps
  | act effect next ih =>
      intro state _
      exact ⟨same state (effect state) (keeps state).1, ih state (keeps state).2 _⟩

/-- A coroutine that follows a relation steps along it, and ends where it has moved to. -/
theorem FollowsFrom.steps {body : Coro ε σ α} (follows : body.FollowsFrom step origin) {start : σ}
    (since : ReflTransGen step start origin) :
    body.Steps (ReflTransGen step) (fun _ final => ReflTransGen step start final) origin := by
  induction body generalizing origin with
  | ret value => exact since
  | raise error => exact since
  | act effect next ih =>
      intro state moved
      rw [reflTransGen_eq_self] at moved
      have taken := follows state moved
      exact ⟨taken.1, ih state taken.2 ((since.trans moved).trans taken.1)⟩

/-- A run that nobody interrupts moves along the relation and ends as is allowed. -/
theorem Steps.run {body : Coro ε σ α} (steps : body.Steps step ends origin) :
    ReflTransGen step origin (body.run origin).2 ∧
      ends (body.run origin).1 (body.run origin).2 := by
  induction body generalizing origin with
  | ret value => exact ⟨.refl, steps⟩
  | raise error => exact ⟨.refl, steps⟩
  | act effect next ih =>
      have taken := steps origin .refl
      have rest := ih origin taken.2
      exact ⟨.head taken.1 rest.1, rest.2⟩

end Coro

namespace Pool

variable {ι ε σ α : Type} [DecidableEq ι] {step : σ → σ → Prop} {ends : Except ε α → σ → Prop}

/-- What is left of each task steps along the relation, from a state that lies in the past. -/
def Stepping (step : σ → σ → Prop) (ends : Except ε α → σ → Prop) (pool : Pool ι ε σ α) : Prop :=
  ∀ task, ∃ origin, ReflTransGen step origin pool.state ∧
    (pool.tasks task).Steps step ends origin

omit [DecidableEq ι] in
theorem stepping_of_tasks {pool : Pool ι ε σ α}
    (steps : ∀ task, (pool.tasks task).Steps step ends pool.state) :
    pool.Stepping step ends :=
  fun task => ⟨pool.state, .refl, steps task⟩

/-- A slot of the schedule is one step of the relation, or none when the task has ended. -/
theorem Stepping.advance {pool : Pool ι ε σ α} (stepping : pool.Stepping step ends) (task : ι) :
    (pool.advance task).Stepping step ends ∧
      ((pool.advance task).state = pool.state ∨ step pool.state (pool.advance task).state) := by
  rcases advance_cases pool task with same | ⟨effect, next, shape, state, own, others⟩
  · rw [same]
    exact ⟨stepping, .inl rfl⟩
  · rcases stepping task with ⟨origin, since, steps⟩
    rw [shape] at steps
    have taken := steps pool.state since
    rw [← state] at taken
    refine ⟨?_, .inr taken.1⟩
    intro other
    by_cases here : other = task
    · rw [here, own]
      exact ⟨_, .refl, taken.2⟩
    · rw [others other here]
      rcases stepping other with ⟨origin', since', steps'⟩
      exact ⟨origin', since'.tail taken.1, steps'⟩

theorem Stepping.exec {pool : Pool ι ε σ α} (stepping : pool.Stepping step ends)
    (schedule : List ι) : (pool.exec schedule).Stepping step ends ∧
      ReflTransGen step pool.state (pool.exec schedule).state := by
  induction schedule generalizing pool with
  | nil => exact ⟨stepping, .refl⟩
  | cons task rest ih =>
      rcases stepping.advance task with ⟨stepping', moved⟩
      rcases ih stepping' with ⟨final, reached⟩
      refine ⟨final, ?_⟩
      rcases moved with same | taken
      · exact same ▸ reached
      · exact .head taken reached

end Pool

end Cooperative
