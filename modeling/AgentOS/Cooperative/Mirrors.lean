import AgentOS.Cooperative.Pool

/-!
# Tasks that mirror each other

Two tasks mirror each other when they take the same atomic steps, whatever they find, and end
with related results. No other task can then tell them apart: one may stand for the other in
every interleaving.
-/

namespace Cooperative

namespace Coro

variable {ε σ α β γ δ : Type}

/-- The second task takes the steps of the first and ends with a related result. -/
def Mirrors (related : Except ε α → Except ε β → Prop) : Coro ε σ α → Coro ε σ β → Prop
  | ret value, other => ∃ result, other = done result ∧ related (.ok value) result
  | raise error, other => ∃ result, other = done result ∧ related (.error error) result
  | act effect next, other =>
      ∃ next', other = act effect next' ∧ ∀ state, (next state).Mirrors related (next' state)

variable {related : Except ε α → Except ε β → Prop} {later : Except ε γ → Except ε δ → Prop}

theorem mirrors_done {result : Except ε α} {other : Except ε β} (ends : related result other) :
    (done result : Coro ε σ α).Mirrors related (done other) := by
  cases result with
  | error error => exact ⟨other, rfl, ends⟩
  | ok value => exact ⟨other, rfl, ends⟩

theorem Mirrors.ended {result : Except ε α} {other : Coro ε σ β}
    (mirrors : (done result : Coro ε σ α).Mirrors related other) :
    ∃ result', other = done result' ∧ related result result' := by
  cases result with
  | error error => exact mirrors
  | ok value => exact mirrors

/-- Every task mirrors itself. -/
theorem mirrors_self {related : Except ε α → Except ε α → Prop}
    (same : ∀ result, related result result) (body : Coro ε σ α) : body.Mirrors related body := by
  induction body with
  | ret value => exact ⟨_, rfl, same _⟩
  | raise error => exact ⟨_, rfl, same _⟩
  | act effect next ih => exact ⟨next, rfl, ih⟩

/-- Tasks that mirror each other may go on with what mirrors each other. -/
theorem Mirrors.bind {first : Coro ε σ α} {other : Coro ε σ β} {rest : α → Coro ε σ γ}
    {rest' : β → Coro ε σ δ} (mirrors : first.Mirrors related other)
    (goesOn : ∀ result result', related result result' →
      (done result >>= rest).Mirrors later (done result' >>= rest')) :
    (first >>= rest).Mirrors later (other >>= rest') := by
  induction first generalizing other with
  | ret value =>
      rcases mirrors with ⟨result, rfl, ends⟩
      exact goesOn _ _ ends
  | raise error =>
      rcases mirrors with ⟨result, rfl, ends⟩
      exact goesOn _ _ ends
  | act effect next ih =>
      rcases mirrors with ⟨next', rfl, further⟩
      exact ⟨_, rfl, fun state => ih state (further state)⟩

/-- After the same beginning only what follows has to mirror each other. -/
theorem mirrors_bind_left {first : Coro ε σ α} {rest : α → Coro ε σ γ} {rest' : α → Coro ε σ δ}
    (raises : ∀ error, later (.error error) (.error error))
    (goesOn : ∀ value, (rest value).Mirrors later (rest' value)) :
    (first >>= rest).Mirrors later (first >>= rest') := by
  refine Mirrors.bind (mirrors_self (fun _ => rfl) first) ?_
  rintro result _ rfl
  cases result with
  | error error => exact mirrors_done (raises error)
  | ok value => exact goesOn value

/-- The same is made of both results. -/
theorem Mirrors.map {first : Coro ε σ α} {other : Coro ε σ β} {convert : α → γ} {convert' : β → δ}
    (mirrors : first.Mirrors related other)
    (ends : ∀ result result', related result result' →
      later (result.map convert) (result'.map convert')) :
    (first >>= fun value => pure (convert value)).Mirrors later
      (other >>= fun value => pure (convert' value)) := by
  refine mirrors.bind ?_
  intro result result' same
  have mapped := ends result result' same
  rcases result with error | value <;> rcases result' with error' | value' <;>
    exact mirrors_done mapped

end Coro

namespace Pool

variable {ι ε σ α β : Type} [DecidableEq ι] {named : ι → Prop}
  {related : ι → Except ε α → Except ε β → Prop}

/-- The states agree, and the named tasks of the one pool mirror those of the other. -/
structure Mirrored (named : ι → Prop) (related : ι → Except ε α → Except ε β → Prop)
    (pool : Pool ι ε σ α) (other : Pool ι ε σ β) : Prop where
  state : pool.state = other.state
  tasks : ∀ task, named task → (pool.tasks task).Mirrors (related task) (other.tasks task)

theorem advance_ended {pool : Pool ι ε σ α} {task : ι} {result : Except ε α}
    (ended : pool.tasks task = .done result) : pool.advance task = pool := by
  cases result <;> simp only [Pool.advance, ended, Coro.done]

theorem Mirrored.advance {pool : Pool ι ε σ α} {other : Pool ι ε σ β}
    (mirrored : Mirrored named related pool other) {task : ι} (isNamed : named task) :
    Mirrored named related (pool.advance task) (other.advance task) := by
  have mirrors := mirrored.tasks task isNamed
  have stops : ∀ result, pool.tasks task = .done result →
      Mirrored named related (pool.advance task) (other.advance task) := by
    intro result ended
    rw [ended] at mirrors
    rcases mirrors.ended with ⟨result', ended', _⟩
    rw [advance_ended ended, advance_ended ended']
    exact mirrored
  rcases shape : pool.tasks task with value | error | ⟨effect, next⟩
  · exact stops (.ok value) shape
  · exact stops (.error error) shape
  · rw [shape] at mirrors
    rcases mirrors with ⟨next', shape', further⟩
    simp only [Pool.advance, shape, shape']
    refine ⟨congrArg effect mirrored.state, ?_⟩
    intro one oneNamed
    dsimp only
    by_cases same : one = task
    · subst same
      rw [Function.update_self, Function.update_self, mirrored.state]
      exact further _
    · rw [Function.update_of_ne same, Function.update_of_ne same]
      exact mirrored.tasks one oneNamed

/-- Tasks that mirror each other make the same of the state, however they are interleaved. -/
theorem exec_mirrors {pool : Pool ι ε σ α} {other : Pool ι ε σ β}
    (mirrored : Mirrored named related pool other) {schedule : List ι}
    (scheduled : ∀ task ∈ schedule, named task) :
    Mirrored named related (pool.exec schedule) (other.exec schedule) := by
  induction schedule generalizing pool other with
  | nil => exact mirrored
  | cons task rest ih =>
      have goesOn := mirrored.advance (scheduled task List.mem_cons_self)
      exact ih goesOn fun later mem => scheduled later (List.mem_cons_of_mem task mem)

/-- Only the tasks that the schedule names matter. -/
theorem exec_congr {pool other : Pool ι ε σ α} (state : pool.state = other.state)
    {schedule : List ι} (tasks : ∀ task ∈ schedule, pool.tasks task = other.tasks task) :
    (pool.exec schedule).state = (other.exec schedule).state := by
  have mirrored : Mirrored (· ∈ schedule) (fun _ => Eq) pool other := by
    refine ⟨state, fun task named => ?_⟩
    rw [tasks task named]
    exact Coro.mirrors_self (fun _ => rfl) _
  exact (exec_mirrors mirrored fun _ mem => mem).state

end Pool

end Cooperative
