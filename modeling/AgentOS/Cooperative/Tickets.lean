import AgentOS.Cooperative.Ownership

/-!
# Numbers from a counter

Tasks that number their work take the numbers from one counter, which each of them counts up in
an atomic step. `Draws` says that a task names in its result only the number that it took last.
Whatever the interleaving, no two tasks then name the same number.
-/

namespace Cooperative

namespace Coro

variable {ε σ τ α β : Type}

/--
A task that holds a number, if any: each step leaves the counter alone or takes the next number
from it, and a result that names a number names the one that is held.
-/
def Draws (counter : σ → ℕ) (named : Except ε α → Option ℕ) : Coro ε σ α → Option ℕ → Prop
  | ret value, held => ∀ number, named (.ok value) = some number → held = some number
  | raise error, held => ∀ number, named (.error error) = some number → held = some number
  | act effect next, held => ∀ state,
      (counter (effect state) = counter state ∧ (next state).Draws counter named held) ∨
        (counter (effect state) = counter state + 1 ∧
          (next state).Draws counter named (some (counter state + 1)))

variable {counter : σ → ℕ} {named : Except ε α → Option ℕ} {later : Except ε β → Option ℕ}
  {held : Option ℕ}

/-- A task that leaves the counter alone names only what it held before. -/
theorem Keeps.draws {ends : Except ε α → Prop} {body : Coro ε σ α} (keeps : body.Keeps counter ends)
    (names : ∀ result, ends result → ∀ number, named result = some number → held = some number) :
    body.Draws counter named held := by
  induction body with
  | ret value => exact names _ keeps
  | raise error => exact names _ keeps
  | act effect next ih => exact fun state => .inl ⟨(keeps state).1, ih state (keeps state).2⟩

theorem draws_bind {ends : Except ε α → Prop} {first : Coro ε σ α} {rest : α → Coro ε σ β}
    (keeps : first.Keeps counter ends)
    (goesOn : ∀ value, ends (.ok value) → (rest value).Draws counter later held)
    (stops : ∀ error, later (.error error) = none) :
    (first >>= rest).Draws counter later held := by
  induction first with
  | ret value => exact goesOn value keeps
  | raise error =>
      intro number names
      rw [stops] at names
      cases names
  | act effect next ih => exact fun state => .inl ⟨(keeps state).1, ih state (keeps state).2⟩

/-- A block that takes a number, and a task that goes on with it. -/
theorem draws_next_bind {body : Action ε σ ℕ} {rest : ℕ → Coro ε σ α}
    (next : ∀ state, (body state).1 = .ok (counter state + 1) ∧
      counter (body state).2 = counter state + 1)
    (goesOn : ∀ number, (rest number).Draws counter named (some number)) :
    (sync body >>= rest).Draws counter named held := by
  intro state
  refine .inr ⟨(next state).2, ?_⟩
  change ((done (body state).1).bind rest).Draws counter named _
  rw [(next state).1]
  exact goesOn _

/-- What is made of the result names the same number. -/
theorem draws_map {convert : α → β} {body : Coro ε σ α} (draws : body.Draws counter named held)
    (same : ∀ value, later (.ok (convert value)) = named (.ok value))
    (stops : ∀ error, later (.error error) = none) :
    (body >>= fun value => pure (convert value)).Draws counter later held := by
  induction body generalizing held with
  | ret value =>
      intro number names
      rw [same] at names
      exact draws number names
  | raise error =>
      intro number names
      rw [stops] at names
      cases names
  | act effect next ih =>
      intro state
      exact (draws state).imp (fun kept => ⟨kept.1, ih state kept.2⟩)
        fun drawn => ⟨drawn.1, ih state drawn.2⟩

theorem Draws.zoom {get : τ → σ} {put : σ → τ → τ}
    (getPut : ∀ part whole, get (put part whole) = part) {body : Coro ε σ α}
    (draws : body.Draws counter named held) :
    (body.zoom get put).Draws (fun whole => counter (get whole)) named held := by
  induction body generalizing held with
  | ret value => exact draws
  | raise error => exact draws
  | act effect next ih =>
      intro whole
      dsimp only [Coro.zoom, Draws]
      rw [getPut]
      exact (draws (get whole)).imp (fun kept => ⟨kept.1, ih _ kept.2⟩)
        fun drawn => ⟨drawn.1, ih _ drawn.2⟩

end Coro

namespace Pool

variable {ι ε σ α : Type} [DecidableEq ι] {counter : σ → ℕ} {named : Except ε α → Option ℕ}

/-- The numbers that the tasks hold were taken from the counter, each by one task. -/
structure Numbered (counter : σ → ℕ) (named : Except ε α → Option ℕ) (pool : Pool ι ε σ α)
    (held : ι → Option ℕ) : Prop where
  draws : ∀ task, (pool.tasks task).Draws counter named (held task)
  taken : ∀ task number, held task = some number → number ≤ counter pool.state
  distinct : ∀ task other number, held task = some number → held other = some number →
    task = other

theorem Numbered.advance {pool : Pool ι ε σ α} {held : ι → Option ℕ}
    (numbered : pool.Numbered counter named held) (task : ι) :
    ∃ held, (pool.advance task).Numbered counter named held := by
  rcases advance_cases pool task with same | ⟨effect, next, shape, state, own, others⟩
  · rw [same]
    exact ⟨held, numbered⟩
  · have step := numbered.draws task
    rw [shape] at step
    rcases step pool.state with ⟨kept, draws⟩ | ⟨drawn, draws⟩
    · refine ⟨held, ?_, ?_, numbered.distinct⟩
      · intro other
        by_cases here : other = task
        · rw [here, own]
          exact draws
        · rw [others other here]
          exact numbered.draws other
      · rw [state, kept]
        exact numbered.taken
    · refine ⟨Function.update held task (some (counter pool.state + 1)), ?_, ?_, ?_⟩
      · intro other
        by_cases here : other = task
        · rw [here, own, Function.update_self]
          exact draws
        · rw [others other here, Function.update_of_ne here]
          exact numbered.draws other
      · intro other number holds
        rw [state, drawn]
        by_cases here : other = task
        · rw [here, Function.update_self] at holds
          cases holds
          exact le_rfl
        · rw [Function.update_of_ne here] at holds
          exact (numbered.taken other number holds).trans (Nat.le_succ _)
      · -- The new number is beyond all that were held before.
        have fresh : ∀ other, held other ≠ some (counter pool.state + 1) :=
          fun other holds => absurd (numbered.taken other _ holds) (Nat.not_succ_le_self _)
        intro one other number holds holds'
        by_cases here : one = task <;> by_cases there : other = task
        · rw [here, there]
        · rw [here, Function.update_self] at holds
          rw [Function.update_of_ne there, ← holds] at holds'
          exact absurd holds' (fresh other)
        · rw [there, Function.update_self] at holds'
          rw [Function.update_of_ne here, ← holds'] at holds
          exact absurd holds (fresh one)
        · rw [Function.update_of_ne here] at holds
          rw [Function.update_of_ne there] at holds'
          exact numbered.distinct one other number holds holds'

/-- However the tasks are interleaved, no two of them end by naming the same number. -/
theorem exec_draws {pool : Pool ι ε σ α}
    (draws : ∀ task, (pool.tasks task).Draws counter named none) (schedule : List ι)
    {task other : ι} {result result' : Except ε α} {number : ℕ}
    (ended : (pool.exec schedule).tasks task = .done result)
    (ended' : (pool.exec schedule).tasks other = .done result')
    (names : named result = some number) (names' : named result' = some number) : task = other := by
  have start : ∃ held, pool.Numbered counter named held :=
    ⟨fun _ => none, draws, fun _ _ => nofun, fun _ _ _ => nofun⟩
  have reached := exec_induction
    (motive := fun reached => ∃ held, reached.Numbered counter named held)
    (fun _ task ⟨_, numbered⟩ => numbered.advance task) schedule start
  rcases reached with ⟨held, numbered⟩
  have holds : ∀ {task result}, (pool.exec schedule).tasks task = .done result →
      named result = some number → held task = some number := by
    intro task result ended names
    have last := numbered.draws task
    rw [ended] at last
    cases result <;> exact last number names
  exact numbered.distinct _ _ number (holds ended names) (holds ended' names')

end Pool

end Cooperative
