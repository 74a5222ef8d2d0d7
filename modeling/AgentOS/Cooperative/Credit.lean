import AgentOS.Cooperative.Ownership
import Mathlib.Data.Finsupp.Basic

/-!
# Earning before spending

A task that spends units of something must have earned them first, although other tasks earn
and spend in between. `Covers` says that each step of a task spends no more than the task holds
or earns in that step. Whatever the interleaving, tasks that cover what they spend have together
spent no more than was earned.
-/

namespace Cooperative

namespace Coro

variable {ε σ τ α β κ : Type}

/--
A task that holds some units: each step pays for what it spends out of these and of what it
earns, and `left` is the least the task holds when it ends.
-/
def Covers (earned spent : σ → ℕ) (left : Except ε α → ℕ) : Coro ε σ α → ℕ → Prop
  | ret value, held => left (.ok value) ≤ held
  | raise error, held => left (.error error) ≤ held
  | act effect next, held =>
      ∀ state, ∃ held', spent (effect state) + held' + earned state ≤
          spent state + held + earned (effect state) ∧
        (next state).Covers earned spent left held'

variable {earned spent : σ → ℕ} {left : Except ε α → ℕ} {later : Except ε β → ℕ} {held : ℕ}

theorem covers_done {result : Except ε α} (kept : left result ≤ held) :
    (done result : Coro ε σ α).Covers earned spent left held := by
  cases result <;> exact kept

theorem covers_sync {body : Action ε σ α}
    (pays : ∀ state, spent (body state).2 + left (body state).1 + earned state ≤
      spent state + held + earned (body state).2) :
    (sync body).Covers earned spent left held :=
  fun state => ⟨left (body state).1, pays state, covers_done le_rfl⟩

theorem Covers.mono {left' : Except ε α → ℕ} {held' : ℕ} {body : Coro ε σ α}
    (covers : body.Covers earned spent left held) (less : ∀ result, left' result ≤ left result)
    (more : held ≤ held') : body.Covers earned spent left' held' := by
  induction body generalizing held held' with
  | ret value => exact (less _).trans (le_trans covers more)
  | raise error => exact (less _).trans (le_trans covers more)
  | act effect next ih =>
      intro state
      rcases covers state with ⟨after, pays, further⟩
      exact ⟨after, by omega, ih state further le_rfl⟩

theorem covers_bind {first : Coro ε σ α} {rest : α → Coro ε σ β}
    (covers : first.Covers earned spent left held)
    (goesOn : ∀ value, (rest value).Covers earned spent later (left (.ok value)))
    (stops : ∀ error, later (.error error) ≤ left (.error error)) :
    (first >>= rest).Covers earned spent later held := by
  induction first generalizing held with
  | ret value => exact (goesOn value).mono (fun _ => le_rfl) covers
  | raise error => exact (stops error).trans covers
  | act effect next ih =>
      intro state
      rcases covers state with ⟨after, pays, further⟩
      exact ⟨after, pays, ih state further⟩

theorem covers_tryCatch {final : Except ε α → ℕ} {body : Coro ε σ α} {handler : ε → Coro ε σ α}
    (covers : body.Covers earned spent left held)
    (returns : ∀ value, final (.ok value) ≤ left (.ok value))
    (handles : ∀ error, (handler error).Covers earned spent final (left (.error error))) :
    (tryCatch body handler).Covers earned spent final held := by
  induction body generalizing held with
  | ret value => exact (returns value).trans covers
  | raise error => exact (handles error).mono (fun _ => le_rfl) covers
  | act effect next ih =>
      intro state
      rcases covers state with ⟨after, pays, further⟩
      exact ⟨after, pays, ih state further⟩

theorem covers_attempt {body : Coro ε σ α} {final : Except ε (Except ε α) → ℕ}
    (covers : body.Covers earned spent left held)
    (less : ∀ result, final (.ok result) ≤ left result) :
    body.attempt.Covers earned spent final held := by
  induction body generalizing held with
  | ret value => exact (less _).trans covers
  | raise error => exact (less _).trans covers
  | act effect next ih =>
      intro state
      rcases covers state with ⟨after, pays, further⟩
      exact ⟨after, pays, ih state further⟩

/-- A task that leaves alone what is earned and spent holds what it held. -/
theorem Keeps.covers {ends : Except ε α → Prop} {body : Coro ε σ α}
    (keeps : body.Keeps (fun state => (earned state, spent state)) ends) (held : ℕ) :
    body.Covers earned spent (fun _ => held) held := by
  induction body with
  | ret value => exact le_refl held
  | raise error => exact le_refl held
  | act effect next ih =>
      intro state
      have same := (keeps state).1
      simp only [Prod.mk.injEq] at same
      exact ⟨held, by omega, ih state (keeps state).2⟩

/-- What a task covers of a component it covers of the whole. -/
theorem Covers.zoom {get : τ → σ} {put : σ → τ → τ}
    (getPut : ∀ part whole, get (put part whole) = part) {body : Coro ε σ α}
    (covers : body.Covers earned spent left held) :
    (body.zoom get put).Covers (fun whole => earned (get whole)) (fun whole => spent (get whole))
      left held := by
  induction body generalizing held with
  | ret value => exact covers
  | raise error => exact covers
  | act effect next ih =>
      intro whole
      rcases covers (get whole) with ⟨after, pays, further⟩
      refine ⟨after, ?_, ih (get whole) further⟩
      simpa only [getPut] using pays

end Coro

namespace Pool

variable {ι ε σ α : Type} [DecidableEq ι] {earned spent : σ → ℕ}

/-- The tasks hold together what was earned and not yet spent, or less. -/
def Solvent (earned spent : σ → ℕ) (start : σ) (pool : Pool ι ε σ α) : Prop :=
  ∃ stakes : ι →₀ ℕ,
    (∀ task, (pool.tasks task).Covers earned spent (fun _ => 0) (stakes task)) ∧
      spent pool.state + (stakes.sum fun _ held => held) + earned start ≤
        spent start + earned pool.state

theorem Solvent.advance {start : σ} {pool : Pool ι ε σ α}
    (solvent : pool.Solvent earned spent start) (task : ι) :
    (pool.advance task).Solvent earned spent start := by
  rcases advance_cases pool task with same | ⟨effect, next, shape, state, own, others⟩
  · rw [same]
    exact solvent
  · rcases solvent with ⟨stakes, covers, balance⟩
    have mine := covers task
    rw [shape] at mine
    rcases mine pool.state with ⟨held, pays, further⟩
    have moved := Finsupp.sum_update_add stakes task held (fun _ held => held) (fun _ => rfl)
      fun _ _ _ => rfl
    refine ⟨stakes.update task held, ?_, ?_⟩
    · intro other
      by_cases here : other = task
      · rw [here, own, Finsupp.coe_update, Function.update_self]
        exact further
      · rw [others other here, Finsupp.coe_update, Function.update_of_ne here]
        exact covers other
    · rw [state]
      omega

/-- However the tasks are interleaved, they spend no more than is earned. -/
theorem exec_covers {pool : Pool ι ε σ α}
    (covers : ∀ task, (pool.tasks task).Covers earned spent (fun _ => 0) 0) (schedule : List ι) :
    spent (pool.exec schedule).state + earned pool.state ≤
      spent pool.state + earned (pool.exec schedule).state := by
  have start : pool.Solvent earned spent pool.state := ⟨0, covers, by simp⟩
  rcases exec_induction (fun _ task solvent => solvent.advance task) schedule start with
    ⟨stakes, -, balance⟩
  omega

end Pool

end Cooperative
