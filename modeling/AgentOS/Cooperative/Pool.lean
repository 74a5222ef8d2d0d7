import AgentOS.Cooperative.Coroutine
import Mathlib.Data.Finset.Insert
import Mathlib.Logic.Function.Basic

/-!
# Interleaved coroutines

A pool is a shared state with a coroutine for each task. A schedule names the tasks that
take their next atomic step, one after another; every interleaving of the tasks is the
execution of some schedule, and a task that no schedule names has not started yet. The
index type may be infinite, so a pool also covers tasks that arrive over time.
-/

namespace Cooperative

/-- Tasks over a shared state. -/
structure Pool (ι ε σ α : Type) where
  state : σ
  tasks : ι → Coro ε σ α

namespace Pool

variable {ι ε σ α : Type} [DecidableEq ι]

/-- The task takes its next atomic step; a finished task takes none. -/
def advance (pool : Pool ι ε σ α) (task : ι) : Pool ι ε σ α :=
  match pool.tasks task with
  | .act effect next =>
      ⟨effect pool.state, Function.update pool.tasks task (next pool.state)⟩
  | _ => pool

/-- The execution of a schedule. -/
def exec (pool : Pool ι ε σ α) (schedule : List ι) : Pool ι ε σ α :=
  schedule.foldl advance pool

theorem exec_append (pool : Pool ι ε σ α) (schedule later : List ι) :
    pool.exec (schedule ++ later) = (pool.exec schedule).exec later :=
  List.foldl_append

theorem exec_concat (pool : Pool ι ε σ α) (schedule : List ι) (task : ι) :
    pool.exec (schedule ++ [task]) = (pool.exec schedule).advance task := by
  rw [exec_append]
  rfl

/-- A step of one task: what it does, and that the other tasks stay where they were. -/
theorem advance_cases (pool : Pool ι ε σ α) (task : ι) :
    pool.advance task = pool ∨
      ∃ effect next, pool.tasks task = .act effect next ∧
        (pool.advance task).state = effect pool.state ∧
        (pool.advance task).tasks task = next pool.state ∧
        ∀ other, other ≠ task → (pool.advance task).tasks other = pool.tasks other := by
  unfold advance
  split
  · rename_i effect next shape
    right
    refine ⟨effect, next, shape, rfl, by simp, ?_⟩
    intro other differ
    simp [differ]
  · left
    rfl

/-- What every step keeps holds throughout the execution. -/
theorem exec_induction {motive : Pool ι ε σ α → Prop}
    (step : ∀ pool task, motive pool → motive (pool.advance task)) (schedule : List ι)
    {pool : Pool ι ε σ α} (start : motive pool) : motive (pool.exec schedule) := by
  induction schedule generalizing pool with
  | nil => exact start
  | cons task rest ih => exact ih (step pool task start)

/-- Tasks that follow the steps of a relation move the shared state along them. -/
theorem exec_follows (pool : Pool ι ε σ α) {step : σ → σ → Prop}
    (follows : ∀ task, (pool.tasks task).Follows step) (schedule : List ι) :
    Relation.ReflTransGen step pool.state (pool.exec schedule).state := by
  refine (exec_induction
    (motive := fun reached => Relation.ReflTransGen step pool.state reached.state ∧
      ∀ task, ∃ origin, Relation.ReflTransGen step origin reached.state ∧
        (reached.tasks task).FollowsFrom step origin)
    ?_ schedule ⟨.refl, fun task => ⟨pool.state, .refl, follows task _⟩⟩).1
  rintro reached task ⟨moved, known⟩
  rcases advance_cases reached task with same | ⟨effect, next, shape, state, own, others⟩
  · rw [same]
    exact ⟨moved, known⟩
  · rcases known task with ⟨origin, since, follow⟩
    rw [shape] at follow
    have taken := follow reached.state since
    rw [← state] at taken
    refine ⟨moved.trans taken.1, ?_⟩
    intro other
    by_cases same : other = task
    · rw [same, own]
      exact ⟨_, .refl, taken.2⟩
    · rw [others other same]
      rcases known other with ⟨origin', since', follow'⟩
      exact ⟨origin', since'.trans taken.1, follow'⟩

end Pool

end Cooperative
