import AgentOS.Cooperative.Coroutine

/-!
# Calls that do not return

A call that does not return either raises, or the process that runs it stops between two of its
atomic steps. `StopsIn` relates a state to those in which the call may be left so.
-/

namespace Cooperative

namespace Coro

variable {ε σ α β : Type}

/-- The states in which a call from a state may be left before it returns. -/
def StopsIn : Coro ε σ α → σ → σ → Prop
  | ret _, _, _ => False
  | raise _, state, final => final = state
  | act effect next, state, final => final = state ∨ (next state).StopsIn (effect state) final

/-- A call that begins with an atomic step is left before it, or goes on from where it leads. -/
theorem stopsIn_sync_bind_iff {body : Action ε σ α} {rest : α → Coro ε σ β} {state final : σ} :
    (sync body >>= rest).StopsIn state final ↔ final = state ∨
      match body state with
      | (.ok value, middle) => (rest value).StopsIn middle final
      | (.error _, middle) => final = middle := by
  have shape : (sync body >>= rest).StopsIn state final ↔
      final = state ∨ ((done (body state).1).bind rest).StopsIn (body state).2 final := Iff.rfl
  rw [shape]
  rcases body state with ⟨error | value, middle⟩ <;> rfl

end Coro

end Cooperative
