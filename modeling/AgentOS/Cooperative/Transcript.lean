import AgentOS.Cooperative.Action
import Mathlib.Data.List.Induction

/-!
# Transcripts

A component that is called again and again: the state its calls leave behind, and the
transcript of every call with its answer. An invariant may speak about both, and relies on
an order of the calls such as the order of their times.
-/

namespace Cooperative

variable {ι ε σ α : Type} (perform : ι → Action ε σ α)

/-- The state that a run of calls leaves behind. -/
def after : List ι → σ → σ
  | [], state => state
  | call :: rest, state => after rest (perform call state).2

/-- The calls of a run with their answers, oldest first. -/
def transcript : List ι → σ → List (ι × Except ε α)
  | [], _ => []
  | call :: rest, state =>
      (call, (perform call state).1) :: transcript rest (perform call state).2

variable (calls later : List ι) (call : ι) (state : σ)

@[simp]
theorem after_nil : after perform [] state = state := rfl

@[simp]
theorem after_cons :
    after perform (call :: calls) state = after perform calls (perform call state).2 := rfl

@[simp]
theorem transcript_nil : transcript perform [] state = [] := rfl

@[simp]
theorem transcript_cons : transcript perform (call :: calls) state =
    (call, (perform call state).1) :: transcript perform calls (perform call state).2 := rfl

@[simp]
theorem after_append :
    after perform (calls ++ later) state = after perform later (after perform calls state) := by
  induction calls generalizing state with
  | nil => rfl
  | cons call calls ih => exact ih _

@[simp]
theorem transcript_append : transcript perform (calls ++ later) state =
    transcript perform calls state ++ transcript perform later (after perform calls state) := by
  induction calls generalizing state with
  | nil => rfl
  | cons call calls ih => simp [ih]

@[simp]
theorem map_fst_transcript : (transcript perform calls state).map Prod.fst = calls := by
  induction calls generalizing state with
  | nil => rfl
  | cons call calls ih => simp [ih]

theorem mem_of_mem_transcript {entry : ι × Except ε α} {calls : List ι} {state : σ}
    (mem : entry ∈ transcript perform calls state) : entry.1 ∈ calls := by
  have mapped := List.mem_map_of_mem (f := Prod.fst) mem
  simpa using mapped

/-- What the start satisfies and every call in order keeps holds after every run. -/
theorem holds_after (order : ι → ι → Prop) (invariant : List (ι × Except ε α) → σ → Prop)
    {start : σ} (starts : invariant [] start)
    (keeps : ∀ log state call, invariant log state → (∀ entry ∈ log, order entry.1 call) →
      invariant (log ++ [(call, (perform call state).1)]) (perform call state).2)
    {calls : List ι} (ordered : calls.Pairwise order) :
    invariant (transcript perform calls start) (after perform calls start) := by
  induction calls using List.reverseRecOn with
  | nil => exact starts
  | append_singleton calls call ih =>
      obtain ⟨before, -, next⟩ := List.pairwise_append.mp ordered
      simp only [transcript_append, transcript_cons, transcript_nil, after_append, after_cons,
        after_nil]
      apply keeps _ _ _ (ih before)
      intro entry mem
      exact next _ (mem_of_mem_transcript perform mem) call (List.mem_singleton_self call)

/-- Two states that no allowed call tells apart answer a run alike. -/
theorem transcript_congr (allowed : ι → Prop) (related : σ → σ → Prop)
    (answers : ∀ call state state', allowed call → related state state' →
      (perform call state).1 = (perform call state').1 ∧
        related (perform call state).2 (perform call state').2)
    {calls : List ι} (fine : ∀ call ∈ calls, allowed call) {state state' : σ}
    (alike : related state state') :
    transcript perform calls state = transcript perform calls state' := by
  induction calls generalizing state state' with
  | nil => rfl
  | cons call calls ih =>
      obtain ⟨same, stays⟩ := answers call state state' (fine call List.mem_cons_self) alike
      have rest := ih (fun call mem => fine call (List.mem_cons_of_mem _ mem)) stays
      simp only [transcript_cons, same, rest]

end Cooperative
