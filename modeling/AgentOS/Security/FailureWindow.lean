import AgentOS.Security.CircuitBreaker

/-!
# Failures in the window

The breaker forgets failures, but none that lies in the window of a later reading of the
clock. Failures of a tool with one and the same parameters all count as similar, so that
the circuit of the tool is open as long as enough of them lie in the window.
-/

namespace AgentOS

open Python Cooperative

namespace BreakerState

variable {ν : Type}

/-- How many failures of the tool were recorded after the time. -/
def recordedSince (toolName : Str) (time : ℚ) (breaker : BreakerState ν) : ℕ :=
  breaker.recorded.countP fun failure => failure.1 = toolName ∧ time < failure.2

/-- How many of them the breaker still knows. -/
def keptSince (toolName : Str) (time : ℚ) (breaker : BreakerState ν) : ℕ :=
  (breaker.failuresOf toolName).countP fun record => time < record.timestamp

theorem failuresOf_store (toolName other : Str) (record : FailureRecord ν) (cutoff : ℚ)
    (breaker : BreakerState ν) :
    (breaker.store toolName record cutoff).failuresOf other =
      if other = toolName then
        (breaker.failuresOf toolName ++ [record]).filter fun r => cutoff < r.timestamp
      else breaker.failuresOf other := by
  unfold store
  dsimp only
  by_cases none : ((breaker.failuresOf toolName ++ [record]).filter
    fun r => cutoff < r.timestamp) = []
  · rw [failuresOf, if_pos none, Dict.get?_erase, none]
    split <;> rfl
  · rw [failuresOf, if_neg none, Dict.get?_set]
    split <;> rfl

theorem recordedSince_store (toolName other : Str) (record : FailureRecord ν) (cutoff time : ℚ)
    (breaker : BreakerState ν) :
    (breaker.store toolName record cutoff).recordedSince other time =
      breaker.recordedSince other time +
        if toolName = other ∧ time < record.timestamp then 1 else 0 := by
  simp [recordedSince, store, List.countP_cons]

theorem failuresOf_reset (toolName other : Str) (breaker : BreakerState ν) :
    (breaker.reset toolName).failuresOf other =
      if other = toolName then [] else breaker.failuresOf other := by
  simp only [failuresOf, reset, Dict.get?_erase]
  split <;> rfl

end BreakerState

namespace CircuitBreaker

variable {π ν : Type} {host : Host} {breaker : CircuitBreaker π ν}

/-- What the breaker knows about a tool whose failures all have the same parameters. -/
structure WindowKept (host : Host) (breaker : CircuitBreaker π ν) (toolName : Str)
    (parameters : π) (world : Timed (BreakerState ν)) : Prop where
  complete : ∀ time, host.time world.tick - breaker.windowSeconds ≤ time →
    world.state.recordedSince toolName time = world.state.keptSince toolName time
  alike : ∀ record ∈ world.state.failuresOf toolName,
    record.signature.parametersHash = breaker.scheme.parametersHash parameters
  opened : ∀ time, host.time world.tick - breaker.windowSeconds ≤ time →
    breaker.failureThreshold ≤ world.state.recordedSince toolName time →
    (world.state.openCircuits.get? toolName).isSome

theorem windowKept_initial (host : Host) (breaker : CircuitBreaker π ν)
    (positive : 1 ≤ breaker.failureThreshold) (toolName : Str) (parameters : π) (tick : ℕ) :
    WindowKept host breaker toolName parameters ⟨tick, BreakerState.initial⟩ := by
  refine ⟨fun _ _ => rfl, ?_, ?_⟩
  · intro record mem
    cases mem
  · intro time _ full
    have none : (BreakerState.initial : BreakerState ν).recordedSince toolName time = 0 := rfl
    simp only [none] at full
    omega

variable {toolName : Str} {parameters : π} {world : Timed (BreakerState ν)}

/-- Time passes, and whatever happens to other tools does not matter. -/
theorem WindowKept.later (steady : Monotone host.time)
    (kept : WindowKept host breaker toolName parameters world) {world' : Timed (BreakerState ν)}
    (ticks : world.tick ≤ world'.tick)
    (failures : world'.state.failuresOf toolName = world.state.failuresOf toolName)
    (circuits : world'.state.openCircuits.get? toolName = world.state.openCircuits.get? toolName)
    (recorded : ∀ time,
      world'.state.recordedSince toolName time = world.state.recordedSince toolName time) :
    WindowKept host breaker toolName parameters world' := by
  have before := steady ticks
  refine ⟨?_, ?_, ?_⟩
  · intro time late
    have same := kept.complete time (by linarith)
    rw [recorded, same, BreakerState.keptSince, BreakerState.keptSince, failures]
  · rw [failures]
    exact kept.alike
  · intro time late full
    rw [recorded] at full
    rw [circuits]
    exact kept.opened time (by linarith) full

/-- The question whether a circuit is open closes it only when no failure is left in the window. -/
theorem WindowKept.lookedUp (steady : Monotone host.time)
    (kept : WindowKept host breaker toolName parameters world)
    (positive : 1 ≤ breaker.failureThreshold) (other : Str) :
    WindowKept host breaker toolName parameters (breaker.lookedUp host other world) := by
  unfold CircuitBreaker.lookedUp
  split
  · exact kept
  split
  · exact kept
  rename_i last found
  split
  · rename_i quiet
    by_cases same : toolName = other
    · subst same
      have before : ∀ record ∈ world.state.failuresOf toolName, record.timestamp ≤ last := by
        intro record mem
        exact List.le_maximum_of_mem (List.mem_map_of_mem mem) found
      have none : ∀ time, host.time (world.tick + 1) - breaker.windowSeconds ≤ time →
          world.state.recordedSince toolName time = 0 := by
        intro time late
        have ordered := steady (Nat.le_succ world.tick)
        rw [kept.complete time (by linarith), BreakerState.keptSince, List.countP_eq_zero]
        intro record mem
        have old := before record mem
        simp only [decide_eq_true_eq, not_lt]
        linarith
      refine ⟨?_, ?_, ?_⟩
      · intro time late
        have empty : (world.state.reset toolName).keptSince toolName time = 0 := by
          rw [BreakerState.keptSince, BreakerState.failuresOf_reset, if_pos rfl]
          rfl
        exact (none time late).trans empty.symm
      · intro record mem
        rw [BreakerState.failuresOf_reset, if_pos rfl] at mem
        cases mem
      · intro time late full
        have zero : (world.state.reset toolName).recordedSince toolName time = 0 := none time late
        simp only [zero] at full
        omega
    · apply kept.later steady (Nat.le_succ _)
      · exact (BreakerState.failuresOf_reset _ _ _).trans (if_neg same)
      · exact (Dict.get?_erase _ _ _).trans (if_neg same)
      · exact fun _ => rfl
  · exact kept.later steady (Nat.le_succ _) rfl rfl fun _ => rfl

theorem buildSignature_hash {signature : RequestSignature ν}
    (built : breaker.buildSignature host parameters = .ok signature) :
    signature.parametersHash = breaker.scheme.parametersHash parameters := by
  unfold buildSignature at built
  split at built <;> cases built
  rfl

/-- Failures with the same parameters are all similar. -/
theorem countSimilarFailures_alike {records : List (FailureRecord ν)}
    {target : RequestSignature ν}
    (alike : ∀ record ∈ records, record.signature.parametersHash = target.parametersHash) :
    breaker.countSimilarFailures records target = records.length := by
  rw [countSimilarFailures, List.countP_eq_length]
  intro record mem
  simp [alike record mem]

theorem recordedWorld_other (host : Host) (breaker : CircuitBreaker π ν) {other : Str}
    (differ : toolName ≠ other) (signature : RequestSignature ν) (errorType : Str)
    (world : Timed (BreakerState ν)) :
    let final := breaker.recordedWorld host other signature errorType world
    world.tick ≤ final.tick ∧
      final.state.failuresOf toolName = world.state.failuresOf toolName ∧
      final.state.openCircuits.get? toolName = world.state.openCircuits.get? toolName ∧
      ∀ time, final.state.recordedSince toolName time =
        world.state.recordedSince toolName time := by
  have failures : (breaker.storedState host other signature errorType world).failuresOf toolName =
      world.state.failuresOf toolName :=
    (BreakerState.failuresOf_store _ _ _ _ _).trans (if_neg differ)
  have recorded : ∀ time,
      (breaker.storedState host other signature errorType world).recordedSince toolName time =
        world.state.recordedSince toolName time := by
    intro time
    rw [storedState, BreakerState.recordedSince_store]
    simp [Ne.symm differ]
  dsimp only [recordedWorld]
  split
  · exact ⟨Nat.le_add_right _ _, failures, Dict.get?_set_of_ne _ _ differ, recorded⟩
  · exact ⟨Nat.le_add_right _ _, failures, rfl, recorded⟩

theorem failuresOf_storedState (host : Host) (breaker : CircuitBreaker π ν) (toolName : Str)
    (signature : RequestSignature ν) (errorType : Str) (world : Timed (BreakerState ν)) :
    (breaker.storedState host toolName signature errorType world).failuresOf toolName =
      (world.state.failuresOf toolName ++
        [(⟨signature, host.time world.tick, errorType⟩ : FailureRecord ν)]).filter
        fun r => host.time (world.tick + 1) - breaker.windowSeconds < r.timestamp :=
  (BreakerState.failuresOf_store _ _ _ _ _).trans (if_pos rfl)

/-- The stored failures have the parameters of the new one. -/
theorem WindowKept.alike_stored (kept : WindowKept host breaker toolName parameters world)
    {signature : RequestSignature ν}
    (built : breaker.buildSignature host parameters = .ok signature) (errorType : Str) :
    ∀ record ∈ (breaker.storedState host toolName signature errorType world).failuresOf toolName,
      record.signature.parametersHash = signature.parametersHash := by
  intro record mem
  rw [failuresOf_storedState, List.mem_filter, List.mem_append, List.mem_singleton] at mem
  rcases mem.1 with old | rfl
  · rw [kept.alike record old, buildSignature_hash built]
  · rfl

/-- The window drops no failure that is younger than it. -/
theorem keptSince_storedState {signature : RequestSignature ν} {errorType : Str} {time : ℚ}
    (late : host.time (world.tick + 1) - breaker.windowSeconds ≤ time) :
    (breaker.storedState host toolName signature errorType world).keptSince toolName time =
      world.state.keptSince toolName time + if time < host.time world.tick then 1 else 0 := by
  rw [BreakerState.keptSince, failuresOf_storedState, List.countP_filter]
  have absorbed : ∀ record : FailureRecord ν,
      (decide (time < record.timestamp) && decide
        (host.time (world.tick + 1) - breaker.windowSeconds < record.timestamp)) =
          decide (time < record.timestamp) := by
    intro record
    by_cases young : time < record.timestamp
    · have inside : host.time (world.tick + 1) - breaker.windowSeconds < record.timestamp := by
        linarith
      simp [young, inside]
    · simp [young]
  simp only [absorbed]
  simp [BreakerState.keptSince, List.countP_append, List.countP_cons]

/-- Of the failures in the window none is missing in the table. -/
theorem WindowKept.complete_stored (steady : Monotone host.time)
    (kept : WindowKept host breaker toolName parameters world)
    (signature : RequestSignature ν) (errorType : Str) {time : ℚ}
    (late : host.time (world.tick + 1) - breaker.windowSeconds ≤ time) :
    (breaker.storedState host toolName signature errorType world).recordedSince toolName time =
      (breaker.storedState host toolName signature errorType world).keptSince toolName time := by
  have ordered := steady (Nat.le_succ world.tick)
  have before := kept.complete time (by linarith)
  rw [keptSince_storedState late, storedState, BreakerState.recordedSince_store, before]
  simp

/-- Enough failures in the window are enough similar failures in the table. -/
theorem WindowKept.enough_stored (steady : Monotone host.time)
    (kept : WindowKept host breaker toolName parameters world)
    {signature : RequestSignature ν}
    (built : breaker.buildSignature host parameters = .ok signature) {errorType : Str} {time : ℚ}
    (late : host.time (world.tick + 1) - breaker.windowSeconds ≤ time)
    (full : breaker.failureThreshold ≤
      (breaker.storedState host toolName signature errorType world).recordedSince toolName time) :
    breaker.failureThreshold ≤ breaker.countSimilarFailures
      ((breaker.storedState host toolName signature errorType world).failuresOf toolName)
      signature := by
  rw [kept.complete_stored steady signature errorType late, BreakerState.keptSince] at full
  rw [countSimilarFailures_alike (kept.alike_stored built errorType)]
  have bound := List.countP_le_length
    (p := fun record : FailureRecord ν => decide (time < record.timestamp))
    (l := (breaker.storedState host toolName signature errorType world).failuresOf toolName)
  omega

/-- A recorded failure opens the circuit when enough of them lie in the window. -/
theorem WindowKept.recorded (steady : Monotone host.time)
    (kept : WindowKept host breaker toolName parameters world)
    {signature : RequestSignature ν}
    (built : breaker.buildSignature host parameters = .ok signature) (errorType : Str) :
    WindowKept host breaker toolName parameters
      (breaker.recordedWorld host toolName signature errorType world) := by
  have hash := buildSignature_hash built
  have alike := kept.alike_stored built errorType
  have late : ∀ (ticks : ℕ) (time : ℚ), 1 ≤ ticks →
      host.time (world.tick + ticks) - breaker.windowSeconds ≤ time →
      host.time (world.tick + 1) - breaker.windowSeconds ≤ time := by
    intro ticks time enough bound
    have ordered := steady (Nat.add_le_add_left enough world.tick)
    linarith
  dsimp only [recordedWorld]
  split
  · refine ⟨?_, ?_, ?_⟩
    · intro time bound
      exact kept.complete_stored steady signature errorType (late 3 time (by omega) bound)
    · intro record mem
      rw [alike record mem, hash]
    · intro time _ _
      dsimp only [BreakerState.openCircuit]
      rw [Dict.get?_set_self]
      rfl
  · rename_i few
    refine ⟨?_, ?_, ?_⟩
    · intro time bound
      exact kept.complete_stored steady signature errorType (late 2 time (by omega) bound)
    · intro record mem
      rw [alike record mem, hash]
    · intro time bound full
      exact absurd (kept.enough_stored steady built (late 2 time (by omega) bound) full) few

/-- A closed circuit means that few failures lie in the window. -/
theorem WindowKept.few (kept : WindowKept host breaker toolName parameters world)
    (positive : 1 ≤ breaker.failureThreshold)
    (closed : breaker.opensAt (host.time world.tick) toolName world.state = false) :
    world.state.recordedSince toolName (host.time world.tick - breaker.windowSeconds) <
      breaker.failureThreshold := by
  by_contra many
  have open' := kept.opened _ le_rfl (not_lt.mp many)
  unfold opensAt at closed
  rw [open', Bool.true_and] at closed
  rcases found : lastFailure toolName world.state with _ | last <;> rw [found] at closed
  · cases closed
  · have quiet : (breaker.windowSeconds : ℚ) < host.time world.tick - last := by
      simpa using closed
    have none : world.state.recordedSince toolName
        (host.time world.tick - breaker.windowSeconds) = 0 := by
      rw [kept.complete _ le_rfl, BreakerState.keptSince, List.countP_eq_zero]
      intro record mem
      have old : record.timestamp ≤ last :=
        List.le_maximum_of_mem (List.mem_map_of_mem mem) found
      simp only [decide_eq_true_eq, not_lt]
      linarith
    rw [none] at many
    omega

end CircuitBreaker

end AgentOS
