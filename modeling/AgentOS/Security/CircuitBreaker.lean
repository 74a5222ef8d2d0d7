import AgentOS.Kernel.Host
import AgentOS.Python.Dict
import Mathlib.Data.List.MinMax

/-!
# Circuit breaker

Failures of a tool are kept for a time window; enough similar ones open the circuit of
the tool. Two calls are similar when the hashes of their parameters agree or the cosine of
their feature vectors is high enough. The vectors come from `numpy` and stay abstract.
-/

namespace AgentOS

open Python Cooperative

/-- How parameters are hashed and compared. -/
structure SignatureScheme (π ν : Type) where
  /-- The SHA-256 digest of the canonical JSON, which is ASCII. -/
  parametersHash : π → Str
  /-- The texts that are encoded for the feature vector. -/
  features : π → List Str
  vector : π → ν
  /-- Whether the cosine of a target and an existing vector reaches the threshold. -/
  similar : ν → ν → Bool

structure RequestSignature (ν : Type) where
  parametersHash : Str
  parameterVector : ν

structure FailureRecord (ν : Type) where
  signature : RequestSignature ν
  timestamp : ℚ
  errorType : Str

structure CircuitBreaker (π ν : Type) where
  scheme : SignatureScheme π ν
  windowSeconds : ℤ
  failureThreshold : ℤ

/-- The failures and the open circuits, by tool. -/
structure BreakerState (ν : Type) where
  failures : Dict Str (List (FailureRecord ν))
  openCircuits : Dict Str ℚ
  /-- The tool and the time of every recorded failure, newest first; no function reads it. -/
  recorded : List (Str × ℚ)

namespace BreakerState

variable {ν : Type}

def initial : BreakerState ν := ⟨Dict.empty, Dict.empty, []⟩

/-- `self._failures.get(tool_name, [])`. -/
def failuresOf (breaker : BreakerState ν) (toolName : Str) : List (FailureRecord ν) :=
  (breaker.failures.get? toolName).getD []

/-- `reset` of one tool. -/
def reset (toolName : Str) (breaker : BreakerState ν) : BreakerState ν :=
  { breaker with
    failures := breaker.failures.erase toolName
    openCircuits := breaker.openCircuits.erase toolName }

/-- `reset()`. -/
def resetAll (breaker : BreakerState ν) : BreakerState ν :=
  { initial with recorded := breaker.recorded }

/-- The failure is stored and the failures of the tool up to the cutoff are dropped. -/
def store (toolName : Str) (record : FailureRecord ν) (cutoff : ℚ) (breaker : BreakerState ν) :
    BreakerState ν :=
  let kept := (breaker.failuresOf toolName ++ [record]).filter fun r => cutoff < r.timestamp
  { breaker with
    failures :=
      if kept = [] then breaker.failures.erase toolName else breaker.failures.set toolName kept
    recorded := (toolName, record.timestamp) :: breaker.recorded }

def openCircuit (toolName : Str) (now : ℚ) (breaker : BreakerState ν) : BreakerState ν :=
  { breaker with openCircuits := breaker.openCircuits.set toolName now }

end BreakerState

namespace CircuitBreaker

variable {π ν : Type} (host : Host) (breaker : CircuitBreaker π ν)

/-- `_build_signature`. -/
def buildSignature (parameters : π) : Except Exc (RequestSignature ν) :=
  match (breaker.scheme.features parameters).find? fun feature => !encodable feature with
  | some feature => .error (.builtin "UnicodeEncodeError" (host.encodeError feature))
  | none =>
      .ok ⟨breaker.scheme.parametersHash parameters, breaker.scheme.vector parameters⟩

/-- `_count_similar_failures`. -/
def countSimilarFailures (records : List (FailureRecord ν)) (target : RequestSignature ν) : ℕ :=
  records.countP fun record =>
    record.signature.parametersHash = target.parametersHash ||
      breaker.scheme.similar target.parameterVector record.signature.parameterVector

/-- `record_failure`: whether the failure opened the circuit. -/
def recordFailure (toolName : Str) (parameters : π) (errorType : Str) :
    Action Exc (Timed (BreakerState ν)) Bool := do
  let signature ← ofExcept (breaker.buildSignature host parameters)
  let timestamp ← host.readTime
  let now ← host.readTime
  Timed.modify (BreakerState.store toolName ⟨signature, timestamp, errorType⟩
    (now - breaker.windowSeconds))
  let records ← Timed.view fun state => state.failuresOf toolName
  if breaker.failureThreshold ≤ breaker.countSimilarFailures records signature then do
    let openedAt ← host.readTime
    Timed.modify (BreakerState.openCircuit toolName openedAt)
    pure true
  else pure false

/-- `is_open`; a circuit without failures in the window is closed by the question. -/
def isOpen (toolName : Str) : Action Exc (Timed (BreakerState ν)) Bool := do
  let state ← Timed.view id
  if (state.openCircuits.get? toolName).isNone then pure false
  else
    match ((state.failuresOf toolName).map FailureRecord.timestamp).maximum with
    | none => pure true
    | some lastFailureTime => do
        let now ← host.readTime
        if (breaker.windowSeconds : ℚ) < now - lastFailureTime then do
          Timed.modify (BreakerState.reset toolName)
          pure false
        else pure true

/-- The time of the last failure of the tool in the window. -/
def lastFailure (toolName : Str) (state : BreakerState ν) : WithBot ℚ :=
  ((state.failuresOf toolName).map FailureRecord.timestamp).maximum

/-- The answer of `is_open` at a time. -/
def opensAt (now : ℚ) (toolName : Str) (state : BreakerState ν) : Bool :=
  (state.openCircuits.get? toolName).isSome &&
    match lastFailure toolName state with
    | none => true
    | some lastFailureTime => !decide ((breaker.windowSeconds : ℚ) < now - lastFailureTime)

/-- What `is_open` leaves: it reads the clock of an open circuit, and may close it. -/
def lookedUp (toolName : Str) (world : Timed (BreakerState ν)) : Timed (BreakerState ν) :=
  if (world.state.openCircuits.get? toolName).isNone then world
  else
    match lastFailure toolName world.state with
    | none => world
    | some lastFailureTime =>
        ⟨world.tick + 1,
          if (breaker.windowSeconds : ℚ) < host.time world.tick - lastFailureTime then
            world.state.reset toolName
          else world.state⟩

/-- The breaker after `record_failure` stored a failure and pruned the old ones. -/
def storedState (toolName : Str) (signature : RequestSignature ν) (errorType : Str)
    (world : Timed (BreakerState ν)) : BreakerState ν :=
  world.state.store toolName ⟨signature, host.time world.tick, errorType⟩
    (host.time (world.tick + 1) - breaker.windowSeconds)

/-- What `record_failure` leaves. -/
def recordedWorld (toolName : Str) (signature : RequestSignature ν) (errorType : Str)
    (world : Timed (BreakerState ν)) : Timed (BreakerState ν) :=
  let state := breaker.storedState host toolName signature errorType world
  if breaker.failureThreshold ≤
      breaker.countSimilarFailures (state.failuresOf toolName) signature then
    ⟨world.tick + 3, state.openCircuit toolName (host.time (world.tick + 2))⟩
  else ⟨world.tick + 2, state⟩

theorem recordedWorld_recorded (toolName : Str) (signature : RequestSignature ν) (errorType : Str)
    (world : Timed (BreakerState ν)) :
    (breaker.recordedWorld host toolName signature errorType world).state.recorded =
      (toolName, host.time world.tick) :: world.state.recorded := by
  dsimp only [recordedWorld]
  split <;> rfl

theorem recordedWorld_failures (toolName : Str) (signature : RequestSignature ν) (errorType : Str)
    (world : Timed (BreakerState ν)) :
    (breaker.recordedWorld host toolName signature errorType world).state.failures =
      (world.state.store toolName ⟨signature, host.time world.tick, errorType⟩
        (host.time (world.tick + 1) - breaker.windowSeconds)).failures := by
  dsimp only [recordedWorld]
  split <;> rfl

theorem recordFailure_of_built (toolName : Str) {parameters : π} (errorType : Str)
    {signature : RequestSignature ν}
    (built : breaker.buildSignature host parameters = .ok signature)
    (world : Timed (BreakerState ν)) :
    breaker.recordFailure host toolName parameters errorType world =
      (.ok (decide (breaker.failureThreshold ≤ breaker.countSimilarFailures
          ((breaker.storedState host toolName signature errorType world).failuresOf toolName)
          signature)),
        breaker.recordedWorld host toolName signature errorType world) := by
  unfold recordFailure recordedWorld storedState
  simp only [built, Action.bind_apply, ofExcept_apply, Host.readTime_apply, Timed.modify_apply,
    Timed.view_apply]
  by_cases full : breaker.failureThreshold ≤ breaker.countSimilarFailures
    ((breaker.storedState host toolName signature errorType world).failuresOf toolName) signature
  · rw [storedState] at full
    rw [if_pos full, if_pos full, decide_eq_true full]
    rfl
  · rw [storedState] at full
    rw [if_neg full, if_neg full, decide_eq_false full]
    rfl

theorem recordFailure_of_unbuilt (toolName : Str) {parameters : π} (errorType : Str) {exc : Exc}
    (unbuilt : breaker.buildSignature host parameters = .error exc)
    (world : Timed (BreakerState ν)) :
    breaker.recordFailure host toolName parameters errorType world = (.error exc, world) := by
  simp only [recordFailure, unbuilt, Action.bind_apply, ofExcept_apply]

/-- A failure is recorded as soon as its signature can be built. -/
theorem recordFailure_apply (toolName : Str) (parameters : π) (errorType : Str)
    (world : Timed (BreakerState ν)) :
    (∃ signature opened, breaker.buildSignature host parameters = .ok signature ∧
      breaker.recordFailure host toolName parameters errorType world =
        (.ok opened, breaker.recordedWorld host toolName signature errorType world)) ∨
    (∃ exc, breaker.buildSignature host parameters = .error exc ∧
      breaker.recordFailure host toolName parameters errorType world = (.error exc, world)) := by
  rcases built : breaker.buildSignature host parameters with exc | signature
  · exact .inr ⟨exc, rfl, breaker.recordFailure_of_unbuilt host toolName errorType built world⟩
  · exact .inl ⟨signature, _, rfl,
      breaker.recordFailure_of_built host toolName errorType built world⟩

theorem isOpen_apply (toolName : Str) (world : Timed (BreakerState ν)) :
    breaker.isOpen host toolName world =
      (.ok (breaker.opensAt (host.time world.tick) toolName world.state),
        breaker.lookedUp host toolName world) := by
  unfold isOpen lookedUp opensAt lastFailure
  rw [Action.bind_apply, Timed.view_apply]
  dsimp only [id]
  rcases world.state.openCircuits.get? toolName with _ | openedAt
  · rfl
  · simp only [Option.isNone_some, Option.isSome_some, Bool.false_eq_true, if_false,
      Bool.true_and]
    rcases ((world.state.failuresOf toolName).map FailureRecord.timestamp).maximum with _ | last
    · rfl
    · dsimp only
      rw [Action.bind_apply, Host.readTime_apply]
      dsimp only
      by_cases quiet : (breaker.windowSeconds : ℚ) < host.time world.tick - last
      · rw [if_pos quiet]
        simp [Action.bind_apply, quiet]
      · rw [if_neg quiet]
        simp [quiet]

end CircuitBreaker

end AgentOS
