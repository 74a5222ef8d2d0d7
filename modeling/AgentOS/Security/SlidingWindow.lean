import AgentOS.Cooperative.Transcript
import AgentOS.Cooperative.Window
import AgentOS.Governance.Replay
import AgentOS.Security.FailureWindow

/-!
# The sliding window of the breaker

Runs of calls for any tools, each with its own readings of the clock. The breaker prunes its
list of failures and wipes it when a circuit closes by itself; still it counts as if it had
the whole history of the tool since its last explicit reset.
-/

namespace AgentOS

open Python Cooperative

/-- The calls that read or change a breaker; `reset` without a tool resets all of them. -/
inductive BreakerOperation (π : Type)
  | recordFailure (toolName : Str) (parameters : π) (errorType : Str)
  | isOpen (toolName : Str)
  | reset (toolName : Option Str)

/-- A call with what the clock shows while it runs. -/
structure BreakerCall (π : Type) where
  operation : BreakerOperation π
  readings : ℕ → ℚ
  steady : Monotone readings

namespace BreakerCall

variable {π : Type}

/-- The clock never shows less in the later call than in the earlier one. -/
def Before (earlier later : BreakerCall π) : Prop :=
  ∀ m n, earlier.readings m ≤ later.readings n

/-- All readings of the call are one time. -/
def AtOnce (call : BreakerCall π) : Prop := ∀ n, call.readings n = call.readings 0

/-- The call at a time. -/
def moment (time : ℚ) (operation : BreakerOperation π) : BreakerCall π :=
  ⟨operation, fun _ => time, monotone_const⟩

@[simp]
theorem moment_before_iff {time later : ℚ} {operation operation' : BreakerOperation π} :
    (moment time operation).Before (moment later operation') ↔ time ≤ later := by
  simp [Before, moment]

end BreakerCall

namespace CircuitBreaker

variable {π ν : Type} (host : Host) (breaker : CircuitBreaker π ν)

/-- An operation of the breaker; `reset` returns nothing. -/
def operate : BreakerOperation π → Action Exc (Timed (BreakerState ν)) (Option Bool)
  | .recordFailure toolName parameters errorType => do
      return some (← breaker.recordFailure host toolName parameters errorType)
  | .isOpen toolName => do return some (← breaker.isOpen host toolName)
  | .reset (some toolName) => do
      Timed.modify (BreakerState.reset toolName)
      return none
  | .reset none => do
      Timed.modify BreakerState.resetAll
      return none

def perform (call : BreakerCall π) : Action Exc (BreakerState ν) (Option Bool) :=
  Timed.during host call.readings fun host => breaker.operate host call.operation

/-- The failures of a tool recorded since its last explicit reset, after one more call. -/
def remembered (toolName : Str) (history : List (FailureRecord ν)) (call : BreakerCall π) :
    List (FailureRecord ν) :=
  match call.operation with
  | .recordFailure other parameters errorType =>
      match breaker.buildSignature host parameters with
      | .ok signature =>
          if other = toolName then history ++ [⟨signature, call.readings 0, errorType⟩]
          else history
      | .error _ => history
  | .isOpen _ => history
  | .reset (some other) => if other = toolName then [] else history
  | .reset none => []

/-- The failures of a tool recorded since its last explicit reset. -/
def historyOf (toolName : Str) (calls : List (BreakerCall π)) : List (FailureRecord ν) :=
  calls.foldl (breaker.remembered host toolName) []

/-- The record counts as similar to the target. -/
def alike (target : RequestSignature ν) (record : FailureRecord ν) : Bool :=
  record.signature.parametersHash = target.parametersHash ||
    breaker.scheme.similar target.parameterVector record.signature.parameterVector

/-- How many failures of a history lie in the window that ends now and are similar. -/
def windowCount (now : ℚ) (target : RequestSignature ν) (history : List (FailureRecord ν)) : ℕ :=
  history.countP fun record =>
    now - breaker.windowSeconds < record.timestamp ∧ record.timestamp ≤ now ∧
      breaker.alike target record

/-- The state after a call that recorded a failure. -/
def recordedState (call : BreakerCall π) (toolName : Str) (signature : RequestSignature ν)
    (errorType : Str) (state : BreakerState ν) : BreakerState ν :=
  (breaker.recordedWorld { host with time := call.readings } toolName signature errorType
    ⟨0, state⟩).state

/-- The failures of the tool that are kept when another one was recorded. -/
def keptFailures (call : BreakerCall π) (toolName : Str) (signature : RequestSignature ν)
    (errorType : Str) (state : BreakerState ν) : List (FailureRecord ν) :=
  since FailureRecord.timestamp (call.readings 1 - breaker.windowSeconds)
    (state.failuresOf toolName ++ [⟨signature, call.readings 0, errorType⟩])

/-- The state after a call of `is_open`. -/
def askedState (call : BreakerCall π) (toolName : Str) (state : BreakerState ν) :
    BreakerState ν :=
  (breaker.lookedUp { host with time := call.readings } toolName ⟨0, state⟩).state

/-- The kept failures are those of the history, as far as a later call lets them count. -/
def Remembers (calls : List (BreakerCall π)) (state : BreakerState ν) : Prop :=
  ∀ toolName cutoff,
    (∀ call ∈ calls, ∀ n, call.readings n - breaker.windowSeconds ≤ cutoff) →
      Retains FailureRecord.timestamp cutoff (state.failuresOf toolName)
        (breaker.historyOf host toolName calls)

variable {host breaker} {call : BreakerCall π} {state : BreakerState ν}

theorem historyOf_concat (toolName : Str) (calls : List (BreakerCall π)) (call : BreakerCall π) :
    breaker.historyOf host toolName (calls ++ [call]) =
      breaker.remembered host toolName (breaker.historyOf host toolName calls) call := by
  simp [historyOf]

theorem failuresOf_recordedState (host : Host) (breaker : CircuitBreaker π ν)
    (call : BreakerCall π) (state : BreakerState ν) (toolName other : Str)
    (signature : RequestSignature ν) (errorType : Str) :
    (breaker.recordedState host call toolName signature errorType state).failuresOf other =
      if other = toolName then breaker.keptFailures call toolName signature errorType state
      else state.failuresOf other := by
  have stored := BreakerState.failuresOf_store toolName other
    ⟨signature, call.readings 0, errorType⟩ (call.readings 1 - breaker.windowSeconds) state
  simp only [recordedState, recordedWorld]
  split <;> exact stored

theorem buildSignature_time (readings : ℕ → ℚ) (parameters : π) :
    breaker.buildSignature { host with time := readings } parameters =
      breaker.buildSignature host parameters := rfl

theorem perform_recordFailure {toolName : Str} {parameters : π} {errorType : Str}
    {signature : RequestSignature ν}
    (operation : call.operation = .recordFailure toolName parameters errorType)
    (built : breaker.buildSignature host parameters = .ok signature) :
    breaker.perform host call state =
      (.ok (some (decide (breaker.failureThreshold ≤ breaker.countSimilarFailures
          (breaker.keptFailures call toolName signature errorType state) signature))),
        breaker.recordedState host call toolName signature errorType state) := by
  rw [← buildSignature_time call.readings] at built
  have ran := breaker.recordFailure_of_built _ toolName errorType built ⟨0, state⟩
  have stored := BreakerState.failuresOf_store toolName toolName
    ⟨signature, call.readings 0, errorType⟩ (call.readings 1 - breaker.windowSeconds) state
  rw [if_pos rfl] at stored
  rw [storedState, stored] at ran
  simp only [perform, Timed.during, operate, operation, Action.bind_apply, ran]
  rfl

theorem perform_of_unbuilt {toolName : Str} {parameters : π} {errorType : Str} {exc : Exc}
    (operation : call.operation = .recordFailure toolName parameters errorType)
    (unbuilt : breaker.buildSignature host parameters = .error exc) :
    breaker.perform host call state = (.error exc, state) := by
  rw [← buildSignature_time call.readings] at unbuilt
  have ran := breaker.recordFailure_of_unbuilt _ toolName errorType unbuilt ⟨0, state⟩
  simp only [perform, Timed.during, operate, operation, Action.bind_apply, ran]

theorem perform_isOpen {toolName : Str} (operation : call.operation = .isOpen toolName) :
    breaker.perform host call state =
      (.ok (some (breaker.opensAt (call.readings 0) toolName state)),
        breaker.askedState host call toolName state) := by
  have ran := breaker.isOpen_apply { host with time := call.readings } toolName ⟨0, state⟩
  simp only [perform, Timed.during, operate, operation, Action.bind_apply, ran]
  rfl

theorem perform_reset {toolName : Str} (operation : call.operation = .reset (some toolName)) :
    breaker.perform host call state = (.ok none, state.reset toolName) := by
  simp only [perform, Timed.during, operate, operation]
  rfl

theorem perform_resetAll (operation : call.operation = .reset none) :
    breaker.perform host call state = (.ok none, state.resetAll) := by
  simp only [perform, Timed.during, operate, operation]
  rfl

/-- The question whether a circuit is open wipes the failures of its tool only when all of
them are older than the window. -/
theorem failuresOf_askedState (host : Host) (breaker : CircuitBreaker π ν)
    (call : BreakerCall π) (state : BreakerState ν) (toolName other : Str) :
    (breaker.askedState host call toolName state).failuresOf other = state.failuresOf other ∨
      (breaker.askedState host call toolName state).failuresOf other = [] ∧
        ∀ record ∈ state.failuresOf other,
          record.timestamp < call.readings 0 - breaker.windowSeconds := by
  simp only [askedState, lookedUp]
  split
  · exact .inl rfl
  · split
    · exact .inl rfl
    · rename_i last found
      dsimp only
      split
      · rename_i quiet
        rw [BreakerState.failuresOf_reset]
        by_cases same : other = toolName
        · right
          refine ⟨if_pos same, ?_⟩
          intro record mem
          rw [same] at mem
          have latest : record.timestamp ≤ last :=
            List.le_maximum_of_mem (List.mem_map_of_mem mem) found
          linarith
        · exact .inl (if_neg same)
      · exact .inl rfl

/-- A call of `record_failure` adds to the history what it adds to the list. -/
theorem Remembers.recordFailure {calls : List (BreakerCall π)}
    (remembers : Remembers host breaker calls state)
    (ordered : ∀ earlier ∈ calls, earlier.Before call) {toolName : Str} {parameters : π}
    {errorType : Str} {signature : RequestSignature ν}
    (operation : call.operation = .recordFailure toolName parameters errorType)
    (built : breaker.buildSignature host parameters = .ok signature) :
    Remembers host breaker (calls ++ [call])
      (breaker.recordedState host call toolName signature errorType state) := by
  intro other cutoff late
  have pruned : call.readings 1 - breaker.windowSeconds ≤ cutoff := late call (by simp) 1
  have before : ∀ earlier ∈ calls, ∀ n,
      earlier.readings n - breaker.windowSeconds ≤ call.readings 1 - breaker.windowSeconds := by
    intro earlier mem n
    linarith [ordered earlier mem n 1]
  have kept := (remembers other _ before)
  rw [historyOf_concat, failuresOf_recordedState, remembered, operation]
  simp only [built]
  by_cases same : other = toolName
  · subst same
    rw [if_pos rfl, if_pos rfl]
    exact (kept.append _).prune.mono pruned
  · rw [if_neg same, if_neg (Ne.symm same)]
    exact kept.mono pruned

/-- Whatever the call, the kept failures stay those of the history. -/
theorem Remembers.perform {calls : List (BreakerCall π)}
    (remembers : Remembers host breaker calls state)
    (ordered : ∀ earlier ∈ calls, earlier.Before call) :
    Remembers host breaker (calls ++ [call]) (breaker.perform host call state).2 := by
  have earlier : ∀ {cutoff : ℚ}, (∀ c ∈ calls ++ [call], ∀ n,
      c.readings n - breaker.windowSeconds ≤ cutoff) → ∀ c ∈ calls, ∀ n,
        c.readings n - breaker.windowSeconds ≤ cutoff :=
    fun late c mem => late c (List.mem_append_left _ mem)
  rcases operation : call.operation with ⟨toolName, parameters, errorType⟩ | toolName | _ | toolName
  · rcases built : breaker.buildSignature host parameters with exc | signature
    · rw [perform_of_unbuilt operation built]
      intro other cutoff late
      rw [historyOf_concat, remembered, operation]
      simp only [built]
      exact remembers other cutoff (earlier late)
    · rw [perform_recordFailure operation built]
      exact remembers.recordFailure ordered operation built
  · rw [perform_isOpen operation]
    intro other cutoff late
    have kept := remembers other cutoff (earlier late)
    rw [historyOf_concat, remembered, operation]
    dsimp only
    rcases failuresOf_askedState host breaker call state toolName other with same | ⟨wiped, old⟩
    · rwa [same]
    · rw [wiped]
      apply kept.wipe
      intro record mem
      linarith [old record mem, late call (by simp) 0]
  · rw [perform_resetAll operation]
    intro other cutoff late
    rw [historyOf_concat, remembered, operation]
    exact retains_refl
  · rw [perform_reset operation]
    intro other cutoff late
    have kept := remembers other cutoff (earlier late)
    rw [historyOf_concat, remembered, operation, BreakerState.failuresOf_reset]
    by_cases same : other = toolName
    · simp only [same, if_true]
      exact retains_refl
    · simpa only [same, Ne.symm same, if_false] using kept

theorem remembers_after (host : Host) (breaker : CircuitBreaker π ν)
    {calls : List (BreakerCall π)} (ordered : calls.Pairwise BreakerCall.Before) :
    Remembers host breaker calls (after (breaker.perform host) calls BreakerState.initial) := by
  have start : Remembers host breaker [] (BreakerState.initial : BreakerState ν) :=
    fun _ _ _ => retains_refl
  have run := holds_after (breaker.perform host) BreakerCall.Before
    (fun log state => Remembers host breaker (log.map Prod.fst) state) start ?_ ordered
  · rwa [map_fst_transcript] at run
  · intro log state call remembers before
    rw [List.map_append]
    apply remembers.perform
    intro earlier mem
    obtain ⟨entry, logged, rfl⟩ := List.mem_map.mp mem
    exact before entry logged

theorem mem_remembered {toolName : Str} {history : List (FailureRecord ν)}
    {record : FailureRecord ν} (mem : record ∈ breaker.remembered host toolName history call) :
    record ∈ history ∨ record.timestamp = call.readings 0 := by
  unfold remembered at mem
  split at mem
  · split at mem
    · split at mem
      · rcases List.mem_append.mp mem with old | new
        · exact .inl old
        · cases List.mem_singleton.mp new
          exact .inr rfl
      · exact .inl mem
    · exact .inl mem
  · exact .inl mem
  · split at mem
    · cases mem
    · exact .inl mem
  · cases mem

theorem historyOf_timestamp {toolName : Str} {calls : List (BreakerCall π)}
    {record : FailureRecord ν} (mem : record ∈ breaker.historyOf host toolName calls) :
    ∃ call ∈ calls, record.timestamp = call.readings 0 := by
  induction calls using List.reverseRecOn with
  | nil => simp [historyOf] at mem
  | append_singleton calls call ih =>
      rw [historyOf_concat] at mem
      rcases mem_remembered mem with old | new
      · obtain ⟨earlier, mem', stamped⟩ := ih old
        exact ⟨earlier, List.mem_append_left _ mem', stamped⟩
      · exact ⟨call, by simp, new⟩

/-- The answer of `record_failure`, from the full history of the tool. -/
theorem answer_of_history {calls : List (BreakerCall π)} {toolName : Str} {parameters : π}
    {errorType : Str} {signature : RequestSignature ν}
    (ordered : (calls ++ [call]).Pairwise BreakerCall.Before)
    (operation : call.operation = .recordFailure toolName parameters errorType)
    (built : breaker.buildSignature host parameters = .ok signature) :
    (breaker.perform host call (after (breaker.perform host) calls BreakerState.initial)).1 =
      .ok (some (decide (breaker.failureThreshold ≤ breaker.countSimilarFailures
        (since FailureRecord.timestamp (call.readings 1 - breaker.windowSeconds)
          (breaker.historyOf host toolName (calls ++ [call]))) signature))) := by
  obtain ⟨first, -, last⟩ := List.pairwise_append.mp ordered
  have remembers := remembers_after host breaker first
  rw [perform_recordFailure operation built, historyOf_concat, remembered, operation]
  simp only [built, if_true]
  have kept := (remembers toolName (call.readings 1 - breaker.windowSeconds) ?_).append
    [⟨signature, call.readings 0, errorType⟩]
  · rw [keptFailures, kept.since_eq]
  · intro earlier mem n
    linarith [last earlier mem call (by simp) n 1]

/-- The breaker trips exactly on its sliding window. -/
theorem recordFailure_iff_window (host : Host) (breaker : CircuitBreaker π ν)
    {calls : List (BreakerCall π)} {call : BreakerCall π}
    (ordered : (calls ++ [call]).Pairwise BreakerCall.Before) (once : call.AtOnce) {toolName : Str}
    {parameters : π} {errorType : Str}
    (operation : call.operation = .recordFailure toolName parameters errorType) :
    ((breaker.perform host call (after (breaker.perform host) calls BreakerState.initial)).1 =
        .ok (some true) ↔
      ∃ signature, breaker.buildSignature host parameters = .ok signature ∧
        breaker.failureThreshold ≤ breaker.windowCount (call.readings 0) signature
          (breaker.historyOf host toolName (calls ++ [call]))) ∧
    ∀ record ∈ breaker.historyOf host toolName calls,
      call.readings 0 - breaker.windowSeconds < record.timestamp →
        record ∈ (after (breaker.perform host) calls BreakerState.initial).failuresOf toolName := by
  obtain ⟨first, -, last⟩ := List.pairwise_append.mp ordered
  constructor
  · rcases built : breaker.buildSignature host parameters with exc | signature
    · simp [perform_of_unbuilt operation built]
    · rw [answer_of_history ordered operation built, once 1]
      have counted : breaker.countSimilarFailures
          (since FailureRecord.timestamp (call.readings 0 - breaker.windowSeconds)
            (breaker.historyOf host toolName (calls ++ [call]))) signature =
          breaker.windowCount (call.readings 0) signature
            (breaker.historyOf host toolName (calls ++ [call])) := by
        rw [countSimilarFailures, windowCount, since, List.countP_filter]
        apply List.countP_congr
        intro record mem
        obtain ⟨earlier, mem', stamped⟩ := historyOf_timestamp mem
        have past : record.timestamp ≤ call.readings 0 := by
          rw [stamped]
          rcases List.mem_append.mp mem' with old | new
          · exact last earlier old call (by simp) 0 0
          · rw [List.mem_singleton.mp new]
        simp [past, alike, and_comm]
      simp [counted]
  · intro record mem young
    have kept := remembers_after host breaker first toolName
      (call.readings 0 - breaker.windowSeconds) ?_
    · have counted := mem_since.mpr ⟨mem, young⟩
      rw [← kept.since_eq] at counted
      exact (mem_since.mp counted).1
    · intro earlier mem n
      linarith [last earlier mem call (by simp) n 0]

end CircuitBreaker

namespace Sample

/-- Two failures with the same parameters within ten seconds open a circuit. -/
def tenSeconds : CircuitBreaker Str Unit where
  scheme := ⟨id, fun _ => [], fun _ => (), fun _ _ => false⟩
  windowSeconds := 10
  failureThreshold := 2

def failAt (time : ℚ) : BreakerCall Str :=
  .moment time (.recordFailure (py "search") (py "\x7b\x7d") (py "Timeout"))

def askAt (time : ℚ) : BreakerCall Str := .moment time (.isOpen (py "search"))

theorem second_failure_trips :
    (tenSeconds.perform steadyHost (failAt 9) (after (tenSeconds.perform steadyHost)
      [failAt 0, askAt 5] BreakerState.initial)).1 = .ok (some true) := by
  have ordered : ([failAt 0, askAt 5] ++ [failAt 9]).Pairwise BreakerCall.Before := by
    norm_num [failAt, askAt]
  have trips := (CircuitBreaker.recordFailure_iff_window steadyHost tenSeconds ordered
    (fun _ => rfl) rfl).1
  exact trips.mpr ⟨_, rfl, by decide +kernel⟩

end Sample

end AgentOS
