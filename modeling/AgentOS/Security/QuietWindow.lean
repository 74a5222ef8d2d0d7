import AgentOS.Security.SlidingWindow
import Mathlib.Data.List.Chain

/-!
# Quiet windows

A circuit is meant to be open from the failure that trips it until no failure came for a
whole window. The quiet window is noticed by `is_open` only: a failure that comes after it,
before anyone asked, keeps the circuit open.
-/

namespace AgentOS

open Python Cooperative

/-- A failure since which no two failures, and neither the last one and now, are further apart
than the window, was answered with `True`. -/
def StaysOpen (window : ℚ) (failures : List (ℚ × Bool)) (now : ℚ) : Prop :=
  ∃ before trip rest, failures = before ++ trip :: rest ∧ trip.2 = true ∧
    ((trip :: rest).map Prod.fst ++ [now]).IsChain fun earlier later => later - earlier ≤ window

theorem not_staysOpen_nil (window now : ℚ) : ¬ StaysOpen window [] now := by
  rintro ⟨before, trip, rest, split, -⟩
  simp at split

theorem isChain_concat_concat {times : List ℚ} {window time now : ℚ} :
    (times ++ [time] ++ [now]).IsChain (fun earlier later => later - earlier ≤ window) ↔
      (times ++ [time]).IsChain (fun earlier later => later - earlier ≤ window) ∧
        now - time ≤ window := by
  rw [List.append_assoc, List.singleton_append, List.isChain_append_cons_cons]
  simp

/-- One more failure keeps open what was open when it came, or trips itself. -/
theorem staysOpen_concat {window : ℚ} {failures : List (ℚ × Bool)} {time now : ℚ} {opened : Bool} :
    StaysOpen window (failures ++ [(time, opened)]) now ↔
      now - time ≤ window ∧ (opened = true ∨ StaysOpen window failures time) := by
  constructor
  · rintro ⟨before, trip, rest, split, tripped, chain⟩
    rcases concat_eq_append_cons_iff.mp split with ⟨-, rfl, rfl⟩ | ⟨rest', rfl, rfl⟩
    · simp only [List.map_cons, List.map_nil, List.singleton_append, List.isChain_pair] at chain
      exact ⟨chain, .inl tripped⟩
    · rw [← List.cons_append, List.map_append, List.map_singleton, isChain_concat_concat] at chain
      exact ⟨chain.2, .inr ⟨before, trip, rest', rfl, tripped, chain.1⟩⟩
  · rintro ⟨close, tripped | ⟨before, trip, rest, rfl, tripped, chain⟩⟩
    · exact ⟨failures, (time, opened), [], rfl, tripped, by simpa using close⟩
    · refine ⟨before, trip, rest ++ [(time, opened)], by simp, tripped, ?_⟩
      rw [← List.cons_append, List.map_append, List.map_singleton, isChain_concat_concat]
      exact ⟨chain, close⟩

namespace CircuitBreaker

variable {π ν : Type} (host : Host) (breaker : CircuitBreaker π ν)

/-- The failures of a tool since its last explicit reset: when they came and how
`record_failure` answered, after one more call with its answer. -/
def answeredAfter (toolName : Str) (failures : List (ℚ × Bool))
    (entry : BreakerCall π × Except Exc (Option Bool)) : List (ℚ × Bool) :=
  match entry.1.operation, entry.2 with
  | .recordFailure other _ _, .ok (some opened) =>
      if other = toolName then failures ++ [(entry.1.readings 0, opened)] else failures
  | .reset (some other), _ => if other = toolName then [] else failures
  | .reset none, _ => []
  | _, _ => failures

def answeredFailures (toolName : Str) (log : List (BreakerCall π × Except Exc (Option Bool))) :
    List (ℚ × Bool) :=
  log.foldl (answeredAfter toolName) []

/-- A failure of the tool does not come to a circuit that a quiet window should have closed, and
is not older than the window when the breaker prunes its list. -/
def Seamless (toolName : Str) (state : BreakerState ν) (call : BreakerCall π) : Prop :=
  ∀ parameters errorType signature,
    call.operation = .recordFailure toolName parameters errorType →
      breaker.buildSignature host parameters = .ok signature →
        ((state.openCircuits.get? toolName).isSome →
          breaker.opensAt (call.readings 0) toolName state = true ∨
            breaker.failureThreshold ≤ 1) ∧
        (call.readings 1 - call.readings 0 < breaker.windowSeconds ∨
          (state.openCircuits.get? toolName).isNone ∧ 1 ≤ breaker.failureThreshold)

/-- Every call of the run is seamless where it comes. -/
def AllSeamless (toolName : Str) (calls : List (BreakerCall π)) : Prop :=
  ∀ before call rest, calls = before ++ call :: rest →
    breaker.Seamless host toolName
      (after (breaker.perform host) before BreakerState.initial) call

/-- What the breaker answers from now on is what the log of its calls says. -/
structure Observes (toolName : Str) (log : List (BreakerCall π × Except Exc (Option Bool)))
    (state : BreakerState ν) : Prop where
  answer : ∀ now, (∀ entry ∈ log, ∀ n, entry.1.readings n ≤ now) →
    (breaker.opensAt now toolName state = true ↔
      StaysOpen breaker.windowSeconds (answeredFailures toolName log) now)
  past : ∀ now, (∀ entry ∈ log, ∀ n, entry.1.readings n ≤ now) →
    ∀ record ∈ state.failuresOf toolName, record.timestamp ≤ now

variable {host breaker} {call : BreakerCall π} {state : BreakerState ν} {toolName : Str}

theorem opensAt_of_latest {now latest : ℚ} (newest : lastFailure toolName state = latest) :
    breaker.opensAt now toolName state = true ↔
      (state.openCircuits.get? toolName).isSome ∧ now - latest ≤ breaker.windowSeconds := by
  simp [opensAt, newest]

theorem opensAt_of_closed {now : ℚ} (closed : (state.openCircuits.get? toolName).isNone) :
    breaker.opensAt now toolName state = false := by
  rw [Option.isNone_iff_eq_none] at closed
  simp [opensAt, closed]

theorem opensAt_congr {now : ℚ} {state' : BreakerState ν}
    (failures : state'.failuresOf toolName = state.failuresOf toolName)
    (circuits : state'.openCircuits.get? toolName = state.openCircuits.get? toolName) :
    breaker.opensAt now toolName state' = breaker.opensAt now toolName state := by
  simp only [opensAt, lastFailure, failures, circuits]

/-- `is_open` does not change what it will answer later. -/
theorem opensAt_askedState {now : ℚ} (later : call.readings 0 ≤ now) (other : Str) :
    breaker.opensAt now toolName (breaker.askedState host call other state) =
      breaker.opensAt now toolName state := by
  simp only [askedState, lookedUp]
  split
  · rfl
  · split
    · rfl
    · rename_i last found
      dsimp only
      split
      · rename_i quiet
        by_cases same : toolName = other
        · subst same
          have closed : ((state.reset toolName).openCircuits.get? toolName).isNone := by
            simp [BreakerState.reset, Dict.get?_erase]
          have lapsed : ¬ now - last ≤ breaker.windowSeconds := by
            apply not_le.mpr
            linarith
          have answer : breaker.opensAt now toolName state = false := by
            rw [Bool.eq_false_iff]
            exact fun opens => lapsed ((opensAt_of_latest found).mp opens).2
          rw [opensAt_of_closed closed, answer]
        · apply opensAt_congr
          · exact (BreakerState.failuresOf_reset _ _ _).trans (if_neg same)
          · exact (Dict.get?_erase _ _ _).trans (if_neg same)
      · rfl

/-- A failure is similar to itself. -/
theorem countSimilarFailures_pos {records : List (FailureRecord ν)} {record : FailureRecord ν}
    (mem : record ∈ records) : 0 < breaker.countSimilarFailures records record.signature := by
  rw [countSimilarFailures, List.countP_pos_iff]
  exact ⟨record, mem, by simp⟩

/-- Whether the circuit is open after a failure was recorded. -/
theorem openCircuits_recordedState (host : Host) (breaker : CircuitBreaker π ν)
    (call : BreakerCall π) (state : BreakerState ν) (toolName other : Str)
    (signature : RequestSignature ν) (errorType : Str) :
    ((breaker.recordedState host call other signature errorType state).openCircuits.get?
        toolName).isSome ↔
      toolName = other ∧ breaker.failureThreshold ≤ breaker.countSimilarFailures
          (breaker.keptFailures call other signature errorType state) signature ∨
        (state.openCircuits.get? toolName).isSome := by
  have stored := BreakerState.failuresOf_store other other
    ⟨signature, call.readings 0, errorType⟩ (call.readings 1 - breaker.windowSeconds) state
  rw [if_pos rfl] at stored
  change _ = breaker.keptFailures call other signature errorType state at stored
  simp only [recordedState, recordedWorld, storedState, stored]
  split
  · rename_i full
    rw [BreakerState.openCircuit, Dict.get?_set]
    by_cases same : toolName = other
    · simp [same, full]
    · simp only [same, if_false, false_and, false_or]
      rfl
  · rename_i few
    simp only [few, and_false, false_or]
    rfl

/-- Within the window a recorded failure is kept. -/
theorem mem_keptFailures {signature : RequestSignature ν} {errorType : Str}
    (young : call.readings 1 - call.readings 0 < breaker.windowSeconds) :
    (⟨signature, call.readings 0, errorType⟩ : FailureRecord ν) ∈
      breaker.keptFailures call toolName signature errorType state := by
  refine mem_since.mpr ⟨by simp, ?_⟩
  dsimp only
  linarith

/-- No kept failure is later than the recorded one. -/
theorem keptFailures_past {signature : RequestSignature ν} {errorType : Str}
    (past : ∀ record ∈ state.failuresOf toolName, record.timestamp ≤ call.readings 0) :
    ∀ record ∈ state.failuresOf toolName ++
        [(⟨signature, call.readings 0, errorType⟩ : FailureRecord ν)],
      record.timestamp ≤ call.readings 0 := by
  intro record mem
  rcases List.mem_append.mp mem with before | new
  · exact past record before
  · rw [List.mem_singleton.mp new]

/-- Within the window the recorded failure is the last one. -/
theorem lastFailure_recordedState {signature : RequestSignature ν} {errorType : Str}
    (past : ∀ record ∈ state.failuresOf toolName, record.timestamp ≤ call.readings 0)
    (young : call.readings 1 - call.readings 0 < breaker.windowSeconds) :
    lastFailure toolName (breaker.recordedState host call toolName signature errorType state) =
      (call.readings 0 : ℚ) := by
  have kept := failuresOf_recordedState host breaker call state toolName toolName signature
    errorType
  rw [if_pos rfl] at kept
  rw [lastFailure, kept, List.maximum_eq_coe_iff]
  refine ⟨List.mem_map.mpr ⟨_, mem_keptFailures young, rfl⟩, ?_⟩
  intro time listed
  obtain ⟨record, mem, rfl⟩ := List.mem_map.mp listed
  exact keptFailures_past past record (mem_since.mp mem).1

/-- A failure that is recorded when the window after it is over is dropped with all before it. -/
theorem keptFailures_eq_nil {signature : RequestSignature ν} {errorType : Str}
    (past : ∀ record ∈ state.failuresOf toolName, record.timestamp ≤ call.readings 0)
    (late : ¬ call.readings 1 - call.readings 0 < breaker.windowSeconds) :
    breaker.keptFailures call toolName signature errorType state = [] := by
  apply since_eq_nil
  intro record mem
  have old := keptFailures_past past record mem
  linarith

/-- After a failure that the condition admits, the circuit is open until a window after it, if
the failure tripped or came to an open circuit. -/
theorem opensAt_recordedState {parameters : π} {errorType : Str} {signature : RequestSignature ν}
    (seamless : breaker.Seamless host toolName state call)
    (operation : call.operation = .recordFailure toolName parameters errorType)
    (built : breaker.buildSignature host parameters = .ok signature)
    (past : ∀ record ∈ state.failuresOf toolName, record.timestamp ≤ call.readings 0)
    {now : ℚ} :
    breaker.opensAt now toolName
        (breaker.recordedState host call toolName signature errorType state) = true ↔
      now - call.readings 0 ≤ breaker.windowSeconds ∧
        (breaker.failureThreshold ≤ breaker.countSimilarFailures
            (breaker.keptFailures call toolName signature errorType state) signature ∨
          breaker.opensAt (call.readings 0) toolName state = true) := by
  obtain ⟨polled, short⟩ := seamless parameters errorType signature operation built
  have circuits := openCircuits_recordedState host breaker call state toolName toolName signature
    errorType
  by_cases young : call.readings 1 - call.readings 0 < breaker.windowSeconds
  · have similar : 0 < breaker.countSimilarFailures
        (breaker.keptFailures call toolName signature errorType state) signature :=
      countSimilarFailures_pos (mem_keptFailures young)
    rw [opensAt_of_latest (lastFailure_recordedState past young), circuits, and_comm]
    apply and_congr_right
    intro _
    constructor
    · rintro (⟨-, full⟩ | opened)
      · exact .inl full
      · rcases polled opened with live | single
        · exact .inr live
        · exact .inl (by omega)
    · rintro (full | live)
      · exact .inl ⟨rfl, full⟩
      · rcases closed : state.openCircuits.get? toolName with _ | openedAt
        · rw [opensAt_of_closed (by simp [closed])] at live
          cases live
        · exact .inr rfl
  · obtain ⟨closed, positive⟩ := short.resolve_left young
    have few : ¬ breaker.failureThreshold ≤ breaker.countSimilarFailures [] signature := by
      have none : breaker.countSimilarFailures [] signature = 0 := rfl
      omega
    rw [keptFailures_eq_nil past young] at circuits ⊢
    have shut : ((breaker.recordedState host call toolName signature errorType
        state).openCircuits.get? toolName).isNone := by
      rw [← Option.not_isSome_iff_eq_none.trans Option.isNone_iff_eq_none.symm, circuits]
      simp only [few, and_false, false_or]
      simpa using closed
    simp [opensAt_of_closed shut, opensAt_of_closed closed, few]

theorem answeredFailures_concat (toolName : Str)
    (log : List (BreakerCall π × Except Exc (Option Bool)))
    (entry : BreakerCall π × Except Exc (Option Bool)) :
    answeredFailures toolName (log ++ [entry]) =
      answeredAfter toolName (answeredFailures toolName log) entry := by
  simp [answeredFailures]

/-- A call that leaves the tool and what is known about it alone. -/
theorem Observes.frame {log : List (BreakerCall π × Except Exc (Option Bool))}
    (observes : Observes breaker toolName log state) {state' : BreakerState ν}
    {entry : BreakerCall π × Except Exc (Option Bool)}
    (ignored : answeredFailures toolName (log ++ [entry]) = answeredFailures toolName log)
    (answers : ∀ now, entry.1.readings 0 ≤ now →
      breaker.opensAt now toolName state' = breaker.opensAt now toolName state)
    (failures : ∀ record ∈ state'.failuresOf toolName, record ∈ state.failuresOf toolName) :
    Observes breaker toolName (log ++ [entry]) state' := by
  refine ⟨?_, ?_⟩
  · intro now late
    rw [ignored, answers now (late entry (by simp) 0)]
    exact observes.answer now fun entry mem => late entry (List.mem_append_left _ mem)
  · intro now late record mem
    exact observes.past now (fun entry mem => late entry (List.mem_append_left _ mem)) record
      (failures record mem)

theorem Observes.cleared {log : List (BreakerCall π × Except Exc (Option Bool))}
    (forgotten : answeredFailures toolName log = []) {state : BreakerState ν}
    (closed : (state.openCircuits.get? toolName).isNone)
    (failures : state.failuresOf toolName = []) :
    Observes breaker toolName log state := by
  refine ⟨?_, ?_⟩
  · intro now _
    rw [forgotten, opensAt_of_closed closed]
    simp [not_staysOpen_nil]
  · intro now _ record mem
    rw [failures] at mem
    cases mem

/-- A recorded failure of the tool. -/
theorem Observes.recorded {log : List (BreakerCall π × Except Exc (Option Bool))}
    (observes : Observes breaker toolName log state)
    (ordered : ∀ entry ∈ log, entry.1.Before call)
    (seamless : breaker.Seamless host toolName state call) {parameters : π} {errorType : Str}
    {signature : RequestSignature ν}
    (operation : call.operation = .recordFailure toolName parameters errorType)
    (built : breaker.buildSignature host parameters = .ok signature) :
    Observes breaker toolName (log ++ [(call, (breaker.perform host call state).1)])
      (breaker.perform host call state).2 := by
  have before : ∀ entry ∈ log, ∀ n, entry.1.readings n ≤ call.readings 0 :=
    fun entry mem n => ordered entry mem n 0
  have past := observes.past (call.readings 0) before
  rw [perform_recordFailure operation built]
  refine ⟨?_, ?_⟩
  · intro now _
    rw [opensAt_recordedState seamless operation built past, observes.answer _ before,
      answeredFailures_concat, answeredAfter]
    simp only [operation, if_true, staysOpen_concat, decide_eq_true_eq]
  · intro now late record mem
    have reached := late _ (List.mem_append_right _ (List.mem_singleton_self _)) 0
    rw [failuresOf_recordedState, if_pos rfl] at mem
    rcases List.mem_append.mp (mem_since.mp mem).1 with old | new
    · exact (past record old).trans reached
    · rw [List.mem_singleton.mp new]
      exact reached

/-- Whatever the call, the answers to come stay those that the log says. -/
theorem Observes.perform {log : List (BreakerCall π × Except Exc (Option Bool))}
    (observes : Observes breaker toolName log state)
    (ordered : ∀ entry ∈ log, entry.1.Before call)
    (seamless : breaker.Seamless host toolName state call) :
    Observes breaker toolName (log ++ [(call, (breaker.perform host call state).1)])
      (breaker.perform host call state).2 := by
  rcases operation : call.operation with ⟨other, parameters, errorType⟩ | other | _ | other
  · rcases built : breaker.buildSignature host parameters with exc | signature
    · rw [perform_of_unbuilt operation built]
      refine observes.frame ?_ (fun _ _ => rfl) fun _ mem => mem
      simp only [answeredFailures_concat, answeredAfter, operation]
    · by_cases same : other = toolName
      · subst same
        exact observes.recorded ordered seamless operation built
      · rw [perform_recordFailure operation built]
        obtain ⟨-, failures, circuits, -⟩ := recordedWorld_other
          { host with time := call.readings } breaker (Ne.symm same) signature errorType ⟨0, state⟩
        refine observes.frame ?_ (fun _ _ => opensAt_congr failures circuits) ?_
        · simp only [answeredFailures_concat, answeredAfter, operation, same, if_false]
        · intro record mem
          exact failures ▸ mem
  · rw [perform_isOpen operation]
    refine observes.frame ?_ (fun now late => opensAt_askedState late other) ?_
    · simp only [answeredFailures_concat, answeredAfter, operation]
    · intro record mem
      rcases failuresOf_askedState host breaker call state other toolName with kept | ⟨wiped, -⟩
      · rwa [kept] at mem
      · rw [wiped] at mem
        cases mem
  · rw [perform_resetAll operation]
    apply Observes.cleared
    · simp only [answeredFailures_concat, answeredAfter, operation]
    · rfl
    · rfl
  · rw [perform_reset operation]
    by_cases same : other = toolName
    · subst same
      apply Observes.cleared
      · simp only [answeredFailures_concat, answeredAfter, operation, if_true]
      · simp [BreakerState.reset, Dict.get?_erase]
      · rw [BreakerState.failuresOf_reset, if_pos rfl]
    · have failures : (state.reset other).failuresOf toolName = state.failuresOf toolName := by
        rw [BreakerState.failuresOf_reset, if_neg (Ne.symm same)]
      have circuits : (state.reset other).openCircuits.get? toolName =
          state.openCircuits.get? toolName := by
        rw [BreakerState.reset, Dict.get?_erase, if_neg (Ne.symm same)]
      refine observes.frame ?_ (fun _ _ => opensAt_congr failures circuits) ?_
      · simp only [answeredFailures_concat, answeredAfter, operation, same, if_false]
      · intro record mem
        rwa [failures] at mem

theorem allSeamless_nil : breaker.AllSeamless host toolName [] := by
  intro before call rest split
  simp at split

theorem allSeamless_concat {calls : List (BreakerCall π)} {call : BreakerCall π} :
    breaker.AllSeamless host toolName (calls ++ [call]) ↔
      breaker.AllSeamless host toolName calls ∧
        breaker.Seamless host toolName
          (after (breaker.perform host) calls BreakerState.initial) call := by
  constructor
  · intro seamless
    refine ⟨?_, seamless calls call [] rfl⟩
    intro before call' rest split
    apply seamless before call' (rest ++ [call])
    simp [split]
  · rintro ⟨earlier, here⟩ before call' rest split
    rcases concat_eq_append_cons_iff.mp split with ⟨rfl, rfl, rfl⟩ | ⟨rest', rfl, rfl⟩
    · exact here
    · exact earlier before call' rest' rfl

/-- In a run every call of which is admitted, the breaker answers what the log says. -/
theorem observes_after (host : Host) (breaker : CircuitBreaker π ν) {calls : List (BreakerCall π)}
    (ordered : calls.Pairwise BreakerCall.Before)
    (seamless : breaker.AllSeamless host toolName calls) :
    Observes breaker toolName (transcript (breaker.perform host) calls BreakerState.initial)
      (after (breaker.perform host) calls BreakerState.initial) := by
  induction calls using List.reverseRecOn with
  | nil => exact Observes.cleared rfl rfl rfl
  | append_singleton calls call ih =>
      obtain ⟨first, -, last⟩ := List.pairwise_append.mp ordered
      obtain ⟨before, here⟩ := allSeamless_concat.mp seamless
      have observes := ih first before
      simp only [transcript_append, transcript_cons, transcript_nil, after_append, after_cons,
        after_nil]
      apply observes.perform _ here
      intro entry mem
      exact last _ (mem_of_mem_transcript _ mem) call (List.mem_singleton_self call)

/-- The call only asks. -/
def asks (call : BreakerCall π) : Bool :=
  match call.operation with
  | .isOpen _ => true
  | _ => false

/-- The calls of a run that are not questions. -/
def withoutQuestions (calls : List (BreakerCall π)) : List (BreakerCall π) :=
  calls.filter fun call => !asks call

theorem remembered_of_asks (history : List (FailureRecord ν)) (asked : asks call = true) :
    breaker.remembered host toolName history call = history := by
  unfold asks at asked
  unfold remembered
  split at asked
  · rename_i other operation
    simp only [operation]
  · cases asked

theorem historyOf_withoutQuestions (calls : List (BreakerCall π)) :
    breaker.historyOf host toolName (withoutQuestions calls) =
      breaker.historyOf host toolName calls := by
  induction calls using List.reverseRecOn with
  | nil => rfl
  | append_singleton calls call ih =>
      rw [historyOf_concat, withoutQuestions, List.filter_append, ← withoutQuestions]
      rcases asked : asks call with _ | _
      · have kept : [call].filter (fun call => !asks call) = [call] := by simp [asked]
        rw [kept, historyOf_concat, ih]
      · have dropped : [call].filter (fun call => !asks call) = [] := by simp [asked]
        rw [dropped, List.append_nil, ih, remembered_of_asks _ asked]

/-- The answers of `record_failure` do not depend on the questions that were asked. -/
theorem answer_withoutQuestions {calls : List (BreakerCall π)} {parameters : π} {errorType : Str}
    (ordered : (calls ++ [call]).Pairwise BreakerCall.Before)
    (operation : call.operation = .recordFailure toolName parameters errorType) :
    (breaker.perform host call
        (after (breaker.perform host) (withoutQuestions calls) BreakerState.initial)).1 =
      (breaker.perform host call (after (breaker.perform host) calls BreakerState.initial)).1 := by
  rcases built : breaker.buildSignature host parameters with exc | signature
  · rw [perform_of_unbuilt operation built, perform_of_unbuilt operation built]
  · have thinned : (withoutQuestions calls ++ [call]).Pairwise BreakerCall.Before := by
      obtain ⟨first, single, last⟩ := List.pairwise_append.mp ordered
      apply List.pairwise_append.mpr ⟨first.filter _, single, ?_⟩
      intro earlier mem
      exact last earlier (List.mem_filter.mp mem).1
    rw [answer_of_history ordered operation built, answer_of_history thinned operation built,
      historyOf_concat, historyOf_concat, historyOf_withoutQuestions]

/-- Only the answers to failures of the tool are kept. -/
theorem answeredAfter_congr (failures : List (ℚ × Bool)) {answer answer' : Except Exc (Option Bool)}
    (same : ∀ parameters errorType,
      call.operation = .recordFailure toolName parameters errorType → answer = answer') :
    answeredAfter toolName failures (call, answer) =
      answeredAfter toolName failures (call, answer') := by
  unfold answeredAfter
  rcases operation : call.operation with ⟨other, parameters, errorType⟩ | other | _ | other
  · by_cases tool : other = toolName
    · subst tool
      rw [same parameters errorType operation]
    · rcases answer with _ | _ | opened <;> rcases answer' with _ | _ | opened' <;>
        simp only [tool, if_false]
  · rfl
  · rfl
  · rfl

theorem answeredAfter_of_asks (failures : List (ℚ × Bool)) (answer : Except Exc (Option Bool))
    (asked : asks call = true) : answeredAfter toolName failures (call, answer) = failures := by
  unfold asks at asked
  split at asked
  · rename_i other operation
    simp only [answeredAfter, operation]
  · cases asked

theorem answeredFailures_withoutQuestions {calls : List (BreakerCall π)}
    (ordered : calls.Pairwise BreakerCall.Before) :
    answeredFailures toolName (transcript (breaker.perform host) (withoutQuestions calls)
        BreakerState.initial) =
      answeredFailures toolName (transcript (breaker.perform host) calls BreakerState.initial) := by
  induction calls using List.reverseRecOn with
  | nil => rfl
  | append_singleton calls call ih =>
      have earlier := ih (List.pairwise_append.mp ordered).1
      rw [withoutQuestions, List.filter_append, ← withoutQuestions]
      rcases asked : asks call with _ | _
      · have kept : [call].filter (fun call => !asks call) = [call] := by simp [asked]
        simp only [kept, transcript_append, transcript_cons, transcript_nil,
          answeredFailures_concat, earlier]
        apply answeredAfter_congr
        intro parameters errorType operation
        exact answer_withoutQuestions ordered operation
      · have dropped : [call].filter (fun call => !asks call) = [] := by simp [asked]
        simp only [dropped, List.append_nil, transcript_append, transcript_cons, transcript_nil,
          answeredFailures_concat, earlier, answeredAfter_of_asks _ _ asked]

/-- In seamless runs `is_open` answers exactly, and asking or not makes no difference later. -/
theorem isOpen_exact_of_seamless (host : Host) (breaker : CircuitBreaker π ν) (toolName : Str)
    {calls : List (BreakerCall π)} (ordered : calls.Pairwise BreakerCall.Before)
    (seamless : breaker.AllSeamless host toolName calls) {call : BreakerCall π}
    (later : ∀ earlier ∈ calls, earlier.Before call) :
    (call.operation = .isOpen toolName →
      ((breaker.perform host call
          (after (breaker.perform host) calls BreakerState.initial)).1 = .ok (some true) ↔
        StaysOpen breaker.windowSeconds
          (answeredFailures toolName
            (transcript (breaker.perform host) calls BreakerState.initial))
          (call.readings 0))) ∧
    ∀ calls', calls'.Pairwise BreakerCall.Before → breaker.AllSeamless host toolName calls' →
      withoutQuestions calls' = withoutQuestions calls →
      (∀ earlier ∈ calls', earlier.Before call) →
      (∀ other, call.operation = .isOpen other → other = toolName) →
        (breaker.perform host call
            (after (breaker.perform host) calls' BreakerState.initial)).1 =
          (breaker.perform host call
            (after (breaker.perform host) calls BreakerState.initial)).1 := by
  have exact : ∀ {run : List (BreakerCall π)}, run.Pairwise BreakerCall.Before →
      breaker.AllSeamless host toolName run → (∀ earlier ∈ run, earlier.Before call) →
      (breaker.opensAt (call.readings 0) toolName
          (after (breaker.perform host) run BreakerState.initial) = true ↔
        StaysOpen breaker.windowSeconds (answeredFailures toolName
          (transcript (breaker.perform host) run BreakerState.initial)) (call.readings 0)) := by
    intro run sorted fine before
    apply (observes_after host breaker sorted fine).answer
    intro entry mem n
    exact before _ (mem_of_mem_transcript _ mem) n 0
  constructor
  · intro operation
    rw [perform_isOpen operation, ← exact ordered seamless later]
    simp
  · intro calls' ordered' seamless' same later' own
    rcases operation : call.operation with ⟨other, parameters, errorType⟩ | other | _ | other
    · have single : ∀ {run : List (BreakerCall π)}, run.Pairwise BreakerCall.Before →
          (∀ earlier ∈ run, earlier.Before call) →
          (run ++ [call]).Pairwise BreakerCall.Before := by
        intro run sorted before
        refine List.pairwise_append.mpr ⟨sorted, List.pairwise_singleton _ _, ?_⟩
        intro earlier mem last isLast
        rw [List.mem_singleton.mp isLast]
        exact before earlier mem
      rw [← answer_withoutQuestions (single ordered later) operation, ← same,
        answer_withoutQuestions (single ordered' later') operation]
    · cases own other operation
      rw [perform_isOpen operation, perform_isOpen operation]
      have answers := exact ordered seamless later
      rw [← answeredFailures_withoutQuestions ordered, ← same,
        answeredFailures_withoutQuestions ordered', ← exact ordered' seamless' later'] at answers
      simp only [Bool.eq_iff_iff.mpr answers]
    · rw [perform_resetAll operation, perform_resetAll operation]
    · rw [perform_reset operation, perform_reset operation]

end CircuitBreaker

namespace Sample

/-- The circuit trips at the first second; nobody asks before it fails again at the hundredth. -/
def unasked : List (BreakerCall Str) := [failAt 0, failAt 1, failAt 100]

/-- A circuit that nobody polled in its quiet window is open after a single failure. -/
theorem unasked_circuit_stays_open :
    ¬ ∀ (host : Host) (breaker : CircuitBreaker Str Unit) (toolName : Str)
      (calls : List (BreakerCall Str)) (call : BreakerCall Str), 0 < breaker.windowSeconds →
      (calls ++ [call]).Pairwise BreakerCall.Before → call.operation = .isOpen toolName →
      ((breaker.perform host call
          (after (breaker.perform host) calls BreakerState.initial)).1 = .ok (some true) ↔
        StaysOpen breaker.windowSeconds
          (CircuitBreaker.answeredFailures toolName
            (transcript (breaker.perform host) calls BreakerState.initial))
          (call.readings 0)) := by
  intro claim
  have ordered : (unasked ++ [askAt 101]).Pairwise BreakerCall.Before := by
    norm_num [unasked, failAt, askAt]
  have answered : CircuitBreaker.answeredFailures (py "search")
      (transcript (tenSeconds.perform steadyHost) unasked BreakerState.initial) =
        [(0, false), (1, true)] ++ [(100, false)] := by decide +kernel
  have opened : tenSeconds.opensAt ((askAt 101).readings 0) (py "search")
      (after (tenSeconds.perform steadyHost) unasked BreakerState.initial) = true := by
    decide +kernel
  have stays := (claim steadyHost tenSeconds (py "search") unasked (askAt 101) (by decide) ordered
    rfl).mp
  rw [answered, staysOpen_concat, CircuitBreaker.perform_isOpen rfl] at stays
  have since := (stays (by rw [opened])).2
  have split : [((0 : ℚ), false), (1, true)] = [(0, false)] ++ [(1, true)] := rfl
  rw [split, staysOpen_concat] at since
  norm_num [tenSeconds] at since

/-- Two failures in a row are seamless, and `is_open` reports the circuit they trip. -/
theorem two_failures_open :
    (tenSeconds.perform steadyHost (askAt 5) (after (tenSeconds.perform steadyHost)
      [failAt 0, failAt 1] BreakerState.initial)).1 = .ok (some true) := by
  have ordered : [failAt 0, failAt 1].Pairwise BreakerCall.Before := by
    norm_num [failAt]
  have later : ∀ earlier ∈ [failAt 0, failAt 1], earlier.Before (askAt 5) := by
    norm_num [failAt, askAt]
  have short : ∀ time, (failAt time).readings 1 - (failAt time).readings 0 <
      tenSeconds.windowSeconds := by
    norm_num [failAt, BreakerCall.moment, tenSeconds]
  have seamless : tenSeconds.AllSeamless steadyHost (py "search")
      ([] ++ [failAt 0] ++ [failAt 1]) := by
    rw [CircuitBreaker.allSeamless_concat, CircuitBreaker.allSeamless_concat]
    refine ⟨⟨CircuitBreaker.allSeamless_nil, ?_⟩, ?_⟩
    · rintro _ _ _ ⟨⟩ _
      exact ⟨fun opened => absurd opened (by decide), .inl (short 0)⟩
    · rintro _ _ _ ⟨⟩ _
      exact ⟨fun opened => absurd opened (by decide +kernel), .inl (short 1)⟩
  have answered : CircuitBreaker.answeredFailures (py "search")
      (transcript (tenSeconds.perform steadyHost) [failAt 0, failAt 1] BreakerState.initial) =
        [(0, false)] ++ [(1, true)] := by decide +kernel
  have exact := (CircuitBreaker.isOpen_exact_of_seamless steadyHost tenSeconds (py "search")
    ordered seamless later).1 rfl
  rw [answered, staysOpen_concat] at exact
  exact exact.mpr ⟨by norm_num [askAt, BreakerCall.moment, tenSeconds], .inl rfl⟩

end Sample

end AgentOS
