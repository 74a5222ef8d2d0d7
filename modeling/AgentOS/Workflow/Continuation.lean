import AgentOS.Workflow.Decisions
import AgentOS.Workflow.Restart

/-!
# Continuing a suspended run

What an uninterrupted `resume` of a waiting run executes. The decision is compared with
`REJECTED` only, and the next step is the one behind the stored index, in whatever
definition is passed.
-/

namespace AgentOS

open Python Cooperative

namespace SOPEngine

variable {host : Host} {rdf : RdfLib} {engine : SOPEngine} {sop : SOPDefinition}
  {ctx : SOPRunContext} {decision : Str} {reason approverId : Json} {world : EngineWorld}

/-- Between two worlds the steps of a run with these indices were executed, in this order. -/
def Executed (runId : Str) (world final : EngineWorld) (indices : List ℕ) : Prop :=
  ∃ during, final.state.history = during ++ world.state.history ∧
    (executions runId during).map Prod.fst = indices

theorem Executed.unique {runId : Str} {final : EngineWorld} {indices others : List ℕ}
    (executed : Executed runId world final indices)
    (executed' : Executed runId world final others) :
    indices = others := by
  rcases executed with ⟨during, noted, rfl⟩
  rcases executed' with ⟨during', noted', rfl⟩
  rw [noted, List.append_left_inj] at noted'
  rw [noted']

theorem executed_of_history {runId : Str} {final : EngineWorld}
    (same : final.state.history = world.state.history) : Executed runId world final [] :=
  ⟨[], same, rfl⟩

theorem Executed.from {runId : Str} {middle final : EngineWorld} {indices : List ℕ}
    (executed : Executed runId middle final indices)
    (same : middle.state.history = world.state.history) : Executed runId world final indices := by
  rcases executed with ⟨during, noted, rfl⟩
  exact ⟨during, by rw [noted, same], rfl⟩

/-- A run executes the steps from its index on, and the first one in any case. -/
theorem run_executed (engine : SOPEngine) (host : Host) (rdf : RdfLib) (sop : SOPDefinition)
    (ctx : SOPRunContext) (world : EngineWorld) :
    ∃ count, Executed ctx.runId world ((engine.run host rdf sop ctx).run world).2
        (List.range' ctx.currentStepIndex count) ∧
      (0 < count ↔ ctx.currentStepIndex < sop.steps.length) := by
  by_cases inside : ctx.currentStepIndex < sop.steps.length
  · rcases runSteps_executions engine host rdf (sop.steps.drop ctx.currentStepIndex)
      ctx.currentStepIndex { ctx with state := .running } world with
      ⟨during, count, noted, indices, goes⟩
    refine ⟨count, ⟨during, noted, indices⟩, ?_⟩
    have positive : 0 < count := goes (by simpa using inside)
    simp [positive, inside]
  · have nothing : sop.steps.drop ctx.currentStepIndex = [] := List.drop_eq_nil_iff.mpr (by omega)
    rcases save_during engine { ctx with state := .completed } ctx.runId world with
      ⟨during, noted, idle⟩
    refine ⟨0, ⟨during, ?_, by simp [idle]⟩, by simp [inside]⟩
    rw [run, nothing, runSteps_nil]
    revert noted
    rcases engine.save { ctx with state := .completed } world with ⟨exc | ⟨⟩, final⟩ <;>
      exact fun noted => noted

/-- The decision can be recorded, or there is no database for it. -/
def Accepted (host : Host) (engine : SOPEngine) (ctx : SOPRunContext) (decision : Str)
    (reason approverId : Json) (world : EngineWorld) : Prop :=
  engine.feedbackDb = true → ∃ recorded, insertFeedback host (ctx.answer decision reason approverId)
    decision reason approverId world = (.ok (), recorded)

/-- A decision that cannot be recorded leaves everything as it was. -/
theorem insertFeedback_error {exc : Exc} {final : EngineWorld}
    (raised : insertFeedback host ctx decision reason approverId world = (.error exc, final)) :
    final.state = world.state := by
  by_cases decided : isDecision decision = true
  · rw [insertFeedback_apply host ctx decided] at raised
    revert raised
    rcases FeedbackTable.insertFeedback host ctx.runId approverId decision reason
      (ctx.originalOutput host) (host.isoFormat (host.time world.tick)) world.state.feedback with
      other | table
    · rintro ⟨⟩
      rfl
    · rintro ⟨⟩
  · have undecided : isDecision decision = false := by simpa using decided
    simp only [insertFeedback, raiseIf, undecided, if_true, Action.bind_apply,
      Action.throw_apply] at raised
    cases raised
    rfl

/-- A decision that is not accepted raises before anything is executed or saved. -/
theorem resume_of_refused (rdf : RdfLib) (sop : SOPDefinition) (suspended : ctx.state = .suspended)
    (refused : ¬ Accepted host engine ctx decision reason approverId world) :
    ∃ exc final, (engine.resume host rdf sop ctx decision reason approverId).run world =
      (.error exc, final) ∧ final.state = world.state := by
  unfold Accepted at refused
  push Not at refused
  rcases refused with ⟨records, unrecorded⟩
  rcases inserted : insertFeedback host (ctx.answer decision reason approverId) decision reason
    approverId world with ⟨exc | ⟨⟩, final⟩
  · refine ⟨exc, final, ?_, insertFeedback_error inserted⟩
    rw [resume_recording suspended records]
    exact Coro.run_bind_of_error ((Coro.run_sync _ _).trans inserted)
  · exact absurd inserted (unrecorded final)

/-- An accepted decision leads on from a world in which nothing was executed or saved since. -/
theorem resume_of_accepted (rdf : RdfLib) (sop : SOPDefinition) (suspended : ctx.state = .suspended)
    (accepted : Accepted host engine ctx decision reason approverId world) :
    ∃ recorded : EngineWorld, recorded.state.history = world.state.history ∧
      recorded.state.runs = world.state.runs ∧
      (engine.resume host rdf sop ctx decision reason approverId).run world =
        (engine.proceed host rdf sop (ctx.answer decision reason approverId) decision).run
          recorded := by
  rcases wired : engine.feedbackDb with _ | _
  · exact ⟨world, rfl, rfl, by rw [resume_unrecorded suspended wired]⟩
  · rcases accepted wired with ⟨recorded, inserted⟩
    rcases insertFeedback_run inserted with ⟨runs, history, -⟩
    refine ⟨recorded, history, runs, ?_⟩
    rw [resume_recording suspended wired]
    exact Coro.run_bind_of_ok ((Coro.run_sync _ _).trans inserted)

/-- A rejection executes nothing. -/
theorem proceed_rejected (engine : SOPEngine) (host : Host) (rdf : RdfLib) (sop : SOPDefinition)
    (ctx : SOPRunContext) (world : EngineWorld) :
    Executed ctx.runId world
      ((engine.proceed host rdf sop ctx (py "REJECTED")).run world).2 [] := by
  rcases save_during engine { ctx with state := .rejected } ctx.runId world with
    ⟨during, noted, idle⟩
  refine ⟨during, ?_, by simp [idle]⟩
  simp only [proceed, if_true, Coro.run_bind, Coro.run_sync]
  revert noted
  rcases engine.save { ctx with state := .rejected } world with ⟨exc | ⟨⟩, final⟩ <;>
    exact fun noted => noted

/-- Every other decision executes the steps behind the index. -/
theorem proceed_executed (engine : SOPEngine) (host : Host) (rdf : RdfLib) (sop : SOPDefinition)
    (ctx : SOPRunContext) (world : EngineWorld) (other : decision ≠ py "REJECTED") :
    ∃ count, Executed ctx.runId world ((engine.proceed host rdf sop ctx decision).run world).2
        (List.range' (ctx.currentStepIndex + 1) count) ∧
      (0 < count ↔ ctx.currentStepIndex + 1 < sop.steps.length) := by
  rw [proceed, if_neg other]
  exact run_executed engine host rdf sop
    { ctx with state := .approved, currentStepIndex := ctx.currentStepIndex + 1 } world

/-- What a resume executes: nothing when it is refused or rejected, and otherwise the steps behind
the stored index. -/
theorem resume_executed (engine : SOPEngine) (host : Host) (rdf : RdfLib) (sop : SOPDefinition)
    (suspended : ctx.state = .suspended) (decision : Str) (reason approverId : Json)
    (world : EngineWorld) :
    ∃ count, Executed ctx.runId world
        ((engine.resume host rdf sop ctx decision reason approverId).run world).2
        (List.range' (ctx.currentStepIndex + 1) count) ∧
      (0 < count ↔ Accepted host engine ctx decision reason approverId world ∧
        decision ≠ py "REJECTED" ∧ ctx.currentStepIndex + 1 < sop.steps.length) := by
  by_cases accepted : Accepted host engine ctx decision reason approverId world
  · rcases resume_of_accepted rdf sop suspended accepted with ⟨recorded, history, -, goesOn⟩
    rw [goesOn]
    by_cases rejected : decision = py "REJECTED"
    · subst rejected
      refine ⟨0, ?_, by simp⟩
      exact (proceed_rejected engine host rdf sop (ctx.answer _ reason approverId) recorded).from
        history
    · rcases proceed_executed engine host rdf sop (ctx.answer decision reason approverId) recorded
        rejected with ⟨count, executed, goes⟩
      refine ⟨count, executed.from history, goes.trans ?_⟩
      simp [accepted, rejected, SOPRunContext.answer]
  · rcases resume_of_refused rdf sop suspended accepted with ⟨exc, final, raised, same⟩
    refine ⟨0, ?_, by simp [accepted]⟩
    rw [raised]
    exact executed_of_history (congrArg EngineState.history same)

/-! ### Failing closed -/

/-- A decision other than `APPROVED` executes nothing exactly when the decisions are recorded, or it
is a rejection, or the approval step was the last one. -/
theorem other_decision_idle_iff (engine : SOPEngine) (host : Host) (rdf : RdfLib)
    (sop : SOPDefinition) (suspended : ctx.state = .suspended) (other : decision ≠ py "APPROVED")
    (reason approverId : Json) (world : EngineWorld) :
    Executed ctx.runId world
        ((engine.resume host rdf sop ctx decision reason approverId).run world).2 [] ↔
      engine.feedbackDb = true ∨ decision = py "REJECTED" ∨
        sop.steps.length ≤ ctx.currentStepIndex + 1 := by
  rcases resume_executed engine host rdf sop suspended decision reason approverId world with
    ⟨count, executed, goes⟩
  have idle : Executed ctx.runId world
      ((engine.resume host rdf sop ctx decision reason approverId).run world).2 [] ↔
        ¬ 0 < count := by
    constructor
    · intro nothing positive
      have empty := congrArg List.length (nothing.unique executed)
      simp at empty
      omega
    · intro nothing
      have zero : count = 0 := by omega
      subst zero
      exact executed
  rw [idle, goes]
  by_cases rejected : decision = py "REJECTED"
  · simp [rejected]
  · have undecided : isDecision decision = false := by simp [isDecision, other, rejected]
    have accepted : Accepted host engine ctx decision reason approverId world ↔
        engine.feedbackDb = false := by
      constructor
      · intro accepted
        by_contra records
        rcases accepted (by simpa using records) with ⟨recorded, inserted⟩
        simp [insertFeedback, raiseIf, undecided, Action.bind_apply] at inserted
      · intro absent records
        rw [absent] at records
        cases records
    rw [accepted]
    rcases engine.feedbackDb with _ | _ <;> simp [rejected]

end SOPEngine

namespace Sample

open SOPEngine

/-- An engine without a feedback database. -/
def unrecorded : SOPEngine := { engine with feedbackDb := false }

/-- A run that waits on its first step. -/
def waitingRun : SOPRunContext :=
  { newContext data with state := .suspended, suspendedStepId := some (py "approve") }

theorem waitingRun_suspended : waitingRun.state = .suspended := rfl

/-- The data are approved and then written. -/
def approvedWrite : SOPDefinition :=
  ⟨py "onboarding", [sopStep (py "approve") .humanApproval, sopStep (py "write") .action]⟩

/-- Without a feedback database a decision in small letters approves. -/
theorem small_letters_approve : ¬ Executed (py "run-1") newWorld
    ((unrecorded.resume steadyHost rdf approvedWrite waitingRun (py "approved") .null
      (.str (py "boss"))).run newWorld).2 [] := by
  intro idle
  rcases resume_executed unrecorded steadyHost rdf approvedWrite waitingRun_suspended
    (py "approved") .null (.str (py "boss")) newWorld with ⟨count, executed, goes⟩
  have zero := congrArg List.length (idle.unique executed)
  have positive : 0 < count := by
    apply goes.mpr
    refine ⟨fun records => ?_, by decide, by decide⟩
    cases records
  simp at zero
  omega

theorem small_letters_refused : Executed (py "run-1") newWorld
    ((engine.resume steadyHost rdf approvedWrite waitingRun (py "approved") .null
      (.str (py "boss"))).run newWorld).2 [] :=
  (SOPEngine.other_decision_idle_iff engine steadyHost rdf approvedWrite waitingRun_suspended
    (by decide) .null (.str (py "boss")) newWorld).mpr (.inl rfl)

end Sample

namespace SOPEngine

variable {host : Host} {rdf : RdfLib} {engine : SOPEngine} {sop : SOPDefinition}
  {ctx : SOPRunContext} {reason approverId : Json} {world : EngineWorld}

/-! ### The next step -/

/-- The step on which a run waits stands in the definition, at one place only. -/
def WaitsAt (sop : SOPDefinition) (ctx : SOPRunContext) (place : ℕ) : Prop :=
  ∃ stepId, ctx.suspendedStepId = some stepId ∧
    ∀ i, (∃ step, sop.steps[i]? = some step ∧ step.id = stepId) ↔ i = place

/-- An accepted approval executes as its next step the one behind a place, if there is one, and
then only steps behind it. -/
def ContinuesBehind (host : Host) (rdf : RdfLib) (engine : SOPEngine) (sop : SOPDefinition)
    (ctx : SOPRunContext) (reason approverId : Json) (world : EngineWorld) (place : ℕ) : Prop :=
  Accepted host engine ctx (py "APPROVED") reason approverId world →
    ∃ count, Executed ctx.runId world
        ((engine.resume host rdf sop ctx (py "APPROVED") reason approverId).run world).2
        (List.range' (place + 1) count) ∧
      (0 < count ↔ place + 1 < sop.steps.length)

/-- The run goes on behind the step on which it waits exactly when the approval is not accepted, or
the stored index is the place of the step in the definition, or nothing follows either. -/
theorem continuesBehind_iff (engine : SOPEngine) (host : Host) (rdf : RdfLib) {sop : SOPDefinition}
    (suspended : ctx.state = .suspended) (reason approverId : Json) (world : EngineWorld)
    {place : ℕ}
    (waits : WaitsAt sop ctx place) :
    ContinuesBehind host rdf engine sop ctx reason approverId world place ↔
      ¬ Accepted host engine ctx (py "APPROVED") reason approverId world ∨
        ctx.currentStepIndex = place ∨
        (sop.steps.length = place + 1 ∧ sop.steps.length ≤ ctx.currentStepIndex + 1) := by
  have other : py "APPROVED" ≠ py "REJECTED" := by decide
  rcases resume_executed engine host rdf sop suspended (py "APPROVED") reason approverId world with
    ⟨count, executed, goes⟩
  have inside : place < sop.steps.length := by
    rcases waits with ⟨stepId, -, stands⟩
    rcases (stands place).mpr rfl with ⟨step, found, -⟩
    exact (List.getElem?_eq_some_iff.mp found).1
  by_cases accepted : Accepted host engine ctx (py "APPROVED") reason approverId world
  · simp only [accepted, other, ne_eq, not_false_eq_true, true_and] at goes
    simp only [ContinuesBehind, accepted, forall_const, not_true_eq_false, false_or]
    constructor
    · rintro ⟨count', executed', goes'⟩
      rcases range'_inj (executed'.unique executed) with ⟨rfl, heads⟩
      omega
    · intro condition
      rcases condition with rfl | ⟨last, beyond⟩
      · exact ⟨count, executed, goes⟩
      · have zero : count = 0 := by omega
        subst zero
        exact ⟨0, executed, by omega⟩
  · simp [ContinuesBehind, accepted]

end SOPEngine

namespace Sample

open SOPEngine

/-- A check was put before the approval. -/
def reordered : SOPDefinition :=
  ⟨py "onboarding", [sopStep (py "check") .notify, sopStep (py "approve") .humanApproval,
    sopStep (py "write") .action]⟩

theorem accepted_once : Accepted steadyHost engine waitingRun (py "APPROVED") .null
    (.str (py "boss")) newWorld := by
  intro _
  have plain : waitingRun.toJson.encodable = true := by decide
  rcases insertFeedback_cases steadyHost newWorld
    (by decide : isDecision (py "APPROVED") = true) none
    (py "boss") plain with ⟨-, inserted⟩ | ⟨refused, -⟩
  · exact ⟨_, inserted⟩
  · exact absurd ⟨rfl, rfl, by decide⟩ refused

/-- The approved run executes the approval step once more. -/
theorem reordered_asks_again : WaitsAt reordered waitingRun 1 ∧
    ¬ ContinuesBehind steadyHost rdf engine reordered waitingRun .null (.str (py "boss")) newWorld
      1 := by
  refine ⟨⟨py "approve", rfl, fun i => ?_⟩, fun behind => ?_⟩
  · rcases i with _ | _ | _ | i <;> simp [reordered, sopStep, py]
  · rcases behind accepted_once with ⟨count, executed, goes⟩
    rcases resume_executed engine steadyHost rdf reordered waitingRun_suspended (py "APPROVED")
      .null (.str (py "boss")) newWorld with ⟨count', executed', -⟩
    have positive : 0 < count := goes.mpr (by decide)
    have heads := (range'_inj (executed.unique executed')).2 positive
    cases heads

theorem approval_continues : ContinuesBehind steadyHost rdf engine approvedWrite waitingRun .null
    (.str (py "boss")) newWorld 0 := by
  have waits : WaitsAt approvedWrite waitingRun 0 := by
    refine ⟨py "approve", rfl, fun i => ?_⟩
    rcases i with _ | _ | i <;> simp [approvedWrite, sopStep, py]
  exact (SOPEngine.continuesBehind_iff engine steadyHost rdf waitingRun_suspended .null
    (.str (py "boss")) newWorld waits).mpr (.inr (.inl rfl))

end Sample

end AgentOS
