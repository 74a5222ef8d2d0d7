import AgentOS.Governance.GovernedWrite
import AgentOS.Workflow.SopEngine

/-!
# What a step does

A step changes nothing that belongs to the engine: it reads and writes the gate, hands over
cards, and of the context it changes only the data, and the state when it suspends the run.
-/

namespace AgentOS

open Python Cooperative

/-- The context a step leaves behind: only the data differ, unless an approval suspended the run. -/
inductive Stepped (step : SOPStep) (ctx : SOPRunContext) : StepOutcome → Prop where
  | went (result : Except Exc Json) (data : Dict Str Json) :
      Stepped step ctx (result, { ctx with data })
  | suspended (result : Json) (data : Dict Str Json) (asks : step.type = .humanApproval) :
      Stepped step ctx (.ok result, { ctx with data }.suspend step)

/-- A step never raises: its exception is part of its outcome. -/
def StepEnds (step : SOPStep) (ctx : SOPRunContext) (result : Except Exc StepOutcome) : Prop :=
  ∃ outcome, result = .ok outcome ∧ Stepped step ctx outcome

theorem stepEnds_went (step : SOPStep) (ctx : SOPRunContext) (result : Except Exc Json)
    (data : Dict Str Json) : StepEnds step ctx (.ok (result, { ctx with data })) :=
  ⟨_, rfl, .went result data⟩

namespace SOPEngine

def recordsOf (world : EngineWorld) : RunTable × FeedbackTable × List EngineEvent :=
  world.state.records

variable {κ : Type} {view : EngineState → κ} {step : SOPStep}

theorem atGate_keeps {α : Type} (stable : ∀ gate engine, view (EngineState.setGate gate engine) =
    view engine) (body : Coro Exc GateWorld α) :
    (atGate body).Keeps (fun world => view world.state) fun _ => True := by
  apply Coro.keeps_zoom
  · exact fun inner world => stable inner.state world.state
  · exact fun _ => trivial

theorem stepValidate_keeps (stable : ∀ gate engine, view (EngineState.setGate gate engine) =
    view engine) (host : Host) (rdf : RdfLib) (engine : SOPEngine) (step : SOPStep)
    (ctx : SOPRunContext) :
    (engine.stepValidate host rdf step ctx).Keeps (fun world => view world.state)
      (StepEnds step ctx) := by
  unfold stepValidate
  split
  · dsimp only
    split
    · apply Coro.keeps_attempt_bind (atGate_keeps stable _)
      rintro (exc | ⟨report, nonce⟩) -
      · exact stepEnds_went step ctx (.error exc) ctx.data
      · dsimp only
        split
        · exact stepEnds_went step ctx _ _
        · exact stepEnds_went step ctx _ ctx.data
    · exact stepEnds_went step ctx _ ctx.data
  · exact stepEnds_went step ctx _ ctx.data

theorem triggers_apply (engine : SOPEngine) (step : SOPStep) (data : Dict Str Json)
    (world : EngineWorld) : ∃ triggered tick,
      engine.triggers step data world = (.ok triggered, ⟨tick, world.state⟩) := by
  unfold triggers
  split
  · exact ⟨_, _, rfl⟩
  · exact ⟨_, _, rfl⟩

theorem triggers_keeps (view : EngineState → κ) (engine : SOPEngine) (step : SOPStep)
    (data : Dict Str Json) :
    (Coro.sync (engine.triggers step data)).Keeps (fun world => view world.state) fun result =>
      ∃ triggered, result = .ok triggered := by
  apply Coro.keeps_sync
  · intro world
    rcases triggers_apply engine step data world with ⟨_, _, ran⟩
    rw [ran]
  · intro world
    rcases triggers_apply engine step data world with ⟨triggered, _, ran⟩
    exact ⟨triggered, by rw [ran]⟩

theorem outcome_keeps {α : Type} (view : EngineState → κ) (source : ℕ → Except Exc α) :
    (Coro.sync (Timed.outcome source)).Keeps (fun world => view world.state) fun _ => True :=
  Coro.keeps_sync (fun _ => rfl) fun _ => trivial

theorem sendCard_keeps (unseen : ∀ card engine, view (EngineState.handOver card engine) =
    view engine) (engine : SOPEngine) (step : SOPStep) (message : Str) (card : Json)
    (ctx : SOPRunContext) :
    (engine.sendCard step message card ctx).Keeps (fun world => view world.state)
      fun _ => True := by
  unfold sendCard
  split
  · have handed : (Coro.sync (Timed.modify (EngineState.handOver (ctx.runId, step.id)) :
        Action Exc EngineWorld Unit)).Keeps (fun world => view world.state) fun _ => True :=
      Coro.keeps_sync (fun world => unseen _ world.state) fun _ => trivial
    apply Coro.keeps_bind handed
    · exact fun _ _ => outcome_keeps view _
    · exact fun _ _ => trivial
  · trivial

theorem askApproval_keeps (unseen : ∀ card engine, view (EngineState.handOver card engine) =
    view engine) (host : Host) (engine : SOPEngine) (message : Str) (ctx : SOPRunContext)
    (asks : step.type = .humanApproval) :
    (engine.askApproval host step message ctx).Keeps (fun world => view world.state)
      (StepEnds step ctx) := by
  apply Coro.keeps_attempt_bind
  · apply Coro.keeps_bind (sendCard_keeps unseen engine step message _ _)
    · exact fun _ _ => outcome_keeps view _
    · exact fun _ _ => trivial
  · rintro (exc | ⟨⟩) -
    · exact stepEnds_went step ctx (.error exc) _
    · exact ⟨_, rfl, .suspended _ _ asks⟩

theorem stepHumanApproval_keeps (unseen : ∀ card engine, view (EngineState.handOver card engine) =
    view engine) (host : Host) (engine : SOPEngine) (ctx : SOPRunContext)
    (asks : step.type = .humanApproval) :
    (engine.stepHumanApproval host step ctx).Keeps (fun world => view world.state)
      (StepEnds step ctx) := by
  apply Coro.keeps_bind (triggers_keeps view engine step ctx.data)
  · rintro triggered -
    split
    · split
      · exact askApproval_keeps unseen host engine _ ctx asks
      · exact stepEnds_went step ctx _ ctx.data
    · exact stepEnds_went step ctx _ ctx.data
  · rintro exc ⟨_, raised⟩
    cases raised

theorem actionGovernedWrite_keeps (stable : ∀ gate engine,
    view (EngineState.setGate gate engine) = view engine) (host : Host) (rdf : RdfLib)
    (engine : SOPEngine) (step : SOPStep) (ctx : SOPRunContext) :
    (engine.actionGovernedWrite host rdf step ctx).Keeps (fun world => view world.state)
      (StepEnds step ctx) := by
  unfold actionGovernedWrite
  split
  · dsimp only
    split
    · apply Coro.keeps_attempt_bind (atGate_keeps stable _)
      rintro (exc | result) - <;> exact stepEnds_went step ctx _ ctx.data
    · exact stepEnds_went step ctx _ ctx.data
  · exact stepEnds_went step ctx _ ctx.data

theorem stepNotify_keeps (view : EngineState → κ) (host : Host) (step : SOPStep)
    (ctx : SOPRunContext) :
    (stepNotify host step ctx).Keeps (fun world => view world.state) (StepEnds step ctx) := by
  unfold stepNotify
  split
  · apply Coro.keeps_attempt_bind (outcome_keeps view _)
    rintro (exc | ⟨⟩) - <;> exact stepEnds_went step ctx _ ctx.data
  · exact stepEnds_went step ctx _ ctx.data

/-- A step keeps a view that sees neither the gate nor, if it asks for approval, the cards. -/
theorem executeStep_keeps_view (stable : ∀ gate engine,
    view (EngineState.setGate gate engine) = view engine)
    (unseen : step.type = .humanApproval → ∀ card engine,
      view (EngineState.handOver card engine) = view engine)
    (host : Host) (rdf : RdfLib) (engine : SOPEngine) (ctx : SOPRunContext) :
    (engine.executeStep host rdf step ctx).Keeps (fun world => view world.state)
      (StepEnds step ctx) := by
  unfold executeStep
  split
  case h_1 => exact stepValidate_keeps stable host rdf engine step ctx
  case h_2 asks => exact stepHumanApproval_keeps (unseen asks) host engine ctx asks
  case h_3 =>
    unfold stepAction
    split
    · exact actionGovernedWrite_keeps stable host rdf engine step ctx
    · exact stepEnds_went step ctx _ ctx.data
  case h_4 => exact stepNotify_keeps view host step ctx

/-- A step leaves the records of the engine alone and ends with an outcome. -/
theorem executeStep_keeps (host : Host) (rdf : RdfLib) (engine : SOPEngine) (step : SOPStep)
    (ctx : SOPRunContext) :
    (engine.executeStep host rdf step ctx).Keeps recordsOf (StepEnds step ctx) :=
  executeStep_keeps_view (fun _ _ => rfl) (fun _ _ _ => rfl) host rdf engine ctx

/-- Recording a decision changes the feedback table only. -/
theorem insertFeedback_keeps (unseen : ∀ feedback engine,
    view (EngineState.setFeedback feedback engine) = view engine) (host : Host)
    (ctx : SOPRunContext) (decision : Str) (reason approverId : Json) :
    (insertFeedback host ctx decision reason approverId).Keeps fun world => view world.state := by
  apply Action.keeps_bind (keeps_raiseIf _ _)
  intro _
  apply Action.keeps_bind (Timed.keeps_draw _)
  intro now
  apply Action.keeps_bind (Timed.keeps_view _)
  intro feedback
  apply Action.keeps_bind (keeps_ofExcept _)
  intro feedback
  exact Timed.keeps_modify fun engine => unseen feedback engine

end SOPEngine

end AgentOS
