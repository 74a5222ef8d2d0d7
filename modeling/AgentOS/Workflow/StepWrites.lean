import AgentOS.Workflow.StepFailure

/-!
# Writes of a step

A `governed_write` step that completes is one success of the gate, on the text that the data
hold under its `data_ref`. No other step is any, and neither is a step that fails.
-/

namespace AgentOS

open Python Cooperative

namespace SOPStep

/-- The step is a governed write. -/
def governs (step : SOPStep) : Bool := step.type = .action ∧ step.actionType = some .governedWrite

/-- The write of a completed step: what the data hold under its `data_ref`. -/
def writes (step : SOPStep) (data : Dict Str Json) : List GateEvent :=
  if step.governs then
    match dataOr data step.dataKey with
    | .str text => [.succeeded (step.domain.getD []) text]
    | _ => []
  else []

/-- A governed write writes one text. -/
def WritesOnce (step : SOPStep) (data : Dict Str Json) : Prop :=
  (step.writes data).length = if step.governs then 1 else 0

theorem writes_of_not_governs {step : SOPStep} (other : step.governs = false)
    (data : Dict Str Json) : step.writes data = [] := by
  simp [writes, other]

theorem writesOnce_of_not_governs {step : SOPStep} (other : step.governs = false)
    (data : Dict Str Json) : step.WritesOnce data := by
  simp [WritesOnce, writes, other]

end SOPStep

namespace SOPEngine

/-- The writes that the gate of the engine has completed, newest first. -/
def written (engine : EngineState) : List GateEvent := WriteGate.successes engine.gate

variable {host : Host} {rdf : RdfLib} {engine : SOPEngine} {step : SOPStep} {ctx : SOPRunContext}

theorem verifyValue_successes (host : Host) (rdf : RdfLib) (gate : WriteGate) (domainName : Str)
    (value : Json) (rdfFormat : Str) :
    (gate.verifyValue host rdf domainName value rdfFormat).Keeps
      fun world => WriteGate.successes world.state := by
  have indifferent := WriteGate.unwritten_successes.indifferent
  have refuses : ∀ value : Json, (do
        let _ ← gate.getValidator host domainName
        throw (WriteGate.unparsable rdfFormat (rdf.parseError value)) :
          Action Exc GateWorld (SHACLValidationReport × Option Str)).Keeps
        fun world => WriteGate.successes world.state := by
    intro value
    apply Action.keeps_bind (WriteGate.getValidator_keeps indifferent host gate _)
    exact fun _ => Action.keeps_throw _
  rcases value with _ | _ | _ | _ | dataRdf | _ | _
  case str =>
    exact WriteGate.verifyShaclCompliance_keeps indifferent (fun _ => rfl) (fun _ _ _ _ => rfl) host
      rdf gate domainName dataRdf rdfFormat
  all_goals exact refuses _

theorem stepValidate_written (host : Host) (rdf : RdfLib) (engine : SOPEngine) (step : SOPStep)
    (ctx : SOPRunContext) :
    (engine.stepValidate host rdf step ctx).Keeps (fun world => written world.state)
      fun _ => True := by
  have verifies : ∀ (gate : WriteGate) (domainName : Str) (value : Json),
      (atGate (Coro.sync (gate.verifyValue host rdf domainName value (py "turtle")))).Keeps
        (fun world => written world.state) fun _ => True := by
    intro gate domainName value
    have inner : (Coro.sync (gate.verifyValue host rdf domainName value (py "turtle"))).Keeps
        (fun world => WriteGate.successes world.state) fun _ => True :=
      Coro.keeps_sync (verifyValue_successes host rdf gate domainName value _) fun _ => trivial
    have getPut : ∀ (part : GateWorld) (whole : EngineWorld),
        (Timed.setPart EngineState.setGate part whole).part EngineState.gate = part :=
      fun _ _ => rfl
    exact Coro.Keeps.zoom getPut inner
  unfold stepValidate
  split
  · dsimp only
    split
    · apply Coro.keeps_attempt_bind (verifies _ _ _)
      rintro (exc | ⟨report, nonce⟩) -
      · trivial
      · dsimp only
        split <;> trivial
    · trivial
  · trivial

theorem actionGovernedWrite_written {gate : WriteGate} (wired : engine.writeGate = some gate)
    {world middle : EngineWorld} {outcome : Except Exc Json} {ctx' : SOPRunContext}
    (ran : (engine.actionGovernedWrite host rdf step ctx).run world =
      (.ok (outcome, ctx'), middle)) :
    match outcome with
    | .ok _ => ∃ text, dataOr ctx.data step.dataKey = .str text ∧
        written middle.state = .succeeded (step.domain.getD []) text :: written world.state
    | .error _ => written middle.state = written world.state := by
  unfold actionGovernedWrite at ran
  rw [wired] at ran
  dsimp only at ran
  split at ran
  · rw [Coro.run_bind, Coro.run_attempt, atGate_run] at ran
    rcases WriteGate.writeValue_successes host rdf gate (step.domain.getD [])
        (dataOr ctx.data step.dataKey) (dataOr ctx.data step.nonceKey) (py "turtle")
        (world.part EngineState.gate) with
      ⟨text, result, final, textual, wrote, once⟩ | ⟨exc, final, raised, none⟩
    · rw [wrote] at ran
      cases ran
      exact ⟨text, textual, once⟩
    · rw [raised] at ran
      cases ran
      exact none
  · cases ran
    rfl

/-- What a step that was executed has written. -/
theorem executeStep_written {gate : WriteGate} (wired : engine.writeGate = some gate)
    {world middle : EngineWorld} {outcome : Except Exc Json} {ctx' : SOPRunContext}
    (ran : (engine.executeStep host rdf step ctx).run world = (.ok (outcome, ctx'), middle)) :
    match outcome with
    | .ok _ => step.WritesOnce ctx.data ∧
        written middle.state = step.writes ctx.data ++ written world.state
    | .error _ => written middle.state = written world.state := by
  have idle : ∀ {body : Coro Exc EngineWorld StepOutcome} {kept : Except Exc StepOutcome → Prop},
      step.governs = false → body.Keeps (fun world => written world.state) kept →
      body.run world = (.ok (outcome, ctx'), middle) →
      match outcome with
      | .ok _ => step.WritesOnce ctx.data ∧
          written middle.state = step.writes ctx.data ++ written world.state
      | .error _ => written middle.state = written world.state := by
    intro body kept other keeps ran
    have same := (keeps.run world).2
    rw [ran] at same
    rcases outcome with exc | result
    · exact same
    · refine ⟨SOPStep.writesOnce_of_not_governs other _, ?_⟩
      rw [SOPStep.writes_of_not_governs other]
      exact same
  unfold executeStep at ran
  rcases type : step.type <;> simp only [type] at ran
  case validate =>
    exact idle (by simp [SOPStep.governs, type]) (stepValidate_written host rdf engine step ctx) ran
  case humanApproval =>
    exact idle (by simp [SOPStep.governs, type])
      (stepHumanApproval_keeps (fun _ _ => rfl) host engine ctx type) ran
  case notify =>
    exact idle (by simp [SOPStep.governs, type]) (stepNotify_keeps written host step ctx) ran
  case action =>
    unfold stepAction at ran
    split at ran
    · rename_i governed
      have governs : step.governs = true := by simp [SOPStep.governs, type, governed]
      have wrote := actionGovernedWrite_written wired ran
      rcases outcome with exc | result
      · exact wrote
      · rcases wrote with ⟨text, textual, once⟩
        have writes : step.writes ctx.data = [.succeeded (step.domain.getD []) text] := by
          simp [SOPStep.writes, governs, textual]
        refine ⟨?_, ?_⟩
        · simp [SOPStep.WritesOnce, writes, governs]
        · rw [writes]
          exact once
    · rename_i other
      have skipped : (pure (.ok (.obj [(py "skipped", .bool true)]), ctx) :
          Coro Exc EngineWorld StepOutcome).Keeps (fun world => written world.state)
            fun _ => True := trivial
      exact idle (by simp [SOPStep.governs, other]) skipped ran

end SOPEngine

end AgentOS
