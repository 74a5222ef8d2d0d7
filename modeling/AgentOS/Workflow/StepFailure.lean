import AgentOS.Governance.GovernedWrite
import AgentOS.Workflow.SopRun

/-!
# Exceptions of a step

The loop of `run` turns an `SOPExecutionError` into the state FAILED and lets every other
exception escape. A governed write converts whatever it meets; the other steps convert
nothing, so that they must not meet any other exception.
-/

namespace AgentOS

open Python Cooperative

namespace WriteGate

variable (host : Host) (rdf : RdfLib) (gate : WriteGate)

variable {host rdf gate}

end WriteGate

namespace SOPEngine

variable (host : Host) (rdf : RdfLib) (engine : SOPEngine)

/-- Whether a step asks for an approval, read at a tick. -/
def asks (step : SOPStep) (data : Dict Str Json) (tick : ℕ) : Bool :=
  if orElseText step.condition [] ≠ [] then
    (engine.evalCondition (orElseText step.condition []) data tick).getD true
  else true

/-- The tick after the condition of a step, if there is one, was evaluated. -/
def askedAt (step : SOPStep) (tick : ℕ) : ℕ :=
  if orElseText step.condition [] ≠ [] then tick + 1 else tick

/-- What handing over the card at a tick comes to. -/
def cardSent (step : SOPStep) (message runId : Str) (tick : ℕ) : Except Exc Unit :=
  match engine.approvalCardSender with
  | some sender =>
      let chatId := match step.extra.get? (py "chat_id") with
        | some chat => if chat.truthy then chat else .str engine.defaultChatId
        | none => .str engine.defaultChatId
      sender chatId step.cardTitleText message runId
        (buildApprovalCard step.cardTitleText message runId step.id) tick
  | none => .ok ()

/-- The tick after the card was handed over. -/
def sentAt (tick : ℕ) : ℕ := if engine.approvalCardSender.isSome then tick + 1 else tick

/-- The state after the card was handed over, if there is a sender. -/
def handedOver (step : SOPStep) (runId : Str) (state : EngineState) : EngineState :=
  if engine.approvalCardSender.isSome then state.handOver (runId, step.id) else state

variable {host rdf engine} {step : SOPStep} {ctx : SOPRunContext}

theorem triggers_eq (engine : SOPEngine) (step : SOPStep) (data : Dict Str Json)
    (world : EngineWorld) :
    engine.triggers step data world =
      (.ok (engine.asks step data world.tick), ⟨askedAt step world.tick, world.state⟩) := by
  unfold triggers asks askedAt
  split <;> rfl

theorem atGate_run {α : Type} (body : Coro Exc GateWorld α) (world : EngineWorld) :
    (atGate body).run world =
      ((body.run (world.part EngineState.gate)).1,
        Timed.setPart EngineState.setGate (body.run (world.part EngineState.gate)).2 world) := by
  unfold atGate
  apply Coro.run_zoom <;> intros <;> rfl

/-- The card is handed over and printed; the run is suspended when both succeed. -/
theorem askApproval_run (host : Host) (engine : SOPEngine) (step : SOPStep) (message : Str)
    (ctx : SOPRunContext) (world : EngineWorld) :
    (engine.askApproval host step message ctx).run world =
      let card := buildApprovalCard step.cardTitleText message ctx.runId step.id
      let ctx' := ctx.setData (py "_pending_card") card
      let state := engine.handedOver step ctx.runId world.state
      match engine.cardSent step message ctx.runId world.tick with
      | .error exc => (.ok (.error exc, ctx'), ⟨engine.sentAt world.tick, state⟩)
      | .ok () =>
          match host.print (cardConsoleText step.cardTitleText message ctx.runId)
            (engine.sentAt world.tick) with
          | .error exc => (.ok (.error exc, ctx'), ⟨engine.sentAt world.tick + 1, state⟩)
          | .ok () =>
              (.ok (.ok (.obj [(py "suspended", .bool true), (py "step_id", .str step.id),
                (py "run_id", .str ctx.runId), (py "card_title", .str step.cardTitleText)]),
                ctx'.suspend step), ⟨engine.sentAt world.tick + 1, state⟩) := by
  have sends : (engine.sendCard step message
      (buildApprovalCard step.cardTitleText message ctx.runId step.id)
      (ctx.setData (py "_pending_card")
        (buildApprovalCard step.cardTitleText message ctx.runId step.id))).run world =
      (engine.cardSent step message ctx.runId world.tick,
        ⟨engine.sentAt world.tick, engine.handedOver step ctx.runId world.state⟩) := by
    unfold sendCard cardSent sentAt handedOver
    rcases engine.approvalCardSender with _ | sender
    · rfl
    · dsimp only
      rw [Coro.run_bind, Coro.run_sync]
      exact Coro.run_sync _ _
  rw [askApproval]
  dsimp only
  rw [Coro.run_bind, Coro.run_attempt, Coro.run_bind, sends]
  rcases engine.cardSent step message ctx.runId world.tick with exc | ⟨⟨⟩⟩
  · rfl
  · dsimp only
    rw [Coro.run_sync]
    rcases printed : host.print (cardConsoleText step.cardTitleText message ctx.runId)
      (engine.sentAt world.tick) with exc | ⟨⟨⟩⟩
    all_goals
      have named : (ctx.setData (py "_pending_card")
        (buildApprovalCard step.cardTitleText message ctx.runId step.id)).runId = ctx.runId := rfl
      simp only [Timed.outcome, named, printed]
      rfl

end SOPEngine

end AgentOS
