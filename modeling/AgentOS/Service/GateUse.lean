import AgentOS.Governance.Replay
import AgentOS.Kernel.KernelStep
import AgentOS.Service.GateOperations
import AgentOS.Service.Webhook

/-!
# How the service uses the gate

The kernel, the engine and the routes reach the gate in no other way than by its two operations.
Everything else that they do leaves the gate alone, while time passes.
-/

namespace AgentOS

open Python Cooperative

section

variable {σ τ α β : Type} {gateOf : σ → GateState} {setGate : GateState → σ → σ}

/-- Time may pass, and the gate stays as it is. -/
def GateIdle (gateOf : σ → GateState) (world world' : Timed σ) : Prop :=
  world.tick ≤ world'.tick ∧ gateOf world'.state = gateOf world.state

/-- The block leaves the gate alone. -/
def Action.Idles (gateOf : σ → GateState) (body : Action Exc (Timed σ) α) : Prop :=
  ∀ world, GateIdle gateOf world (body world).2

/-- The task reaches the gate only by the operations of the gate. -/
abbrev CallsGate (host : Host) (rdf : RdfLib) (gate : WriteGate) (gateOf : σ → GateState)
    (setGate : GateState → σ → σ) (body : Coro Exc (Timed σ) α) : Prop :=
  body.Through (Timed.part gateOf) (Timed.setPart setGate) (GateIdle gateOf)
    (WriteGate.Operation host rdf gate)

theorem GateIdle.trans {world world' world'' : Timed σ} (first : GateIdle gateOf world world')
    (second : GateIdle gateOf world' world'') : GateIdle gateOf world world'' :=
  ⟨first.1.trans second.1, second.2.trans first.2⟩

namespace Action

theorem idles_pure (value : α) : Idles gateOf (pure value : Action Exc (Timed σ) α) :=
  fun _ => ⟨le_rfl, rfl⟩

theorem idles_draw (source : ℕ → α) : Idles gateOf (Timed.draw source) :=
  fun _ => ⟨Nat.le_succ _, rfl⟩

theorem idles_outcome (source : ℕ → Except Exc α) : Idles gateOf (Timed.outcome source) :=
  fun _ => ⟨Nat.le_succ _, rfl⟩

theorem idles_view (read : σ → α) : Idles gateOf (Timed.view read) :=
  fun _ => ⟨le_rfl, rfl⟩

theorem idles_modify {change : σ → σ} (stable : ∀ state, gateOf (change state) = gateOf state) :
    Idles gateOf (Timed.modify change) :=
  fun world => ⟨le_rfl, stable world.state⟩

theorem idles_ofExcept (result : Except Exc α) :
    Idles gateOf (ofExcept result : Action Exc (Timed σ) α) := by
  intro world
  rw [ofExcept_apply]
  exact ⟨le_rfl, rfl⟩

theorem idles_raiseIf (refused : Prop) [Decidable refused] (exc : Exc) :
    Idles gateOf (raiseIf refused exc : Action Exc (Timed σ) Unit) := by
  intro world
  rw [raiseIf_apply]
  exact ⟨le_rfl, rfl⟩

theorem idles_bind {first : Action Exc (Timed σ) α} {rest : α → Action Exc (Timed σ) β}
    (firstIdles : Idles gateOf first) (restIdles : ∀ value, Idles gateOf (rest value)) :
    Idles gateOf (first >>= rest) := by
  intro world
  have idle := firstIdles world
  rw [Action.bind_apply]
  revert idle
  rcases first world with ⟨exc | value, middle⟩ <;> intro idle
  · exact idle
  · exact idle.trans (restIdles value middle)

end Action

end

/-! ### The kernel -/

namespace AgentOSKernel

variable {ν α : Type} {host : Host} {rdf : RdfLib} {kernel : AgentOSKernel ν} {gate : WriteGate}

theorem KernelStep.tick_le {world world' : KernelWorld ν}
    (step : KernelStep host rdf kernel world world') : world.tick ≤ world'.tick :=
  @Action.holds_of_steps GateWorld _ (fun reached => world.tick ≤ reached.tick) _ _
    (fun _ _ step before => before.trans step.tick_le) step.onGate le_rfl

/-- A block that moves along the steps of the kernel and keeps the gate leaves it alone. -/
theorem idles_of_follows (rdf : RdfLib) {body : Action Exc (KernelWorld ν) α}
    (follows : body.Follows (KernelStep host rdf kernel))
    (keeps : body.Keeps fun world => world.state.gate) :
    Action.Idles KernelState.gate body := by
  intro world
  refine ⟨?_, keeps world⟩
  exact @Action.holds_of_steps _ _ (fun reached => world.tick ≤ reached.tick) _ _
    (fun _ _ step before => before.trans step.tick_le) (follows world) le_rfl

theorem wakeUp_callsGate (wired : kernel.writeGate = some gate) (message : ChannelMessage) :
    CallsGate host rdf gate KernelState.gate KernelState.setGate
      (kernel.wakeUp host rdf message) := by
  have sync : ∀ {α : Type} {body : Action Exc (KernelWorld ν) α},
      Action.Idles KernelState.gate body →
      CallsGate host rdf gate KernelState.gate KernelState.setGate (Coro.sync body) :=
    fun idles => .sync idles
  have hooks := idles_of_follows rdf (preDispatch_follows message)
    (keeps_preDispatch KernelState.gate host kernel (fun _ _ => rfl) message)
  have bills := idles_of_follows rdf (billMessage_follows message)
    (keeps_billMessage KernelState.gate host kernel (fun _ _ => rfl) message)
  have replies := fun sessionId exc => idles_of_follows rdf
    (replyException_follows message sessionId exc)
    (keeps_replyException KernelState.gate host kernel (fun _ _ => rfl) message sessionId exc)
  have counts : Action.Idles KernelState.gate (nextSession : Action Exc (KernelWorld ν) ℕ) :=
    fun _ => ⟨le_rfl, rfl⟩
  apply Coro.Through.bind (sync counts)
  intro sessionId
  apply Coro.Through.tryCatch
  · apply Coro.Through.bind (sync hooks)
    intro _
    apply Coro.Through.bind
    · unfold processMessage
      rw [wired]
      split
      · exact .done _
      · exact .pure _
      · apply Coro.Through.bind
        · exact .zoom (.write _ (.str _) (.str _) (py "turtle"))
        · exact fun _ => .pure _
      all_goals exact .pure _
    · intro text
      apply Coro.Through.bind (sync bills)
      exact fun _ => .pure _
  · exact fun exc => sync (replies sessionId exc)

end AgentOSKernel

/-! ### The engine -/

namespace SOPEngine

variable {host : Host} {rdf : RdfLib} {engine : SOPEngine} {gate : WriteGate}

theorem note_idles (event : EngineEvent) : Action.Idles EngineState.gate (note event) :=
  Action.idles_modify fun _ => rfl

theorem save_idles (engine : SOPEngine) (ctx : SOPRunContext) :
    Action.Idles EngineState.gate (engine.save ctx) := by
  unfold save
  split
  · apply Action.idles_bind (Action.idles_view _)
    intro runs
    apply Action.idles_bind (Action.idles_ofExcept _)
    intro runs
    exact Action.idles_bind (Action.idles_modify fun _ => rfl) fun _ => note_idles _
  · exact Action.idles_pure _

theorem createRun_idles (host : Host) (engine : SOPEngine) (sop : SOPDefinition)
    (data : Dict Str Json) (runId : Option Str) :
    Action.Idles EngineState.gate (engine.createRun host sop data runId) := by
  have saves : ∀ ctx, Action.Idles EngineState.gate
      (do engine.save ctx; pure ctx : Action Exc EngineWorld SOPRunContext) :=
    fun ctx => Action.idles_bind (save_idles engine ctx) fun _ => Action.idles_pure _
  unfold createRun
  rcases runId with _ | runId
  · exact Action.idles_bind (Action.idles_draw _) fun _ => saves _
  · dsimp only
    split
    · exact saves _
    · exact Action.idles_bind (Action.idles_draw _) fun _ => saves _

theorem loadState_idles (host : Host) (runId : Json) :
    Action.Idles EngineState.gate (loadState host runId) :=
  Action.idles_bind (Action.idles_view _) fun _ => Action.idles_ofExcept _

theorem triggers_idles (engine : SOPEngine) (step : SOPStep) (data : Dict Str Json) :
    Action.Idles EngineState.gate (engine.triggers step data) := by
  unfold triggers
  split
  · exact Action.idles_bind (Action.idles_draw _) fun _ => Action.idles_pure _
  · exact Action.idles_pure _

theorem insertFeedback_idles (host : Host) (ctx : SOPRunContext) (decision : Str)
    (reason approverId : Json) :
    Action.Idles EngineState.gate (insertFeedback host ctx decision reason approverId) := by
  apply Action.idles_bind (Action.idles_raiseIf _ _)
  intro _
  apply Action.idles_bind (Action.idles_draw _)
  intro now
  apply Action.idles_bind (Action.idles_view _)
  intro feedback
  apply Action.idles_bind (Action.idles_ofExcept _)
  exact fun feedback => Action.idles_modify fun _ => rfl

/-- The engine reaches the gate only by the operations of the gate. -/
abbrev Calls (host : Host) (rdf : RdfLib) (gate : WriteGate) {α : Type}
    (body : Coro Exc EngineWorld α) : Prop :=
  CallsGate host rdf gate EngineState.gate EngineState.setGate body

theorem calls_sync {α : Type} {body : Action Exc EngineWorld α}
    (idles : Action.Idles EngineState.gate body) : Calls host rdf gate (Coro.sync body) :=
  .sync idles

theorem stepValidate_calls (wired : engine.writeGate = some gate) (step : SOPStep)
    (ctx : SOPRunContext) : Calls host rdf gate (engine.stepValidate host rdf step ctx) := by
  unfold stepValidate
  rw [wired]
  split
  · rename_i _ _ same _
    cases same
    dsimp only
    split
    · apply Coro.Through.bind
      · exact .attempt (.zoom (.verify _ _ (py "turtle")))
      · intro verdict
        rcases verdict with exc | ⟨report, nonce⟩
        · exact .pure _
        · dsimp only
          split <;> exact .pure _
    · exact .pure _
  · exact .pure _

theorem stepHumanApproval_calls (step : SOPStep) (ctx : SOPRunContext) :
    Calls host rdf gate (engine.stepHumanApproval host step ctx) := by
  apply Coro.Through.bind (calls_sync (triggers_idles engine step _))
  intro triggered
  split
  · split
    · apply Coro.Through.bind
      · apply Coro.Through.attempt
        apply Coro.Through.bind
        · unfold sendCard
          split
          · apply Coro.Through.bind
            · exact calls_sync (Action.idles_modify fun _ => rfl)
            · exact fun _ => calls_sync (Action.idles_outcome _)
          · exact .pure _
        · exact fun _ => calls_sync (Action.idles_outcome _)
      · intro shown
        rcases shown with exc | ⟨⟩ <;> exact .pure _
    · exact .pure _
  · exact .pure _

theorem stepAction_calls (wired : engine.writeGate = some gate) (step : SOPStep)
    (ctx : SOPRunContext) : Calls host rdf gate (engine.stepAction host rdf step ctx) := by
  unfold stepAction
  split
  · unfold actionGovernedWrite
    rw [wired]
    dsimp only
    split
    · apply Coro.Through.bind
      · exact .attempt (.zoom (.write _ _ _ (py "turtle")))
      · intro written
        rcases written with exc | result <;> exact .pure _
    · exact .pure _
  · exact .pure _

theorem stepNotify_calls (step : SOPStep) (ctx : SOPRunContext) :
    Calls host rdf gate (stepNotify host step ctx) := by
  unfold stepNotify
  split
  · apply Coro.Through.bind
    · exact .attempt (calls_sync (Action.idles_outcome _))
    · intro shown
      rcases shown with exc | ⟨⟩ <;> exact .pure _
  · exact .pure _

theorem executeStep_calls (wired : engine.writeGate = some gate) (step : SOPStep)
    (ctx : SOPRunContext) : Calls host rdf gate (engine.executeStep host rdf step ctx) := by
  unfold executeStep
  split
  · exact stepValidate_calls wired step ctx
  · exact stepHumanApproval_calls step ctx
  · exact stepAction_calls wired step ctx
  · exact stepNotify_calls step ctx

theorem runSteps_calls (wired : engine.writeGate = some gate) (steps : List SOPStep) (index : ℕ)
    (ctx : SOPRunContext) : Calls host rdf gate (engine.runSteps host rdf steps index ctx) := by
  induction steps generalizing index ctx with
  | nil => exact .bind (calls_sync (save_idles engine _)) fun _ => .pure _
  | cons step rest ih =>
      apply Coro.Through.bind (calls_sync (note_idles _))
      intro _
      apply Coro.Through.bind (executeStep_calls wired step _)
      rintro ⟨exc | result, ctx⟩
      · dsimp only
        split
        · exact .bind (calls_sync (save_idles engine _)) fun _ => .pure _
        · exact .throw _
      · apply Coro.Through.bind (calls_sync (save_idles engine _))
        intro _
        split
        · exact .pure _
        · exact ih _ _

theorem resume_calls (wired : engine.writeGate = some gate) (sop : SOPDefinition)
    (ctx : SOPRunContext) (decision : Str) (reason approverId : Json) :
    Calls host rdf gate (engine.resume host rdf sop ctx decision reason approverId) := by
  have goesOn : ∀ ctx, Calls host rdf gate (engine.proceed host rdf sop ctx decision) := by
    intro ctx
    unfold proceed
    split
    · exact .bind (calls_sync (save_idles engine _)) fun _ => .pure _
    · exact runSteps_calls wired _ _ _
  unfold resume
  split
  · exact .throw _
  · dsimp only
    split
    · exact .bind (calls_sync (insertFeedback_idles host _ _ _ _)) fun _ => goesOn _
    · exact goesOn _

end SOPEngine

/-! ### The routes -/

namespace Service

variable {host : Host} {rdf : RdfLib} {service : Service} {engine : SOPEngine} {gate : WriteGate}

/-- Every call that the service runs reaches the gate only by the operations of the gate. -/
theorem handleCardCallback_calls (wired : service.sopEngine = some engine)
    (gated : engine.writeGate = some gate) (body : Json) :
    SOPEngine.Calls host rdf gate (service.handleCardCallback host rdf body) := by
  unfold handleCardCallback
  rw [wired]
  split
  · exact .throw _
  · exact .pure _
  · split
    · rename_i engine' same _
      cases same
      apply Coro.Through.bind (SOPEngine.calls_sync (SOPEngine.loadState_idles host _))
      intro loaded
      rcases loaded with _ | ctx
      · exact .pure _
      · apply Coro.Through.bind (SOPEngine.calls_sync (Action.idles_outcome _))
        intro defined
        rcases defined with _ | sop
        · exact .pure _
        · exact .bind (SOPEngine.resume_calls gated _ _ _ _ _) fun _ => .pure _
    · exact .pure _

theorem resumeAs_calls (gated : engine.writeGate = some gate) (runId decision : Str)
    (reason approverId : Json) :
    SOPEngine.Calls host rdf gate
      (service.resumeAs host rdf engine runId decision reason approverId) := by
  unfold resumeAs
  apply Coro.Through.bind (SOPEngine.calls_sync (SOPEngine.loadState_idles host _))
  intro loaded
  rcases loaded with _ | ctx
  · exact .throw _
  · apply Coro.Through.bind (SOPEngine.calls_sync (Action.idles_outcome _))
    intro defined
    rcases defined with _ | sop
    · exact .throw _
    · exact .bind (SOPEngine.resume_calls gated _ _ _ _ _) fun _ => .pure _

theorem resumeSop_calls (wired : service.sopEngine = some engine)
    (gated : engine.writeGate = some gate) (runId : Str) (body : Json) :
    SOPEngine.Calls host rdf gate (service.resumeSop host rdf runId body) := by
  unfold resumeSop
  rw [wired]
  split
  · rename_i engine' same _
    cases same
    apply Coro.Through.bind (.done _)
    intro decision
    split
    · split
      · apply Coro.Through.bind (.done _)
        intro reason
        apply Coro.Through.bind (.done _)
        intro approverId
        exact resumeAs_calls gated _ _ _ _
      · exact .throw _
    · exact .throw _
  · exact .throw _

theorem task_calls (wired : service.sopEngine = some engine)
    (gated : engine.writeGate = some gate) (call : Call) :
    SOPEngine.Calls host rdf gate (service.task host rdf call) := by
  cases call with
  | create sop data runId =>
      unfold task onEngine
      rw [wired]
      apply Coro.Through.bind (SOPEngine.calls_sync (SOPEngine.createRun_idles host engine _ _ _))
      intro ctx
      exact .bind (SOPEngine.runSteps_calls gated _ _ _) fun _ => .pure _
  | run sop ctx =>
      unfold task onEngine
      rw [wired]
      exact .bind (SOPEngine.runSteps_calls gated _ _ _) fun _ => .pure _
  | cardCallback body => exact .bind (handleCardCallback_calls wired gated body) fun _ => .pure _
  | resumeRequest runId body =>
      exact .bind (resumeSop_calls wired gated runId body) fun _ => .pure _

end Service

namespace Gateway

variable {ν α : Type} {host : Host} {rdf : RdfLib} {loads : Str → Except Exc Json}
  {gateway : Gateway ν} {kernel : AgentOSKernel ν} {engine : SOPEngine} {gate : WriteGate}

/-- The gate of the service. -/
def gateOf (state : ServiceState ν) : GateState := state.engine.gate

def setGate (gate : GateState) (state : ServiceState ν) : ServiceState ν :=
  state.setEngine (state.engine.setGate gate)

/-- The service reaches the gate only by the operations of the gate. -/
abbrev Calls (host : Host) (rdf : RdfLib) (gate : WriteGate)
    (body : Coro Exc (ServiceWorld ν) α) : Prop :=
  CallsGate host rdf gate gateOf setGate body

theorem atEngine_calls {body : Coro Exc EngineWorld α}
    (calls : SOPEngine.Calls host rdf gate body) :
    Calls host rdf gate (atEngine body : Coro Exc (ServiceWorld ν) α) :=
  Coro.Through.within (Timed.part ServiceState.engine) (Timed.setPart ServiceState.setEngine)
    (fun _ _ idle => idle) calls

theorem atKernel_calls {body : Coro Exc (KernelWorld ν) α}
    (calls : CallsGate host rdf gate KernelState.gate KernelState.setGate body) :
    Calls host rdf gate (atKernel body) :=
  Coro.Through.within (Timed.part ServiceState.kernel) (Timed.setPart ServiceState.setKernel)
    (fun _ _ idle => idle) calls

theorem noteCall_calls (call : ServiceCall) :
    Calls host rdf gate (noteCall call : Coro Exc (ServiceWorld ν) Unit) :=
  .sync (Action.idles_modify fun _ => rfl)

theorem wakeUp_calls (wired : kernel.writeGate = some gate) (message : FeishuAdapter.EventMessage) :
    Calls host rdf gate (atKernel (wakeUp host rdf kernel message)) := by
  apply atKernel_calls
  unfold wakeUp
  split
  · exact kernel.wakeUp_callsGate wired _
  · apply Coro.Through.bind
    · exact .sync fun _ => ⟨le_rfl, rfl⟩
    · exact fun _ => .throw _

theorem handleCardCallback_calls (wired : gateway.service.sopEngine = some engine)
    (gated : engine.writeGate = some gate) (body : Json) :
    Calls host rdf gate (gateway.handleCardCallback host rdf body) := by
  unfold handleCardCallback
  rw [wired]
  split
  · exact .throw _
  · exact .pure _
  · split
    · rename_i engine' same _
      cases same
      apply Coro.Through.bind
        (atEngine_calls (SOPEngine.calls_sync (SOPEngine.loadState_idles host _)))
      intro loaded
      rcases loaded with _ | ctx
      · exact .pure _
      · apply Coro.Through.bind (atEngine_calls (SOPEngine.calls_sync (Action.idles_outcome _)))
        intro defined
        rcases defined with _ | sop
        · exact .pure _
        · apply Coro.Through.bind (noteCall_calls _)
          intro _
          exact .bind (atEngine_calls (SOPEngine.resume_calls gated _ _ _ _ _)) fun _ => .pure _
    · exact .pure _

/-- Every request to the route reaches the gate only by the operations of the gate. -/
theorem feishuWebhook_calls (wired : gateway.service.sopEngine = some engine)
    (gated : engine.writeGate = some gate) (booted : gateway.kernel = some kernel)
    (shared : kernel.writeGate = some gate) (request : WebhookRequest) :
    Calls host rdf gate (gateway.feishuWebhook host rdf loads request) := by
  unfold feishuWebhook
  split
  · apply Coro.Through.bind (.done _)
    intro body
    apply Coro.Through.bind (.done _)
    intro challenge
    rcases challenge with _ | reply
    · dsimp only
      split
      · exact handleCardCallback_calls wired gated body
      · apply Coro.Through.bind (.done _)
        intro message
        rcases message with _ | message
        · exact .pure _
        · rw [booted]
          apply Coro.Through.bind (noteCall_calls _)
          intro _
          exact .bind (wakeUp_calls shared message) fun _ => .pure _
    · exact .pure _
  · exact .throw _

end Gateway

end AgentOS
