import AgentOS.Cli.SingleUse
import AgentOS.Governance.Provenance
import AgentOS.Policies.QuotaWindows
import AgentOS.Service.GateUse
import AgentOS.Workflow.RunFailure

/-!
# The unified service

`ServiceBootstrap.init` wires one gate into the engine and into the kernel. Requests of all kinds
are then served at the same time. Whatever their order, the gate moves along its own steps, so
that what was proved of the gate holds of the service.
-/

namespace AgentOS

open Python Cooperative Relation

/-- The gate after a kernel was built around it, which hands on its policy. -/
def WriteGate.aware (policy : Option AutonomyPolicy) (gate : WriteGate) : WriteGate :=
  { gate with autonomyPolicy := gate.autonomyPolicy.or policy }

/-- What `ServiceBootstrap.init` has loaded and connected when it wires the components. -/
structure ServiceBootstrap (ν : Type) where
  config : AppConfig ν
  /-- `None` when the connection failed, and so is the policy when it cannot be loaded. -/
  neo4jClient : Option Neo4jDriver
  policy : Option AutonomyPolicy
  defaultChatId : Str
  evalCondition : Str → Dict Str Json → ℕ → Option Bool
  loadSopDefinition : Str → ℕ → Except Exc (Option SOPDefinition)
  verificationToken : Option Str

/-- What the service is asked for. -/
inductive ServiceRequest where
  | webhook (request : WebhookRequest)
  /-- A message that an adapter hands to the kernel. -/
  | message (message : ChannelMessage)
  | workflow (call : Service.Call)

inductive ServiceAnswer where
  | reply (reply : Json)
  | response (response : ChannelResponse)
  | outcome (outcome : SOPRunContext ⊕ Json)

namespace ServiceBootstrap

variable {ν : Type} (host : Host) (rdf : RdfLib) (loads : Str → Except Exc Json)
  (boot : ServiceBootstrap ν)

def writeGate : WriteGate := (boot.config.writeGate boot.neo4jClient none).aware boot.policy

/-- The engine gets no sender for its cards. -/
def sopEngine : SOPEngine where
  writeGate := some boot.writeGate
  feedbackDb := true
  stateStore := true
  approvalCardSender := none
  defaultChatId := boot.defaultChatId
  evalCondition := boot.evalCondition

def kernel : AgentOSKernel ν where
  version := boot.config.version
  domainNames := boot.config.domainNames
  writeGate := some boot.writeGate
  autonomyPolicy := boot.policy
  firewall := boot.config.firewall
  circuitBreaker := boot.config.circuitBreaker
  billingFuse := boot.config.billingFuse

def service : Service := ⟨some boot.sopEngine, true, boot.loadSopDefinition⟩

def gateway : Gateway ν := ⟨boot.service, some boot.kernel, boot.verificationToken⟩

/-- The service before its first request, on databases that may already be filled. -/
def started (database : Database) (runs : RunTable) (feedback : FeedbackTable) : ServiceWorld ν :=
  ⟨0, ⟨⟨.initial database, runs, feedback, [], []⟩, 0, .initial, BillingFuse.initial, []⟩⟩

def task : ServiceRequest → Coro Exc (ServiceWorld ν) ServiceAnswer
  | .webhook request => do
      let reply ← boot.gateway.feishuWebhook host rdf loads request
      pure (.reply reply)
  | .message message => do
      let response ← Gateway.atKernel (boot.kernel.wakeUp host rdf message)
      pure (.response response)
  | .workflow call => do
      let outcome ← Gateway.atEngine (boot.service.task host rdf call)
      pure (.outcome outcome)

/-- The service after the requests were served in the order of the schedule. -/
def serve (requests : ℕ → ServiceRequest) (start : ServiceWorld ν) (schedule : List ℕ) :
    ServiceWorld ν :=
  (Pool.exec ⟨start, fun i => boot.task host rdf loads (requests i)⟩ schedule).state

variable {host rdf loads boot}

/-- Whatever is asked for, the gate is reached only by its operations. -/
theorem task_calls (request : ServiceRequest) :
    Gateway.Calls host rdf boot.writeGate (boot.task host rdf loads request) := by
  cases request with
  | webhook request =>
      refine .bind ?_ fun _ => .pure _
      exact @Gateway.feishuWebhook_calls _ _ _ _ _ boot.kernel boot.sopEngine _ rfl rfl rfl rfl
        request
  | message message =>
      refine .bind ?_ fun _ => .pure _
      exact Gateway.atKernel_calls (AgentOSKernel.wakeUp_callsGate rfl message)
  | workflow call =>
      refine .bind ?_ fun _ => .pure _
      exact Gateway.atEngine_calls (@Service.task_calls _ _ _ boot.sopEngine _ rfl rfl call)

theorem task_follows (request : ServiceRequest) :
    (boot.task host rdf loads request).Follows fun world world' =>
      ReflTransGen (WriteGate.GateStep host rdf boot.writeGate True)
        (world.part Gateway.gateOf) (world'.part Gateway.gateOf) :=
  @Coro.Through.follows _ _ _ _ _ (Timed.setPart Gateway.setGate) _ _ _
    (fun _ _ => rfl) (fun _ _ _ => rfl) (fun _ => rfl)
    (fun _ _ idle => AgentOSKernel.reads_gate idle.1 idle.2)
    (fun _ operation => operation.follows) _ (task_calls request)

/-- Whatever is asked for and in whatever order, the gate moves along its steps. -/
theorem serve_gate (requests : ℕ → ServiceRequest) (start : ServiceWorld ν) (schedule : List ℕ) :
    ReflTransGen (WriteGate.GateStep host rdf boot.writeGate True) (start.part Gateway.gateOf)
      ((boot.serve host rdf loads requests start schedule).part Gateway.gateOf) := by
  have moved := Pool.exec_follows ⟨start, fun i => boot.task host rdf loads (requests i)⟩
    (fun i => task_follows (requests i)) schedule
  exact @Action.holds_of_steps (ServiceWorld ν) _ (fun reached =>
    ReflTransGen (WriteGate.GateStep host rdf boot.writeGate True) (start.part Gateway.gateOf)
      (reached.part Gateway.gateOf)) _ _ (fun _ _ step before => before.trans step) moved .refl

/-- Time passes with every slot of a schedule. -/
theorem tick_le_of_slot (requests : ℕ → ServiceRequest) (start : ServiceWorld ν) (slots : List ℕ)
    (i : ℕ) :
    (Pool.exec ⟨start, fun i => boot.task host rdf loads (requests i)⟩ slots).state.tick ≤
      ((Pool.exec ⟨start, fun i => boot.task host rdf loads (requests i)⟩ slots).advance
        i).state.tick := by
  have stepping := ((@Pool.stepping_of_tasks _ _ _ _ _ _
    ⟨start, fun i => boot.task host rdf loads (requests i)⟩
    fun i => (task_follows (requests i) start).steps .refl).exec slots).1
  rcases (stepping.advance i).2 with same | moved
  · rw [same]
  · refine @Action.holds_of_steps (ServiceWorld ν) _ (fun reached =>
      (Pool.exec ⟨start, fun i => boot.task host rdf loads (requests i)⟩ slots).state.tick ≤
        reached.tick) _ _ ?_ moved le_rfl
    intro world world' step before
    exact before.trans (@Action.holds_of_steps GateWorld _ (fun reached =>
      world.tick ≤ reached.tick) _ _ (fun _ _ step before => before.trans step.tick_le) step le_rfl)

/--
Whatever webhook requests, messages and workflows the service works on, in whatever order: a
nonce is accepted only for data that were validated before, and what is committed translates
data that conformed again in an authorised call.
-/
theorem committed_writes_governed (requests : ℕ → ServiceRequest) (database : Database)
    (runs : RunTable) (feedback : FeedbackTable) (schedule : List ℕ)
    (unforged : EventLog.Each GateEvent.Unforged (boot.serve host rdf loads requests
      (started database runs feedback) schedule).state.engine.gate.history)
    (noCollision : NoCollision host (boot.serve host rdf loads requests
      (started database runs feedback) schedule).state.engine.gate.history) :
    WriteGate.Governed rdf boot.writeGate database (boot.serve host rdf loads requests
      (started database runs feedback) schedule).state.engine.gate :=
  WriteGate.governed_of_steps (serve_gate requests (started database runs feedback) schedule)
    unforged noCollision

/-- The service commits no more transactions than the policy of the kernel grants a session. -/
theorem commits_within_quota {policy : AutonomyPolicy} (policed : boot.policy = some policy)
    (requests : ℕ → ServiceRequest) (database : Database) (runs : RunTable)
    (feedback : FeedbackTable) (schedule : List ℕ) :
    (boot.serve host rdf loads requests (started database runs feedback)
        schedule).state.engine.gate.database.length ≤
      database.length + policy.writeQuotas.maxOperationsPerSession.toNat := by
  have aware : boot.writeGate.autonomyPolicy = some policy := policed
  have idles : ∀ world world' : ServiceWorld ν, GateIdle Gateway.gateOf world world' →
      WriteGate.countedWrites policy (world'.part Gateway.gateOf) =
          WriteGate.countedWrites policy (world.part Gateway.gateOf) ∧
        WriteGate.commits (world'.part Gateway.gateOf) =
          WriteGate.commits (world.part Gateway.gateOf) := by
    intro world world' idle
    apply WriteGate.countedWrites_congr
    exact congrArg (fun gate : GateState => (gate.quota, gate.database)) idle.2
  have covers : ∀ i, (boot.task host rdf loads (requests i)).Covers
      (fun world => WriteGate.countedWrites policy (world.part Gateway.gateOf))
      (fun world => WriteGate.commits (world.part Gateway.gateOf)) (fun _ => 0) 0 :=
    fun i => @Coro.Through.covers _ _ _ _ _ (Timed.setPart Gateway.setGate) _ _ _ _
      (fun _ _ => rfl) idles (fun _ operation => operation.covers aware) _
      (task_calls (requests i))
  have balance := @Pool.exec_covers ℕ _ _ _ _ _ _
    ⟨started database runs feedback, fun i => boot.task host rdf loads (requests i)⟩ covers schedule
  have counted : WriteGate.countedWrites policy ((boot.serve host rdf loads requests
      (started database runs feedback) schedule).part Gateway.gateOf) ≤
      policy.writeQuotas.maxOperationsPerSession.toNat := min_le_right _ _
  change WriteGate.commits ((boot.serve host rdf loads requests
    (started database runs feedback) schedule).part Gateway.gateOf) + _ ≤ database.length + _
    at balance
  change WriteGate.commits ((boot.serve host rdf loads requests
    (started database runs feedback) schedule).part Gateway.gateOf) ≤ _
  exact (Nat.le_of_add_right_le balance).trans (Nat.add_le_add_left counted _)

end ServiceBootstrap

namespace Sample

/-- The sample components with a policy that grants three writes. -/
def bootstrap : ServiceBootstrap Unit where
  config := appConfig
  neo4jClient := some driver
  policy := some smallQuota
  defaultChatId := []
  evalCondition := fun _ _ _ => none
  loadSopDefinition := fun _ _ => .ok (some validation)
  verificationToken := some (py "token")

/-- A workflow validates the data, and messages write them with the nonce that it got. -/
def mixedRequests : ℕ → ServiceRequest
  | 0 => .workflow (.create validation (Dict.ofEntries [(py "asset", .str data)])
      (some (py "run-1")))
  | _ => .message (message data)

def turns : List ℕ := [0, 0, 0, 1, 0, 1, 0, 1, 0, 1, 1, 1, 1, 1, 1]

def loadsNothing : Str → Except Exc Json := fun _ => .ok .null

theorem served_governed :
    WriteGate.Governed rdf bootstrap.writeGate [] (bootstrap.serve steadyHost rdf loadsNothing
      mixedRequests (ServiceBootstrap.started [] Dict.empty []) turns).state.engine.gate :=
  ServiceBootstrap.committed_writes_governed mixedRequests [] Dict.empty [] turns
    (by decide +kernel) (by decide +kernel)

theorem served_within_quota :
    (bootstrap.serve steadyHost rdf loadsNothing mixedRequests
        (ServiceBootstrap.started [] Dict.empty []) turns).state.engine.gate.database.length ≤
      ([] : Database).length + smallQuota.writeQuotas.maxOperationsPerSession.toNat :=
  ServiceBootstrap.commits_within_quota rfl mixedRequests [] Dict.empty [] turns

/-- The message was let pass. -/
example : (bootstrap.serve steadyHost rdf loadsNothing mixedRequests
    (ServiceBootstrap.started [] Dict.empty []) turns).state.engine.gate.database.length = 1 := by
  decide +kernel

end Sample

end AgentOS
