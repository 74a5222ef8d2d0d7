import AgentOS.Kernel.Routing
import AgentOS.Service.LookUp
import AgentOS.Service.Webhook
import AgentOS.Workflow.Retry

/-!
# Unsigned requests

The route never asks for the signature of a request. So a request whose signature would be
rejected is harmless exactly when its body leads neither to the engine nor to the kernel.
-/

namespace AgentOS

open Python Cooperative

namespace Gateway

variable {ν : Type} (host : Host) (loads : Str → Except Exc Json) (gateway : Gateway ν)

/-- The signature of the request is checked and rejected. -/
def Rejects (request : WebhookRequest) : Prop :=
  ∃ token, gateway.verificationToken = some token ∧
    FeishuAdapter.verifySignature host token request.timestamp request.nonce request.rawBody
      request.signature = .ok false

/-- An answer that carries out nothing: the challenge is returned, or the request turned down. -/
def TurnsDown (reply : Json) : Prop :=
  (∃ challenge, reply = .obj [(py "challenge", challenge)]) ∨
    ∃ reason, reply = statusReply "ignored" reason ∨ reply = statusReply "error" reason

/-- A request has called nobody and changed nothing, and at most a challenge was answered. -/
structure Inert (start : ServiceWorld ν) (result : Except Exc Json × ServiceWorld ν) : Prop where
  calls : result.2.state.calls = start.state.calls
  runs : result.2.state.engine.runs = start.state.engine.runs
  feedback : result.2.state.engine.feedback = start.state.engine.feedback
  gate : result.2.state.engine.gate = start.state.engine.gate
  answer : ∀ reply, result.1 = .ok reply → TurnsDown reply

/-- The body is the callback of a card, and its run and the definition are found. -/
structure Resumes (body : Json) (callback : CardCallback) (engine : SOPEngine) (ctx : SOPRunContext)
    (sop : SOPDefinition) (world : ServiceWorld ν) : Prop where
  parsed : FeishuAdapter.parseCardCallback body = .ok (some callback)
  wired : gateway.service.sopEngine = some engine
  stores : gateway.service.stateStore = true
  loaded : RunTable.loadState host callback.runId world.state.engine.runs = .ok (some ctx)
  defined : gateway.service.loadSopDefinition ctx.sopId world.tick = .ok (some sop)

/-- The body leads to the engine, or it is a message for the kernel. -/
def Leads (body : Json) (world : ServiceWorld ν) : Prop :=
  if hasAction body then
    ∃ callback engine ctx sop, gateway.Resumes host body callback engine ctx sop world
  else ∃ message kernel, FeishuAdapter.parseEvent loads body = .ok (some message) ∧
    gateway.kernel = some kernel

/-- The request is no challenge, and its body leads to the engine or to the kernel. -/
def Reaches (request : WebhookRequest) (world : ServiceWorld ν) : Prop :=
  gateway.verificationToken.isSome = true ∧ ∃ body, loads request.rawBody = .ok body ∧
    FeishuAdapter.verifyChallenge body = .ok none ∧ gateway.Leads host loads body world

variable {host loads gateway} {rdf : RdfLib} {world : ServiceWorld ν} {body : Json}

/-! ### What the branches do -/

theorem inert_of_same {start final : ServiceWorld ν} {result : Except Exc Json}
    (same : final.state = start.state) (answer : ∀ reply, result = .ok reply → TurnsDown reply) :
    Inert start (result, final) :=
  ⟨congrArg ServiceState.calls same, congrArg (fun state => state.engine.runs) same,
    congrArg (fun state => state.engine.feedback) same,
    congrArg (fun state => state.engine.gate) same, answer⟩

theorem inert_error {start final : ServiceWorld ν} {exc : Exc} (same : final.state = start.state) :
    Inert start (.error exc, final) :=
  inert_of_same same fun _ returned => nomatch returned

theorem inert_reply {start final : ServiceWorld ν} {reply : Json} (same : final.state = start.state)
    (turnsDown : TurnsDown reply) : Inert start (.ok reply, final) := by
  apply inert_of_same same
  rintro _ ⟨⟩
  exact turnsDown

theorem turnsDown_status {status : String} (known : status = "ignored" ∨ status = "error")
    (reason : Str) : TurnsDown (statusReply status reason) := by
  rcases known with rfl | rfl
  · exact .inr ⟨reason, .inl rfl⟩
  · exact .inr ⟨reason, .inr rfl⟩

theorem verifyChallenge_reply {reply : Json}
    (challenged : FeishuAdapter.verifyChallenge body = .ok (some reply)) :
    ∃ challenge, reply = .obj [(py "challenge", challenge)] := by
  simp only [FeishuAdapter.verifyChallenge, bind, Except.bind] at challenged
  repeat' split at challenged
  all_goals cases challenged
  exact ⟨_, rfl⟩

theorem atEngine_run {α : Type} (body : Coro Exc EngineWorld α) (world : ServiceWorld ν) :
    (atEngine body).run world =
      ((body.run (world.part ServiceState.engine)).1, Timed.setPart ServiceState.setEngine
        (body.run (world.part ServiceState.engine)).2 world) := by
  unfold atEngine
  apply Coro.run_zoom <;> intros <;> rfl

theorem run_noteCall {β : Type} (call : ServiceCall) (callee : Coro Exc (ServiceWorld ν) β)
    (world : ServiceWorld ν) :
    (noteCall call >>= fun _ => callee).run world =
      callee.run ⟨world.tick, world.state.noteCall call⟩ := by
  have noted : (noteCall call).run world = (.ok (), ⟨world.tick, world.state.noteCall call⟩) :=
    Coro.run_sync _ _
  exact Coro.run_bind_of_ok noted

/-- A call that was noted stays noted, whatever the callee does. -/
theorem calls_of_noted {β : Type} (call : ServiceCall) {callee : Coro Exc (ServiceWorld ν) β}
    (keeps : callee.Keeps (fun world => world.state.calls) fun _ => True)
    (world : ServiceWorld ν) :
    ((noteCall call >>= fun _ => callee).run world).2.state.calls = call :: world.state.calls := by
  rw [run_noteCall]
  exact (keeps.run _).2

theorem keeps_calls_atEngine {α : Type} (body : Coro Exc EngineWorld α) :
    (atEngine body : Coro Exc (ServiceWorld ν) α).Keeps (fun world => world.state.calls)
      fun _ => True := by
  apply Coro.keeps_zoom
  · exact fun _ _ => rfl
  · exact fun _ => trivial

theorem keeps_calls_atKernel {α : Type} (body : Coro Exc (KernelWorld ν) α) :
    (atKernel body : Coro Exc (ServiceWorld ν) α).Keeps (fun world => world.state.calls)
      fun _ => True := by
  apply Coro.keeps_zoom
  · exact fun _ _ => rfl
  · exact fun _ => trivial

theorem atEngine_bind {α β : Type} (first : Coro Exc EngineWorld α)
    (rest : α → Coro Exc EngineWorld β) :
    (atEngine (first >>= rest) : Coro Exc (ServiceWorld ν) β) =
      atEngine first >>= fun value => atEngine (rest value) :=
  Coro.zoom_bind _ _ first rest

/-- The call of the engine is noted before it is made. -/
def resumeFound (host : Host) (rdf : RdfLib) (found : Service.Found) :
    Coro Exc (ServiceWorld ν) Json := do
  noteCall (.resume found.ctx.runId found.callback.decision)
  atEngine (found.resume host rdf)

theorem handleCardCallback_eq (body : Json) :
    gateway.handleCardCallback host rdf body =
      atEngine (gateway.service.lookUp host body) >>= Sum.elim pure (resumeFound host rdf) := by
  unfold handleCardCallback Service.lookUp
  rcases FeishuAdapter.parseCardCallback body with exc | _ | callback
  · rfl
  · rfl
  rcases gateway.service.sopEngine with _ | engine
  · rfl
  rcases gateway.service.stateStore with _ | _
  · rfl
  dsimp only
  rw [atEngine_bind, Coro.bind_assoc]
  congr 1
  funext loaded
  rcases loaded with _ | ctx
  · rfl
  dsimp only
  rw [atEngine_bind, Coro.bind_assoc]
  congr 1
  funext defined
  rcases defined with _ | sop
  · rfl
  · change _ = resumeFound host rdf ⟨callback, engine, ctx, sop⟩
    rw [resumeFound, Service.Found.resume, atEngine_bind]
    rfl

theorem resumes_iff {found : Service.Found} :
    gateway.Resumes host body found.callback found.engine found.ctx found.sop world ↔
      gateway.service.LeadsTo host body found (world.part ServiceState.engine) := by
  constructor
  · exact fun resumes => ⟨resumes.parsed, resumes.wired, resumes.stores, resumes.loaded,
      resumes.defined⟩
  · exact fun leads => ⟨leads.parsed, leads.wired, leads.stores, leads.loaded, leads.defined⟩

/-- The branch does on the engine what the handler of the service does. -/
theorem handleCardCallback_engine (host : Host) (rdf : RdfLib) (gateway : Gateway ν) (body : Json)
    (world : ServiceWorld ν) :
    (gateway.service.handleCardCallback host rdf body).run (world.part ServiceState.engine) =
      (((gateway.handleCardCallback host rdf body).run world).1,
        ((gateway.handleCardCallback host rdf body).run world).2.part ServiceState.engine) := by
  rw [Service.handleCardCallback_run, handleCardCallback_eq, Coro.run_bind, atEngine_run]
  rcases (gateway.service.lookUp host body).run (world.part ServiceState.engine) with
    ⟨exc | reply | found, after⟩
  · rfl
  · rfl
  · dsimp only [Sum.elim_inr, resumeFound]
    rw [run_noteCall, atEngine_run]
    rfl

/-- A callback calls the engine when its run and the definition are found, and else it is inert. -/
theorem handleCardCallback_cases (host : Host) (rdf : RdfLib) (gateway : Gateway ν) (body : Json)
    (world : ServiceWorld ν) :
    ((∃ callback engine ctx sop, gateway.Resumes host body callback engine ctx sop world) ∧
      ∃ call, ((gateway.handleCardCallback host rdf body).run world).2.state.calls =
        call :: world.state.calls) ∨
    (¬ (∃ callback engine ctx sop, gateway.Resumes host body callback engine ctx sop world) ∧
      Inert world ((gateway.handleCardCallback host rdf body).run world)) := by
  rw [handleCardCallback_eq, Coro.run_bind, atEngine_run]
  rcases Service.lookUp_cases host gateway.service body (world.part ServiceState.engine) with
    ⟨found, leads⟩ | ⟨result, tick, ends, looked⟩
  · left
    rw [leads.lookUp]
    refine ⟨⟨_, _, _, _, resumes_iff.mpr leads⟩,
      .resume found.ctx.runId found.callback.decision, ?_⟩
    exact calls_of_noted _ (keeps_calls_atEngine _) _
  · right
    rw [looked]
    constructor
    · rintro ⟨callback, engine, ctx, sop, resumes⟩
      exact ends.not_leadsTo looked ⟨callback, engine, ctx, sop⟩ (resumes_iff.mp resumes)
    · cases ends with
      | raised exc => exact inert_error rfl
      | ignored reason => exact inert_reply rfl (turnsDown_status (.inl rfl) reason)
      | failed reason => exact inert_reply rfl (turnsDown_status (.inr rfl) reason)

theorem handleEvent_cases (host : Host) (rdf : RdfLib) (loads : Str → Except Exc Json)
    (gateway : Gateway ν) (body : Json) (world : ServiceWorld ν) :
    ((∃ message kernel, FeishuAdapter.parseEvent loads body = .ok (some message) ∧
        gateway.kernel = some kernel) ∧
      ∃ call, ((gateway.handleEvent host rdf loads body).run world).2.state.calls =
        call :: world.state.calls) ∨
    (¬ (∃ message kernel, FeishuAdapter.parseEvent loads body = .ok (some message) ∧
        gateway.kernel = some kernel) ∧
      Inert world ((gateway.handleEvent host rdf loads body).run world)) := by
  unfold handleEvent
  rcases parsed : FeishuAdapter.parseEvent loads body with exc | _ | message
  · exact .inr ⟨by simp, inert_error rfl⟩
  · exact .inr ⟨by simp, inert_reply rfl (turnsDown_status (.inl rfl) _)⟩
  rcases wired : gateway.kernel with _ | kernel
  · exact .inr ⟨by simp, inert_error rfl⟩
  · refine .inl ⟨⟨message, kernel, rfl, rfl⟩, .wakeUp message, ?_⟩
    apply calls_of_noted
    exact Coro.keeps_bind (keeps_calls_atKernel _) (fun _ _ => trivial) fun _ _ => trivial

/-- A body that is read and is no challenge reaches what it leads to. -/
theorem reaches_iff {request : WebhookRequest} {challenge : Except Exc (Option Json)}
    (adapter : gateway.verificationToken.isSome = true) (read : loads request.rawBody = .ok body)
    (challenged : FeishuAdapter.verifyChallenge body = challenge) (world : ServiceWorld ν) :
    gateway.Reaches host loads request world ↔
      challenge = .ok none ∧ gateway.Leads host loads body world := by
  simp [Reaches, adapter, read, challenged]

/-- The request calls the engine or the kernel when it reaches them, and else it is inert. -/
theorem feishuWebhook_cases (host : Host) (rdf : RdfLib) (loads : Str → Except Exc Json)
    (gateway : Gateway ν) (request : WebhookRequest) (world : ServiceWorld ν) :
    (gateway.Reaches host loads request world ∧
      ∃ call, ((gateway.feishuWebhook host rdf loads request).run world).2.state.calls =
        call :: world.state.calls) ∨
    (¬ gateway.Reaches host loads request world ∧
      Inert world ((gateway.feishuWebhook host rdf loads request).run world)) := by
  unfold feishuWebhook
  by_cases adapter : gateway.verificationToken.isSome = true
  · rw [if_pos adapter]
    rcases read : loads request.rawBody with exc | body
    · exact .inr ⟨by simp [Reaches, read], inert_error rfl⟩
    rw [Coro.done_ok_bind]
    rcases challenged : FeishuAdapter.verifyChallenge body with exc | _ | reply <;>
      rw [reaches_iff adapter read challenged]
    · exact .inr ⟨by simp, inert_error rfl⟩
    · rw [Coro.done_ok_bind, Leads]
      by_cases action : hasAction body = true
      · simpa only [action, if_true, true_and] using
          handleCardCallback_cases host rdf gateway body world
      · simpa only [action, Bool.false_eq_true, if_false, true_and] using
          handleEvent_cases host rdf loads gateway body world
    · exact .inr ⟨by simp, inert_reply rfl (.inl (verifyChallenge_reply challenged))⟩
  · rw [if_neg adapter]
    exact .inr ⟨fun reaches => adapter reaches.1, inert_error rfl⟩

/-- A request with a bad signature is inert exactly when its body leads nowhere. -/
theorem unsigned_inert_iff (host : Host) (rdf : RdfLib) (loads : Str → Except Exc Json)
    (gateway : Gateway ν) (request : WebhookRequest) (world : ServiceWorld ν) :
    (gateway.Rejects host request →
      Inert world ((gateway.feishuWebhook host rdf loads request).run world)) ↔
      ¬ (gateway.Rejects host request ∧ gateway.Reaches host loads request world) := by
  rcases feishuWebhook_cases host rdf loads gateway request world with
    ⟨reaches, call, called⟩ | ⟨leadsNowhere, inert⟩
  · constructor
    · rintro inert ⟨rejects, -⟩
      have same := (inert rejects).calls
      rw [called] at same
      exact absurd same (List.cons_ne_self _ _)
    · exact fun harmless rejects => absurd ⟨rejects, reaches⟩ harmless
  · constructor
    · exact fun _ both => leadsNowhere both.2
    · exact fun _ _ => inert

end Gateway

namespace Sample

/-- A gateway with all its components, whose token is configured. -/
def gateway : Gateway Unit :=
  ⟨⟨some engine, true, fun _ _ => .ok (some approvedWrite)⟩, some kernel, some (py "token")⟩

def waitingService : ServiceWorld Unit :=
  ⟨0, ⟨storedWorld.state, 0, BreakerState.initial, BillingFuse.initial, []⟩⟩

/-- A click on APPROVED for the waiting run. -/
def forgedClick : Json :=
  .obj [(py "action", .obj [(py "value", .obj [
    (py "action", .str (py "APPROVED")), (py "run_id", .str (py "run-1"))])])]

/-- The click without any header. -/
def unsignedRequest : WebhookRequest := ⟨[], [], [], forgedClick.dumps steadyHost.strFloat⟩

def forgedCallback : CardCallback :=
  ⟨.str (py "run-1"), .str [], py "APPROVED", .str (py "unknown"), .str [], by decide⟩

theorem unsigned_click_resumes :
    ¬ ∀ (ν : Type) (host : Host) (rdf : RdfLib) (loads : Str → Except Exc Json)
      (gateway : Gateway ν) (request : WebhookRequest) (world : ServiceWorld ν),
      gateway.verificationToken ≠ some [] → gateway.Rejects host request →
      Gateway.Inert world ((gateway.feishuWebhook host rdf loads request).run world) := by
  intro claim
  have resumes : gateway.Resumes steadyHost forgedClick forgedCallback engine waitingRun
      approvedWrite waitingService := by
    refine ⟨rfl, rfl, rfl, ?_, rfl⟩
    rw [forgedCallback, RunTable.loadState_str, if_pos (by decide)]
    exact congrArg Except.ok (SOPEngine.stored_of_storedAs rfl rfl (waitingRun_storedAs engine))
  have reaches : gateway.Reaches steadyHost (fun _ => .ok forgedClick) unsignedRequest
      waitingService := by
    refine ⟨rfl, forgedClick, rfl, rfl, ?_⟩
    rw [Gateway.Leads, if_pos (by rfl)]
    exact ⟨_, _, _, _, resumes⟩
  rcases Gateway.feishuWebhook_cases steadyHost rdf (fun _ => .ok forgedClick) gateway
    unsignedRequest waitingService with ⟨-, call, called⟩ | ⟨leadsNowhere, -⟩
  · have inert := claim Unit steadyHost rdf (fun _ => .ok forgedClick) gateway unsignedRequest
      waitingService nofun ⟨_, rfl, rfl⟩
    rw [inert.calls] at called
    cases called
  · exact leadsNowhere reaches

end Sample

end AgentOS
