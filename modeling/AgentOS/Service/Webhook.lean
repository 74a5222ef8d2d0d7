import AgentOS.Kernel.Kernel
import AgentOS.Service.Service

/-!
# The webhook

The route that takes the events of Feishu: a challenge is answered, the callback of a card
resumes its run, and a message wakes the kernel. The kernel and the engine share the write
gate. The calls that the route makes to them are listed, newest first; no function reads them.
-/

namespace AgentOS

open Python Cooperative

/-- A call that the route makes. -/
inductive ServiceCall where
  | wakeUp (message : FeishuAdapter.EventMessage)
  | resume (runId decision : Str)

/-- The state of the service; the kernel's gate is the one of the engine. -/
structure ServiceState (ν : Type) where
  engine : EngineState
  sessionCount : ℕ
  breaker : BreakerState ν
  fuse : FuseState
  calls : List ServiceCall

abbrev ServiceWorld (ν : Type) := Timed (ServiceState ν)

namespace ServiceState

variable {ν : Type}

def kernel (state : ServiceState ν) : KernelState ν where
  gate := state.engine.gate
  sessionCount := state.sessionCount
  breaker := state.breaker
  fuse := state.fuse

def setKernel (kernel : KernelState ν) (state : ServiceState ν) : ServiceState ν :=
  { state with
    engine := state.engine.setGate kernel.gate
    sessionCount := kernel.sessionCount
    breaker := kernel.breaker
    fuse := kernel.fuse }

def setEngine (engine : EngineState) (state : ServiceState ν) : ServiceState ν :=
  { state with engine }

def noteCall (call : ServiceCall) (state : ServiceState ν) : ServiceState ν :=
  { state with calls := call :: state.calls }

end ServiceState

/-- What the route reads of a request. -/
structure WebhookRequest where
  /-- `X-Lark-Request-Timestamp`, empty when it is missing, as the other headers are. -/
  timestamp : Str
  /-- `X-Lark-Request-Nonce`. -/
  nonce : Str
  /-- `X-Lark-Signature`. -/
  signature : Str
  rawBody : Str

namespace FeishuAdapter

/-- `verify_signature`. -/
def verifySignature (host : Host) (verificationToken timestamp nonce body expectedSignature : Str) :
    Except Exc Bool :=
  if verificationToken = [] then .ok false
  else if expectedSignature = [] then .ok false
  else if timestamp = [] ∨ nonce = [] then .ok false
  else do
    let payload ← host.encode (timestamp ++ nonce ++ verificationToken ++ body)
    WriteGate.compareDigest expectedSignature (host.sha256 payload)

end FeishuAdapter

/-- The text of a value in an f-string. -/
def valueText (host : Host) : Json → Str
  | .str text => text
  | value => host.strValue value

/-- The components behind the routes. -/
structure Gateway (ν : Type) where
  service : Service
  kernel : Option (AgentOSKernel ν)
  /-- The `verification_token` of the Feishu adapter, if there is an adapter. -/
  verificationToken : Option Str

namespace Gateway

variable {ν : Type} (host : Host) (rdf : RdfLib) (loads : Str → Except Exc Json)
  (gateway : Gateway ν)

def atKernel {α : Type} (body : Coro Exc (KernelWorld ν) α) : Coro Exc (ServiceWorld ν) α :=
  body.zoom (Timed.part ServiceState.kernel) (Timed.setPart ServiceState.setKernel)

def atEngine {α : Type} (body : Coro Exc EngineWorld α) : Coro Exc (ServiceWorld ν) α :=
  body.zoom (Timed.part ServiceState.engine) (Timed.setPart ServiceState.setEngine)

def noteCall (call : ServiceCall) : Coro Exc (ServiceWorld ν) Unit :=
  Coro.sync (Timed.modify (ServiceState.noteCall call))

/-- `wake_up` on the message of an event, whose text may be no string. -/
def wakeUp (kernel : AgentOSKernel ν) (message : FeishuAdapter.EventMessage) :
    Coro Exc (KernelWorld ν) ChannelResponse :=
  match message.text with
  | .str text => kernel.wakeUp host rdf {
      text, senderId := valueText host message.senderId
      senderName := valueText host message.senderName, channel := message.channel
      messageId := valueText host message.messageId }
  | value => do
      let _ ← Coro.sync AgentOSKernel.nextSession
      throw (.builtin "AttributeError"
        (py "'" ++ value.typeName ++ py "' object has no attribute 'strip'"))

/-- `_handle_card_callback` of the route. -/
def handleCardCallback (body : Json) : Coro Exc (ServiceWorld ν) Json :=
  match FeishuAdapter.parseCardCallback body with
  | .error exc => throw exc
  | .ok none => pure (statusReply "ignored" (py "not an approval callback"))
  | .ok (some callback) =>
      match gateway.service.sopEngine, gateway.service.stateStore with
      | some engine, true => do
          let loaded ← atEngine (Coro.sync (SOPEngine.loadState host callback.runId))
          match loaded with
          | none =>
              pure (statusReply "error"
                (py "SOP run " ++ host.strValue callback.runId ++
                  py " not found (may have expired)"))
          | some ctx => do
              let defined ← atEngine
                (Coro.sync (Timed.outcome (gateway.service.loadSopDefinition ctx.sopId)))
              match defined with
              | none =>
                  pure (statusReply "error" (py "SOP definition " ++ ctx.sopId ++ py " not found"))
              | some sop => do
                  noteCall (.resume ctx.runId callback.decision)
                  let _ ← atEngine (engine.resume host rdf sop ctx callback.decision callback.reason
                    callback.reviewer)
                  pure (.obj [(py "status", .str (py "ok")), (py "run_id", callback.runId),
                    (py "decision", .str callback.decision)])
      | _, _ => pure (statusReply "error" (py "SOP engine not available"))

/--
The branch of the messages. No reply of the kernel bears a `feishu_message_id`, so that
`send_response` sends nothing.
-/
def handleEvent (body : Json) : Coro Exc (ServiceWorld ν) Json := do
  let message ← Coro.done (FeishuAdapter.parseEvent loads body)
  match message with
  | none => pure (statusReply "ignored" (py "unsupported event type"))
  | some message =>
      match gateway.kernel with
      | some kernel => do
          noteCall (.wakeUp message)
          let response ← atKernel (wakeUp host rdf kernel message)
          pure (.obj [(py "status", .str (py "ok")), (py "session", .int response.sessionId)])
      | none => throw (.builtin "AttributeError"
          (py "'NoneType' object has no attribute 'wake_up'"))

/-- `"action" in body`. -/
def hasAction (body : Json) : Bool := (body.get? (py "action")).isSome

/-- `feishu_webhook`: the headers of the request are not read. -/
def feishuWebhook (request : WebhookRequest) : Coro Exc (ServiceWorld ν) Json :=
  if gateway.verificationToken.isSome then do
    let body ← Coro.done (loads request.rawBody)
    let challenge ← Coro.done (FeishuAdapter.verifyChallenge body)
    match challenge with
    | some reply => pure reply
    | none =>
        if hasAction body then gateway.handleCardCallback host rdf body
        else gateway.handleEvent host rdf loads body
  else throw (httpException 503 (py "Feishu adapter not configured"))

end Gateway

end AgentOS
