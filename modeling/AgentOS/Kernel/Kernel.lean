import AgentOS.Governance.WriteGate
import AgentOS.Security.BillingFuse
import AgentOS.Security.CircuitBreaker
import AgentOS.Security.Firewall

/-!
# Kernel

A message passes three hooks, is routed by the words it contains, and is billed; every
exception on the way becomes a reply whose status tells the exception class. The kernel
awaits only inside a governed write.
-/

namespace AgentOS

open Python Cooperative

structure ChannelMessage where
  text : Str
  senderId : Str
  senderName : Str
  channel : Str
  messageId : Str
  deriving DecidableEq

/-- The `status` in the metadata of a reply. -/
inductive ReplyStatus where
  | ok
  | blocked
  | tripped
  | intercepted
  | exhausted
  | error
  deriving DecidableEq

structure ChannelResponse where
  text : Str
  channel : Str
  sessionId : ℕ
  status : ReplyStatus
  error : Option Str
  deriving DecidableEq

/-- The configuration of the kernel and the components it is wired with. -/
structure AgentOSKernel (ν : Type) where
  version : Str
  domainNames : List Str
  writeGate : Option WriteGate
  autonomyPolicy : Option AutonomyPolicy
  firewall : SemanticFirewall
  circuitBreaker : CircuitBreaker Str ν
  billingFuse : BillingFuse

structure KernelState (ν : Type) where
  gate : GateState
  sessionCount : ℕ
  breaker : BreakerState ν
  fuse : FuseState

abbrev KernelWorld (ν : Type) := Timed (KernelState ν)

namespace KernelState

variable {ν : Type}

def setGate (gate : GateState) (kernel : KernelState ν) : KernelState ν := { kernel with gate }

def setBreaker (breaker : BreakerState ν) (kernel : KernelState ν) : KernelState ν :=
  { kernel with breaker }

def setFuse (fuse : FuseState) (kernel : KernelState ν) : KernelState ν := { kernel with fuse }

end KernelState

/-- What `_process_message` does with a text. -/
inductive Intent where
  | schema
  | validationHint
  | governedWrite (domain nonce data : Str)
  | malformedWrite
  | writeHint
  | greeting
  deriving DecidableEq

/-- The branch that starts with `execute_governed_write`, which reads the raw text. -/
def writeIntent (rawText : Str) : Intent :=
  let lines := splitSepOnce 0x0A rawText
  match split (lines.headD []) with
  | _ :: domain :: nonce :: _ => .governedWrite domain nonce (lines.tail.headD [])
  | _ => .malformedWrite

/-- The chain of tests of `_process_message`. -/
def intentOf (rawText : Str) : Intent :=
  let textStripped := strip rawText
  let textLower := lower textStripped
  if contains textLower (py "schema") ∧ contains textLower (py "it-asset") then .schema
  else if contains textLower (py "validate") ∨ contains textLower (py "verify") then
    .validationHint
  else if startswith textStripped (py "execute_governed_write ") then writeIntent rawText
  else if contains textLower (py "write") ∨ contains textLower (py "execute") then .writeHint
  else .greeting

/-- `_looks_like_command`. -/
def looksLikeCommand (text : Str) : Bool :=
  if text = [] ∨ strip text = [] then false
  else
    let firstToken := (split text).headD []
    let rest := strip (text.drop firstToken.length)
    if firstToken = py "execute_governed_write" then false
    else if startswith firstToken (py "/") ∨ startswith firstToken (py "./") then true
    else if ¬ (firstToken ≠ [] ∧ 2 ≤ firstToken.length ∧ ¬ contains firstToken (py " ") ∧
        islower firstToken) then false
    else if rest ≠ [] ∧ (contains rest (py "--") ∨
        (startswith rest (py "-") ∧ 3 ≤ rest.length)) then true
    else if rest ≠ [] ∧ ([py "/", py "|", py ">", py "<", py "&"].any (contains rest)) then true
    else false

/-- `cls.get("label") or cls.get("iri", "?")` with the comment, if there is one. -/
def formatClass (cls : ClassInfo) : Str :=
  let label := match cls.label with
    | some label => if label ≠ [] then label else cls.iri
    | none => cls.iri
  py "  - " ++ label ++ (match cls.comment with
    | some comment => if comment ≠ [] then py " — " ++ comment else []
    | none => [])

/-- A shape without target class has `None` there, which cannot be split. -/
def formatShape (shape : ShapeInfo) : Except Exc Str :=
  match shape.targetClass with
  | some target =>
      .ok (py "  - " ++ (splitSep 0x23 target).getLastD [] ++ py ": " ++
        strNat shape.properties.length ++ py " required fields")
  | none => .error (.builtin "AttributeError" (py "'NoneType' object has no attribute 'split'"))

/-- `_format_schema_response`. -/
def formatSchemaResponse (schema : SchemaDefinition) : Except Exc Str := do
  let head := py "📋 Schema for domain: " ++ schema.domain
  let classes :=
    if schema.classes.isEmpty then []
    else py "\n🏷️ Classes:" :: (schema.classes.take 10).map formatClass
  let shapes ← (schema.shaclShapes.take 5).mapM formatShape
  let constraints :=
    if schema.shaclShapes.isEmpty then [] else py "\n✅ SHACL Constraints:" :: shapes
  return join (py "\n") (head :: classes ++ constraints)

/-- The words whose presence is billed as one call of the language model. -/
def billedKeywords : List Str := [py "validate", py "verify", py "write", py "execute"]

def isBilled (text : Str) : Bool := billedKeywords.any (contains (lower text))

/-- The usage that the kernel records for a billed message. -/
def messageUsage (timestamp : ℚ) : TokenUsage := ⟨800, 400, py "claude-sonnet-4", timestamp⟩

namespace AgentOSKernel

variable {ν : Type} (host : Host) (rdf : RdfLib) (kernel : AgentOSKernel ν)

def atBreaker {α : Type} (body : Action Exc (Timed (BreakerState ν)) α) :
    Action Exc (KernelWorld ν) α :=
  body.zoom (Timed.part KernelState.breaker) (Timed.setPart KernelState.setBreaker)

def atFuse {α : Type} (body : Action Exc FuseState α) : Action Exc (KernelWorld ν) α :=
  body.zoom (fun world => world.state.fuse)
    fun fuse world => { world with state := world.state.setFuse fuse }

def atGate {α : Type} (body : Coro Exc GateWorld α) : Coro Exc (KernelWorld ν) α :=
  body.zoom (Timed.part KernelState.gate) (Timed.setPart KernelState.setGate)

/-- `_enforce_policy`. -/
def enforcePolicy (policy : AutonomyPolicy) (message : ChannelMessage) :
    Action Exc (KernelWorld ν) Unit := do
  policy.checkSessionAlive host
  let text := strip message.text
  if looksLikeCommand text then ofExcept (policy.checkCommand host text)

/-- The hooks before the message is processed. -/
def preDispatch (message : ChannelMessage) : Action Exc (KernelWorld ν) Unit := do
  let text := strip message.text
  let _ ← ofExcept (kernel.firewall.scan text (py "user_prompt"))
  let tripped ← atBreaker (kernel.circuitBreaker.isOpen host text)
  raiseIf tripped ⟨.circuitBreakerOpenError,
    py "Circuit is open for input pattern due to repeated failures.", none⟩
  match kernel.autonomyPolicy with
  | some policy => enforcePolicy host policy message
  | none => pure ()

def listDomains : Str :=
  if kernel.domainNames.isEmpty then py "none configured" else join (py ", ") kernel.domainNames

/-- `_process_message`. -/
def processMessage (message : ChannelMessage) : Coro Exc (KernelWorld ν) Str :=
  match intentOf message.text with
  | .schema =>
      match kernel.writeGate with
      | some gate => Coro.done do
          let schema ← gate.getDomainSchema host rdf (py "it-asset-mgmt")
          formatSchemaResponse schema
      | none => pure (py "Governance gateway not configured — cannot retrieve schema.")
  | .validationHint =>
      pure (py "To validate data, use the MCP tool `verify_shacl_compliance` " ++
        py "with your RDF data in Turtle format.")
  | .governedWrite domain nonce data =>
      match kernel.writeGate with
      | some gate => do
          let result ← atGate
            (gate.executeGovernedWrite host rdf domain data nonce (py "turtle"))
          pure (py "Write successful: " ++ result.str host)
      | none => pure (py "Governance gateway not configured.")
  | .malformedWrite =>
      pure (py "Invalid execute_governed_write format. " ++
        py "Expected: execute_governed_write <domain> <nonce>")
  | .writeHint =>
      pure (py "To execute a governed write, first call " ++
        py "`verify_shacl_compliance` to get a validation nonce, " ++
        py "then call `execute_governed_write` with the nonce.")
  | .greeting =>
      pure (py "👋 Hello " ++ message.senderName ++ py "! I'm ZeroClaw v" ++ kernel.version ++
        py ". Available domains: " ++ kernel.listDomains ++
        py ". Try asking for a schema, validating data, or executing a write.")

/-- The hook after the message was processed. -/
def billMessage (message : ChannelMessage) : Action Exc (KernelWorld ν) Unit :=
  if isBilled (strip message.text) then do
    let timestamp ← host.readTime
    let _ ← atFuse (kernel.billingFuse.recordUsage host (messageUsage timestamp))
    pure ()
  else pure ()

def reply (message : ChannelMessage) (sessionId : ℕ) (status : ReplyStatus) (intro : Str)
    (exc : Exc) : ChannelResponse :=
  { text := intro ++ exc.message, channel := message.channel, sessionId, status
    error := some exc.message }

/-- The failure is recorded for the stripped text, which may itself raise. -/
def replyFailure (message : ChannelMessage) (sessionId : ℕ) (intro : Str) (exc : Exc) :
    Action Exc (KernelWorld ν) ChannelResponse := do
  let text := strip message.text
  let _ ← atBreaker (kernel.circuitBreaker.recordFailure host text text exc.cls.name)
  pure (reply message sessionId .error intro exc)

/-- The `except` clauses of `wake_up`. -/
def replyException (message : ChannelMessage) (sessionId : ℕ) (exc : Exc) :
    Action Exc (KernelWorld ν) ChannelResponse :=
  match exc.cls with
  | .policyViolationError =>
      pure (reply message sessionId .blocked (py "⛔ Operation blocked by autonomy policy: ") exc)
  | .circuitBreakerOpenError =>
      pure (reply message sessionId .tripped (py "🔌 Circuit breaker active: ") exc)
  | .securityInterceptError =>
      pure (reply message sessionId .intercepted (py "🛡️ Security intercept: ") exc)
  | .billingFuseTrippedError =>
      pure (reply message sessionId .exhausted (py "💸 Billing limit reached: ") exc)
  | cls =>
      if cls.isAgentOSException then
        kernel.replyFailure host message sessionId (py "❌ Agent OS error: ") exc
      else kernel.replyFailure host message sessionId (py "💥 Unexpected error: ") exc

/-- `self._session_count += 1`. -/
def nextSession : Action Exc (KernelWorld ν) ℕ := do
  Timed.modify fun state => { state with sessionCount := state.sessionCount + 1 }
  Timed.view KernelState.sessionCount

/-- The `try` block of `wake_up`. -/
def dispatch (message : ChannelMessage) (sessionId : ℕ) :
    Coro Exc (KernelWorld ν) ChannelResponse := do
  Coro.sync (kernel.preDispatch host message)
  let result ← kernel.processMessage host rdf message
  Coro.sync (kernel.billMessage host message)
  pure { text := result, channel := message.channel, sessionId, status := .ok, error := none }

/-- `wake_up`. -/
def wakeUp (message : ChannelMessage) : Coro Exc (KernelWorld ν) ChannelResponse := do
  let sessionId ← Coro.sync nextSession
  tryCatch (kernel.dispatch host rdf message sessionId) fun exc =>
    Coro.sync (kernel.replyException host message sessionId exc)

end AgentOSKernel

end AgentOS
