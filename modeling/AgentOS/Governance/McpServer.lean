import AgentOS.Cooperative.Component
import AgentOS.Cooperative.Mirrors
import AgentOS.Governance.Provenance
import AgentOS.Governance.Replay
import AgentOS.Python.Json

/-!
# MCP governance gateway

The gateway offers the three stages of a governed write as tools, three for each configured
domain, and answers every call with a document. A client sees the documents only: what they say
holds of the history of the gate, in whatever order the calls are served.
-/

namespace AgentOS

open Python Cooperative Relation

/-- What a tool answers with, before `json.dumps` lays it out. -/
inductive ToolReply where
  /-- A JSON-RPC document with a `result`. -/
  | result (result : Json)
  /-- A JSON-RPC document with an `error`, which may have `data`. -/
  | error (code : ℤ) (message : Str) (data : Option Json)
  | plain (document : Json)

inductive GovernanceTool where
  | listDomains
  | executeUntrustedCode
  | getSchema (domainName : Str)
  | verifyShaclCompliance (domainName : Str)
  | executeGovernedWrite (domainName : Str)

/-- A call of a tool of the gate. -/
inductive ToolCall where
  | listDomains
  | getSchema (domainName : Str)
  | verifyShaclCompliance (domainName dataRdf rdfFormat : Str)
  | executeGovernedWrite (domainName dataRdf validationNonce rdfFormat : Str)

/-- `value if value is not None else None` in a document. -/
def optionalInt : Option ℤ → Json
  | some value => .int value
  | none => .null

/-- The dictionary that `execute_governed_write` returns. -/
def WriteResult.toDict (result : WriteResult) : Json :=
  .obj ([(py "status", .str (py "success")), (py "domain", .str result.domain),
    (py "transaction_id", .str result.transactionId)] ++
    match result.recordsWritten with
    | some written => [(py "records_written", .int written)]
    | none => [])

def ClassInfo.toDict (info : ClassInfo) : Json :=
  .obj [(py "iri", .str info.iri), (py "label", .optional info.label),
    (py "comment", .optional info.comment)]

def PropertyInfo.toDict (info : PropertyInfo) : Json :=
  .obj [(py "iri", .str info.iri), (py "type", .str info.type), (py "label", .optional info.label),
    (py "domain", .optional info.domain), (py "range", .optional info.range)]

/-- The allowed values are not parsed, and always `None`. -/
def ShapeProperty.toDict (property : ShapeProperty) : Json :=
  .obj [(py "path", .optional property.path), (py "datatype", .optional property.datatype),
    (py "minCount", optionalInt property.minCount), (py "maxCount", optionalInt property.maxCount),
    (py "name", .optional property.name), (py "description", .optional property.description),
    (py "allowedValues", .null)]

def ShapeInfo.toDict (info : ShapeInfo) : Json :=
  .obj [(py "shape_iri", .str info.shapeIri), (py "target_class", .optional info.targetClass),
    (py "properties", .arr (info.properties.map ShapeProperty.toDict))]

/-- The payload of `get_schema_definition`, with the paths of the two files. -/
def SchemaDefinition.toDict (definition : SchemaDefinition) (paths : Str × Str) : Json :=
  .obj [(py "domain", .str definition.domain),
    (py "classes", .arr (definition.classes.map ClassInfo.toDict)),
    (py "properties", .arr (definition.properties.map PropertyInfo.toDict)),
    (py "shacl_shapes", .arr (definition.shaclShapes.map ShapeInfo.toDict)),
    (py "owl_path", .str paths.1), (py "shacl_path", .str paths.2)]

/-- `GovernanceGateway`. -/
structure GovernanceGateway where
  writeGate : WriteGate
  /-- The names of `config.ontology.domains`. -/
  domainNames : List Str
  /-- Whether `wasmtime` can be imported. -/
  hasWasmtime : Bool
  /-- The paths of the ontology and of the shapes of a domain. -/
  paths : Str → Str × Str

/-! ### Registration -/

/-- `domain_name.replace('-', '_')`. -/
def underscored (domainName : Str) : Str := replaceChar 0x2D (py "_") domainName

def schemaToolName (domainName : Str) : Str := py "get_" ++ underscored domainName ++ py "_schema"

def verifyToolName (domainName : Str) : Str :=
  py "verify_shacl_compliance_" ++ underscored domainName

def writeToolName (domainName : Str) : Str :=
  py "execute_governed_write_" ++ underscored domainName

namespace GovernanceGateway

variable (host : Host) (rdf : RdfLib) (gateway : GovernanceGateway)

/-- `_register_tools`: the tools in the order in which they are registered. -/
def registerTools : List (Str × GovernanceTool) :=
  (py "list_domains", .listDomains) ::
    ((if gateway.hasWasmtime then [(py "execute_untrusted_code", .executeUntrustedCode)] else []) ++
      gateway.domainNames.flatMap fun domainName =>
        [(schemaToolName domainName, .getSchema domainName),
          (verifyToolName domainName, .verifyShaclCompliance domainName),
          (writeToolName domainName, .executeGovernedWrite domainName)])

/-! ### Handlers -/

def listDomains : ToolReply :=
  .plain (.obj [(py "domains", .arr (gateway.domainNames.map .str)),
    (py "count", .int gateway.domainNames.length),
    (py "hint", .str
      (py "Use get_\x7bdomain\x7d_schema to retrieve the schema for a specific domain."))])

def schemaHandler (domainName : Str) : ToolReply :=
  match gateway.writeGate.getDomainSchema host rdf domainName with
  | .ok schema => .plain (schema.toDict (gateway.paths domainName))
  | .error exc => .error (-32603) exc.message none

/-- The result of a verification: the report, the nonce and what to do next. -/
def verifyResult (report : SHACLValidationReport) (nonce : Option Str) : Json :=
  .obj (report.toDict ++ [(py "validation_nonce", .optional nonce), (py "next_step", .str
    (if nonce.getD [] ≠ [] then
      py "Use execute_governed_write with this validation_nonce to complete the write."
    else py "Fix the SHACL violations listed above and retry."))])

/-- The `validation_report` of a `SHACLValidationError`. -/
def reportData (exc : Exc) : Json :=
  .obj ((exc.validationReport.map SHACLValidationReport.toDict).getD [])

/-- The `except` clauses of the handler of a verification. -/
def verifyError (exc : Exc) : ToolReply :=
  if exc.cls = .shaclValidationError then .error (-32602) exc.message (some (reportData exc))
  else .error (-32603) (py "Validation error: " ++ exc.message) none

def verifyHandler (domainName dataRdf rdfFormat : Str) : Action Exc GateWorld ToolReply :=
  tryCatch (do
    let (report, nonce) ←
      gateway.writeGate.verifyShaclCompliance host rdf domainName dataRdf rdfFormat
    pure (.result (verifyResult report nonce))) fun exc => pure (verifyError exc)

/-- The `except` clauses of the handler of a write; a `WriteGateError` carries no report. -/
def writeError (exc : Exc) : ToolReply :=
  if exc.cls = .shaclValidationError then .error (-32602) exc.message (some (reportData exc))
  else if exc.cls = .writeGateError then .error (-32602) exc.message (some .null)
  else .error (-32603) (py "Write execution error: " ++ exc.message) none

def writeHandler (domainName dataRdf validationNonce rdfFormat : Str) :
    Coro Exc GateWorld ToolReply :=
  tryCatch (do
    let result ←
      gateway.writeGate.executeGovernedWrite host rdf domainName dataRdf validationNonce rdfFormat
    pure (.result result.toDict)) fun exc => pure (writeError exc)

/-- What a call of a tool does. -/
def call : ToolCall → Coro Exc GateWorld ToolReply
  | .listDomains => pure gateway.listDomains
  | .getSchema domainName => pure (gateway.schemaHandler host rdf domainName)
  | .verifyShaclCompliance domainName dataRdf rdfFormat =>
      Coro.sync (gateway.verifyHandler host rdf domainName dataRdf rdfFormat)
  | .executeGovernedWrite domainName dataRdf validationNonce rdfFormat =>
      gateway.writeHandler host rdf domainName dataRdf validationNonce rdfFormat

/-- The gateway after the calls have been served in the order of the schedule. -/
def serve (calls : ℕ → ToolCall) (database : Database) (schedule : List ℕ) :
    Pool ℕ Exc GateWorld ToolReply :=
  Pool.exec ⟨⟨0, .initial database⟩, fun i => gateway.call host rdf (calls i)⟩ schedule

end GovernanceGateway

/-! ### Tools and their names -/

namespace GovernanceTool

def name : GovernanceTool → Str
  | listDomains => py "list_domains"
  | executeUntrustedCode => py "execute_untrusted_code"
  | getSchema domainName => schemaToolName domainName
  | verifyShaclCompliance domainName => verifyToolName domainName
  | executeGovernedWrite domainName => writeToolName domainName

/-- What the name of a tool tells of it. -/
def kind : GovernanceTool → ℕ × Str
  | listDomains => (0, [])
  | executeUntrustedCode => (1, [])
  | getSchema domainName => (2, underscored domainName)
  | verifyShaclCompliance domainName => (3, underscored domainName)
  | executeGovernedWrite domainName => (4, underscored domainName)

/-- The kind as it is read from a name: its first character tells it, but for two kinds. -/
def kindOfName (name : Str) : ℕ × Str :=
  if name[0]? = some 0x6C then (0, [])
  else if name[0]? = some 0x67 then (2, (name.drop 4).take (name.length - 11))
  else if name[0]? = some 0x76 then (3, name.drop 24)
  else if name[8]? = some 0x75 then (1, [])
  else (4, name.drop 23)

theorem kindOfName_name (tool : GovernanceTool) : kindOfName tool.name = tool.kind := by
  cases tool with
  | listDomains => rfl
  | executeUntrustedCode => rfl
  | getSchema domainName =>
      have front : (py "get_" ++ underscored domainName ++ py "_schema").drop 4 =
          underscored domainName ++ py "_schema" := rfl
      have length : (py "get_" ++ underscored domainName ++ py "_schema").length - 11 =
          (underscored domainName).length := by
        have outer : (py "get_").length = 4 := rfl
        have inner : (py "_schema").length = 7 := rfl
        rw [List.length_append, List.length_append, outer, inner]
        omega
      refine congrArg (Prod.mk 2) ?_
      change ((py "get_" ++ underscored domainName ++ py "_schema").drop 4).take
        ((py "get_" ++ underscored domainName ++ py "_schema").length - 11) = underscored domainName
      rw [front, length, List.take_left]
  | verifyShaclCompliance domainName => rfl
  | executeGovernedWrite domainName => rfl

theorem kind_eq_of_name_eq {tool other : GovernanceTool} (same : tool.name = other.name) :
    tool.kind = other.kind := by
  rw [← kindOfName_name, ← kindOfName_name, same]

end GovernanceTool

namespace GovernanceGateway

variable {host : Host} {rdf : RdfLib} {gateway : GovernanceGateway}

/--
How a server finds the tool of a name: it is one that was registered under the name, and where
only one was, that one is found.
-/
structure Finds (find : List (Str × GovernanceTool) → Str → Option GovernanceTool) : Prop where
  registered : ∀ tools name tool, find tools name = some tool → (name, tool) ∈ tools
  sole : ∀ tools name tool, (name, tool) ∈ tools → (∀ other, (name, other) ∈ tools → other = tool) →
    find tools name = some tool

def toolsOf (domainName : Str) : List GovernanceTool :=
  [.getSchema domainName, .verifyShaclCompliance domainName, .executeGovernedWrite domainName]

/-- A tool is registered under its name, and the tools of domains are those of configured ones. -/
theorem mem_registerTools {name : Str} {tool : GovernanceTool}
    (mem : (name, tool) ∈ gateway.registerTools) :
    name = tool.name ∧ ∀ domainName, tool ∈ toolsOf domainName →
      domainName ∈ gateway.domainNames := by
  unfold registerTools at mem
  rcases List.mem_cons.mp mem with first | mem
  · cases first
    exact ⟨rfl, fun _ own => by simp [toolsOf] at own⟩
  rcases List.mem_append.mp mem with sandbox | mem
  · split at sandbox
    · cases List.mem_singleton.mp sandbox
      exact ⟨rfl, fun _ own => by simp [toolsOf] at own⟩
    · cases sandbox
  rcases List.mem_flatMap.mp mem with ⟨domainName, configured, own⟩
  simp only [List.mem_cons, Prod.mk.injEq, List.not_mem_nil, or_false] at own
  rcases own with ⟨rfl, rfl⟩ | ⟨rfl, rfl⟩ | ⟨rfl, rfl⟩ <;> refine ⟨rfl, fun other own => ?_⟩ <;>
  · simp only [toolsOf, List.mem_cons, GovernanceTool.getSchema.injEq,
      GovernanceTool.verifyShaclCompliance.injEq, GovernanceTool.executeGovernedWrite.injEq,
      reduceCtorEq, List.not_mem_nil, or_false, false_or] at own
    exact own ▸ configured

theorem registerTools_of_mem {domainName : Str} (configured : domainName ∈ gateway.domainNames)
    {tool : GovernanceTool} (own : tool ∈ toolsOf domainName) :
    (tool.name, tool) ∈ gateway.registerTools := by
  refine List.mem_cons_of_mem _ (List.mem_append_right _ ?_)
  refine List.mem_flatMap.mpr ⟨domainName, configured, ?_⟩
  simp only [toolsOf, List.mem_cons, List.not_mem_nil, or_false] at own
  rcases own with rfl | rfl | rfl <;> simp [GovernanceTool.name]

/-- A tool with the name of a tool of a domain is the same tool of some domain. -/
theorem eq_of_name_eq {domainName : Str} {tool other : GovernanceTool}
    (own : tool ∈ toolsOf domainName) (same : other.name = tool.name) :
    ∃ domainName', other ∈ toolsOf domainName' ∧ underscored domainName' = underscored domainName ∧
      (domainName' = domainName → other = tool) := by
  have kinds := GovernanceTool.kind_eq_of_name_eq same
  simp only [toolsOf, List.mem_cons, List.not_mem_nil, or_false] at own
  rcases own with rfl | rfl | rfl <;> cases other <;>
    simp only [GovernanceTool.kind, Prod.mk.injEq, reduceCtorEq, false_and, Nat.reduceEqDiff,
      true_and] at kinds <;>
    exact ⟨_, by simp [toolsOf], kinds, fun same => by rw [same]⟩

/--
Each tool of each domain is the one that is found under its name, exactly when no two domains
have names that differ only where the one has a hyphen and the other an underscore.
-/
theorem tools_found_iff {find : List (Str × GovernanceTool) → Str → Option GovernanceTool}
    (finds : Finds find) :
    (∀ domainName ∈ gateway.domainNames, ∀ tool ∈ toolsOf domainName,
        find gateway.registerTools tool.name = some tool) ↔
      Set.InjOn underscored {domainName | domainName ∈ gateway.domainNames} := by
  constructor
  · intro found one configured other configured' same
    have sameName :
        (GovernanceTool.getSchema one).name = (GovernanceTool.getSchema other).name := by
      simp only [GovernanceTool.name, schemaToolName, same]
    have here := found one configured (.getSchema one) (by simp [toolsOf])
    have there := found other configured' (.getSchema other) (by simp [toolsOf])
    rw [sameName, there] at here
    cases here
    rfl
  · intro separate domainName configured tool own
    refine finds.sole _ _ _ (registerTools_of_mem configured own) ?_
    intro other mem
    rcases mem_registerTools mem with ⟨name, configuredOnly⟩
    rcases eq_of_name_eq own name.symm with ⟨domainName', own', same, sole⟩
    exact sole (separate (configuredOnly domainName' own') configured same)

/-! ### What the answers tell -/

/-- What a call has ended with, as far as the history of the gate bears it out. -/
def Answered (call : ToolCall) (result : Except Exc ToolReply) (world : GateWorld) : Prop :=
  ∃ reply, result = .ok reply ∧
    match call, reply with
    | .verifyShaclCompliance domainName dataRdf rdfFormat, .result document =>
        ∀ nonce, document.get? (py "validation_nonce") = some (.str nonce) →
          ∃ time, .validated domainName dataRdf rdfFormat time ∈ world.state.history
    | .executeGovernedWrite domainName dataRdf nonce _, .result _ =>
        ∃ signature time, .accepted domainName dataRdf nonce signature time ∈ world.state.history
    | _, _ => True

theorem Answered.grows {call : ToolCall} {result : Except Exc ToolReply} {world world' : GateWorld}
    (answered : Answered call result world)
    (moved : ReflTransGen (WriteGate.GateStep host rdf gateway.writeGate True) world world') :
    Answered call result world' := by
  have grows := (WriteGate.history_grows moved).subset
  rcases answered with ⟨reply, rfl, told⟩
  refine ⟨reply, rfl, ?_⟩
  cases call with
  | listDomains => trivial
  | getSchema => trivial
  | verifyShaclCompliance =>
      cases reply with
      | result document =>
          intro nonce issued
          rcases told nonce issued with ⟨time, mem⟩
          exact ⟨time, grows mem⟩
      | _ => trivial
  | executeGovernedWrite =>
      cases reply with
      | result document =>
          rcases told with ⟨signature, time, mem⟩
          exact ⟨signature, time, grows mem⟩
      | _ => trivial

theorem verifyError_isError (exc : Exc) :
    ∃ code message data, verifyError exc = .error code message data := by
  unfold verifyError
  split <;> exact ⟨_, _, _, rfl⟩

theorem writeError_isError (exc : Exc) :
    ∃ code message data, writeError exc = .error code message data := by
  unfold writeError
  repeat' split
  all_goals exact ⟨_, _, _, rfl⟩

theorem verifyHandler_answered (domainName dataRdf rdfFormat : Str) (world : GateWorld) :
    Answered (.verifyShaclCompliance domainName dataRdf rdfFormat)
      (gateway.verifyHandler host rdf domainName dataRdf rdfFormat world).1
      (gateway.verifyHandler host rdf domainName dataRdf rdfFormat world).2 := by
  rw [verifyHandler, Action.tryCatch_apply, Action.bind_apply]
  rcases outcome : gateway.writeGate.verifyShaclCompliance host rdf domainName dataRdf rdfFormat
    world with ⟨exc | ⟨report, nonce⟩, final⟩
  · rcases verifyError_isError exc with ⟨code, message, data, isError⟩
    exact ⟨.error code message data, congrArg Except.ok isError, trivial⟩
  · refine ⟨_, rfl, ?_⟩
    intro issued told
    rcases nonce with _ | nonce
    · cases told
    · exact WriteGate.validated_of_nonce outcome

theorem verifyHandler_follows (domainName dataRdf rdfFormat : Str) :
    (gateway.verifyHandler host rdf domainName dataRdf rdfFormat).Follows
      (WriteGate.GateStep host rdf gateway.writeGate True) := by
  apply Action.follows_tryCatch
  · apply Action.follows_bind (WriteGate.verifyShaclCompliance_follows _ _ _)
    exact fun _ => Action.follows_pure _
  · exact fun _ => Action.follows_pure _

theorem executeGovernedWrite_steps (gate : WriteGate) (domainName dataRdf nonce rdfFormat : Str)
    (origin : GateWorld) :
    (gate.executeGovernedWrite host rdf domainName dataRdf nonce rdfFormat).Steps
      (ReflTransGen (WriteGate.GateStep host rdf gate True)) (fun result world =>
        ∀ value, result = .ok value →
          ∃ signature time, .accepted domainName dataRdf nonce signature time ∈ world.state.history)
      origin := by
  let handed (result : Except Exc (List Str)) (world : GateWorld) : Prop :=
    ∀ statements, result = .ok statements →
      (gate.neo4jClient.isSome →
        .submitted domainName dataRdf rdfFormat statements ∈ world.state.history) ∧
      ∃ signature time, .accepted domainName dataRdf nonce signature time ∈ world.state.history
  have entered : (Coro.sync (gate.enterWrite host rdf domainName dataRdf nonce rdfFormat)).Steps
      (ReflTransGen (WriteGate.GateStep host rdf gate True)) handed origin := by
    refine Coro.steps_sync fun world _ => ⟨?_, ?_⟩
    · refine Action.follows_bind ?_ (fun _ => WriteGate.authorizeWrite_follows _ _ _ _) world
      exact fun world => .single (.call world domainName dataRdf nonce rdfFormat trivial)
    · intro statements returned
      have authorized : gate.authorizeWrite host rdf domainName dataRdf nonce rdfFormat
          (world.note (.called domainName dataRdf nonce rdfFormat)) = (.ok statements,
            (gate.enterWrite host rdf domainName dataRdf nonce rdfFormat world).2) :=
        Prod.ext returned rfl
      exact ⟨fun client => WriteGate.authorizeWrite_submitted client authorized,
        WriteGate.accepted_of_authorizeWrite authorized⟩
  refine Coro.steps_bind entered ?_ fun _ _ _ => nofun
  intro statements world _ told
  rcases told statements rfl with ⟨submitted, signature, time, accepted⟩
  refine ((WriteGate.completeWrite_followsFrom submitted).steps .refl).mono ?_
  intro result final moved _ _
  exact ⟨signature, time, (WriteGate.history_grows moved).subset accepted⟩

/-- Whatever is called is answered, and the answer is borne out. -/
theorem call_steps (call : ToolCall) (origin : GateWorld) :
    (gateway.call host rdf call).Steps
      (ReflTransGen (WriteGate.GateStep host rdf gateway.writeGate True)) (Answered call)
      origin := by
  cases call with
  | listDomains => exact ⟨_, rfl, trivial⟩
  | getSchema => exact ⟨_, rfl, trivial⟩
  | verifyShaclCompliance domainName dataRdf rdfFormat =>
      exact Coro.steps_sync fun world _ =>
        ⟨verifyHandler_follows _ _ _ world, verifyHandler_answered _ _ _ world⟩
  | executeGovernedWrite domainName dataRdf nonce rdfFormat =>
      let told (result : Except Exc ToolReply) (world : GateWorld) : Prop :=
        ∀ reply, result = .ok reply →
          Answered (.executeGovernedWrite domainName dataRdf nonce rdfFormat) (.ok reply) world
      refine @Coro.steps_tryCatch _ _ _ _ told _ _ _ _ (Coro.steps_bind
        (executeGovernedWrite_steps gateway.writeGate domainName dataRdf nonce rdfFormat origin)
        ?goesOn fun _ _ _ => nofun) (fun reply _ answered => answered reply rfl) ?handles
      case goesOn =>
        intro value world _ accepted reply answered
        cases answered
        exact ⟨_, rfl, accepted value rfl⟩
      case handles =>
        intro exc world _ _
        rcases writeError_isError exc with ⟨code, message, data, isError⟩
        exact ⟨.error code message data, congrArg Except.ok isError, trivial⟩

/-! ### What the answers are worth -/

/-- The answer is right about the history of the gate, which says what its nonces are worth. -/
def BorneOut (gate : WriteGate) (history : List GateEvent) : ToolCall → ToolReply → Prop
  | .verifyShaclCompliance domainName dataRdf rdfFormat, .result document =>
      ∀ nonce, document.get? (py "validation_nonce") = some (.str nonce) →
        ∃ time, .validated domainName dataRdf rdfFormat time ∈ history
  | .executeGovernedWrite domainName dataRdf nonce _, .result _ =>
      ∃ (format signature : Str) (issued passed : ℚ),
        .validated domainName dataRdf format issued ∈ history ∧
        .accepted domainName dataRdf nonce signature passed ∈ history ∧ issued ≤ passed ∧
        passed - ⌊issued⌋ ≤ gate.nonceTtl
  | _, _ => True

/-- The gate moves along its steps, and the calls that have ended were answered. -/
theorem serve_answered (calls : ℕ → ToolCall) (database : Database) (schedule : List ℕ) :
    ReflTransGen (WriteGate.GateStep host rdf gateway.writeGate True) ⟨0, .initial database⟩
        (gateway.serve host rdf calls database schedule).state ∧
      ∀ i result, (gateway.serve host rdf calls database schedule).tasks i = .done result →
        Answered (calls i) result (gateway.serve host rdf calls database schedule).state := by
  have steps : ∀ i, (gateway.call host rdf (calls i)).Steps
      (ReflTransGen (WriteGate.GateStep host rdf gateway.writeGate True)) (Answered (calls i))
      ⟨0, .initial database⟩ :=
    fun i => call_steps (calls i) _
  have moved := (@Pool.exec_steps ℕ Exc GateWorld ToolReply _ _ (fun i => Answered (calls i))
    ⟨⟨0, .initial database⟩, fun i => gateway.call host rdf (calls i)⟩ steps schedule).1
  rw [reflTransGen_eq_self] at moved
  refine ⟨moved, ?_⟩
  intro i result ended
  rcases @Pool.exec_ended ℕ Exc GateWorld ToolReply _ _ (fun i => Answered (calls i))
    ⟨⟨0, .initial database⟩, fun i => gateway.call host rdf (calls i)⟩ steps schedule i result
    ended with ⟨past, since, answered⟩
  rw [reflTransGen_eq_self] at since
  exact answered.grows since

/--
However the calls of the tools are interleaved, each call that ends is answered with a document.
A nonce is only answered for data that were validated, and a write is only answered with a result
when its nonce was accepted in time for data that had been validated before.
-/
theorem answers_borneOut (calls : ℕ → ToolCall) (database : Database) (schedule : List ℕ)
    (unforged : EventLog.Each GateEvent.Unforged
      (gateway.serve host rdf calls database schedule).state.state.history)
    (noCollision : NoCollision host
      (gateway.serve host rdf calls database schedule).state.state.history)
    {i : ℕ} {result : Except Exc ToolReply}
    (ended : (gateway.serve host rdf calls database schedule).tasks i = .done result) :
    ∃ reply, result = .ok reply ∧ BorneOut gateway.writeGate
      (gateway.serve host rdf calls database schedule).state.state.history (calls i) reply := by
  have served := @serve_answered host rdf gateway calls database schedule
  have governed := WriteGate.governed_of_steps served.1 unforged noCollision
  rcases served.2 i result ended with ⟨reply, rfl, told⟩
  refine ⟨reply, rfl, ?_⟩
  revert told
  generalize calls i = call
  intro told
  cases call with
  | listDomains => trivial
  | getSchema => trivial
  | verifyShaclCompliance => cases reply <;> exact told
  | executeGovernedWrite =>
      cases reply with
      | result document =>
          rcases told with ⟨signature, passed, accepted⟩
          rcases governed.authorised.of_mem accepted with
            ⟨earlier, before, format, issued, validated, ordered, timely⟩
          exact ⟨format, signature, issued, passed, before.subset validated, accepted, ordered,
            timely⟩
      | _ => trivial

/-- A call keeps the sources of validations, when the data that it verifies were asked about. -/
theorem call_keepsSources {asked : Str → Str → Prop} {call : ToolCall}
    (asks : ∀ domainName dataRdf rdfFormat,
      call = .verifyShaclCompliance domainName dataRdf rdfFormat → asked domainName dataRdf) :
    (gateway.call host rdf call).Follows (WriteGate.KeepsSources asked) := by
  cases call with
  | listDomains => exact Coro.follows_pure _
  | getSchema => exact Coro.follows_pure _
  | verifyShaclCompliance domainName dataRdf rdfFormat =>
      refine Coro.follows_sync (Action.follows_tryCatch (Action.follows_bind ?_ ?_) ?_)
      · exact fun world => .single (WriteGate.verifyShaclCompliance_keepsSources host rdf
          gateway.writeGate (asks _ _ _ rfl) rdfFormat world)
      · exact fun _ => Action.follows_pure _
      · exact fun _ => Action.follows_pure _
  | executeGovernedWrite domainName dataRdf nonce rdfFormat =>
      refine Coro.follows_tryCatch (Coro.follows_bind ?_ ?_) ?_
      · exact WriteGate.executeGovernedWrite_keepsSources host rdf gateway.writeGate _ _ _ _
      · exact fun _ => Coro.follows_pure _
      · exact fun _ => Coro.follows_pure _

/-- A call of the schedule verifies the data in the domain. -/
def VerifiedIn (calls : ℕ → ToolCall) (schedule : List ℕ) (domainName dataRdf : Str) : Prop :=
  ∃ i ∈ schedule, ∃ rdfFormat, calls i = .verifyShaclCompliance domainName dataRdf rdfFormat

/-- What the calls of a schedule leave goes back to the verifications among them. -/
theorem serve_sourced (calls : ℕ → ToolCall) (database : Database) (schedule : List ℕ) :
    EventLog.Each (GateEvent.Sourced (VerifiedIn calls schedule))
      (WriteGate.decisive (gateway.serve host rdf calls database schedule).state.state) := by
  -- A call that the schedule does not name might as well list the domains.
  let served (i : ℕ) : ToolCall := if i ∈ schedule then calls i else .listDomains
  have keeps : ∀ i, (gateway.call host rdf (served i)).Follows
      (WriteGate.KeepsSources (VerifiedIn calls schedule)) := by
    intro i
    refine call_keepsSources fun domainName dataRdf rdfFormat verifies => ?_
    by_cases named : i ∈ schedule
    · rw [show served i = calls i from if_pos named] at verifies
      exact ⟨i, named, rdfFormat, verifies⟩
    · rw [show served i = .listDomains from if_neg named] at verifies
      cases verifies
  have same : (gateway.serve host rdf calls database schedule).state =
      (gateway.serve host rdf served database schedule).state := by
    refine @Pool.exec_congr ℕ Exc GateWorld ToolReply _
      ⟨⟨0, .initial database⟩, fun i => gateway.call host rdf (calls i)⟩
      ⟨⟨0, .initial database⟩, fun i => gateway.call host rdf (served i)⟩ rfl schedule ?_
    intro i named
    exact congrArg (gateway.call host rdf) (if_pos named).symm
  have moved := Pool.exec_follows
    ⟨⟨0, .initial database⟩, fun i => gateway.call host rdf (served i)⟩ keeps schedule
  rw [same]
  exact @Action.holds_of_steps GateWorld _ (fun world => EventLog.Each
    (GateEvent.Sourced (VerifiedIn calls schedule)) (WriteGate.decisive world.state)) _ _
    (fun _ _ keeps => keeps) moved trivial

/--
A write is only answered with a result when the verification tool had been called before, for the
same domain and the same data.
-/
theorem write_needs_verification (calls : ℕ → ToolCall) (database : Database)
    (schedule : List ℕ)
    (unforged : EventLog.Each GateEvent.Unforged
      (gateway.serve host rdf calls database schedule).state.state.history)
    (noCollision : NoCollision host
      (gateway.serve host rdf calls database schedule).state.state.history)
    {i : ℕ} {domainName dataRdf nonce rdfFormat : Str} {document : Json}
    (write : calls i = .executeGovernedWrite domainName dataRdf nonce rdfFormat)
    (ended : (gateway.serve host rdf calls database schedule).tasks i =
      .done (.ok (.result document))) :
    VerifiedIn calls schedule domainName dataRdf := by
  have served := @serve_answered host rdf gateway calls database schedule
  have governed := WriteGate.governed_of_steps served.1 unforged noCollision
  rcases served.2 i _ ended with ⟨reply, answered, told⟩
  cases answered
  rw [write] at told
  rcases told with ⟨signature, time, accepted⟩
  exact WriteGate.asked_of_accepted governed (serve_sourced calls database schedule) accepted

end GovernanceGateway

namespace Sample

/-- Two domains that get the same names for their tools. -/
def mcpGateway : GovernanceGateway where
  writeGate := gate
  domainNames := [domainName, py "it_asset-mgmt"]
  hasWasmtime := true
  paths := fun _ => ([], [])

/-- The first tool of a name is kept. -/
def firstTool (tools : List (Str × GovernanceTool)) (name : Str) : Option GovernanceTool :=
  tools.lookup name

/-- The data are verified, and then written with the nonce. -/
def toolCalls : ℕ → ToolCall
  | 0 => .verifyShaclCompliance domainName data (py "turtle")
  | _ => .executeGovernedWrite domainName data nonce (py "turtle")

def toolTurns : List ℕ := [0, 1, 1, 1, 1, 1, 1]

/-- The task has ended with a result. -/
def returnsResult : Coro Exc GateWorld ToolReply → Bool
  | .ret (.result _) => true
  | _ => false

theorem returnsResult_iff {task : Coro Exc GateWorld ToolReply} :
    returnsResult task = true ↔ ∃ document, task = .done (.ok (.result document)) := by
  constructor
  · intro returns
    unfold returnsResult at returns
    split at returns
    · exact ⟨_, rfl⟩
    · cases returns
  · rintro ⟨document, rfl⟩
    rfl

theorem toolCalls_written : ∃ document,
    (mcpGateway.serve steadyHost rdf toolCalls [] toolTurns).tasks 1 =
      .done (.ok (.result document)) :=
  returnsResult_iff.mp (by decide +kernel)

theorem firstTool_finds : GovernanceGateway.Finds firstTool := by
  refine ⟨?_, ?_⟩
  · intro tools name tool found
    rcases List.lookup_eq_some_iff.mp found with ⟨before, behind, rfl, -⟩
    simp
  · intro tools name tool mem sole
    rcases found : firstTool tools name with _ | other
    · have absent := List.lookup_eq_none_iff.mp found (name, tool) mem
      simp at absent
    · rcases List.lookup_eq_some_iff.mp found with ⟨before, behind, rfl, -⟩
      rw [sole other (by simp)]

theorem mcpGateway_tools :
    (∀ domainName ∈ mcpGateway.domainNames, ∀ tool ∈ GovernanceGateway.toolsOf domainName,
        firstTool mcpGateway.registerTools tool.name = some tool) ↔
      Set.InjOn underscored {domainName | domainName ∈ mcpGateway.domainNames} :=
  GovernanceGateway.tools_found_iff firstTool_finds

theorem written_borneOut : ∃ result reply,
    (mcpGateway.serve steadyHost rdf toolCalls [] toolTurns).tasks 1 = .done result ∧
      result = .ok reply ∧ GovernanceGateway.BorneOut mcpGateway.writeGate
        (mcpGateway.serve steadyHost rdf toolCalls [] toolTurns).state.state.history
        (toolCalls 1) reply := by
  rcases toolCalls_written with ⟨document, ended⟩
  rcases @GovernanceGateway.answers_borneOut steadyHost rdf mcpGateway toolCalls [] toolTurns
    (by decide +kernel) (by decide +kernel) 1 _ ended with ⟨reply, answered, borneOut⟩
  exact ⟨_, reply, ended, answered, borneOut⟩

theorem written_verified :
    GovernanceGateway.VerifiedIn toolCalls toolTurns domainName data := by
  rcases toolCalls_written with ⟨document, ended⟩
  exact @GovernanceGateway.write_needs_verification steadyHost rdf mcpGateway toolCalls []
    toolTurns (by decide +kernel) (by decide +kernel) 1 _ _ _ _ document rfl ended

end Sample

end AgentOS
