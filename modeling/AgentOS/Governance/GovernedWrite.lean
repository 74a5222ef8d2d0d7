import AgentOS.Governance.Frame
import AgentOS.Governance.GateStep

/-!
# When a governed write commits

A governed write that nobody interrupts commits one batch exactly when the quota allows
it, the nonce is admitted, the data conform once more and every operation of the driver
succeeds. In every other case the database stays as it was. All of this is decided by
the state before the call and by the outcomes that the outside world has in store.
-/

namespace AgentOS

open Python Cooperative

namespace WriteGate

variable (host : Host) (rdf : RdfLib) (gate : WriteGate)

/-! ### Quota -/

/-- The policy, if there is one, allows another write. -/
def WithinQuota (world : GateWorld) : Prop :=
  match gate.autonomyPolicy with
  | some policy => policy.withinQuota (host.time world.tick) world.state.quota
  | none => True

/-- The world after the write was counted. -/
def countedWorld (world : GateWorld) : GateWorld :=
  match gate.autonomyPolicy with
  | some _ =>
      ⟨world.tick + 1,
        world.state.setQuota (AutonomyPolicy.counted (host.time world.tick) world.state.quota)⟩
  | none => world

/-! ### Validation -/

/-- The shapes of the domain: those in the cache, or else those of the schema provider. -/
def shapesFor (domainName : Str) (state : GateState) : Except Exc Graph :=
  match state.validators.get? domainName with
  | some shapes => .ok shapes
  | none =>
      match gate.schemaProvider.getDomain domainName with
      | none => .error (gate.unknownDomain host domainName)
      | some domain => domain.shaclGraph

/-- The world after the shapes of the domain were looked up. -/
def cachedWorld (domainName : Str) (world : GateWorld) : GateWorld :=
  match world.state.validators.get? domainName with
  | some _ => world
  | none =>
      match gate.shapesFor host domainName world.state with
      | .ok shapes => world.cache domainName shapes
      | .error _ => world

/-- The data parse to a graph that conforms to the shapes of the domain. -/
def Conforms (domainName dataRdf rdfFormat : Str) (state : GateState) (graph : Graph) : Prop :=
  rdf.parse dataRdf rdfFormat = .ok graph ∧ ∃ shapes results,
    gate.shapesFor host domainName state = .ok shapes ∧
      rdf.validate graph shapes = .ok (true, results)

/-- The nonce that conforming data get now. -/
def issuedNonce (domainName dataRdf : Str) (world : GateWorld) : Str :=
  noncePayload (truncate (host.monotonic world.tick)) (host.sha256 dataRdf).text
    (host.hmacSha256 gate.nonceSecret (currentPayload host domainName dataRdf world)).text

/-- The world in which the statements of the write are handed over. -/
def authorizedWorld (domainName dataRdf nonce rdfFormat signature : Str) (timestamp : ℤ)
    (dataHash : Str) (graph : Graph) (world : GateWorld) : GateWorld :=
  let validated := issuedWorld host domainName dataRdf rdfFormat
    (gate.cachedWorld host domainName
      (consumedWorld host gate domainName dataRdf nonce signature timestamp dataHash
        (gate.countedWorld host world)))
  if gate.neo4jClient.isSome then
    validated.note (.submitted domainName dataRdf rdfFormat (rdfToCypherStatements rdf graph))
  else validated

/-- What `execute_governed_write` asks of a write before its first await. -/
structure Authorizes (domainName dataRdf nonce rdfFormat signature : Str) (timestamp : ℤ)
    (dataHash : Str) (graph : Graph) (world : GateWorld) : Prop where
  quota : gate.WithinQuota host world
  admits : Admits host gate domainName dataRdf nonce signature timestamp dataHash
    (gate.countedWorld host world)
  conforms : gate.Conforms host rdf domainName dataRdf rdfFormat world.state graph

/-- The write takes effect: it is authorised and every operation of the driver succeeds. -/
def Commits (client : Neo4jDriver) (domainName dataRdf nonce rdfFormat : Str) (graph : Graph)
    (world : GateWorld) : Prop :=
  (∃ signature timestamp dataHash, Authorizes host rdf gate domainName dataRdf nonce rdfFormat
    signature timestamp dataHash graph world) ∧
  client.commits (rdfToCypherStatements rdf graph) ((gate.countedWorld host world).tick + 5) = true

variable {host rdf gate}

theorem checkQuota_eq_ok_iff {world final : GateWorld} :
    gate.checkQuota host world = (.ok (), final) ↔
      gate.WithinQuota host world ∧ final = gate.countedWorld host world := by
  unfold checkQuota WithinQuota countedWorld
  rcases gate.autonomyPolicy with _ | policy
  · simp [eq_comm]
  · dsimp only
    rcases checked : policy.checkWriteQuota host (world.part GateState.quota) with ⟨result, quota⟩
    have shape : (policy.checkWriteQuota host).zoom (Timed.part GateState.quota)
        (Timed.setPart GateState.setQuota) world =
          (result, Timed.setPart GateState.setQuota quota world) := by
      simp [Action.zoom, checked]
    rw [shape, Prod.mk.injEq]
    constructor
    · rintro ⟨rfl, rfl⟩
      have allowed := AutonomyPolicy.checkWriteQuota_eq_ok_iff.mp checked
      exact ⟨allowed.1, by rw [allowed.2]; rfl⟩
    · rintro ⟨within, rfl⟩
      have allowed : policy.checkWriteQuota host (world.part GateState.quota) =
          (.ok (), ⟨world.tick + 1,
            AutonomyPolicy.counted (host.time world.tick) world.state.quota⟩) :=
        AutonomyPolicy.checkWriteQuota_eq_ok_iff.mpr ⟨within, rfl⟩
      cases checked.symm.trans allowed
      exact ⟨rfl, rfl⟩

theorem getValidator_apply (host : Host) (gate : WriteGate) (domainName : Str)
    (world : GateWorld) :
    gate.getValidator host domainName world =
      (gate.shapesFor host domainName world.state, gate.cachedWorld host domainName world) := by
  simp only [getValidator, Action.bind_apply, Timed.view_apply, shapesFor, cachedWorld]
  rcases world.state.validators.get? domainName with _ | shapes
  · rcases gate.schemaProvider.getDomain domainName with _ | domain
    · rfl
    · dsimp only
      rcases domain.shaclGraph with exc | shapes <;> simp [Action.bind_apply, GateWorld.cache]
  · rfl

theorem cachedWorld_state (host : Host) (gate : WriteGate) (domainName : Str)
    (world : GateWorld) :
    (gate.cachedWorld host domainName world).tick = world.tick ∧
      (gate.cachedWorld host domainName world).state.database = world.state.database ∧
      (gate.cachedWorld host domainName world).state.history = world.state.history := by
  unfold cachedWorld
  rcases world.state.validators.get? domainName with _ | _
  · rcases gate.shapesFor host domainName world.state with _ | _ <;> exact ⟨rfl, rfl, rfl⟩
  · exact ⟨rfl, rfl, rfl⟩

theorem checkData_eq_ok_iff {shapes : Graph} {dataRdf rdfFormat : Str} :
    (∃ report, checkData rdf shapes dataRdf rdfFormat = .ok report ∧ report.isValid) ↔
      ∃ graph results, rdf.parse dataRdf rdfFormat = .ok graph ∧
        rdf.validate graph shapes = .ok (true, results) := by
  constructor
  · rintro ⟨report, checked, valid⟩
    exact checkData_valid checked valid
  · rintro ⟨graph, results, parsed, validated⟩
    refine ⟨⟨true, results.map (parseResult rdf)⟩, ?_, rfl⟩
    simp only [checkData, parseRdf, parsed, bind, Except.bind, shaclValidate, validated]

theorem issueNonce_apply {domainName dataRdf rdfFormat : Str} {report : SHACLValidationReport}
    {world : GateWorld} (dataEncodes : encodable dataRdf = true)
    (payloadEncodes : encodable (currentPayload host domainName dataRdf world) = true) :
    gate.issueNonce host domainName dataRdf rdfFormat report world =
      (.ok (report, some (gate.issuedNonce host domainName dataRdf world)),
        issuedWorld host domainName dataRdf rdfFormat world) := by
  have generated := (@generateNonce_eq_ok_iff host gate domainName dataRdf _ _ world _).mpr
    ⟨dataEncodes, payloadEncodes, rfl, rfl, rfl⟩
  rw [issueNonce, Action.bind_of_ok generated]
  rfl

/-- Data that conform get a nonce. -/
theorem verifyShaclCompliance_of_conforms {domainName dataRdf rdfFormat : Str}
    {world : GateWorld} {graph : Graph} (domainEncodes : encodable domainName = true)
    (dataEncodes : encodable dataRdf = true)
    (conforms : gate.Conforms host rdf domainName dataRdf rdfFormat world.state graph) :
    ∃ report, report.isValid = true ∧
      gate.verifyShaclCompliance host rdf domainName dataRdf rdfFormat world =
        (.ok (report, some (gate.issuedNonce host domainName dataRdf
          (gate.cachedWorld host domainName world))),
          issuedWorld host domainName dataRdf rdfFormat
            (gate.cachedWorld host domainName world)) := by
  rcases conforms with ⟨parsed, shapes, results, found, validated⟩
  rcases checkData_eq_ok_iff.mpr ⟨graph, results, parsed, validated⟩ with ⟨report, checked, valid⟩
  have payloadEncodes : encodable (currentPayload host domainName dataRdf
      (gate.cachedWorld host domainName world)) = true := by
    simp only [currentPayload, noncePayload, encodable_append, encodable_cons, encodable_strInt,
      HexDigest.encodable, domainEncodes]
    rfl
  have looked := getValidator_apply host gate domainName world
  rw [found] at looked
  refine ⟨report, valid, ?_⟩
  rw [verifyShaclCompliance, Action.bind_of_ok looked, checked,
    ← issueNonce_apply dataEncodes payloadEncodes]
  simp [Action.bind_apply, valid]

/-- Only a report on data that conform is valid. -/
theorem conforms_of_verified {domainName dataRdf rdfFormat : Str} {world middle : GateWorld}
    {report : SHACLValidationReport} {nonce : Option Str}
    (verified : gate.verifyShaclCompliance host rdf domainName dataRdf rdfFormat world =
      (.ok (report, nonce), middle)) (valid : report.isValid = true) :
    ∃ graph, gate.Conforms host rdf domainName dataRdf rdfFormat world.state graph := by
  rcases Action.bind_eq_ok_iff.mp verified with ⟨shapes, cached, looked, afterwards⟩
  rcases Action.bind_eq_ok_iff.mp afterwards with ⟨report', checkedWorld, checked, issued⟩
  rw [getValidator_apply, Prod.mk.injEq] at looked
  rw [ofExcept_apply, Prod.mk.injEq] at checked
  have same : report' = report := by
    split at issued
    · rcases Action.bind_eq_ok_iff.mp issued with ⟨_, _, _, recorded⟩
      cases recorded
      rfl
    · cases issued
      rfl
  subst same
  rcases checkData_valid checked.1 valid with ⟨graph, results, parsed, validated⟩
  exact ⟨graph, parsed, shapes, results, looked.1, validated⟩

/-- What it takes to hand over statements: the data conform, and a nonce can be made. -/
theorem prepareStatements_eq_ok_iff {domainName dataRdf rdfFormat : Str} {statements : List Str}
    {world final : GateWorld} (domainEncodes : encodable domainName = true)
    (dataEncodes : encodable dataRdf = true) :
    gate.prepareStatements host rdf domainName dataRdf rdfFormat world = (.ok statements, final) ↔
      ∃ graph, gate.Conforms host rdf domainName dataRdf rdfFormat world.state graph ∧
        statements = rdfToCypherStatements rdf graph ∧
        final = issuedWorld host domainName dataRdf rdfFormat
          (gate.cachedWorld host domainName world) := by
  have prepares : ∀ graph,
      gate.Conforms host rdf domainName dataRdf rdfFormat world.state graph →
      gate.prepareStatements host rdf domainName dataRdf rdfFormat world =
        (.ok (rdfToCypherStatements rdf graph), issuedWorld host domainName dataRdf rdfFormat
          (gate.cachedWorld host domainName world)) := by
    intro graph conforms
    rcases verifyShaclCompliance_of_conforms domainEncodes dataEncodes conforms with
      ⟨report, valid, verified⟩
    rw [prepareStatements, Action.bind_of_ok verified]
    simp only [Action.bind_apply, raiseIf_apply, valid, not_true_eq_false, if_false, conforms.1,
      Action.pure_apply]
  constructor
  · intro prepared
    rcases Action.bind_eq_ok_iff.mp prepared with ⟨⟨report, nonce⟩, middle, verified, checked⟩
    have valid : report.isValid = true := by
      by_contra invalid
      simp [Action.bind_apply, raiseIf_apply, invalid] at checked
    rcases conforms_of_verified verified valid with ⟨graph, conforms⟩
    cases (prepares graph conforms).symm.trans prepared
    exact ⟨graph, conforms, rfl, rfl⟩
  · rintro ⟨graph, conforms, rfl, rfl⟩
    exact prepares graph conforms

/-! ### The call up to its first await -/

theorem countedWorld_state (host : Host) (gate : WriteGate) (world : GateWorld) :
    (gate.countedWorld host world).state.validators = world.state.validators ∧
      (gate.countedWorld host world).state.database = world.state.database ∧
      (gate.countedWorld host world).state.history = world.state.history := by
  unfold countedWorld
  rcases gate.autonomyPolicy with _ | _ <;> exact ⟨rfl, rfl, rfl⟩

theorem conforms_congr {domainName dataRdf rdfFormat : Str} {state state' : GateState}
    {graph : Graph} (same : state'.validators = state.validators) :
    gate.Conforms host rdf domainName dataRdf rdfFormat state' graph ↔
      gate.Conforms host rdf domainName dataRdf rdfFormat state graph := by
  simp only [Conforms, shapesFor, same]

/-- The domain of an admitted nonce was encoded to check the signature. -/
theorem domainName_encodes {domainName dataRdf nonce signature dataHash : Str} {timestamp : ℤ}
    {world : GateWorld}
    (admits : Admits host gate domainName dataRdf nonce signature timestamp dataHash world) :
    encodable domainName = true := by
  have encodes := admits.payloadEncodes
  simp only [noncePayload, encodable_append, encodable_cons, Bool.and_eq_true] at encodes
  exact encodes.2.2.2.2

/-- What it takes for the call to reach its first await, and the world there. -/
theorem authorizeWrite_eq_ok_iff {domainName dataRdf nonce rdfFormat : Str}
    {statements : List Str} {world final : GateWorld} :
    gate.authorizeWrite host rdf domainName dataRdf nonce rdfFormat world =
        (.ok statements, final) ↔
      ∃ signature timestamp dataHash graph,
        Authorizes host rdf gate domainName dataRdf nonce rdfFormat signature timestamp dataHash
          graph world ∧
        statements = rdfToCypherStatements rdf graph ∧
        final = authorizedWorld host rdf gate domainName dataRdf nonce rdfFormat signature
          timestamp dataHash graph world := by
  have validators : ∀ signature timestamp dataHash,
      (consumedWorld host gate domainName dataRdf nonce signature timestamp dataHash
        (gate.countedWorld host world)).state.validators = world.state.validators :=
    fun _ _ _ => (countedWorld_state host gate world).1
  have handOver : ∀ (statements : List Str) (ready : GateWorld),
      ((do
        if gate.neo4jClient.isSome then note (.submitted domainName dataRdf rdfFormat statements)
        pure statements : Action Exc GateWorld (List Str)) ready) =
      (.ok statements, if gate.neo4jClient.isSome then
        ready.note (.submitted domainName dataRdf rdfFormat statements) else ready) := by
    intro statements ready
    split <;> rfl
  constructor
  · intro returned
    rcases Action.bind_eq_ok_iff.mp returned with ⟨⟨⟩, counted, allowed, returned⟩
    rcases checkQuota_eq_ok_iff.mp allowed with ⟨quota, rfl⟩
    rcases Action.bind_eq_ok_iff.mp returned with ⟨⟨⟩, passed, verified, returned⟩
    rcases verifyNonce_eq_ok_iff.mp verified with ⟨signature, timestamp, dataHash, admits, rfl⟩
    rw [Action.bind_of_ok (consumeNonce_apply admits _)] at returned
    rcases Action.bind_eq_ok_iff.mp returned with ⟨prepared, ready, conform, returned⟩
    rcases
      (prepareStatements_eq_ok_iff (domainName_encodes admits) admits.dataEncodes).mp conform with
      ⟨graph, conforms, rfl, rfl⟩
    rw [handOver] at returned
    cases returned
    exact ⟨signature, timestamp, dataHash, graph,
      ⟨quota, admits, (conforms_congr (validators _ _ _)).mp conforms⟩, rfl, rfl⟩
  · rintro ⟨signature, timestamp, dataHash, graph, ⟨quota, admits, conforms⟩, rfl, rfl⟩
    have allowed := checkQuota_eq_ok_iff.mpr ⟨quota, rfl⟩
    have verified := verifyNonce_eq_ok_iff.mpr ⟨signature, timestamp, dataHash, admits, rfl⟩
    have conforms' := (conforms_congr (validators signature timestamp dataHash)).mpr conforms
    have prepared :=
      (prepareStatements_eq_ok_iff (domainName_encodes admits) admits.dataEncodes).mpr
        ⟨graph, conforms', rfl, rfl⟩
    rw [authorizeWrite, Action.bind_of_ok allowed, Action.bind_of_ok verified,
      Action.bind_of_ok (consumeNonce_apply admits _)]
    exact (Action.bind_of_ok prepared).trans (handOver _ _)

/-! ### What stays as it was before the write -/

/-- A view of the gate that only the write itself can change. -/
structure Unwritten {κ : Type} (view : GateState → κ) : Prop where
  note : ∀ (event : GateEvent) (state : GateState), event.isSuccess = false →
    view (state.note event) = view state
  nonces : ∀ nonces (state : GateState), view { state with consumedNonces := nonces } = view state
  validators : ∀ validators (state : GateState), view { state with validators } = view state
  quota : ∀ quota (state : GateState), view (state.setQuota quota) = view state

theorem unwritten_database : Unwritten GateState.database :=
  ⟨fun _ _ _ => rfl, fun _ _ => rfl, fun _ _ => rfl, fun _ _ => rfl⟩

/-- The writes that succeeded, newest first. -/
def successes (state : GateState) : List GateEvent := state.history.filter GateEvent.isSuccess

theorem unwritten_successes : Unwritten successes := by
  refine ⟨?_, fun _ _ => rfl, fun _ _ => rfl, fun _ _ => rfl⟩
  intro event state other
  exact List.filter_cons_of_neg (by simp [other])

theorem Unwritten.indifferent {κ : Type} {view : GateState → κ} (unwritten : Unwritten view) :
    Indifferent (fun event => !event.isSuccess) view :=
  ⟨fun event state other => unwritten.note event state (by simpa using other), unwritten.nonces,
    unwritten.validators, unwritten.quota⟩

/-- Before the first await nothing is written, whether the call gets there or not. -/
theorem authorizeWrite_keeps {κ : Type} {view : GateState → κ} (unwritten : Unwritten view)
    (host : Host) (rdf : RdfLib) (gate : WriteGate) (domainName dataRdf nonce rdfFormat : Str) :
    (gate.authorizeWrite host rdf domainName dataRdf nonce rdfFormat).Keeps
      fun world => view world.state := by
  have indifferent := unwritten.indifferent
  have verify : (gate.verifyNonce host domainName dataRdf nonce).Keeps
      fun world => view world.state := by
    apply asVerification_keeps
    rcases verifyBody_cases host gate domainName dataRdf nonce with
      ⟨text, dataHash, signature, _, body⟩ | ⟨_, exc, body⟩ <;> rw [body]
    · apply Action.keeps_bind
        (checkParts_keeps indifferent (fun _ _ _ _ _ => rfl) (fun _ _ => rfl) host gate _ _ _ _ _)
      exact fun _ => keeps_note indifferent rfl
    · exact Action.keeps_throw _
  apply Action.keeps_bind (checkQuota_keeps indifferent host gate)
  intro _
  apply Action.keeps_bind verify
  intro _
  apply Action.keeps_bind (consumeNonce_keeps indifferent (fun _ _ => rfl) host gate nonce)
  intro _
  apply Action.keeps_bind
    (prepareStatements_keeps indifferent (fun _ => rfl) (fun _ _ _ _ => rfl) host rdf gate _ _ _)
  intro statements
  split
  · apply Action.keeps_bind (keeps_note indifferent rfl)
    exact fun _ => Action.keeps_pure _
  · exact Action.keeps_pure _

/-! ### The whole call -/

theorem countedWorld_note (host : Host) (gate : WriteGate) (event : GateEvent)
    (world : GateWorld) :
    gate.countedWorld host (world.note event) = (gate.countedWorld host world).note event := by
  unfold countedWorld
  rcases gate.autonomyPolicy with _ | _ <;> rfl

/-- The checks of a nonce do not read the history. -/
theorem admits_note {domainName dataRdf nonce signature dataHash : Str} {timestamp : ℤ}
    {event : GateEvent} {world : GateWorld} :
    Admits host gate domainName dataRdf nonce signature timestamp dataHash (world.note event) ↔
      Admits host gate domainName dataRdf nonce signature timestamp dataHash world := by
  constructor <;> intro admits <;>
    exact ⟨admits.1, admits.2, admits.3, admits.4, admits.5, admits.6, admits.7, admits.8⟩

theorem authorizes_note {domainName dataRdf nonce rdfFormat signature : Str} {timestamp : ℤ}
    {dataHash : Str} {graph : Graph} {event : GateEvent} {world : GateWorld} :
    Authorizes host rdf gate domainName dataRdf nonce rdfFormat signature timestamp dataHash graph
        (world.note event) ↔
      Authorizes host rdf gate domainName dataRdf nonce rdfFormat signature timestamp dataHash
        graph world := by
  constructor
  · rintro ⟨quota, admits, conforms⟩
    rw [countedWorld_note] at admits
    exact ⟨quota, admits_note.mp admits, conforms⟩
  · rintro ⟨quota, admits, conforms⟩
    refine ⟨quota, ?_, conforms⟩
    rw [countedWorld_note]
    exact admits_note.mpr admits

/-- What the way to the first await leaves behind. -/
theorem authorizedWorld_state (host : Host) (rdf : RdfLib) (gate : WriteGate)
    (domainName dataRdf nonce rdfFormat signature : Str) (timestamp : ℤ) (dataHash : Str)
    (graph : Graph) (world : GateWorld) :
    (authorizedWorld host rdf gate domainName dataRdf nonce rdfFormat signature timestamp dataHash
      graph world).tick = (gate.countedWorld host world).tick + 5 ∧
    (authorizedWorld host rdf gate domainName dataRdf nonce rdfFormat signature timestamp dataHash
      graph world).state.database = world.state.database ∧
    ∃ during, (authorizedWorld host rdf gate domainName dataRdf nonce rdfFormat signature timestamp
        dataHash graph world).state.history = during ++ world.state.history ∧
      (gate.neo4jClient.isSome →
        .submitted domainName dataRdf rdfFormat (rdfToCypherStatements rdf graph) ∈ during) := by
  rcases countedWorld_state host gate world with ⟨-, countedDatabase, countedHistory⟩
  rcases cachedWorld_state host gate domainName (consumedWorld host gate domainName dataRdf nonce
    signature timestamp dataHash (gate.countedWorld host world)) with ⟨tick, database, history⟩
  have consumedHistory := consumedWorld_history host gate domainName dataRdf nonce signature
    timestamp dataHash (gate.countedWorld host world)
  unfold authorizedWorld
  split
  · refine ⟨congrArg (· + 1) tick, database.trans countedDatabase, ?_⟩
    rw [note_history, issuedWorld_history, history, consumedHistory, countedHistory]
    refine ⟨_ :: _ :: _ :: _ :: _ :: _ :: [_], rfl, ?_⟩
    exact fun _ => List.mem_cons_self
  · rename_i offline
    refine ⟨congrArg (· + 1) tick, database.trans countedDatabase, ?_⟩
    rw [issuedWorld_history, history, consumedHistory, countedHistory]
    refine ⟨_ :: _ :: _ :: _ :: _ :: [_], rfl, ?_⟩
    exact fun online => absurd online offline

theorem writeResult_apply (host : Host) {domainName : Str} (encodes : encodable domainName = true)
    (clock : ℕ → ℚ) (dataRdf : Str) (recordsWritten : Option ℕ) (world : GateWorld) :
    ∃ result, writeResult host clock domainName dataRdf recordsWritten world =
      (.ok result, world.read.note (.succeeded domainName dataRdf)) := by
  have bytes : host.encode (domainName ++ 0x3A :: host.strFloat (clock world.tick)) =
      .ok (domainName ++ 0x3A :: host.strFloat (clock world.tick)) := by
    rw [Host.encode_eq_ok_iff, encodable_append, encodable_cons, encodes, host.strFloat_encodable]
    exact ⟨rfl, rfl⟩
  simp only [writeResult, Action.bind_apply, Timed.draw_apply, bytes, ofExcept_apply,
    AgentOS.note, Timed.modify_apply, Action.pure_apply]
  exact ⟨_, rfl⟩

theorem completeWrite_offline (host : Host) {domainName : Str}
    (encodes : encodable domainName = true)
    (offline : gate.neo4jClient = none) (dataRdf : Str) (statements : List Str)
    (world : GateWorld) :
    ∃ result, (gate.completeWrite host domainName dataRdf statements).run world =
      (.ok result, world.read.note (.succeeded domainName dataRdf)) := by
  rcases writeResult_apply host encodes host.monotonic dataRdf none world with
    ⟨result, returned⟩
  refine ⟨result, ?_⟩
  simp only [completeWrite, offline, Coro.run_sync, returned]

/-- With a client the batch is committed before the call returns; otherwise the call raises. -/
theorem completeWrite_online (host : Host) {client : Neo4jDriver} {domainName : Str}
    (encodes : encodable domainName = true) (online : gate.neo4jClient = some client)
    (dataRdf : Str) (statements : List Str) (world : GateWorld) :
    (client.commits statements world.tick = true ∧ ∃ result tick,
      (gate.completeWrite host domainName dataRdf statements).run world =
        (.ok result, ⟨tick, (world.state.commit (Neo4jDriver.runnable statements)).note
          (.succeeded domainName dataRdf)⟩)) ∨
    (client.commits statements world.tick = false ∧ ∃ exc tick,
      (gate.completeWrite host domainName dataRdf statements).run world =
        (.error exc, ⟨tick, world.state⟩)) := by
  have shape : gate.completeWrite host domainName dataRdf statements = (do
      let recordsWritten ← client.executeWriteBatch GateState.commit statements
      Coro.sync (writeResult host host.time domainName dataRdf (some recordsWritten))) := by
    simp only [completeWrite, online]
  rw [shape]
  rcases client.executeWriteBatch_cases GateState.commit statements world with
    ⟨commits, written, tick, ran⟩ | ⟨fails, exc, tick, ran⟩
  · rcases writeResult_apply host encodes host.time dataRdf (some written)
      ⟨tick, world.state.commit (Neo4jDriver.runnable statements)⟩ with ⟨result, returned⟩
    refine .inl ⟨commits, result, tick + 1, ?_⟩
    rw [Coro.run_bind_of_ok ran, Coro.run_sync, returned]
    rfl
  · exact .inr ⟨fails, exc, tick, Coro.run_bind_of_error ran⟩

theorem enterWrite_run (host : Host) (rdf : RdfLib) (gate : WriteGate)
    (domainName dataRdf nonce rdfFormat : Str) (world : GateWorld) :
    (Coro.sync (gate.enterWrite host rdf domainName dataRdf nonce rdfFormat)).run world =
      gate.authorizeWrite host rdf domainName dataRdf nonce rdfFormat
        (world.note (.called domainName dataRdf nonce rdfFormat)) :=
  Coro.run_sync _ _

/-- A write raises when it is not authorised, and else it is completed; neither has written yet. -/
theorem executeGovernedWrite_cases (host : Host) (rdf : RdfLib) (gate : WriteGate)
    (domainName dataRdf nonce rdfFormat : Str) (world : GateWorld) :
    ((∀ signature timestamp dataHash graph, ¬ Authorizes host rdf gate domainName dataRdf nonce
        rdfFormat signature timestamp dataHash graph world) ∧
      ∃ exc ready, (gate.executeGovernedWrite host rdf domainName dataRdf nonce rdfFormat).run
        world = (.error exc, ready) ∧ ready.state.database = world.state.database) ∨
    ∃ signature timestamp dataHash graph ready,
      Authorizes host rdf gate domainName dataRdf nonce rdfFormat signature timestamp dataHash
        graph world ∧
      ready.tick = (gate.countedWorld host world).tick + 5 ∧
      ready.state.database = world.state.database ∧
      (gate.executeGovernedWrite host rdf domainName dataRdf nonce rdfFormat).run world =
        (gate.completeWrite host domainName dataRdf (rdfToCypherStatements rdf graph)).run
          ready := by
  have entered := enterWrite_run host rdf gate domainName dataRdf nonce rdfFormat world
  have kept := authorizeWrite_keeps unwritten_database host rdf gate domainName dataRdf nonce
    rdfFormat (world.note (.called domainName dataRdf nonce rdfFormat))
  rcases ended : gate.authorizeWrite host rdf domainName dataRdf nonce rdfFormat
    (world.note (.called domainName dataRdf nonce rdfFormat)) with ⟨exc | statements, ready⟩ <;>
    rw [ended] at entered kept
  · refine .inl ⟨?_, exc, ready, Coro.run_bind_of_error entered, kept⟩
    intro signature timestamp dataHash graph authorizes
    have noted := (@authorizes_note host rdf gate _ _ _ _ _ _ _ _
      (.called domainName dataRdf nonce rdfFormat) _).mpr authorizes
    cases ended.symm.trans (authorizeWrite_eq_ok_iff.mpr ⟨_, _, _, _, noted, rfl, rfl⟩)
  · rcases authorizeWrite_eq_ok_iff.mp ended with
      ⟨signature, timestamp, dataHash, graph, authorizes, rfl, rfl⟩
    have tick := (authorizedWorld_state host rdf gate domainName dataRdf nonce rdfFormat signature
      timestamp dataHash graph (world.note (.called domainName dataRdf nonce rdfFormat))).1
    have sameTick : (gate.countedWorld host
        (world.note (.called domainName dataRdf nonce rdfFormat))).tick =
          (gate.countedWorld host world).tick := by
      rw [countedWorld_note]
      rfl
    refine .inr ⟨signature, timestamp, dataHash, graph, _, authorizes_note.mp authorizes,
      tick.trans (congrArg (· + 5) sameTick), kept, ?_⟩
    rw [executeGovernedWrite, Coro.run_bind_of_ok entered]

/-- A write on a gate with a client commits its batch and returns, or raises and writes nothing. -/
theorem executeGovernedWrite_online (host : Host) (rdf : RdfLib) {client : Neo4jDriver}
    (online : gate.neo4jClient = some client) (domainName dataRdf nonce rdfFormat : Str)
    (world : GateWorld) :
    (∃ graph, Commits host rdf gate client domainName dataRdf nonce rdfFormat graph world ∧
      ∃ result final,
        (gate.executeGovernedWrite host rdf domainName dataRdf nonce rdfFormat).run world =
          (.ok result, final) ∧
        final.state.database =
          world.state.database ++ [Neo4jDriver.runnable (rdfToCypherStatements rdf graph)]) ∨
    ((∀ graph, ¬ Commits host rdf gate client domainName dataRdf nonce rdfFormat graph world) ∧
      ∃ exc final,
        (gate.executeGovernedWrite host rdf domainName dataRdf nonce rdfFormat).run world =
          (.error exc, final) ∧
        final.state.database = world.state.database) := by
  rcases executeGovernedWrite_cases host rdf gate domainName dataRdf nonce rdfFormat world with
    ⟨refused, exc, ready, ran, kept⟩ |
      ⟨signature, timestamp, dataHash, graph, ready, authorizes, tick, kept, ran⟩
  · refine .inr ⟨?_, exc, ready, ran, kept⟩
    rintro graph ⟨⟨signature, timestamp, dataHash, authorizes⟩, -⟩
    exact refused signature timestamp dataHash graph authorizes
  · rcases completeWrite_online host (domainName_encodes authorizes.admits) online dataRdf
      (rdfToCypherStatements rdf graph) ready with
      ⟨commits, result, last, completed⟩ | ⟨fails, exc, last, completed⟩
    · rw [tick] at commits
      refine .inl ⟨graph, ⟨⟨signature, timestamp, dataHash, authorizes⟩, commits⟩, result, _,
        ran.trans completed, ?_⟩
      exact congrArg (· ++ [Neo4jDriver.runnable (rdfToCypherStatements rdf graph)]) kept
    · refine .inr ⟨?_, exc, _, ran.trans completed, kept⟩
      rintro graph' ⟨⟨_, _, _, authorizes'⟩, commits⟩
      cases authorizes.conforms.1.symm.trans authorizes'.conforms.1
      rw [tick, commits] at fails
      cases fails

theorem executeGovernedWrite_offline (host : Host) (rdf : RdfLib)
    (offline : gate.neo4jClient = none)
    (domainName dataRdf nonce rdfFormat : Str) (world : GateWorld) :
    ((gate.executeGovernedWrite host rdf domainName dataRdf nonce rdfFormat).run
      world).2.state.database = world.state.database := by
  rcases executeGovernedWrite_cases host rdf gate domainName dataRdf nonce rdfFormat world with
    ⟨-, exc, ready, ran, kept⟩ | ⟨_, _, _, graph, ready, authorizes, -, kept, ran⟩
  · rw [ran]
    exact kept
  · rcases completeWrite_offline host (domainName_encodes authorizes.admits) offline dataRdf
      (rdfToCypherStatements rdf graph) ready with ⟨result, completed⟩
    rw [ran, completed]
    exact kept

/-- A write that returns was handed to the client, if there is one, and noted as done. -/
theorem executeGovernedWrite_submits {domainName dataRdf nonce rdfFormat : Str}
    {result : WriteResult} {world final : GateWorld}
    (returned : (gate.executeGovernedWrite host rdf domainName dataRdf nonce rdfFormat).run world =
      (.ok result, final)) :
    ∃ during, final.state.history =
        .succeeded domainName dataRdf :: (during ++ world.state.history) ∧
      (gate.neo4jClient.isSome →
        ∃ statements, .submitted domainName dataRdf rdfFormat statements ∈ during) := by
  rcases Coro.run_bind_eq_ok_iff.mp returned with ⟨statements, ready, entered, completed⟩
  rw [enterWrite_run] at entered
  rcases authorizeWrite_eq_ok_iff.mp entered with
    ⟨signature, timestamp, dataHash, graph, authorizes, rfl, rfl⟩
  rcases authorizedWorld_state host rdf gate domainName dataRdf
    nonce rdfFormat signature timestamp dataHash graph
    (world.note (.called domainName dataRdf nonce rdfFormat)) with ⟨-, -, during, history, submits⟩
  rw [note_history, List.append_cons] at history
  refine ⟨during ++ [.called domainName dataRdf nonce rdfFormat], ?_, ?_⟩
  · have encodes := domainName_encodes authorizes.admits
    rcases client : gate.neo4jClient with _ | driver
    · rcases completeWrite_offline host encodes client dataRdf _ _ with ⟨_, ran⟩
      rw [ran] at completed
      cases completed
      rw [note_history, ← history]
      rfl
    · rcases completeWrite_online host encodes client dataRdf _ _ with
        ⟨_, _, _, ran⟩ | ⟨_, _, _, ran⟩
      · rw [ran] at completed
        cases completed
        rw [← history]
        rfl
      · rw [ran] at completed
        cases completed
  · intro online
    exact ⟨_, List.mem_append_left _ (submits online)⟩

/-- A write succeeds once when it returns, and not at all when it raises. -/
theorem executeGovernedWrite_successes (host : Host) (rdf : RdfLib) (gate : WriteGate)
    (domainName dataRdf nonce rdfFormat : Str) (world : GateWorld) :
    (∃ result final,
      (gate.executeGovernedWrite host rdf domainName dataRdf nonce rdfFormat).run world =
        (.ok result, final) ∧
      successes final.state = .succeeded domainName dataRdf :: successes world.state) ∨
    (∃ exc final,
      (gate.executeGovernedWrite host rdf domainName dataRdf nonce rdfFormat).run world =
        (.error exc, final) ∧ successes final.state = successes world.state) := by
  have entered := enterWrite_run host rdf gate domainName dataRdf nonce rdfFormat world
  have kept := authorizeWrite_keeps unwritten_successes host rdf gate domainName dataRdf nonce
    rdfFormat (world.note (.called domainName dataRdf nonce rdfFormat))
  have called : successes (world.note (.called domainName dataRdf nonce rdfFormat)).state =
      successes world.state := unwritten_successes.note _ _ rfl
  rcases ended : gate.authorizeWrite host rdf domainName dataRdf nonce rdfFormat
    (world.note (.called domainName dataRdf nonce rdfFormat)) with ⟨exc | statements, ready⟩ <;>
    rw [ended] at entered kept
  · exact .inr ⟨exc, ready, Coro.run_bind_of_error entered, kept.trans called⟩
  · have same : successes ready.state = successes world.state := kept.trans called
    rcases authorizeWrite_eq_ok_iff.mp ended with ⟨_, _, _, _, authorizes, -, -⟩
    have encodes := domainName_encodes authorizes.admits
    rw [executeGovernedWrite, Coro.run_bind_of_ok entered]
    rcases client : gate.neo4jClient with _ | driver
    · rcases completeWrite_offline host encodes client dataRdf statements ready with ⟨result, ran⟩
      exact .inl ⟨result, _, ran,
        congrArg (List.cons (GateEvent.succeeded domainName dataRdf)) same⟩
    · rcases completeWrite_online host encodes client dataRdf statements ready with
        ⟨_, result, tick, ran⟩ | ⟨_, exc, tick, ran⟩
      · exact .inl ⟨result, _, ran,
          congrArg (List.cons (GateEvent.succeeded domainName dataRdf)) same⟩
      · exact .inr ⟨exc, _, ran, same⟩

theorem asVerification_raises {α : Type} {body : Action Exc GateWorld α} {world : GateWorld}
    (raises : ∃ exc final, body world = (.error exc, final)) :
    ∃ exc final, asVerification body world = (.error exc, final) := by
  rcases raises with ⟨exc, final, raised⟩
  rw [asVerification, Action.tryCatch_apply, raised]
  dsimp only
  split <;> exact ⟨_, final, rfl⟩

theorem refuseBody_cases (host : Host) (gate : WriteGate) (α : Type) (domainName : Str)
    (value nonce : Json) :
    (∃ text dataHash signature,
      (gate.refuseBody host domainName value nonce : Action Exc GateWorld α) = (do
        let _ ← gate.checkSignature host domainName text dataHash signature
        throw (noAttribute value "encode"))) ∨
    ∃ exc, (gate.refuseBody host domainName value nonce : Action Exc GateWorld α) = throw exc := by
  unfold refuseBody
  split
  · split
    · exact .inl ⟨_, _, _, rfl⟩
    · exact .inr ⟨_, rfl⟩
  · exact .inr ⟨_, rfl⟩

theorem refuseValues_raises (host : Host) (gate : WriteGate) (α : Type) (domainName : Str)
    (value nonce : Json) (world : GateWorld) : ∃ exc final,
      (gate.refuseValues host domainName value nonce : Action Exc GateWorld α) world =
        (.error exc, final) ∧ successes final.state = successes world.state := by
  have keeps : (gate.refuseValues host domainName value nonce : Action Exc GateWorld α).Keeps
      fun world => successes world.state := by
    apply asVerification_keeps
    rcases refuseBody_cases host gate α domainName value nonce with
      ⟨text, dataHash, signature, body⟩ | ⟨exc, body⟩ <;> rw [body]
    · apply Action.keeps_bind (checkSignature_keeps unwritten_successes.indifferent
        (fun _ _ _ _ _ => rfl) (fun _ _ => rfl) host gate _ _ _ _)
      exact fun _ => Action.keeps_throw _
    · exact Action.keeps_throw _
  have raises : ∃ exc final,
      (gate.refuseValues host domainName value nonce : Action Exc GateWorld α) world =
        (.error exc, final) := by
    apply asVerification_raises
    rcases refuseBody_cases host gate α domainName value nonce with
      ⟨text, dataHash, signature, body⟩ | ⟨exc, body⟩ <;> rw [body]
    · rw [Action.bind_apply]
      rcases gate.checkSignature host domainName text dataHash signature world with
        ⟨exc | _, final⟩ <;> exact ⟨_, final, rfl⟩
    · exact ⟨exc, world, rfl⟩
  have kept := keeps world
  rcases raises with ⟨exc, final, raised⟩
  rw [raised] at kept
  exact ⟨exc, final, raised, kept⟩

/-- Only a text can be written. -/
theorem writeValue_successes (host : Host) (rdf : RdfLib) (gate : WriteGate) (domainName : Str)
    (value nonce : Json) (rdfFormat : Str) (world : GateWorld) :
    (∃ dataRdf result final, value = .str dataRdf ∧
      (gate.writeValue host rdf domainName value nonce rdfFormat).run world =
        (.ok result, final) ∧
      successes final.state = .succeeded domainName dataRdf :: successes world.state) ∨
    (∃ exc final,
      (gate.writeValue host rdf domainName value nonce rdfFormat).run world =
        (.error exc, final) ∧ successes final.state = successes world.state) := by
  have refused : ∃ exc final, (Coro.sync (do
        gate.checkQuota host
        gate.refuseValues host domainName value nonce) : Coro Exc GateWorld WriteResult).run
          world = (.error exc, final) ∧ successes final.state = successes world.state := by
    have kept := checkQuota_keeps unwritten_successes.indifferent host gate world
    rw [Coro.run_sync, Action.bind_apply]
    revert kept
    rcases gate.checkQuota host world with ⟨exc | ⟨⟩, counted⟩ <;> intro kept
    · exact ⟨exc, counted, rfl, kept⟩
    · rcases refuseValues_raises host gate WriteResult domainName value nonce counted with
        ⟨exc, final, raised, same⟩
      exact ⟨exc, final, raised, same.trans kept⟩
  rcases value with _ | _ | _ | _ | dataRdf | _ | _
  case str =>
    rcases nonce with _ | _ | _ | _ | validationNonce | _ | _
    case str =>
      rcases executeGovernedWrite_successes host rdf gate domainName dataRdf validationNonce
        rdfFormat world with ⟨result, final, ran, log⟩ | ⟨exc, final, ran, log⟩
      · exact .inl ⟨dataRdf, result, final, rfl, ran, log⟩
      · exact .inr ⟨exc, final, ran, log⟩
    all_goals exact .inr refused
  all_goals exact .inr refused

end WriteGate

end AgentOS
