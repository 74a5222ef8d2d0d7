import AgentOS.Governance.WriteGate

/-!
# The steps of the gate

Everything that a call on the gate can do to its state is one of the transitions of
`GateStep`. The transitions that matter are single steps although the code takes several:
issuing a nonce goes with validating the data, and letting a nonce pass goes with burning
it. Statements about all runs are then inductions over `GateStep`.
-/

namespace AgentOS

open Python Cooperative

namespace GateWorld

def read (world : GateWorld) : GateWorld := { world with tick := world.tick + 1 }

def note (event : GateEvent) (world : GateWorld) : GateWorld :=
  { world with state := world.state.note event }

def sweep (host : Host) (world : GateWorld) : GateWorld where
  tick := world.tick + 1
  state := { world.state with
    consumedNonces :=
      world.state.consumedNonces.filter fun _ expires => host.monotonic world.tick < expires }

def cache (domainName : Str) (shapes : Graph) (world : GateWorld) : GateWorld :=
  { world with state :=
    { world.state with validators := world.state.validators.set domainName shapes } }

def commit (statements : List Str) (world : GateWorld) : GateWorld :=
  { world with state := world.state.commit statements }

def burn (host : Host) (ttl : ℤ) (signature : Str) (world : GateWorld) : GateWorld where
  tick := world.tick + 1
  state := { world.state with
    consumedNonces :=
      world.state.consumedNonces.set signature (host.monotonic world.tick + ttl)
    history := .burned signature (host.monotonic world.tick) :: world.state.history }

end GateWorld

/-- The event is the entry of a governed write. -/
def GateEvent.isCall : GateEvent → Bool
  | called .. => true
  | _ => false

/-- The event is the return of a governed write. -/
def GateEvent.isSuccess : GateEvent → Bool
  | succeeded .. => true
  | _ => false

/-- The events that on their own say nothing about calls, nonces or writes. -/
def GateEvent.isNeutral : GateEvent → Bool
  | lookedUp .. | verified .. | succeeded .. => true
  | _ => false

namespace WriteGate

variable (host : Host) (rdf : RdfLib) (gate : WriteGate)

/-- The payload that is signed for the data at the current reading. -/
def currentPayload (domainName dataRdf : Str) (world : GateWorld) : Str :=
  noncePayload (truncate (host.monotonic world.tick)) (host.sha256 dataRdf).text domainName

/-- The world after conforming data got its nonce. -/
def issuedWorld (domainName dataRdf rdfFormat : Str) (world : GateWorld) : GateWorld :=
  (world.read.note (.signed (currentPayload host domainName dataRdf world))).note
    (.validated domainName dataRdf rdfFormat (host.monotonic world.tick))

/-- The world after a nonce passed all checks. -/
def checkedWorld (domainName signature : Str) (timestamp : ℤ) (dataHash : Str)
    (world : GateWorld) : GateWorld :=
  (((world.read.sweep host).note
      (.lookedUp (noncePayload timestamp dataHash domainName) signature timestamp
        (host.monotonic world.tick) (host.monotonic (world.tick + 1)))).note
    (.verified (noncePayload timestamp dataHash domainName) signature)).read

/-- The world after a nonce was accepted. -/
def acceptedWorld (domainName dataRdf nonce signature : Str) (timestamp : ℤ) (dataHash : Str)
    (world : GateWorld) : GateWorld :=
  (checkedWorld host domainName signature timestamp dataHash world).note
    (.accepted domainName dataRdf nonce signature (host.monotonic world.tick))

/-- The nonce passes in the world: what each check of `_verify_nonce` asks for. -/
structure Admits (domainName dataRdf nonce signature : Str) (timestamp : ℤ) (dataHash : Str)
    (world : GateWorld) : Prop where
  parts : ∃ text, splitSep 0x3A nonce = [text, dataHash, signature] ∧ int text = some timestamp
  inRange : ¬ exceedsFloat timestamp
  timely : host.monotonic world.tick - timestamp ≤ gate.nonceTtl
  unused : (world.read.sweep host).state.consumedNonces.get? signature = none
  payloadEncodes : encodable (noncePayload timestamp dataHash domainName) = true
  signed : signature =
    (host.hmacSha256 gate.nonceSecret (noncePayload timestamp dataHash domainName)).text
  dataEncodes : encodable dataRdf = true
  hashed : (host.sha256 dataRdf).text = dataHash

@[simp]
theorem note_history (event : GateEvent) (world : GateWorld) :
    (world.note event).state.history = event :: world.state.history := rfl

@[simp]
theorem issuedWorld_history (domainName dataRdf rdfFormat : Str) (world : GateWorld) :
    (issuedWorld host domainName dataRdf rdfFormat world).state.history =
      .validated domainName dataRdf rdfFormat (host.monotonic world.tick) ::
        .signed (currentPayload host domainName dataRdf world) :: world.state.history := rfl

/-- The world after a nonce was accepted and consumed. -/
def consumedWorld (domainName dataRdf nonce signature : Str) (timestamp : ℤ) (dataHash : Str)
    (world : GateWorld) : GateWorld :=
  (acceptedWorld host domainName dataRdf nonce signature timestamp dataHash world).burn host
    gate.nonceTtl signature

@[simp]
theorem consumedWorld_history (domainName dataRdf nonce signature : Str) (timestamp : ℤ)
    (dataHash : Str) (world : GateWorld) :
    (consumedWorld host gate domainName dataRdf nonce signature timestamp dataHash
      world).state.history =
      .burned signature (host.monotonic (world.tick + 3)) ::
        .accepted domainName dataRdf nonce signature (host.monotonic world.tick) ::
          .verified (noncePayload timestamp dataHash domainName) signature ::
            .lookedUp (noncePayload timestamp dataHash domainName) signature timestamp
              (host.monotonic world.tick) (host.monotonic (world.tick + 1)) ::
                world.state.history := rfl

theorem consumedWorld_nonces (domainName dataRdf nonce signature : Str) (timestamp : ℤ)
    (dataHash : Str) (world : GateWorld) :
    (consumedWorld host gate domainName dataRdf nonce signature timestamp dataHash
      world).state.consumedNonces =
      (world.read.sweep host).state.consumedNonces.set signature
        (host.monotonic (world.tick + 3) + gate.nonceTtl) := rfl

/-- One transition of a gate; the entry of a new call is one only where calls are allowed. -/
inductive GateStep (calling : Prop) : GateWorld → GateWorld → Prop where
  | call (world : GateWorld) (domainName dataRdf nonce rdfFormat : Str) (allowed : calling) :
      GateStep calling world (world.note (.called domainName dataRdf nonce rdfFormat))
  | read (world : GateWorld) : GateStep calling world world.read
  | quota (world : GateWorld) (quota : WriteQuotaState) :
      GateStep calling world { world with state := world.state.setQuota quota }
  | sweep (world : GateWorld) : GateStep calling world (world.sweep host)
  | note (world : GateWorld) {event : GateEvent} (neutral : event.isNeutral) :
      GateStep calling world (world.note event)
  | cache (world : GateWorld) {domainName : Str} {domain : DomainSchema} {shapes : Graph}
      (known : gate.schemaProvider.getDomain domainName = some domain)
      (loaded : domain.shaclGraph = .ok shapes) :
        GateStep calling world (world.cache domainName shapes)
  | issue (world : GateWorld) {domainName dataRdf rdfFormat : Str} {shapes graph : Graph}
      {results : List ResultNode}
      (cached : world.state.validators.get? domainName = some shapes)
      (parsed : rdf.parse dataRdf rdfFormat = .ok graph)
      (conforms : rdf.validate graph shapes = .ok (true, results)) :
      GateStep calling world (issuedWorld host domainName dataRdf rdfFormat world)
  | accept (world : GateWorld) {domainName dataRdf nonce signature dataHash : Str} {timestamp : ℤ}
      (admits : Admits host gate domainName dataRdf nonce signature timestamp dataHash world) :
      GateStep calling world
        (consumedWorld host gate domainName dataRdf nonce signature timestamp dataHash world)
  | submit (world : GateWorld) {domainName dataRdf rdfFormat payload nonce signature : Str}
      {issued consumed passed : ℚ} {earlier : List GateEvent} {graph : Graph}
      (history : world.state.history =
        .validated domainName dataRdf rdfFormat issued :: .signed payload ::
          .burned signature consumed :: .accepted domainName dataRdf nonce signature passed ::
            earlier)
      (parsed : rdf.parse dataRdf rdfFormat = .ok graph) :
      GateStep calling world
        (world.note (.submitted domainName dataRdf rdfFormat (rdfToCypherStatements rdf graph)))
  | commit (world : GateWorld) {domainName dataRdf rdfFormat : Str} {statements : List Str}
      (submitted : .submitted domainName dataRdf rdfFormat statements ∈ world.state.history) :
      GateStep calling world (world.commit (Neo4jDriver.runnable statements))

variable {host rdf gate} {calling : Prop}

theorem compareDigest_eq_true_iff {signature : Str} {expected : HexDigest} :
    compareDigest signature expected = .ok true ↔ signature = expected.text := by
  unfold compareDigest
  split
  · simp
  · rename_i foreign
    refine ⟨by simp, ?_⟩
    rintro rfl
    apply absurd _ foreign
    rw [List.all_eq_true]
    intro c mem
    simpa using expected.ascii mem

theorem checkParts_eq_ok_iff {domainName dataRdf nonce text dataHash signature : Str} {time : ℚ}
    {world final : GateWorld} (split : splitSep 0x3A nonce = [text, dataHash, signature]) :
    gate.checkParts host domainName dataRdf text dataHash signature world = (.ok time, final) ↔
      ∃ timestamp, Admits host gate domainName dataRdf nonce signature timestamp dataHash world ∧
        time = host.monotonic world.tick ∧
        final = checkedWorld host domainName signature timestamp dataHash world := by
  simp only [checkParts, checkSignature, Action.bind_eq_ok_iff, ofExcept_apply, raiseIf_eq_ok_iff,
    Host.readMonotonic_apply, cleanupExpiredNonces, AgentOS.note, Timed.modify_apply,
    Timed.view_apply, Action.pure_apply, Prod.mk.injEq, Except.ok.injEq, Host.encode_eq_ok_iff,
    Host.parseInt_eq_ok_iff, ↓existsAndEq, true_and, and_assoc, exists_and_left, exists_const]
  constructor
  · rintro ⟨timestamp, parsed, inRange, timely, unused, payloadEncodes, same, compared, accepted,
      dataEncodes, hashed, rfl, rfl⟩
    rw [not_not] at accepted
    rw [accepted, compareDigest_eq_true_iff] at compared
    refine ⟨timestamp, ⟨⟨text, split, parsed⟩, inRange, not_lt.mp timely, ?_, payloadEncodes,
      compared, dataEncodes, not_not.mp hashed⟩, rfl, rfl⟩
    exact Option.not_isSome_iff_eq_none.mp unused
  · rintro ⟨timestamp, ⟨⟨text', split', parsed⟩, inRange, timely, unused, payloadEncodes, signed,
      dataEncodes, hashed⟩, rfl, rfl⟩
    rw [split, List.cons.injEq] at split'
    rw [← split'.1] at parsed
    refine ⟨timestamp, parsed, inRange, not_lt.mpr timely, ?_, payloadEncodes, true,
      compareDigest_eq_true_iff.mpr signed, by simp, dataEncodes, by simp [hashed], rfl, rfl⟩
    exact Option.not_isSome_iff_eq_none.mpr unused

theorem verifyBody_cases (host : Host) (gate : WriteGate) (domainName dataRdf nonce : Str) :
    (∃ text dataHash signature, splitSep 0x3A nonce = [text, dataHash, signature] ∧
      gate.verifyBody host domainName dataRdf nonce = (do
        let time ← gate.checkParts host domainName dataRdf text dataHash signature
        note (.accepted domainName dataRdf nonce signature time))) ∨
    ((∀ text dataHash signature, splitSep 0x3A nonce ≠ [text, dataHash, signature]) ∧
      ∃ exc, gate.verifyBody host domainName dataRdf nonce = throw exc) := by
  unfold verifyBody
  split
  · rename_i text dataHash signature split
    exact .inl ⟨text, dataHash, signature, split, rfl⟩
  · rename_i unsplit
    exact .inr ⟨unsplit, _, rfl⟩

theorem verifyNonce_eq_ok_iff_body {domainName dataRdf nonce : Str} {world final : GateWorld} :
    gate.verifyNonce host domainName dataRdf nonce world = (.ok (), final) ↔
      gate.verifyBody host domainName dataRdf nonce world = (.ok (), final) := by
  rw [verifyNonce, asVerification, Action.tryCatch_apply]
  rcases gate.verifyBody host domainName dataRdf nonce world with ⟨exc | _, _⟩
  · dsimp only
    split <;> simp
  · rfl

/-- What it takes for `_verify_nonce` to return. -/
theorem verifyNonce_eq_ok_iff {domainName dataRdf nonce : Str} {world final : GateWorld} :
    gate.verifyNonce host domainName dataRdf nonce world = (.ok (), final) ↔
      ∃ signature timestamp dataHash,
        Admits host gate domainName dataRdf nonce signature timestamp dataHash world ∧
        final = acceptedWorld host domainName dataRdf nonce signature timestamp dataHash world := by
  rw [verifyNonce_eq_ok_iff_body]
  rcases verifyBody_cases host gate domainName dataRdf nonce with
    ⟨text, dataHash, signature, split, body⟩ | ⟨unsplit, exc, body⟩ <;> rw [body]
  · rw [Action.bind_eq_ok_iff]
    constructor
    · rintro ⟨time, middle, checked, noted⟩
      rcases (checkParts_eq_ok_iff split).mp checked with ⟨timestamp, admits, rfl, rfl⟩
      refine ⟨signature, timestamp, dataHash, admits, ?_⟩
      exact (congrArg Prod.snd noted).symm
    · rintro ⟨signature', timestamp, dataHash', admits, rfl⟩
      rcases admits.parts with ⟨text', split', _⟩
      obtain ⟨-, rfl, rfl⟩ : text = text' ∧ dataHash = dataHash' ∧ signature = signature' := by
        simpa [split] using split'
      exact ⟨_, _, (checkParts_eq_ok_iff split).mpr ⟨timestamp, admits, rfl, rfl⟩, rfl⟩
  · constructor
    · intro raised
      cases raised
    · rintro ⟨signature, timestamp, dataHash, admits, -⟩
      rcases admits.parts with ⟨text, split, _⟩
      exact absurd split (unsplit _ _ _)

theorem consumeNonce_apply {domainName dataRdf nonce signature dataHash : Str} {timestamp : ℤ}
    {world : GateWorld}
    (admits : Admits host gate domainName dataRdf nonce signature timestamp dataHash world)
    (later : GateWorld) :
    gate.consumeNonce host nonce later = (.ok (), later.burn host gate.nonceTtl signature) := by
  rcases admits.parts with ⟨text, split, _⟩
  unfold consumeNonce
  rw [split]
  rfl

theorem generateNonce_eq_ok_iff {domainName dataRdf nonce : Str} {time : ℚ}
    {world final : GateWorld} :
    gate.generateNonce host domainName dataRdf world = (.ok (nonce, time), final) ↔
      encodable dataRdf = true ∧ encodable (currentPayload host domainName dataRdf world) = true ∧
        time = host.monotonic world.tick ∧
        nonce = noncePayload (truncate time) (host.sha256 dataRdf).text
          (host.hmacSha256 gate.nonceSecret (currentPayload host domainName dataRdf world)).text ∧
        final = world.read.note (.signed (currentPayload host domainName dataRdf world)) := by
  simp only [generateNonce, Action.bind_eq_ok_iff, ofExcept_apply, Host.readMonotonic_apply,
    AgentOS.note, Timed.modify_apply, Action.pure_apply, Prod.mk.injEq, Except.ok.injEq,
    Host.encode_eq_ok_iff, ↓existsAndEq, true_and, and_assoc, exists_and_left, exists_const]
  constructor
  · rintro ⟨dataEncodes, payloadEncodes, rfl, rfl, rfl⟩
    exact ⟨dataEncodes, payloadEncodes, rfl, rfl, rfl⟩
  · rintro ⟨dataEncodes, payloadEncodes, rfl, rfl, rfl⟩
    exact ⟨dataEncodes, payloadEncodes, rfl, rfl, rfl⟩

theorem generateNonce_of_error {domainName dataRdf : Str} {exc : Exc} {world final : GateWorld}
    (raised : gate.generateNonce host domainName dataRdf world = (.error exc, final)) :
    final = world.read := by
  rcases dataBytes : host.encode dataRdf with _ | bytes
  · simp only [generateNonce, Action.bind_apply, ofExcept_apply, Host.readMonotonic_apply,
      dataBytes, Prod.mk.injEq] at raised
    exact raised.2.symm
  · rcases payloadBytes : host.encode
      (noncePayload (truncate (host.monotonic world.tick)) (host.sha256 bytes).text domainName)
      with _ | payload
    · simp only [generateNonce, Action.bind_apply, ofExcept_apply, Host.readMonotonic_apply,
        dataBytes, payloadBytes, Prod.mk.injEq] at raised
      exact raised.2.symm
    · simp only [generateNonce, Action.bind_apply, ofExcept_apply, Host.readMonotonic_apply,
        dataBytes, payloadBytes, AgentOS.note, Timed.modify_apply, Action.pure_apply,
        Prod.mk.injEq, reduceCtorEq, false_and] at raised

/-- Looking the validator up at most fills the cache from the schema provider. -/
theorem getValidator_cases (host : Host) (rdf : RdfLib) (gate : WriteGate) (calling : Prop)
    (domainName : Str) (world : GateWorld) :
    ∃ middle, Relation.ReflTransGen (GateStep host rdf gate calling) world middle ∧
      middle.state.history = world.state.history ∧
      ((∃ exc, gate.getValidator host domainName world = (.error exc, middle)) ∨
        ∃ shapes, middle.state.validators.get? domainName = some shapes ∧
          gate.getValidator host domainName world = (.ok shapes, middle)) := by
  rcases cached : world.state.validators.get? domainName with _ | shapes
  · rcases known : gate.schemaProvider.getDomain domainName with _ | domain
    · refine ⟨world, .refl, rfl, .inl ⟨gate.unknownDomain host domainName, ?_⟩⟩
      simp [getValidator, Action.bind_apply, cached, known]
    · rcases loaded : domain.shaclGraph with exc | shapes
      · refine ⟨world, .refl, rfl, .inl ⟨exc, ?_⟩⟩
        simp [getValidator, Action.bind_apply, cached, known, loaded]
      · refine ⟨world.cache domainName shapes, .single (.cache world known loaded), rfl,
          .inr ⟨shapes, ?_, ?_⟩⟩
        · simp [GateWorld.cache]
        · simp [getValidator, Action.bind_apply, cached, known, loaded, GateWorld.cache]
  · refine ⟨world, .refl, rfl, .inr ⟨shapes, cached, ?_⟩⟩
    simp [getValidator, Action.bind_apply, cached]

theorem checkData_error {shapes : Graph} {dataRdf rdfFormat : Str} {exc : Exc}
    (raised : checkData rdf shapes dataRdf rdfFormat = .error exc) :
    exc.cls = .shaclValidationError := by
  unfold checkData parseRdf at raised
  rcases parsed : rdf.parse dataRdf rdfFormat with text | graph <;> rw [parsed] at raised
  · cases raised
    rfl
  · change shaclValidate rdf shapes graph = .error exc at raised
    unfold shaclValidate at raised
    split at raised <;> cases raised
    rfl

theorem checkData_valid {shapes : Graph} {dataRdf rdfFormat : Str}
    {report : SHACLValidationReport}
    (checked : checkData rdf shapes dataRdf rdfFormat = .ok report) (valid : report.isValid) :
    ∃ graph results, rdf.parse dataRdf rdfFormat = .ok graph ∧
      rdf.validate graph shapes = .ok (true, results) := by
  unfold checkData parseRdf at checked
  rcases parsed : rdf.parse dataRdf rdfFormat with text | graph <;> rw [parsed] at checked
  · cases checked
  · change shaclValidate rdf shapes graph = .ok report at checked
    unfold shaclValidate at checked
    rcases validated : rdf.validate graph shapes with text | ⟨conforms, results⟩ <;>
      rw [validated] at checked
    · cases checked
    · cases checked
      obtain rfl : conforms = true := valid
      exact ⟨graph, results, rfl, validated⟩

/-- Validation either issues a nonce for conforming data or leaves the history alone. -/
theorem verifyShaclCompliance_cases (host : Host) (rdf : RdfLib) (gate : WriteGate) (calling : Prop)
    (domainName dataRdf rdfFormat : Str) (world : GateWorld) :
    ∃ middle, Relation.ReflTransGen (GateStep host rdf gate calling) world middle ∧
      middle.state.history = world.state.history ∧
      ((∃ result, gate.verifyShaclCompliance host rdf domainName dataRdf rdfFormat world =
          (result, middle) ∧
          ∀ report nonce, result = .ok (report, nonce) → report.isValid = false) ∨
        ∃ report nonce shapes graph results,
          middle.state.validators.get? domainName = some shapes ∧
          rdf.parse dataRdf rdfFormat = .ok graph ∧
          rdf.validate graph shapes = .ok (true, results) ∧ report.isValid = true ∧
          gate.verifyShaclCompliance host rdf domainName dataRdf rdfFormat world =
            (.ok (report, some nonce), issuedWorld host domainName dataRdf rdfFormat middle)) := by
  rcases getValidator_cases host rdf gate calling domainName world with
    ⟨middle, moved, history, ⟨exc, found⟩ | ⟨shapes, cached, found⟩⟩
  · refine ⟨middle, moved, history, .inl ⟨.error exc, ?_, by simp⟩⟩
    exact Action.bind_of_error found
  rcases checked : checkData rdf shapes dataRdf rdfFormat with exc | report
  · refine ⟨middle, moved, history, .inl ⟨.error exc, ?_, by simp⟩⟩
    rw [verifyShaclCompliance, Action.bind_of_ok found, checked]
    rfl
  have reduced : gate.verifyShaclCompliance host rdf domainName dataRdf rdfFormat world =
      (if report.isValid then gate.issueNonce host domainName dataRdf rdfFormat report
      else pure (report, none)) middle := by
    rw [verifyShaclCompliance, Action.bind_of_ok found, checked]
    rfl
  by_cases valid : report.isValid = true
  · rw [if_pos valid] at reduced
    rcases generated : gate.generateNonce host domainName dataRdf middle with
      ⟨exc | ⟨nonce, time⟩, final⟩
    · rw [generateNonce_of_error generated] at generated
      refine ⟨middle.read, moved.tail (.read middle), history, .inl ⟨.error exc, ?_, by simp⟩⟩
      rw [reduced, issueNonce, Action.bind_of_error generated]
    · rcases generateNonce_eq_ok_iff.mp generated with ⟨_, _, rfl, _, rfl⟩
      rcases checkData_valid checked valid with ⟨graph, results, parsed, conforms⟩
      refine ⟨middle, moved, history, .inr ⟨report, nonce, shapes, graph, results, cached, parsed,
        conforms, valid, ?_⟩⟩
      rw [reduced, issueNonce, Action.bind_of_ok generated]
      rfl
  · rw [if_neg valid] at reduced
    refine ⟨middle, moved, history, .inl ⟨.ok (report, none), reduced, ?_⟩⟩
    rintro _ _ ⟨⟩
    simpa using valid

/-! ### Every call takes steps of the gate -/

theorem verifyShaclCompliance_follows (domainName dataRdf rdfFormat : Str) :
    (gate.verifyShaclCompliance host rdf domainName dataRdf rdfFormat).Follows
      (GateStep host rdf gate calling) := by
  intro world
  rcases verifyShaclCompliance_cases host rdf gate calling domainName dataRdf rdfFormat world with
    ⟨middle, moved, _, ⟨result, outcome, _⟩ |
      ⟨report, nonce, shapes, graph, results, cached, parsed, conforms, _, outcome⟩⟩
  · rw [outcome]
    exact moved
  · rw [outcome]
    exact moved.tail (.issue middle cached parsed conforms)

theorem follows_readMonotonic (host : Host) (rdf : RdfLib) (gate : WriteGate)
    (calling : Prop) :
    (host.readMonotonic : Action Exc GateWorld ℚ).Follows (GateStep host rdf gate calling) :=
  fun world => .single (.read world)

theorem follows_ofExcept {α : Type} (result : Except Exc α) :
    (ofExcept result : Action Exc GateWorld α).Follows (GateStep host rdf gate calling) := by
  intro world
  rw [ofExcept_apply]

theorem follows_raiseIf (refused : Prop) [Decidable refused] (exc : Exc) :
    (raiseIf refused exc : Action Exc GateWorld Unit).Follows (GateStep host rdf gate calling) := by
  intro world
  rw [raiseIf_apply]

theorem follows_note {event : GateEvent} (neutral : event.isNeutral) :
    (note event).Follows (GateStep host rdf gate calling) :=
  fun world => .single (.note world neutral)

/-- Until it accepts, the check of a nonce only reads clocks, sweeps and notes. -/
theorem checkSignature_follows (host : Host) (rdf : RdfLib) (gate : WriteGate) (calling : Prop)
    (domainName text dataHash signature : Str) :
    (gate.checkSignature host domainName text dataHash signature).Follows
      (GateStep host rdf gate calling) := by
  have sweeps : (cleanupExpiredNonces host).Follows (GateStep host rdf gate calling) :=
    fun world => .single (.sweep world)
  have views : (Timed.view GateState.consumedNonces).Follows (GateStep host rdf gate calling) :=
    fun _ => .refl
  apply Action.follows_bind (follows_ofExcept _)
  intro timestamp
  apply Action.follows_bind (follows_readMonotonic host rdf gate calling)
  intro now
  apply Action.follows_bind (follows_raiseIf _ _)
  intro _
  apply Action.follows_bind (follows_raiseIf _ _)
  intro _
  apply Action.follows_bind sweeps
  intro swept
  apply Action.follows_bind (follows_note rfl)
  intro _
  apply Action.follows_bind views
  intro consumed
  apply Action.follows_bind (follows_raiseIf _ _)
  intro _
  apply Action.follows_bind (follows_ofExcept _)
  intro payload
  apply Action.follows_bind (follows_ofExcept _)
  intro same
  apply Action.follows_bind (follows_raiseIf _ _)
  intro _
  apply Action.follows_bind (follows_note rfl)
  exact fun _ => Action.follows_pure _

theorem checkParts_follows (host : Host) (rdf : RdfLib) (gate : WriteGate) (calling : Prop)
    (domainName dataRdf text dataHash signature : Str) :
    (gate.checkParts host domainName dataRdf text dataHash signature).Follows
      (GateStep host rdf gate calling) := by
  apply Action.follows_bind (checkSignature_follows host rdf gate calling _ _ _ _)
  intro now
  apply Action.follows_bind (follows_ofExcept _)
  intro bytes
  apply Action.follows_bind (follows_raiseIf _ _)
  intro _
  apply Action.follows_bind (follows_readMonotonic host rdf gate calling)
  exact fun _ => Action.follows_pure _

/-- A refused nonce was refused by one of the checks. -/
theorem verifyBody_of_error {domainName dataRdf nonce : Str} {exc : Exc}
    {world final : GateWorld}
    (raised : gate.verifyNonce host domainName dataRdf nonce world = (.error exc, final)) :
    ∃ cause, gate.verifyBody host domainName dataRdf nonce world = (.error cause, final) := by
  rw [verifyNonce, asVerification, Action.tryCatch_apply] at raised
  rcases body : gate.verifyBody host domainName dataRdf nonce world with ⟨cause | _, middle⟩ <;>
    rw [body] at raised
  · refine ⟨cause, ?_⟩
    dsimp only at raised
    split at raised <;> cases raised <;> rfl
  · cases raised

/-- A refused nonce leaves nothing behind but clock readings, a sweep and neutral events. -/
theorem verifyNonce_moves_of_error {domainName dataRdf nonce : Str} {exc : Exc}
    {world final : GateWorld}
    (raised : gate.verifyNonce host domainName dataRdf nonce world = (.error exc, final)) :
    Relation.ReflTransGen (GateStep host rdf gate calling) world final := by
  have handled := verifyBody_of_error raised
  rcases handled with ⟨cause, failed⟩
  rcases verifyBody_cases host gate domainName dataRdf nonce with
    ⟨text, dataHash, signature, _, body⟩ | ⟨_, exc', body⟩ <;> rw [body] at failed
  · have moved := checkParts_follows host rdf gate calling domainName dataRdf text dataHash
      signature world
    rw [Action.bind_apply] at failed
    revert moved failed
    rcases gate.checkParts host domainName dataRdf text dataHash signature world with
      ⟨_ | time, middle⟩ <;> intro failed moved <;> cases failed
    exact moved
  · cases failed
    exact .refl

theorem checkQuota_follows : (gate.checkQuota host).Follows (GateStep host rdf gate calling) := by
  unfold checkQuota
  rcases gate.autonomyPolicy with _ | policy
  · exact Action.follows_pure _
  · intro world
    rcases checked : policy.checkWriteQuota host (world.part GateState.quota) with ⟨result, quota⟩
    have ticks : quota.tick = world.tick + 1 := by
      have kept := AutonomyPolicy.checkWriteQuota_tick host policy
        (world.part GateState.quota)
      rw [checked] at kept
      exact kept
    have shape : (Action.zoom (Timed.part GateState.quota) (Timed.setPart GateState.setQuota)
        (policy.checkWriteQuota host) world).2 =
          { world.read with state := world.read.state.setQuota quota.state } := by
      simp [Action.zoom, checked, Timed.setPart, ticks, GateWorld.read]
    rw [shape]
    exact .tail (.single (.read world)) (.quota world.read quota.state)

/-- The statements are handed over only with the events of their own call right before. -/
theorem prepareStatements_cases {domainName dataRdf rdfFormat : Str} {world final : GateWorld}
    {statements : List Str}
    (prepared : gate.prepareStatements host rdf domainName dataRdf rdfFormat world =
      (.ok statements, final)) :
    ∃ payload time graph, rdf.parse dataRdf rdfFormat = .ok graph ∧
      statements = rdfToCypherStatements rdf graph ∧
      final.state.history =
        .validated domainName dataRdf rdfFormat time :: .signed payload :: world.state.history := by
  rcases verifyShaclCompliance_cases host rdf gate False domainName dataRdf rdfFormat world with
    ⟨middle, _, history, ⟨result, outcome, invalid⟩ |
      ⟨report, nonce, shapes, graph, results, _, parsed, _, valid, outcome⟩⟩
  · rcases result with exc | ⟨report, nonce⟩
    · rw [prepareStatements, Action.bind_of_error outcome] at prepared
      cases prepared
    · rw [prepareStatements, Action.bind_of_ok outcome] at prepared
      simp [Action.bind_apply, raiseIf_apply, invalid report nonce rfl] at prepared
  · rw [prepareStatements, Action.bind_of_ok outcome] at prepared
    simp only [Action.bind_apply, raiseIf_apply, valid, not_true_eq_false, if_false, parsed,
      Action.pure_apply, Prod.mk.injEq, Except.ok.injEq] at prepared
    rcases prepared with ⟨rfl, rfl⟩
    refine ⟨currentPayload host domainName dataRdf middle, host.monotonic middle.tick, graph,
      parsed, rfl, ?_⟩
    rw [← history]
    rfl

theorem prepareStatements_follows (host : Host) (rdf : RdfLib) (gate : WriteGate) (calling : Prop)
    (domainName dataRdf rdfFormat : Str) :
    (gate.prepareStatements host rdf domainName dataRdf rdfFormat).Follows
      (GateStep host rdf gate calling) := by
  apply Action.follows_bind (verifyShaclCompliance_follows _ _ _)
  rintro ⟨report, nonce⟩
  apply Action.follows_bind (follows_raiseIf _ _)
  intro _
  rcases rdf.parse dataRdf rdfFormat with text | graph
  · exact Action.follows_throw _
  · exact Action.follows_pure _

/-- The synchronous part of a governed write, once the write was counted. -/
theorem authorizeWrite_moves {domainName dataRdf nonce rdfFormat : Str} {start world : GateWorld}
    (counted : gate.checkQuota host start = (.ok (), world)) :
    Relation.ReflTransGen (GateStep host rdf gate calling) world
      (gate.authorizeWrite host rdf domainName dataRdf nonce rdfFormat start).2 := by
  rw [authorizeWrite, Action.bind_of_ok counted]
  rcases checked : gate.verifyNonce host domainName dataRdf nonce world with ⟨exc | ⟨⟨⟩⟩, passed⟩
  · rw [Action.bind_of_error checked]
    exact verifyNonce_moves_of_error checked
  rw [Action.bind_of_ok checked]
  rcases verifyNonce_eq_ok_iff.mp checked with ⟨signature, timestamp, dataHash, admits, rfl⟩
  rw [Action.bind_of_ok (consumeNonce_apply admits _)]
  change Relation.ReflTransGen _ _ ((_ : Action Exc GateWorld _)
    (consumedWorld host gate domainName dataRdf nonce signature timestamp dataHash world)).2
  generalize burned : consumedWorld host gate domainName dataRdf nonce signature timestamp dataHash
    world = middle
  have accept : GateStep host rdf gate calling world middle := burned ▸ .accept world admits
  have moved := prepareStatements_follows host rdf gate calling domainName dataRdf rdfFormat middle
  rcases prepared : gate.prepareStatements host rdf domainName dataRdf rdfFormat middle with
    ⟨exc | statements, ready⟩ <;> rw [prepared] at moved
  · rw [Action.bind_of_error prepared]
    exact moved.head accept
  rw [Action.bind_of_ok prepared]
  rcases prepareStatements_cases prepared with ⟨payload, time, graph, parsed, rfl, history⟩
  subst burned
  rcases gate.neo4jClient with _ | client
  · exact moved.head accept
  · exact (moved.head accept).tail (.submit ready history parsed)

/-- The synchronous part of a governed write. -/
theorem authorizeWrite_follows (domainName dataRdf nonce rdfFormat : Str) :
    (gate.authorizeWrite host rdf domainName dataRdf nonce rdfFormat).Follows
      (GateStep host rdf gate calling) := by
  intro world
  have moved : Relation.ReflTransGen (GateStep host rdf gate calling) world
      (gate.checkQuota host world).2 := checkQuota_follows world
  rcases checked : gate.checkQuota host world with ⟨exc | ⟨⟨⟩⟩, counted⟩
  · rw [checked] at moved
    rw [authorizeWrite, Action.bind_of_error checked]
    exact moved
  · rw [checked] at moved
    exact moved.trans (authorizeWrite_moves checked)

/-- A call that returns statements for a client has handed them over. -/
theorem authorizeWrite_submitted {domainName dataRdf nonce rdfFormat : Str}
    {statements : List Str} {world final : GateWorld} (client : gate.neo4jClient.isSome)
    (returned : gate.authorizeWrite host rdf domainName dataRdf nonce rdfFormat world =
      (.ok statements, final)) :
    .submitted domainName dataRdf rdfFormat statements ∈ final.state.history := by
  simp only [authorizeWrite, Action.bind_eq_ok_iff, client, if_true, AgentOS.note,
    Timed.modify_apply, Action.pure_apply, Prod.mk.injEq, Except.ok.injEq] at returned
  rcases returned with 
    ⟨_, _, _, _, _, _, _, _, _, _, _, _, _, _, ⟨-, rfl⟩, rfl, rfl⟩
  simp [GateState.note]

theorem GateStep.history_grows {world world' : GateWorld}
    (step : GateStep host rdf gate calling world world') :
    world.state.history <:+ world'.state.history := by
  cases step with
  | read | quota | sweep | cache | commit => exact List.suffix_rfl
  | call | note => exact List.suffix_cons _ _
  | issue => exact (List.suffix_cons _ _).trans (List.suffix_cons _ _)
  | accept => exact ((((List.suffix_cons _ _).trans (List.suffix_cons _ _)).trans
      (List.suffix_cons _ _)).trans (List.suffix_cons _ _))
  | submit => exact List.suffix_cons _ _

theorem history_grows {world world' : GateWorld}
    (moved : Relation.ReflTransGen (GateStep host rdf gate calling) world world') :
    world.state.history <:+ world'.state.history := by
  induction moved with
  | refl => exact List.suffix_rfl
  | tail _ last ih => exact ih.trans last.history_grows

theorem writeResult_follows (clock : ℕ → ℚ) (domainName dataRdf : Str)
    (recordsWritten : Option ℕ) :
    (writeResult host clock domainName dataRdf recordsWritten).Follows
      (GateStep host rdf gate calling) := by
  have reads : (Timed.draw clock).Follows (GateStep host rdf gate calling) :=
    fun world => .single (.read world)
  apply Action.follows_bind reads
  intro now
  apply Action.follows_bind (follows_ofExcept _)
  intro bytes
  exact Action.follows_bind (follows_note rfl) fun _ => Action.follows_pure _

theorem completeWrite_followsFrom {domainName dataRdf rdfFormat : Str} {statements : List Str}
    {origin : GateWorld} (submitted : gate.neo4jClient.isSome →
      .submitted domainName dataRdf rdfFormat statements ∈ origin.state.history) :
    (gate.completeWrite host domainName dataRdf statements).FollowsFrom
      (GateStep host rdf gate calling) origin := by
  unfold completeWrite
  rcases client : gate.neo4jClient with _ | driver
  · exact Coro.follows_sync (writeResult_follows _ _ _ _) origin
  · have handed := submitted (by rw [client]; rfl)
    refine Coro.followsFrom_bind (Neo4jDriver.executeWriteBatch_followsFrom ?_ ?_) ?_
    · exact fun world => .read world
    · intro world since
      exact .commit world ((history_grows since).subset handed)
    · intro recordsWritten later _
      exact Coro.follows_sync (writeResult_follows _ _ _ _) later

/-- A governed write takes steps of the gate, whatever runs at its await points. -/
theorem executeGovernedWrite_follows (domainName dataRdf nonce rdfFormat : Str) :
    (gate.executeGovernedWrite host rdf domainName dataRdf nonce rdfFormat).Follows
      (GateStep host rdf gate True) := by
  intro origin
  refine Coro.followsFrom_sync_bind
    (Action.follows_bind ?_ fun _ => authorizeWrite_follows _ _ _ _) ?_
  · exact fun world => .single (.call world domainName dataRdf nonce rdfFormat trivial)
  · intro statements state final returned
    apply completeWrite_followsFrom
    intro client
    exact authorizeWrite_submitted client returned

/-! ### Which calls a run makes -/

theorem calls_of_step {world world' : GateWorld}
    (step : GateStep host rdf gate False world world') :
    world'.state.history.filter GateEvent.isCall = world.state.history.filter GateEvent.isCall := by
  cases step with
  | call _ _ _ _ allowed => exact allowed.elim
  | read | quota | sweep | cache | commit | issue | accept | submit => rfl
  | note neutral =>
      rename_i event
      cases event <;> first | rfl | cases neutral

theorem calls_of_steps {world world' : GateWorld}
    (moved : Relation.ReflTransGen (GateStep host rdf gate False) world world') :
    world'.state.history.filter GateEvent.isCall = world.state.history.filter GateEvent.isCall := by
  induction moved with
  | refl => rfl
  | tail _ last ih => rw [calls_of_step last, ih]

/-- A governed write that runs alone is entered, and takes quiet steps from there. -/
theorem executeGovernedWrite_steps (domainName dataRdf nonce rdfFormat : Str) (world : GateWorld) :
    Relation.ReflTransGen (GateStep host rdf gate False)
      (world.note (.called domainName dataRdf nonce rdfFormat))
      ((gate.executeGovernedWrite host rdf domainName dataRdf nonce rdfFormat).run world).2 := by
  have moved : Relation.ReflTransGen (GateStep host rdf gate False) _ _ :=
    authorizeWrite_follows domainName dataRdf nonce rdfFormat
      (world.note (.called domainName dataRdf nonce rdfFormat))
  have entered : (Coro.sync (gate.enterWrite host rdf domainName dataRdf nonce rdfFormat)).run
      world = gate.authorizeWrite host rdf domainName dataRdf nonce rdfFormat
        (world.note (.called domainName dataRdf nonce rdfFormat)) := Coro.run_sync _ _
  rcases ended : gate.authorizeWrite host rdf domainName dataRdf nonce rdfFormat
    (world.note (.called domainName dataRdf nonce rdfFormat)) with ⟨exc | statements, middle⟩ <;>
    rw [ended] at moved entered
  · rw [executeGovernedWrite, Coro.run_bind_of_error entered]
    exact moved
  · rw [executeGovernedWrite, Coro.run_bind_of_ok entered]
    have submitted := fun client => authorizeWrite_submitted client ended
    exact moved.trans (completeWrite_followsFrom submitted).run

theorem executeGovernedWrite_calls (host : Host) (rdf : RdfLib) (gate : WriteGate)
    (domainName dataRdf nonce rdfFormat : Str) (world : GateWorld) :
    ((gate.executeGovernedWrite host rdf domainName dataRdf nonce rdfFormat).run
      world).2.state.history.filter GateEvent.isCall =
      .called domainName dataRdf nonce rdfFormat :: world.state.history.filter GateEvent.isCall :=
  calls_of_steps (executeGovernedWrite_steps ..)

end WriteGate

end AgentOS
