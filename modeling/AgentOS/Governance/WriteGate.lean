import AgentOS.Governance.Neo4jClient
import AgentOS.Governance.ShaclValidator
import AgentOS.Policies.AutonomyPolicy

/-!
# Write gate

The three stages of a governed write: the schema of a domain, the validation of RDF data
that issues a signed nonce, and the write itself, which needs a nonce that was not used
before. Every call runs without interruption up to the first await of the write.

The state of the gate carries a history of what the calls did, newest event first. No
function reads it; it is what the statements about runs are about.
-/

namespace AgentOS

open Python Cooperative

/-- What a call on the gate did. -/
inductive GateEvent where
  /-- `execute_governed_write` was entered. -/
  | called (domain data nonce format : Str)
  /-- `_generate_nonce` signed a payload. -/
  | signed (payload : Str)
  /-- The data conformed; the time is the reading that stamps the nonce. -/
  | validated (domain data format : Str) (time : ℚ)
  /--
  The signature that a nonce gives for a payload was looked up in the table of consumed
  nonces; the readings are those of the TTL check and of the sweep before.
  -/
  | lookedUp (payload signature : Str) (timestamp : ℤ) (checked swept : ℚ)
  /-- The comparison accepted the signature of the payload. -/
  | verified (payload signature : Str)
  /-- `_verify_nonce` let the call pass; the time is the reading of the TTL check. -/
  | accepted (domain data nonce signature : Str) (time : ℚ)
  /-- `_consume_nonce` entered the signature in the table. -/
  | burned (signature : Str) (time : ℚ)
  /-- The statements were handed to the Neo4j client. -/
  | submitted (domain data format : Str) (statements : List Str)
  /-- `execute_governed_write` returned with status `success`. -/
  | succeeded (domain data : Str)
  deriving DecidableEq

structure GateState where
  validators : Dict Str Graph
  consumedNonces : Dict Str ℚ
  quota : WriteQuotaState
  database : Database
  history : List GateEvent

abbrev GateWorld := Timed GateState

/-- The configuration of a `WriteGate`. -/
structure WriteGate where
  schemaProvider : SchemaProvider
  neo4jClient : Option Neo4jDriver
  nonceSecret : Str
  nonceTtl : ℤ
  autonomyPolicy : Option AutonomyPolicy

/-- The dictionary returned by `execute_governed_write`. -/
structure WriteResult where
  domain : Str
  transactionId : Str
  recordsWritten : Option ℕ
  deriving DecidableEq

namespace GateState

/-- A gate that nobody called yet, on a given database. -/
def initial (database : Database) : GateState where
  validators := Dict.empty
  consumedNonces := Dict.empty
  quota := ⟨0, []⟩
  database := database
  history := []

def setQuota (quota : WriteQuotaState) (gate : GateState) : GateState := { gate with quota }

def note (event : GateEvent) (gate : GateState) : GateState :=
  { gate with history := event :: gate.history }

def commit (statements : List Str) (gate : GateState) : GateState :=
  { gate with database := gate.database ++ [statements] }

end GateState

def note (event : GateEvent) : Action Exc GateWorld Unit := Timed.modify (GateState.note event)

/-- `str(result)`. -/
def WriteResult.str (host : Host) (result : WriteResult) : Str :=
  py "\x7b'status': 'success', 'domain': " ++ host.repr result.domain ++
    py ", 'transaction_id': " ++ host.repr result.transactionId ++
    (match result.recordsWritten with
      | some written => py ", 'records_written': " ++ strNat written
      | none => []) ++ py "\x7d"

/-- The `AttributeError` of a method that the value does not have. -/
def noAttribute (value : Json) (method : String) : Exc :=
  .builtin "AttributeError"
    (py "'" ++ value.typeName ++ py "' object has no attribute '" ++ py method ++ py "'")

/-- Whether an integer exceeds every float when a float is subtracted from it. -/
def exceedsFloat (value : ℤ) : Bool := 2 ^ 1024 - 2 ^ 970 ≤ value.natAbs

namespace WriteGate

variable (host : Host) (rdf : RdfLib) (gate : WriteGate)

def writeGateError (message : Str) : Exc := ⟨.writeGateError, message, none⟩

def unknownDomain (domainName : Str) : Exc :=
  ⟨.governanceError, py "Unknown domain '" ++ domainName ++ py "'. Available: " ++
    host.reprList gate.schemaProvider.listDomains, none⟩

/-! ### Stage 1: schema -/

def getDomainSchema (domainName : Str) : Except Exc SchemaDefinition :=
  match gate.schemaProvider.getSchemaDefinition rdf domainName with
  | .error exc => .error exc
  | .ok none => .error (gate.unknownDomain host domainName)
  | .ok (some definition) => .ok definition

/-! ### Stage 2: validation -/

/-- The text that is signed: timestamp, data hash and domain. -/
def noncePayload (timestamp : ℤ) (dataHash domainName : Str) : Str :=
  strInt timestamp ++ 0x3A :: (dataHash ++ 0x3A :: domainName)

/-- `_generate_nonce`, with the reading that stamps the nonce. -/
def generateNonce (domainName dataRdf : Str) : Action Exc GateWorld (Str × ℚ) := do
  let now ← host.readMonotonic
  let timestamp := truncate now
  let bytes ← ofExcept (host.encode dataRdf)
  let dataHash := (host.sha256 bytes).text
  let payload ← ofExcept (host.encode (noncePayload timestamp dataHash domainName))
  let signature := (host.hmacSha256 gate.nonceSecret payload).text
  note (.signed payload)
  pure (noncePayload timestamp dataHash signature, now)

/-- The validator of the domain, cached under its name. -/
def getValidator (domainName : Str) : Action Exc GateWorld Graph := do
  let validators ← Timed.view GateState.validators
  match validators.get? domainName with
  | some shapes => pure shapes
  | none =>
      match gate.schemaProvider.getDomain domainName with
      | none => throw (gate.unknownDomain host domainName)
      | some domain => do
          let shapes ← ofExcept domain.shaclGraph
          Timed.modify fun state =>
            { state with validators := state.validators.set domainName shapes }
          pure shapes

/-- The exception of `verify_shacl_compliance` for data that `rdflib` refuses. -/
def unparsable (rdfFormat text : Str) : Exc :=
  ⟨.shaclValidationError, py "Failed to parse RDF data: " ++ text ++
    py ". Ensure your data is valid " ++ upper rdfFormat ++ py " format.", none⟩

/-- `Graph().parse` under the handler of `verify_shacl_compliance`. -/
def parseRdf (dataRdf rdfFormat : Str) : Except Exc Graph :=
  match rdf.parse dataRdf rdfFormat with
  | .ok graph => .ok graph
  | .error text => .error (unparsable rdfFormat text)

/-- Parsing and validation of the data, which read no state. -/
def checkData (shapes : Graph) (dataRdf rdfFormat : Str) : Except Exc SHACLValidationReport := do
  let graph ← parseRdf rdf dataRdf rdfFormat
  shaclValidate rdf shapes graph

/-- The end of `verify_shacl_compliance` for data that conforms. -/
def issueNonce (domainName dataRdf rdfFormat : Str) (report : SHACLValidationReport) :
    Action Exc GateWorld (SHACLValidationReport × Option Str) := do
  let (nonce, time) ← gate.generateNonce host domainName dataRdf
  note (.validated domainName dataRdf rdfFormat time)
  pure (report, some nonce)

/-- `verify_shacl_compliance`. -/
def verifyShaclCompliance (domainName dataRdf rdfFormat : Str) :
    Action Exc GateWorld (SHACLValidationReport × Option Str) := do
  let shapes ← gate.getValidator host domainName
  let report ← ofExcept (checkData rdf shapes dataRdf rdfFormat)
  if report.isValid then gate.issueNonce host domainName dataRdf rdfFormat report
  else pure (report, none)

/-! ### Nonces -/

/-- `_cleanup_expired_nonces`; the result is the reading it compared with. -/
def cleanupExpiredNonces : Action Exc GateWorld ℚ := do
  let now ← host.readMonotonic
  Timed.modify fun state =>
    { state with consumedNonces := state.consumedNonces.filter fun _ expires => now < expires }
  pure now

/-- `hmac.compare_digest` on strings. -/
def compareDigest (signature : Str) (expected : HexDigest) : Except Exc Bool :=
  if signature.all fun c => c.val < 0x80 then .ok (signature = expected.text)
  else .error (.builtin "TypeError"
    (py "comparing strings with non-ASCII characters is not supported"))

/-- The checks of `_verify_nonce` before it looks at the data, with the reading of the TTL check. -/
def checkSignature (domainName timestampText dataHash signature : Str) :
    Action Exc GateWorld ℚ := do
  let timestamp ← ofExcept (host.parseInt timestampText)
  let now ← host.readMonotonic
  raiseIf (exceedsFloat timestamp)
    (.builtin "OverflowError" (py "int too large to convert to float"))
  raiseIf ((gate.nonceTtl : ℚ) < now - timestamp) (writeGateError
    (py "Validation nonce has expired (TTL=" ++ strInt gate.nonceTtl ++
      py "s). Please re-validate via verify_shacl_compliance."))
  let swept ← cleanupExpiredNonces host
  note (.lookedUp (noncePayload timestamp dataHash domainName) signature timestamp now swept)
  let consumed ← Timed.view GateState.consumedNonces
  raiseIf (consumed.get? signature).isSome (writeGateError
    (py "Validation nonce has already been consumed. Each nonce can only be used once. " ++
      py "Please re-validate via verify_shacl_compliance to get a new nonce."))
  let payload ← ofExcept (host.encode (noncePayload timestamp dataHash domainName))
  let same ← ofExcept (compareDigest signature (host.hmacSha256 gate.nonceSecret payload))
  raiseIf (¬ same) (writeGateError
    (py "Validation nonce signature is invalid. This may indicate a tampering attempt. " ++
      py "Please re-validate via verify_shacl_compliance."))
  note (.verified (noncePayload timestamp dataHash domainName) signature)
  pure now

/-- All checks of `_verify_nonce` for a nonce of three parts. -/
def checkParts (domainName dataRdf timestampText dataHash signature : Str) :
    Action Exc GateWorld ℚ := do
  let now ← gate.checkSignature host domainName timestampText dataHash signature
  let bytes ← ofExcept (host.encode dataRdf)
  raiseIf ((host.sha256 bytes).text ≠ dataHash) (writeGateError
    (py "Data hash mismatch — the submitted data differs from what was validated. " ++
      py "Write blocked. Please re-validate the correct data via verify_shacl_compliance."))
  -- The age in the debug message is a further reading.
  let _ ← host.readMonotonic
  pure now

/-- The `try` block of `_verify_nonce`. -/
def verifyBody (domainName dataRdf nonce : Str) : Action Exc GateWorld Unit :=
  match splitSep 0x3A nonce with
  | [timestampText, dataHash, signature] => do
      let time ← gate.checkParts host domainName dataRdf timestampText dataHash signature
      note (.accepted domainName dataRdf nonce signature time)
  | _ => throw (.builtin "ValueError" (py "Invalid nonce format"))

/-- The `except` clauses of `_verify_nonce`: every other exception becomes a `WriteGateError`. -/
def asVerification {α : Type} (body : Action Exc GateWorld α) : Action Exc GateWorld α :=
  tryCatch body fun exc =>
    if exc.cls = .writeGateError then throw exc
    else throw (writeGateError (py "Failed to verify validation nonce: " ++ exc.message ++
      py ". Ensure you are passing the exact nonce returned by verify_shacl_compliance."))

/-- `_verify_nonce`. -/
def verifyNonce (domainName dataRdf nonce : Str) : Action Exc GateWorld Unit :=
  asVerification (gate.verifyBody host domainName dataRdf nonce)

/-- `_consume_nonce`. -/
def consumeNonce (nonce : Str) : Action Exc GateWorld Unit :=
  match splitSep 0x3A nonce with
  | [_, _, signature] => do
      let now ← host.readMonotonic
      Timed.modify fun state =>
        { state with
          consumedNonces := state.consumedNonces.set signature (now + gate.nonceTtl) }
      note (.burned signature now)
  | _ => pure ()

/-! ### Stage 3: write -/

/-- `check_write_quota` of the policy, if there is one. -/
def checkQuota : Action Exc GateWorld Unit :=
  match gate.autonomyPolicy with
  | some policy =>
      (policy.checkWriteQuota host).zoom (Timed.part GateState.quota)
        (Timed.setPart GateState.setQuota)
  | none => pure ()

/-- The second validation and the translation; the result is the list of statements. -/
def prepareStatements (domainName dataRdf rdfFormat : Str) :
    Action Exc GateWorld (List Str) := do
  let (report, _) ← gate.verifyShaclCompliance host rdf domainName dataRdf rdfFormat
  raiseIf (¬ report.isValid) ⟨.shaclValidationError,
    py "Re-validation failed: data does not match the previously validated payload. " ++
      py "The write has been blocked.", some report⟩
  match rdf.parse dataRdf rdfFormat with
  | .error text => throw (.builtin "ParserError" text)
  | .ok graph => pure (rdfToCypherStatements rdf graph)

/-- The checks of `execute_governed_write` and what is written. -/
def authorizeWrite (domainName dataRdf validationNonce rdfFormat : Str) :
    Action Exc GateWorld (List Str) := do
  gate.checkQuota host
  gate.verifyNonce host domainName dataRdf validationNonce
  gate.consumeNonce host validationNonce
  let statements ← gate.prepareStatements host rdf domainName dataRdf rdfFormat
  if gate.neo4jClient.isSome then note (.submitted domainName dataRdf rdfFormat statements)
  pure statements

/-- The dictionary returned after the write, stamped by one of the clocks. -/
def writeResult (clock : ℕ → ℚ) (domainName dataRdf : Str) (recordsWritten : Option ℕ) :
    Action Exc GateWorld WriteResult := do
  let now ← Timed.draw clock
  let bytes ← ofExcept (host.encode (domainName ++ 0x3A :: host.strFloat now))
  note (.succeeded domainName dataRdf)
  pure { domain := domainName, transactionId := (host.sha256 bytes).text.take 16, recordsWritten }

/-- `execute_governed_write` up to its first await. -/
def enterWrite (domainName dataRdf validationNonce rdfFormat : Str) :
    Action Exc GateWorld (List Str) := do
  note (.called domainName dataRdf validationNonce rdfFormat)
  gate.authorizeWrite host rdf domainName dataRdf validationNonce rdfFormat

/-- `execute_governed_write` from its first await on. -/
def completeWrite (domainName dataRdf : Str) (statements : List Str) :
    Coro Exc GateWorld WriteResult :=
  match gate.neo4jClient with
  | some client => do
      let recordsWritten ← client.executeWriteBatch GateState.commit statements
      Coro.sync (writeResult host host.time domainName dataRdf (some recordsWritten))
  | none => Coro.sync (writeResult host host.monotonic domainName dataRdf none)

/-- `execute_governed_write`. -/
def executeGovernedWrite (domainName dataRdf validationNonce rdfFormat : Str) :
    Coro Exc GateWorld WriteResult := do
  let statements ← Coro.sync
    (gate.enterWrite host rdf domainName dataRdf validationNonce rdfFormat)
  gate.completeWrite host domainName dataRdf statements

/-! ### Arguments that are no strings -/

/-- `verify_shacl_compliance` on any value. -/
def verifyValue (domainName : Str) (value : Json) (rdfFormat : Str) :
    Action Exc GateWorld (SHACLValidationReport × Option Str) :=
  match value with
  | .str dataRdf => gate.verifyShaclCompliance host rdf domainName dataRdf rdfFormat
  | value => do
      let _ ← gate.getValidator host domainName
      throw (unparsable rdfFormat (rdf.parseError value))

/-- The `try` block of `_verify_nonce` on arguments that are not both strings. -/
def refuseBody {α : Type} (domainName : Str) (value nonce : Json) : Action Exc GateWorld α :=
  match nonce with
  | .str nonce =>
      match splitSep 0x3A nonce with
      | [timestampText, dataHash, signature] => do
          let _ ← gate.checkSignature host domainName timestampText dataHash signature
          throw (noAttribute value "encode")
      | _ => throw (.builtin "ValueError" (py "Invalid nonce format"))
  | nonce => throw (noAttribute nonce "split")

/-- `_verify_nonce` on arguments that are not both strings. -/
def refuseValues {α : Type} (domainName : Str) (value nonce : Json) : Action Exc GateWorld α :=
  asVerification (gate.refuseBody host domainName value nonce)

/-- `execute_governed_write` on any values. -/
def writeValue (domainName : Str) (value nonce : Json) (rdfFormat : Str) :
    Coro Exc GateWorld WriteResult :=
  match value, nonce with
  | .str dataRdf, .str validationNonce =>
      gate.executeGovernedWrite host rdf domainName dataRdf validationNonce rdfFormat
  | value, nonce => Coro.sync do
      gate.checkQuota host
      gate.refuseValues host domainName value nonce

end WriteGate

end AgentOS
