import AgentOS.Cooperative.Raising
import AgentOS.Governance.GovernedWrite

/-!
# When a governed write raises

A governed write returns exactly when it is authorised and the driver, if there is one,
succeeds. Only the quota refuses it with a `PolicyViolationError`: within the quota every
exception is a failure, provided that the driver and the ontology files raise no refusals of
their own.
-/

namespace AgentOS

open Python Cooperative

/-- The classes for which the kernel has an answer of their own. -/
def ExcClass.isRefusal : ExcClass → Bool
  | policyViolationError | circuitBreakerOpenError | securityInterceptError
  | billingFuseTrippedError => true
  | _ => false

/-- The exception is an error and not a refusal. -/
def Exc.IsFailure (exc : Exc) : Prop := exc.cls.isRefusal = false

theorem raisesOnly_ofExcept {σ α : Type} {allowed : Exc → Prop} {result : Except Exc α}
    (raises : ∀ exc, result = .error exc → allowed exc) :
    (ofExcept result : Action Exc σ α).RaisesOnly allowed := by
  intro state exc final raised
  rw [ofExcept_apply] at raised
  cases raised
  exact raises exc rfl

theorem raisesOnly_raiseIf {σ : Type} {allowed : Exc → Prop} {refused : Prop} [Decidable refused]
    {exc : Exc} (permitted : allowed exc) :
    (raiseIf refused exc : Action Exc σ Unit).RaisesOnly allowed := by
  unfold raiseIf
  split
  · exact Action.raisesOnly_throw permitted
  · exact Action.raisesOnly_pure ()

theorem raisesOnly_outcome {σ α : Type} {allowed : Exc → Prop} {source : ℕ → Except Exc α}
    (raises : ∀ tick exc, source tick = .error exc → allowed exc) :
    (Timed.outcome source : Action Exc (Timed σ) α).RaisesOnly allowed := by
  intro world exc final raised
  exact raises world.tick exc (congrArg Prod.fst raised)

theorem raisesOnly_draw {σ α : Type} {allowed : Exc → Prop} (source : ℕ → α) :
    (Timed.draw source : Action Exc (Timed σ) α).RaisesOnly allowed := by
  rintro world exc final ⟨⟩

theorem encode_isFailure (host : Host) (text : Str) (exc : Exc)
    (raised : host.encode text = .error exc) : exc.IsFailure := by
  unfold Host.encode at raised
  split at raised
  · cases raised
  · cases raised
    rfl

/-- What the driver raises is a failure. -/
structure Neo4jDriver.RaisesFailures (driver : Neo4jDriver) : Prop where
  beginTransaction : ∀ tick exc, driver.beginTransaction tick = .error exc → exc.IsFailure
  run : ∀ cypher tick exc, driver.run cypher tick = .error exc → exc.IsFailure
  consume : ∀ cypher tick exc, driver.consume cypher tick = .error exc → exc.IsFailure
  commit : ∀ tick exc, driver.commit tick = .error exc → exc.IsFailure
  rollback : ∀ tick exc, driver.rollback tick = .error exc → exc.IsFailure

/-- What parsing the files of a domain raises is a failure. -/
structure DomainSchema.RaisesFailures (domain : DomainSchema) : Prop where
  owlGraph : ∀ exc, domain.owlGraph = .error exc → exc.IsFailure
  shaclGraph : ∀ exc, domain.shaclGraph = .error exc → exc.IsFailure

theorem Neo4jDriver.executeWriteBatch_failures {driver : Neo4jDriver}
    (raises : driver.RaisesFailures) {σ : Type} (record : List Str → σ → σ)
    (statements : List Str) :
    (driver.executeWriteBatch record statements : Coro Exc (Timed σ) ℕ).RaisesOnly
      Exc.IsFailure := by
  have ran : ∀ (rest : List Str) (written : ℕ),
      (driver.runStatements rest written : Coro Exc (Timed σ) ℕ).RaisesOnly Exc.IsFailure := by
    intro rest
    induction rest with
    | nil => exact fun _ => trivial
    | cons cypher rest ih =>
        intro written
        unfold Neo4jDriver.runStatements
        split
        · exact ih written
        · apply Coro.raisesOnly_bind
            (Coro.raisesOnly_sync (raisesOnly_outcome (raises.run cypher)))
          intro _
          apply Coro.raisesOnly_bind
            (Coro.raisesOnly_sync (raisesOnly_outcome (raises.consume cypher)))
          exact fun counters => ih _
  apply Coro.raisesOnly_bind
    (Coro.raisesOnly_sync (raisesOnly_outcome raises.beginTransaction))
  intro _
  have body : (do
      let totalWritten ← driver.runStatements statements 0
      driver.commitStatements record (runnable statements)
      pure totalWritten : Coro Exc (Timed σ) ℕ).RaisesOnly Exc.IsFailure := by
    apply Coro.raisesOnly_bind (ran statements 0)
    intro written
    apply Coro.raisesOnly_bind
    · apply Coro.raisesOnly_sync
      exact Action.raisesOnly_bind (raisesOnly_outcome raises.commit)
        fun _ => Action.raisesOnly_update _
    · exact fun _ => trivial
  apply Coro.raisesOnly_tryCatch body
  intro exc failure
  apply Coro.raisesOnly_bind (Coro.raisesOnly_sync (raisesOnly_draw _))
  intro closed
  split
  · exact failure
  · exact Coro.raisesOnly_bind (Coro.raisesOnly_sync (raisesOnly_outcome raises.rollback))
      fun _ => failure

namespace WriteGate

variable {host : Host} {rdf : RdfLib} {gate : WriteGate}

/-- What the driver and the ontology files raise is a failure. -/
structure RaisesFailures (gate : WriteGate) : Prop where
  driver : ∀ client, gate.neo4jClient = some client → client.RaisesFailures
  domains : ∀ name domain, gate.schemaProvider.getDomain name = some domain →
    domain.RaisesFailures

/-- The write is authorised, and the driver, if there is one, takes it. -/
def Succeeds (host : Host) (rdf : RdfLib) (gate : WriteGate)
    (domainName dataRdf nonce rdfFormat : Str) (world : GateWorld) : Prop :=
  ∃ signature timestamp dataHash graph,
    Authorizes host rdf gate domainName dataRdf nonce rdfFormat signature timestamp dataHash graph
      world ∧
    ∀ client, gate.neo4jClient = some client → client.commits (rdfToCypherStatements rdf graph)
      ((gate.countedWorld host world).tick + 5) = true

theorem executeGovernedWrite_returns_iff (host : Host) (rdf : RdfLib) (gate : WriteGate)
    (domainName dataRdf nonce rdfFormat : Str) (world : GateWorld) :
    (∃ result final,
      (gate.executeGovernedWrite host rdf domainName dataRdf nonce rdfFormat).run world =
        (.ok result, final)) ↔
      gate.Succeeds host rdf domainName dataRdf nonce rdfFormat world := by
  rcases online : gate.neo4jClient with _ | client
  · have entered := enterWrite_run host rdf gate domainName dataRdf nonce rdfFormat world
    constructor
    · rintro ⟨result, final, returned⟩
      rcases Coro.run_bind_eq_ok_iff.mp returned with ⟨statements, ready, began, -⟩
      rw [entered] at began
      rcases authorizeWrite_eq_ok_iff.mp began with
        ⟨signature, timestamp, dataHash, graph, authorizes, -, -⟩
      refine ⟨signature, timestamp, dataHash, graph, authorizes_note.mp authorizes, ?_⟩
      intro client wired
      rw [online] at wired
      cases wired
    · rintro ⟨signature, timestamp, dataHash, graph, authorizes, -⟩
      have noted := (@authorizes_note host rdf gate _ _ _ _ _ _ _ _
        (.called domainName dataRdf nonce rdfFormat) _).mpr authorizes
      have began := authorizeWrite_eq_ok_iff.mpr ⟨_, _, _, _, noted, rfl, rfl⟩
      rw [began] at entered
      rcases completeWrite_offline host (domainName_encodes authorizes.admits) online dataRdf
        (rdfToCypherStatements rdf graph) _ with ⟨result, ran⟩
      exact ⟨result, _, (Coro.run_bind_of_ok entered).trans ran⟩
  · rcases executeGovernedWrite_online host rdf online domainName dataRdf nonce rdfFormat world with
      ⟨graph, ⟨⟨signature, timestamp, dataHash, authorizes⟩, commits⟩, result, final, ran, -⟩ |
      ⟨fails, exc, final, ran, -⟩
    · refine iff_of_true ⟨result, final, ran⟩ ?_
      refine ⟨signature, timestamp, dataHash, graph, authorizes, ?_⟩
      intro driver wired
      cases online.symm.trans wired
      exact commits
    · apply iff_of_false
      · rintro ⟨result, final', returned⟩
        cases ran.symm.trans returned
      · rintro ⟨signature, timestamp, dataHash, graph, authorizes, commits⟩
        exact fails graph ⟨⟨signature, timestamp, dataHash, authorizes⟩, commits client online⟩

/-! ### The classes of the exceptions -/

theorem shapesFor_failures (raises : gate.RaisesFailures) {domainName : Str} {state : GateState}
    {exc : Exc} (raised : gate.shapesFor host domainName state = .error exc) :
    exc.IsFailure := by
  unfold shapesFor at raised
  split at raised
  · cases raised
  · split at raised
    · cases raised
      rfl
    · rename_i domain known
      exact (raises.domains _ _ known).shaclGraph exc raised

theorem checkData_failures {shapes : Graph} {dataRdf rdfFormat : Str} {exc : Exc}
    (raised : checkData rdf shapes dataRdf rdfFormat = .error exc) : exc.IsFailure := by
  rw [Exc.IsFailure, checkData_error raised]
  rfl

theorem checkQuota_refuses :
    (gate.checkQuota host).RaisesOnly fun exc => exc.cls = .policyViolationError := by
  unfold checkQuota
  split
  · apply Action.raisesOnly_zoom
    refine Action.raisesOnly_bind (raisesOnly_draw _) ?_
    intro now
    refine Action.raisesOnly_bind (Action.raisesOnly_read _) ?_
    intro count
    refine Action.raisesOnly_bind (raisesOnly_raiseIf rfl) ?_
    intro _
    refine Action.raisesOnly_bind (Action.raisesOnly_update _) ?_
    intro _
    refine Action.raisesOnly_bind (Action.raisesOnly_read _) ?_
    intro recent
    exact Action.raisesOnly_bind (raisesOnly_raiseIf rfl) fun _ => Action.raisesOnly_update _
  · exact Action.raisesOnly_pure ()

theorem verifyNonce_failures (domainName dataRdf nonce : Str) :
    (gate.verifyNonce host domainName dataRdf nonce).RaisesOnly Exc.IsFailure := by
  apply Action.raisesOnly_tryCatch
  intro exc
  split
  · rename_i cls
    apply Action.raisesOnly_throw
    rw [Exc.IsFailure, cls]
    rfl
  · exact Action.raisesOnly_throw rfl

theorem consumeNonce_failures (nonce : Str) :
    (gate.consumeNonce host nonce).RaisesOnly Exc.IsFailure := by
  unfold consumeNonce
  split
  · refine Action.raisesOnly_bind (raisesOnly_draw _) ?_
    intro now
    exact Action.raisesOnly_bind (Action.raisesOnly_update _) fun _ => Action.raisesOnly_update _
  · exact Action.raisesOnly_pure ()

theorem prepareStatements_failures (raises : gate.RaisesFailures)
    (domainName dataRdf rdfFormat : Str) :
    (gate.prepareStatements host rdf domainName dataRdf rdfFormat).RaisesOnly Exc.IsFailure := by
  have validator : (gate.getValidator host domainName).RaisesOnly Exc.IsFailure := by
    intro world exc final raised
    rw [getValidator_apply] at raised
    exact shapesFor_failures raises (congrArg Prod.fst raised)
  have issued : ∀ report,
      (gate.issueNonce host domainName dataRdf rdfFormat report).RaisesOnly Exc.IsFailure := by
    intro report
    apply Action.raisesOnly_bind
    · refine Action.raisesOnly_bind (raisesOnly_draw _) ?_
      intro now
      refine Action.raisesOnly_bind (raisesOnly_ofExcept (encode_isFailure host _)) ?_
      intro bytes
      refine Action.raisesOnly_bind (raisesOnly_ofExcept (encode_isFailure host _)) ?_
      intro payload
      exact Action.raisesOnly_bind (Action.raisesOnly_update _) fun _ => Action.raisesOnly_pure _
    · rintro ⟨nonce, time⟩
      exact Action.raisesOnly_bind (Action.raisesOnly_update _) fun _ => Action.raisesOnly_pure _
  apply Action.raisesOnly_bind
  · refine Action.raisesOnly_bind validator ?_
    intro shapes
    refine Action.raisesOnly_bind (raisesOnly_ofExcept fun exc => checkData_failures) ?_
    intro report
    split
    · exact issued report
    · exact Action.raisesOnly_pure _
  · rintro ⟨report, nonce⟩
    refine Action.raisesOnly_bind (raisesOnly_raiseIf rfl) ?_
    intro _
    rcases rdf.parse dataRdf rdfFormat with text | graph
    · exact Action.raisesOnly_throw rfl
    · exact Action.raisesOnly_pure _

theorem completeWrite_failures (raises : gate.RaisesFailures) (domainName dataRdf : Str)
    (statements : List Str) :
    (gate.completeWrite host domainName dataRdf statements).RaisesOnly Exc.IsFailure := by
  have answers : ∀ clock recordsWritten,
      (writeResult host clock domainName dataRdf recordsWritten).RaisesOnly Exc.IsFailure := by
    intro clock recordsWritten
    refine Action.raisesOnly_bind (raisesOnly_draw _) ?_
    intro now
    refine Action.raisesOnly_bind (raisesOnly_ofExcept (encode_isFailure host _)) ?_
    intro bytes
    exact Action.raisesOnly_bind (Action.raisesOnly_update _) fun _ => Action.raisesOnly_pure _
  unfold completeWrite
  split
  · rename_i client online
    apply Coro.raisesOnly_bind
      (Neo4jDriver.executeWriteBatch_failures (raises.driver client online) _ _)
    exact fun _ => Coro.raisesOnly_sync (answers _ _)
  · exact Coro.raisesOnly_sync (answers _ _)

/-- Beyond the quota the write is refused, and within it every exception is a failure. -/
theorem executeGovernedWrite_raises (raises : gate.RaisesFailures)
    {domainName dataRdf nonce rdfFormat : Str} {world final : GateWorld} {exc : Exc}
    (raised : (gate.executeGovernedWrite host rdf domainName dataRdf nonce rdfFormat).run world =
      (.error exc, final)) :
    (gate.WithinQuota host world ∧ exc.IsFailure) ∨
      (¬ gate.WithinQuota host world ∧ exc.cls = .policyViolationError) := by
  have sameQuota : gate.WithinQuota host
      (world.note (.called domainName dataRdf nonce rdfFormat)) ↔ gate.WithinQuota host world := by
    unfold WithinQuota
    rcases gate.autonomyPolicy with _ | policy <;> exact Iff.rfl
  have entered := enterWrite_run host rdf gate domainName dataRdf nonce rdfFormat world
  by_cases quota : gate.WithinQuota host world
  · refine .inl ⟨quota, ?_⟩
    have allowed := checkQuota_eq_ok_iff.mpr ⟨sameQuota.mpr quota, rfl⟩
    rw [authorizeWrite, Action.bind_of_ok allowed] at entered
    have rest : (do
        gate.verifyNonce host domainName dataRdf nonce
        gate.consumeNonce host nonce
        let statements ← gate.prepareStatements host rdf domainName dataRdf rdfFormat
        if gate.neo4jClient.isSome then
          note (.submitted domainName dataRdf rdfFormat statements)
        pure statements : Action Exc GateWorld (List Str)).RaisesOnly Exc.IsFailure := by
      refine Action.raisesOnly_bind (verifyNonce_failures domainName dataRdf nonce) ?_
      intro _
      refine Action.raisesOnly_bind (consumeNonce_failures nonce) ?_
      intro _
      refine Action.raisesOnly_bind
        (prepareStatements_failures raises domainName dataRdf rdfFormat) ?_
      intro statements
      split
      · exact Action.raisesOnly_bind (Action.raisesOnly_update _) fun _ => Action.raisesOnly_pure _
      · exact Action.raisesOnly_pure _
    rw [executeGovernedWrite, Coro.run_bind, entered] at raised
    revert raised
    rcases ended : (do
        gate.verifyNonce host domainName dataRdf nonce
        gate.consumeNonce host nonce
        let statements ← gate.prepareStatements host rdf domainName dataRdf rdfFormat
        if gate.neo4jClient.isSome then
          note (.submitted domainName dataRdf rdfFormat statements)
        pure statements : Action Exc GateWorld (List Str)) _ with ⟨other | statements, ready⟩
    · rintro ⟨⟩
      exact rest _ _ _ ended
    · exact fun raised =>
        (completeWrite_failures raises domainName dataRdf statements).run _ _ _ raised
  · refine .inr ⟨quota, ?_⟩
    rcases refused : gate.checkQuota host (world.note (.called domainName dataRdf nonce rdfFormat))
      with ⟨other | ⟨⟩, counted⟩
    · rw [authorizeWrite, Action.bind_of_error refused] at entered
      rw [executeGovernedWrite, Coro.run_bind_of_error entered] at raised
      cases raised
      exact checkQuota_refuses _ _ _ refused
    · exact absurd (sameQuota.mp (checkQuota_eq_ok_iff.mp refused).1) quota

end WriteGate

end AgentOS
