import AgentOS.Cooperative.Component
import AgentOS.Workflow.StepData

/-!
# The operations of a gate

Other components use a gate through two operations. Both move the gate along its steps. A write
is counted before it is checked, and at most one transaction is committed for it, whatever runs
at its await points: a commit is paid for by a write that the session quota let pass.
-/

namespace AgentOS

open Python Cooperative

namespace WriteGate

/-- What other components call on a gate. -/
inductive Operation (host : Host) (rdf : RdfLib) (gate : WriteGate) :
    ∀ α, Coro Exc GateWorld α → Prop where
  | verify (domainName : Str) (value : Json) (rdfFormat : Str) :
      Operation host rdf gate _
        (Coro.sync (gate.verifyValue host rdf domainName value rdfFormat))
  | write (domainName : Str) (value nonce : Json) (rdfFormat : Str) :
      Operation host rdf gate _ (gate.writeValue host rdf domainName value nonce rdfFormat)

/-- The writes that were counted, as far as the session quota goes. -/
def countedWrites (policy : AutonomyPolicy) (world : GateWorld) : ℕ :=
  min world.state.quota.writeCount policy.writeQuotas.maxOperationsPerSession.toNat

/-- The transactions that were committed. -/
def commits (world : GateWorld) : ℕ := world.state.database.length

variable {host : Host} {rdf : RdfLib} {gate : WriteGate} {policy : AutonomyPolicy}

/-! ### The steps of the operations -/

theorem getValidator_follows (domainName : Str) :
    (gate.getValidator host domainName).Follows (GateStep host rdf gate True) := by
  intro world
  rcases getValidator_cases host rdf gate True domainName world with
    ⟨middle, moved, -, ⟨exc, outcome⟩ | ⟨shapes, -, outcome⟩⟩ <;>
    · rw [outcome]
      exact moved

/-- Whatever is called on a gate moves it along its steps. -/
theorem Operation.follows {α : Type} {body : Coro Exc GateWorld α}
    (operation : Operation host rdf gate α body) : body.Follows (GateStep host rdf gate True) := by
  cases operation with
  | verify domainName value rdfFormat =>
      apply Coro.follows_sync
      unfold verifyValue
      split
      · exact verifyShaclCompliance_follows _ _ _
      · apply Action.follows_bind (getValidator_follows _)
        exact fun _ => Action.follows_throw _
  | write domainName value nonce rdfFormat =>
      unfold writeValue
      split
      · exact executeGovernedWrite_follows _ _ _ _
      · apply Coro.follows_sync
        apply Action.follows_bind checkQuota_follows
        exact fun _ => refuseValues_follows WriteResult _ _ _

/-! ### What a write is paid with -/

/-- What a write is paid with, and what it is paid for. -/
def meters (world : GateWorld) : WriteQuotaState × Database :=
  (world.state.quota, world.state.database)

theorem checkSignature_meters (host : Host) (gate : WriteGate)
    (domainName text dataHash signature : Str) :
    (gate.checkSignature host domainName text dataHash signature).Keeps meters := by
  have sweeps : (cleanupExpiredNonces host).Keeps meters := fun _ => rfl
  apply Action.keeps_bind (keeps_ofExcept _)
  intro timestamp
  apply Action.keeps_bind fun _ => rfl
  intro now
  apply Action.keeps_bind (keeps_raiseIf _ _)
  intro _
  apply Action.keeps_bind (keeps_raiseIf _ _)
  intro _
  apply Action.keeps_bind sweeps
  intro swept
  apply Action.keeps_bind fun _ => rfl
  intro _
  apply Action.keeps_bind fun _ => rfl
  intro consumed
  apply Action.keeps_bind (keeps_raiseIf _ _)
  intro _
  apply Action.keeps_bind (keeps_ofExcept _)
  intro payload
  apply Action.keeps_bind (keeps_ofExcept _)
  intro same
  apply Action.keeps_bind (keeps_raiseIf _ _)
  intro _
  exact Action.keeps_bind (fun _ => rfl) fun _ => Action.keeps_pure _

theorem asVerification_meters {α : Type} {body : Action Exc GateWorld α}
    (keeps : body.Keeps meters) : (asVerification body).Keeps meters := by
  apply Action.keeps_tryCatch keeps
  intro exc
  split <;> exact Action.keeps_throw _

theorem verifyNonce_meters (host : Host) (gate : WriteGate) (domainName dataRdf nonce : Str) :
    (gate.verifyNonce host domainName dataRdf nonce).Keeps meters := by
  apply asVerification_meters
  unfold verifyBody
  split
  · refine Action.keeps_bind ?_ fun _ _ => rfl
    apply Action.keeps_bind (checkSignature_meters host gate _ _ _ _)
    intro now
    apply Action.keeps_bind (keeps_ofExcept _)
    intro bytes
    apply Action.keeps_bind (keeps_raiseIf _ _)
    intro _
    exact Action.keeps_bind (fun _ => rfl) fun _ => Action.keeps_pure _
  · exact Action.keeps_throw _

theorem refuseValues_meters (host : Host) (gate : WriteGate) {α : Type} (domainName : Str)
    (value nonce : Json) :
    (gate.refuseValues host domainName value nonce : Action Exc GateWorld α).Keeps meters := by
  apply asVerification_meters
  unfold refuseBody
  split
  · split
    · apply Action.keeps_bind (checkSignature_meters host gate _ _ _ _)
      exact fun _ => Action.keeps_throw _
    · exact Action.keeps_throw _
  · exact Action.keeps_throw _

theorem consumeNonce_meters (host : Host) (gate : WriteGate) (nonce : Str) :
    (gate.consumeNonce host nonce).Keeps meters := by
  unfold consumeNonce
  split
  · exact fun _ => rfl
  · exact Action.keeps_pure _

theorem getValidator_meters (host : Host) (gate : WriteGate) (domainName : Str) :
    (gate.getValidator host domainName).Keeps meters := by
  apply Action.keeps_bind fun _ => rfl
  intro validators
  rcases validators.get? domainName with _ | shapes
  · rcases gate.schemaProvider.getDomain domainName with _ | domain
    · exact Action.keeps_throw _
    · apply Action.keeps_bind (keeps_ofExcept _)
      exact fun shapes _ => rfl
  · exact Action.keeps_pure _

theorem verifyShaclCompliance_meters (host : Host) (rdf : RdfLib) (gate : WriteGate)
    (domainName dataRdf rdfFormat : Str) :
    (gate.verifyShaclCompliance host rdf domainName dataRdf rdfFormat).Keeps meters := by
  apply Action.keeps_bind (getValidator_meters host gate _)
  intro shapes
  apply Action.keeps_bind (keeps_ofExcept _)
  intro report
  split
  · refine Action.keeps_bind ?_ fun _ _ => rfl
    apply Action.keeps_bind fun _ => rfl
    intro now
    apply Action.keeps_bind (keeps_ofExcept _)
    intro bytes
    apply Action.keeps_bind (keeps_ofExcept _)
    exact fun payload _ => rfl
  · exact Action.keeps_pure _

theorem verifyValue_meters (host : Host) (rdf : RdfLib) (gate : WriteGate) (domainName : Str)
    (value : Json) (rdfFormat : Str) :
    (gate.verifyValue host rdf domainName value rdfFormat).Keeps meters := by
  unfold verifyValue
  split
  · exact verifyShaclCompliance_meters host rdf gate _ _ _
  · apply Action.keeps_bind (getValidator_meters host gate _)
    exact fun _ => Action.keeps_throw _

/-- What comes after a write was counted pays for nothing. -/
theorem authorizeWrite_meters (host : Host) (rdf : RdfLib) (gate : WriteGate)
    (domainName dataRdf nonce rdfFormat : Str) :
    (do
      gate.verifyNonce host domainName dataRdf nonce
      gate.consumeNonce host nonce
      let statements ← gate.prepareStatements host rdf domainName dataRdf rdfFormat
      if gate.neo4jClient.isSome then note (.submitted domainName dataRdf rdfFormat statements)
      pure statements : Action Exc GateWorld (List Str)).Keeps meters := by
  apply Action.keeps_bind (verifyNonce_meters host gate _ _ _)
  intro _
  apply Action.keeps_bind (consumeNonce_meters host gate _)
  intro _
  apply Action.keeps_bind
  · apply Action.keeps_bind (verifyShaclCompliance_meters host rdf gate _ _ _)
    rintro ⟨report, issued⟩
    apply Action.keeps_bind (keeps_raiseIf _ _)
    intro _
    rcases rdf.parse dataRdf rdfFormat with text | graph
    · exact Action.keeps_throw _
    · exact Action.keeps_pure _
  · intro statements
    split
    · exact fun _ => rfl
    · exact Action.keeps_pure _

/-! ### What a write pays -/

/-- The units that a block hands on when it returns. -/
def oneOnSuccess {α : Type} : Except Exc α → ℕ
  | .ok _ => 1
  | .error _ => 0

theorem countedWrites_congr {world world' : GateWorld} (same : meters world' = meters world) :
    countedWrites policy world' = countedWrites policy world ∧ commits world' = commits world := by
  simp only [meters, Prod.mk.injEq] at same
  simp [countedWrites, commits, same]

/-- The quota counts a write that it lets pass, and no other. -/
theorem checkQuota_counts (host : Host) (policed : gate.autonomyPolicy = some policy)
    (world : GateWorld) :
    commits (gate.checkQuota host world).2 = commits world ∧
      countedWrites policy world + oneOnSuccess (gate.checkQuota host world).1 ≤
        countedWrites policy (gate.checkQuota host world).2 := by
  unfold checkQuota
  rw [policed]
  refine ⟨rfl, ?_⟩
  simp only [Action.zoom]
  rcases policy.checkWriteQuota_apply host (world.part GateState.quota) with
    ⟨-, exc, refused⟩ | ⟨-, -, exc, refused⟩ | ⟨⟨session, -⟩, passed⟩
  · rw [refused]
    exact le_rfl
  · rw [refused]
    exact le_rfl
  · rw [passed]
    change min world.state.quota.writeCount _ + 1 ≤ min (world.state.quota.writeCount + 1) _
    change (world.state.quota.writeCount : ℤ) < _ at session
    omega

/-- A block whose other parts leave the meters alone hands on the unit of its own write. -/
theorem counts_of_checkQuota {α : Type} {rest : Action Exc GateWorld α} (host : Host)
    (policed : gate.autonomyPolicy = some policy) (keeps : rest.Keeps meters) (world : GateWorld) :
    commits ((do gate.checkQuota host; rest) world).2 = commits world ∧
      countedWrites policy world + oneOnSuccess ((do gate.checkQuota host; rest) world).1 ≤
        countedWrites policy ((do gate.checkQuota host; rest) world).2 := by
  have counts := checkQuota_counts host policed world
  rw [Action.bind_apply]
  revert counts
  rcases gate.checkQuota host world with ⟨exc | ⟨⟨⟩⟩, counted⟩ <;> intro counts
  · exact counts
  · have same := @countedWrites_congr policy _ _ (keeps counted)
    have most : oneOnSuccess (rest counted).1 ≤ 1 := by
      rcases (rest counted).1 with exc | value
      · exact Nat.zero_le 1
      · exact le_rfl
    have paid : countedWrites policy world + 1 ≤ countedWrites policy counted := counts.2
    change commits (rest counted).2 = _ ∧ _ + oneOnSuccess (rest counted).1 ≤
      countedWrites policy (rest counted).2
    rw [same.1, same.2]
    exact ⟨counts.1, by omega⟩

theorem covers_of_counts {α : Type} {body : Action Exc GateWorld α}
    (counts : ∀ world, commits (body world).2 = commits world ∧
      countedWrites policy world + oneOnSuccess (body world).1 ≤
        countedWrites policy (body world).2) :
    (Coro.sync body).Covers (countedWrites policy) commits oneOnSuccess 0 := by
  apply Coro.covers_sync
  intro world
  have balance := counts world
  omega

theorem enterWrite_covers (host : Host) (rdf : RdfLib)
    (policed : gate.autonomyPolicy = some policy) (domainName dataRdf nonce rdfFormat : Str) :
    (Coro.sync (gate.enterWrite host rdf domainName dataRdf nonce rdfFormat)).Covers
      (countedWrites policy) commits oneOnSuccess 0 := by
  apply covers_of_counts
  intro world
  exact counts_of_checkQuota host policed
    (authorizeWrite_meters host rdf gate domainName dataRdf nonce rdfFormat)
    (world.note (.called domainName dataRdf nonce rdfFormat))

/-! ### What a commit is paid with -/

/-- A block that leaves the meters alone needs no unit. -/
theorem keeps_covers {α : Type} {body : Action Exc GateWorld α} (keeps : body.Keeps meters)
    (held : ℕ) : (Coro.sync body).Covers (countedWrites policy) commits (fun _ => held) held := by
  apply Coro.covers_sync
  intro world
  have same := @countedWrites_congr policy _ _ (keeps world)
  omega

theorem outcome_covers {α : Type} (source : ℕ → Except Exc α) (held : ℕ) :
    (Coro.sync (Timed.outcome source)).Covers (countedWrites policy) commits
      (fun _ => held) held :=
  keeps_covers (fun _ => rfl) held

theorem runStatements_covers (driver : Neo4jDriver) (statements : List Str) (total held : ℕ) :
    (driver.runStatements statements total).Covers (countedWrites policy) commits
      (fun _ => held) held := by
  induction statements generalizing total with
  | nil => exact le_refl held
  | cons cypher rest ih =>
      unfold Neo4jDriver.runStatements
      split
      · exact ih total
      · apply Coro.covers_bind (outcome_covers _ held) _ fun _ => le_rfl
        intro _
        exact Coro.covers_bind (outcome_covers _ held) (fun _ => ih _) fun _ => le_rfl

theorem commitStatements_covers (driver : Neo4jDriver) (statements : List Str) :
    (driver.commitStatements GateState.commit statements).Covers (countedWrites policy) commits
      (fun _ => 0) 1 := by
  apply Coro.covers_sync
  intro world
  rw [Action.bind_apply]
  unfold Timed.outcome
  rcases driver.commit world.tick with exc | ⟨⟩
  · change commits world + 0 + countedWrites policy world ≤
      commits world + 1 + countedWrites policy world
    omega
  · change (world.state.database ++ [statements]).length + 0 + countedWrites policy world ≤
      world.state.database.length + 1 + countedWrites policy world
    rw [List.length_append]
    exact le_rfl

theorem rollbackOpen_covers (driver : Neo4jDriver) (exc : Exc) :
    (driver.rollbackOpen exc : Coro Exc GateWorld ℕ).Covers (countedWrites policy) commits
      (fun _ => 0) 0 := by
  apply Coro.covers_bind (keeps_covers (fun _ => rfl) 0) _ fun _ => le_rfl
  intro closed
  split
  · exact le_refl 0
  · exact Coro.covers_bind (outcome_covers _ 0) (fun _ => le_refl 0) fun _ => le_rfl

/-- A unit in hand pays for the transaction of a batch. -/
theorem executeWriteBatch_covers (driver : Neo4jDriver) (statements : List Str) :
    (driver.executeWriteBatch GateState.commit statements).Covers (countedWrites policy) commits
      (fun _ => 0) 1 := by
  apply Coro.covers_bind (outcome_covers _ 1) _ fun _ => Nat.zero_le _
  intro _
  have body : (do
      let totalWritten ← driver.runStatements statements 0
      driver.commitStatements GateState.commit (Neo4jDriver.runnable statements)
      pure totalWritten : Coro Exc GateWorld ℕ).Covers (countedWrites policy) commits
        (fun _ => 0) 1 := by
    apply Coro.covers_bind (runStatements_covers driver statements 0 1) _ fun _ => Nat.zero_le _
    intro total
    exact Coro.covers_bind (commitStatements_covers driver _) (fun _ => le_refl 0) fun _ => le_rfl
  exact Coro.covers_tryCatch body (fun _ => le_rfl) (rollbackOpen_covers driver)

theorem writeResult_meters (host : Host) (clock : ℕ → ℚ) (domainName dataRdf : Str)
    (recordsWritten : Option ℕ) :
    (writeResult host clock domainName dataRdf recordsWritten).Keeps meters := by
  apply Action.keeps_bind fun _ => rfl
  intro now
  apply Action.keeps_bind (keeps_ofExcept _)
  intro bytes
  exact Action.keeps_bind (fun _ => rfl) fun _ => Action.keeps_pure _

theorem completeWrite_covers (host : Host) (gate : WriteGate) (domainName dataRdf : Str)
    (statements : List Str) :
    (gate.completeWrite host domainName dataRdf statements).Covers (countedWrites policy) commits
      (fun _ => 0) 1 := by
  unfold completeWrite
  split
  · apply Coro.covers_bind (executeWriteBatch_covers _ _) _ fun _ => le_rfl
    exact fun _ => keeps_covers (writeResult_meters host _ _ _ _) 0
  · exact (keeps_covers (writeResult_meters host _ _ _ _) 0).mono (fun _ => le_rfl)
      (Nat.zero_le 1)

/-- Every operation pays for the transaction it commits with a write that was counted. -/
theorem Operation.covers (policed : gate.autonomyPolicy = some policy) {α : Type}
    {body : Coro Exc GateWorld α} (operation : Operation host rdf gate α body) :
    body.Covers (countedWrites policy) commits (fun _ => 0) 0 := by
  cases operation with
  | verify domainName value rdfFormat =>
      exact keeps_covers (verifyValue_meters host rdf gate domainName value rdfFormat) 0
  | write domainName value nonce rdfFormat =>
      unfold writeValue
      split
      · apply Coro.covers_bind (enterWrite_covers host rdf policed _ _ _ _)
        · exact fun statements => completeWrite_covers host gate _ _ statements
        · exact fun _ => le_rfl
      · refine (covers_of_counts fun world => counts_of_checkQuota host policed
          (refuseValues_meters host gate domainName value nonce) world).mono ?_ le_rfl
        exact fun _ => Nat.zero_le _

end WriteGate

end AgentOS
