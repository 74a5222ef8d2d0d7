import AgentOS.Governance.GovernedWrite

/-!
# When a nonce is accepted

A governed write accepts its nonce at most once, and does so exactly when the quota allows
the write and the nonce is admitted. What follows, the second validation and the write
itself, accepts nothing.
-/

namespace AgentOS

open Python Cooperative

/-- The event is the acceptance of a nonce. -/
def GateEvent.isAcceptance : GateEvent → Bool
  | accepted .. => true
  | _ => false

namespace WriteGate

/-- The gate knows a nonce by its signature; a timestamp has more than one spelling. -/
def signatureOf (nonce : Str) : Option Str :=
  match splitSep 0x3A nonce with
  | [_, _, signature] => some signature
  | _ => none

/-- The nonces that were accepted, newest first. -/
def acceptances (state : GateState) : List GateEvent :=
  state.history.filter GateEvent.isAcceptance

/-- The write is allowed and its nonce is admitted. -/
def Accepts (host : Host) (gate : WriteGate) (domainName dataRdf nonce : Str)
    (world : GateWorld) : Prop :=
  gate.WithinQuota host world ∧ ∃ signature timestamp dataHash,
    Admits host gate domainName dataRdf nonce signature timestamp dataHash
      (gate.countedWorld host world)

variable {host : Host} {rdf : RdfLib} {gate : WriteGate}

theorem Admits.signatureOf_eq {domainName dataRdf nonce signature dataHash : Str} {timestamp : ℤ}
    {world : GateWorld}
    (admits : Admits host gate domainName dataRdf nonce signature timestamp dataHash world) :
    signatureOf nonce = some signature := by
  rcases admits.parts with ⟨text, split, -⟩
  rw [signatureOf, split]

theorem indifferent_acceptances : Indifferent (fun event => !event.isAcceptance) acceptances := by
  refine ⟨?_, fun _ _ => rfl, fun _ _ => rfl, fun _ _ => rfl⟩
  intro event state other
  exact List.filter_cons_of_neg (by simpa using other)

theorem verifyNonce_acceptances (host : Host) (gate : WriteGate)
    (domainName dataRdf nonce : Str) (world : GateWorld) :
    (∃ signature timestamp dataHash final,
      Admits host gate domainName dataRdf nonce signature timestamp dataHash world ∧
      gate.verifyNonce host domainName dataRdf nonce world = (.ok (), final) ∧
      acceptances final.state =
        .accepted domainName dataRdf nonce signature (host.monotonic world.tick) ::
          acceptances world.state) ∨
    ((∀ signature timestamp dataHash,
        ¬ Admits host gate domainName dataRdf nonce signature timestamp dataHash world) ∧
      ∃ exc final, gate.verifyNonce host domainName dataRdf nonce world = (.error exc, final) ∧
        acceptances final.state = acceptances world.state) := by
  rcases verified : gate.verifyNonce host domainName dataRdf nonce world with ⟨exc | ⟨⟨⟩⟩, final⟩
  · right
    refine ⟨?_, exc, final, rfl, ?_⟩
    · intro signature timestamp dataHash admits
      cases verified.symm.trans (verifyNonce_eq_ok_iff.mpr ⟨_, _, _, admits, rfl⟩)
    -- Only the last step of the check notes an acceptance, and it cannot fail.
    have body := verifyBody_of_error verified
    rcases body with ⟨cause, failed⟩
    rcases verifyBody_cases host gate domainName dataRdf nonce with
      ⟨text, dataHash, signature, _, shape⟩ | ⟨_, exc', shape⟩ <;> rw [shape] at failed
    · have kept := checkParts_keeps indifferent_acceptances (fun _ _ _ _ _ => rfl)
        (fun _ _ => rfl) host gate domainName dataRdf text dataHash signature world
      rw [Action.bind_apply] at failed
      rcases checked : gate.checkParts host domainName dataRdf text dataHash signature world with
        ⟨_ | time, middle⟩ <;> rw [checked] at failed kept <;> cases failed
      exact kept
    · cases failed
      rfl
  · rcases verifyNonce_eq_ok_iff.mp verified with ⟨signature, timestamp, dataHash, admits, rfl⟩
    exact .inl ⟨signature, timestamp, dataHash, _, admits, rfl, rfl⟩

theorem authorizeWrite_acceptances (host : Host) (rdf : RdfLib) (gate : WriteGate)
    (domainName dataRdf nonce rdfFormat : Str) (world : GateWorld) :
    (Accepts host gate domainName dataRdf nonce world ∧ ∃ signature time,
      signatureOf nonce = some signature ∧
      acceptances (gate.authorizeWrite host rdf domainName dataRdf nonce rdfFormat world).2.state =
        .accepted domainName dataRdf nonce signature time :: acceptances world.state) ∨
    (¬ Accepts host gate domainName dataRdf nonce world ∧
      acceptances (gate.authorizeWrite host rdf domainName dataRdf nonce rdfFormat world).2.state =
        acceptances world.state) := by
  have counts := checkQuota_keeps indifferent_acceptances host gate world
  rcases allowed : gate.checkQuota host world with ⟨exc | ⟨⟨⟩⟩, counted⟩ <;> rw [allowed] at counts
  · right
    refine ⟨?_, ?_⟩
    · rintro ⟨quota, _⟩
      cases allowed.symm.trans (checkQuota_eq_ok_iff.mpr ⟨quota, rfl⟩)
    · rw [authorizeWrite, Action.bind_of_error allowed]
      exact counts
  rcases checkQuota_eq_ok_iff.mp allowed with ⟨quota, rfl⟩
  rcases verifyNonce_acceptances host gate domainName dataRdf nonce (gate.countedWorld host world)
    with ⟨signature, timestamp, dataHash, passed, admits, verified, accepted⟩ |
      ⟨refused, exc, final, verified, kept⟩
  · left
    refine ⟨⟨quota, signature, timestamp, dataHash, admits⟩, signature,
      host.monotonic (gate.countedWorld host world).tick, admits.signatureOf_eq, ?_⟩
    have consume := consumeNonce_keeps indifferent_acceptances (fun _ _ => rfl) host gate nonce
    have rest : (do
        gate.consumeNonce host nonce
        let statements ← gate.prepareStatements host rdf domainName dataRdf rdfFormat
        if gate.neo4jClient.isSome then
          note (.submitted domainName dataRdf rdfFormat statements)
        pure statements : Action Exc GateWorld (List Str)).Keeps
          fun world => acceptances world.state := by
      apply Action.keeps_bind consume
      intro _
      apply Action.keeps_bind (prepareStatements_keeps indifferent_acceptances (fun _ => rfl)
        (fun _ _ _ _ => rfl) host rdf gate _ _ _)
      intro statements
      split
      · apply Action.keeps_bind (keeps_note indifferent_acceptances rfl)
        exact fun _ => Action.keeps_pure _
      · exact Action.keeps_pure _
    rw [authorizeWrite, Action.bind_of_ok allowed, Action.bind_of_ok verified]
    exact (rest passed).trans (accepted.trans (congrArg _ counts))
  · right
    refine ⟨?_, ?_⟩
    · rintro ⟨_, signature, timestamp, dataHash, admits⟩
      exact refused _ _ _ admits
    · rw [authorizeWrite, Action.bind_of_ok allowed, Action.bind_of_error verified]
      exact kept.trans counts

theorem writeResult_keeps (host : Host) (clock : ℕ → ℚ) (domainName dataRdf : Str)
    (recordsWritten : Option ℕ) :
    (writeResult host clock domainName dataRdf recordsWritten).Keeps
      fun world => acceptances world.state := by
  apply Action.keeps_bind (Timed.keeps_draw _)
  intro now
  apply Action.keeps_bind (keeps_ofExcept _)
  intro bytes
  apply Action.keeps_bind (keeps_note indifferent_acceptances rfl)
  exact fun _ => Action.keeps_pure _

theorem completeWrite_acceptances (host : Host) (gate : WriteGate) (domainName dataRdf : Str)
    (statements : List Str) (world : GateWorld) :
    acceptances ((gate.completeWrite host domainName dataRdf statements).run world).2.state =
      acceptances world.state := by
  unfold completeWrite
  rcases gate.neo4jClient with _ | client
  · dsimp only
    rw [Coro.run_sync]
    exact writeResult_keeps host _ _ _ _ world
  · rcases client.executeWriteBatch_cases GateState.commit statements world with
      ⟨_, written, tick, ran⟩ | ⟨_, exc, tick, ran⟩
    · dsimp only
      rw [Coro.run_bind_of_ok ran, Coro.run_sync]
      exact writeResult_keeps host _ _ _ _
        ⟨tick, world.state.commit (Neo4jDriver.runnable statements)⟩
    · dsimp only
      rw [Coro.run_bind_of_error ran]

/-- A governed write that nobody interrupts accepts its nonce once or not at all. -/
theorem executeGovernedWrite_acceptances (host : Host) (rdf : RdfLib) (gate : WriteGate)
    (domainName dataRdf nonce rdfFormat : Str) (world : GateWorld) :
    (Accepts host gate domainName dataRdf nonce world ∧ ∃ signature time,
      signatureOf nonce = some signature ∧
      acceptances ((gate.executeGovernedWrite host rdf domainName dataRdf nonce rdfFormat).run
        world).2.state =
          .accepted domainName dataRdf nonce signature time :: acceptances world.state) ∨
    (¬ Accepts host gate domainName dataRdf nonce world ∧
      acceptances ((gate.executeGovernedWrite host rdf domainName dataRdf nonce rdfFormat).run
        world).2.state = acceptances world.state) := by
  have called : Accepts host gate domainName dataRdf nonce
      (world.note (.called domainName dataRdf nonce rdfFormat)) ↔
        Accepts host gate domainName dataRdf nonce world := by
    simp only [Accepts, countedWorld_note, admits_note]
    rfl
  have entered := enterWrite_run host rdf gate domainName dataRdf nonce rdfFormat world
  have final : acceptances ((gate.executeGovernedWrite host rdf domainName dataRdf nonce
      rdfFormat).run world).2.state = acceptances (gate.authorizeWrite host rdf domainName dataRdf
        nonce rdfFormat (world.note (.called domainName dataRdf nonce rdfFormat))).2.state := by
    rcases ended : gate.authorizeWrite host rdf domainName dataRdf nonce rdfFormat
      (world.note (.called domainName dataRdf nonce rdfFormat)) with ⟨exc | statements, ready⟩ <;>
      rw [ended] at entered
    · rw [executeGovernedWrite, Coro.run_bind_of_error entered]
    · rw [executeGovernedWrite, Coro.run_bind_of_ok entered]
      exact completeWrite_acceptances host gate domainName dataRdf statements ready
  rw [final, ← called]
  exact authorizeWrite_acceptances host rdf gate domainName dataRdf nonce rdfFormat
    (world.note (.called domainName dataRdf nonce rdfFormat))

end WriteGate

end AgentOS
