import AgentOS.Governance.WriteGate

/-!
# What the parts of a call leave alone

A view of the gate may be indifferent to the table of nonces, the cache, the quota and some
of the events. The parts of a call that only note such events keep the view, whether they
return or raise.
-/

namespace AgentOS

open Python Cooperative

namespace WriteGate

/-- A view of the gate that does not look at the bookkeeping or at the silent events. -/
structure Indifferent {κ : Type} (silent : GateEvent → Bool) (view : GateState → κ) : Prop where
  note : ∀ (event : GateEvent) (state : GateState), silent event = true →
    view (state.note event) = view state
  nonces : ∀ nonces (state : GateState), view { state with consumedNonces := nonces } = view state
  validators : ∀ validators (state : GateState), view { state with validators } = view state
  quota : ∀ quota (state : GateState), view (state.setQuota quota) = view state

theorem asVerification_keeps {α κ : Type} {view : GateState → κ}
    {body : Action Exc GateWorld α}
    (keeps : body.Keeps fun world => view world.state) :
    (asVerification body).Keeps fun world => view world.state := by
  apply Action.keeps_tryCatch keeps
  intro exc
  split <;> exact Action.keeps_throw _

variable {κ : Type} {silent : GateEvent → Bool} {view : GateState → κ}
  (indifferent : Indifferent silent view)

include indifferent

theorem keeps_note {event : GateEvent} (silence : silent event = true) :
    (note event).Keeps fun world => view world.state :=
  Timed.keeps_modify fun state => indifferent.note event state silence

theorem cleanupExpiredNonces_keeps (host : Host) :
    (cleanupExpiredNonces host).Keeps fun world => view world.state := by
  apply Action.keeps_bind (Timed.keeps_draw _)
  intro now
  apply Action.keeps_bind
  · exact Timed.keeps_modify fun state => indifferent.nonces _ state
  · exact fun _ => Action.keeps_pure _

theorem checkSignature_keeps
    (looks : ∀ payload signature timestamp checked swept,
      silent (.lookedUp payload signature timestamp checked swept) = true)
    (verifies : ∀ payload signature, silent (.verified payload signature) = true)
    (host : Host) (gate : WriteGate) (domainName text dataHash signature : Str) :
    (gate.checkSignature host domainName text dataHash signature).Keeps
      fun world => view world.state := by
  apply Action.keeps_bind (keeps_ofExcept _)
  intro timestamp
  apply Action.keeps_bind (Timed.keeps_draw _)
  intro now
  apply Action.keeps_bind (keeps_raiseIf _ _)
  intro _
  apply Action.keeps_bind (keeps_raiseIf _ _)
  intro _
  apply Action.keeps_bind (cleanupExpiredNonces_keeps indifferent host)
  intro swept
  apply Action.keeps_bind (keeps_note indifferent (looks _ _ _ _ _))
  intro _
  apply Action.keeps_bind (Timed.keeps_view _)
  intro consumed
  apply Action.keeps_bind (keeps_raiseIf _ _)
  intro _
  apply Action.keeps_bind (keeps_ofExcept _)
  intro payload
  apply Action.keeps_bind (keeps_ofExcept _)
  intro same
  apply Action.keeps_bind (keeps_raiseIf _ _)
  intro _
  apply Action.keeps_bind (keeps_note indifferent (verifies _ _))
  exact fun _ => Action.keeps_pure _

theorem checkParts_keeps
    (looks : ∀ payload signature timestamp checked swept,
      silent (.lookedUp payload signature timestamp checked swept) = true)
    (verifies : ∀ payload signature, silent (.verified payload signature) = true)
    (host : Host) (gate : WriteGate) (domainName dataRdf text dataHash signature : Str) :
    (gate.checkParts host domainName dataRdf text dataHash signature).Keeps
      fun world => view world.state := by
  apply Action.keeps_bind (checkSignature_keeps indifferent looks verifies host gate _ _ _ _)
  intro now
  apply Action.keeps_bind (keeps_ofExcept _)
  intro bytes
  apply Action.keeps_bind (keeps_raiseIf _ _)
  intro _
  apply Action.keeps_bind (Timed.keeps_draw _)
  exact fun _ => Action.keeps_pure _

theorem consumeNonce_keeps (burns : ∀ signature time, silent (.burned signature time) = true)
    (host : Host) (gate : WriteGate) (nonce : Str) :
    (gate.consumeNonce host nonce).Keeps fun world => view world.state := by
  unfold consumeNonce
  split
  · apply Action.keeps_bind (Timed.keeps_draw _)
    intro now
    apply Action.keeps_bind
    · exact Timed.keeps_modify fun state => indifferent.nonces _ state
    · exact fun _ => keeps_note indifferent (burns _ _)
  · exact Action.keeps_pure _

theorem checkQuota_keeps (host : Host) (gate : WriteGate) :
    (gate.checkQuota host).Keeps fun world => view world.state := by
  unfold checkQuota
  rcases gate.autonomyPolicy with _ | policy
  · exact Action.keeps_pure _
  · exact fun _ => indifferent.quota _ _

theorem getValidator_keeps (host : Host) (gate : WriteGate) (domainName : Str) :
    (gate.getValidator host domainName).Keeps fun world => view world.state := by
  apply Action.keeps_bind (Timed.keeps_view _)
  intro validators
  rcases validators.get? domainName with _ | shapes
  · rcases gate.schemaProvider.getDomain domainName with _ | domain
    · exact Action.keeps_throw _
    · apply Action.keeps_bind (keeps_ofExcept _)
      intro shapes
      apply Action.keeps_bind
      · exact Timed.keeps_modify fun state => indifferent.validators _ state
      · exact fun _ => Action.keeps_pure _
  · exact Action.keeps_pure _

theorem verifyShaclCompliance_keeps (signs : ∀ payload, silent (.signed payload) = true)
    (validates : ∀ domain data format time,
      silent (.validated domain data format time) = true)
    (host : Host) (rdf : RdfLib) (gate : WriteGate) (domainName dataRdf rdfFormat : Str) :
    (gate.verifyShaclCompliance host rdf domainName dataRdf rdfFormat).Keeps
      fun world => view world.state := by
  apply Action.keeps_bind (getValidator_keeps indifferent host gate _)
  intro shapes
  apply Action.keeps_bind (keeps_ofExcept _)
  intro report
  split
  · apply Action.keeps_bind
    · apply Action.keeps_bind (Timed.keeps_draw _)
      intro now
      apply Action.keeps_bind (keeps_ofExcept _)
      intro bytes
      apply Action.keeps_bind (keeps_ofExcept _)
      intro payload
      apply Action.keeps_bind (keeps_note indifferent (signs _))
      exact fun _ => Action.keeps_pure _
    · rintro ⟨nonce, time⟩
      apply Action.keeps_bind (keeps_note indifferent (validates _ _ _ _))
      exact fun _ => Action.keeps_pure _
  · exact Action.keeps_pure _

/-- The part of a governed write after its nonce was accepted. -/
theorem prepareStatements_keeps (signs : ∀ payload, silent (.signed payload) = true)
    (validates : ∀ domain data format time,
      silent (.validated domain data format time) = true)
    (host : Host) (rdf : RdfLib) (gate : WriteGate) (domainName dataRdf rdfFormat : Str) :
    (gate.prepareStatements host rdf domainName dataRdf rdfFormat).Keeps
      fun world => view world.state := by
  apply Action.keeps_bind
    (verifyShaclCompliance_keeps indifferent signs validates host rdf gate _ _ _)
  rintro ⟨report, issued⟩
  apply Action.keeps_bind (keeps_raiseIf _ _)
  intro _
  rcases rdf.parse dataRdf rdfFormat with text | graph
  · exact Action.keeps_throw _
  · exact Action.keeps_pure _

end WriteGate

end AgentOS
