import AgentOS.Governance.Authorisation
import AgentOS.Governance.GovernedWrite

/-!
# Where a validation comes from

Data are validated by a call of `verify_shacl_compliance`, or once more by a write whose nonce
was accepted. An accepted nonce was issued by a validation in turn, so that, back along the
history, every write goes back to a call of `verify_shacl_compliance` for the same data.
-/

namespace AgentOS

open Python Cooperative

/-- The events that tell of validations and of accepted nonces. -/
def GateEvent.isDecisive : GateEvent → Bool
  | validated .. | accepted .. => true
  | _ => false

/-- A validation is one that was asked for, or follows an accepted nonce for the same data. -/
def GateEvent.Sourced (asked : Str → Str → Prop) (event : GateEvent) (earlier : List GateEvent) :
    Prop :=
  match event with
  | validated domain data _ _ =>
      asked domain data ∨ ∃ nonce signature time,
        .accepted domain data nonce signature time ∈ earlier
  | _ => True

namespace WriteGate

variable {host : Host} {rdf : RdfLib} {gate : WriteGate} {asked : Str → Str → Prop}

def decisive (state : GateState) : List GateEvent := state.history.filter GateEvent.isDecisive

theorem indifferent_decisive : Indifferent (fun event => !event.isDecisive) decisive := by
  refine ⟨?_, fun _ _ => rfl, fun _ _ => rfl, fun _ _ => rfl⟩
  intro event state silent
  exact List.filter_cons_of_neg (by simpa using silent)

theorem mem_decisive {event : GateEvent} (relevant : event.isDecisive = true) {state : GateState} :
    event ∈ decisive state ↔ event ∈ state.history := by
  simp [decisive, relevant]

/-- The gate keeps the sources of its validations. -/
def KeepsSources (asked : Str → Str → Prop) (world world' : GateWorld) : Prop :=
  EventLog.Each (GateEvent.Sourced asked) (decisive world.state) →
    EventLog.Each (GateEvent.Sourced asked) (decisive world'.state)

theorem keepsSources_of_eq {world world' : GateWorld}
    (same : decisive world'.state = decisive world.state) : KeepsSources asked world world' := by
  intro sourced
  rwa [same]

theorem governed_of_steps {database : Database} {world : GateWorld}
    (moved : Relation.ReflTransGen (GateStep host rdf gate True) ⟨0, .initial database⟩ world)
    (unforged : EventLog.Each GateEvent.Unforged world.state.history)
    (noCollision : NoCollision host world.state.history) :
    Governed rdf gate database world.state := by
  have reached := @Action.holds_of_steps GateWorld _ (fun world =>
    (CacheSound gate world.state ∧ IssuedSoundly host rdf gate world) ∧
      (EventLog.Each GateEvent.Unforged world.state.history →
        NoCollision host world.state.history →
          Governed rdf gate database world.state)) _ _ ?keeps moved ?start
  · exact reached.2 unforged noCollision
  case start =>
    refine ⟨⟨?_, ⟨?_, ?_⟩⟩, fun _ _ => ⟨trivial, trivial, fun _ mem => .inl mem⟩⟩
    · intro domainName shapes found
      cases found
    · intro _ _ _ _ mem
      cases mem
    · intro _ mem
      cases mem
  case keeps =>
    rintro world world' step ⟨⟨cache, sound⟩, governed⟩
    refine ⟨⟨cacheSound_of_step step cache,
      issuedSoundly_of_step step cache sound⟩, ?_⟩
    intro unforged noCollision
    have before := step.history_grows
    exact governed_of_step step sound unforged noCollision
      (governed (unforged.suffix before) (noCollision.suffix before))

/-! ### What a call adds to the decisive events -/

/-- A verification adds its validation, or nothing. -/
theorem verifyShaclCompliance_decisive (host : Host) (rdf : RdfLib) (gate : WriteGate)
    (domainName dataRdf rdfFormat : Str) (world : GateWorld) :
    decisive (gate.verifyShaclCompliance host rdf domainName dataRdf rdfFormat world).2.state =
        decisive world.state ∨
      ∃ time, decisive
          (gate.verifyShaclCompliance host rdf domainName dataRdf rdfFormat world).2.state =
        .validated domainName dataRdf rdfFormat time :: decisive world.state := by
  rcases verifyShaclCompliance_cases host rdf gate True domainName dataRdf rdfFormat world with
    ⟨middle, -, history, ⟨result, outcome, -⟩ | ⟨_, _, _, _, _, -, -, -, -, outcome⟩⟩ <;>
    rw [outcome]
  · exact .inl (congrArg (List.filter GateEvent.isDecisive) history)
  · refine .inr ⟨host.monotonic middle.tick, ?_⟩
    change _ :: List.filter GateEvent.isDecisive middle.state.history = _
    rw [history]
    rfl

theorem verifyNonce_decisive (host : Host) (gate : WriteGate) (domainName dataRdf nonce : Str)
    (world : GateWorld) :
    (∃ exc final, gate.verifyNonce host domainName dataRdf nonce world = (.error exc, final) ∧
      decisive final.state = decisive world.state) ∨
    ∃ signature time final, gate.verifyNonce host domainName dataRdf nonce world = (.ok (), final) ∧
      decisive final.state =
        .accepted domainName dataRdf nonce signature time :: decisive world.state := by
  rcases verified : gate.verifyNonce host domainName dataRdf nonce world with ⟨exc | ⟨⟩, final⟩
  · refine .inl ⟨exc, final, rfl, ?_⟩
    have refused : ∃ exc', gate.verifyBody host domainName dataRdf nonce world =
        (.error exc', final) := by
      rw [verifyNonce, asVerification, Action.tryCatch_apply] at verified
      rcases checked : gate.verifyBody host domainName dataRdf nonce world with
        ⟨exc' | ⟨⟩, stopped⟩ <;> rw [checked] at verified
      · dsimp only at verified
        split at verified <;> cases verified <;> exact ⟨_, rfl⟩
      · cases verified
    rcases refused with ⟨exc', refused⟩
    rcases verifyBody_cases host gate domainName dataRdf nonce with
      ⟨text, dataHash, signature, -, body⟩ | ⟨-, exc'', body⟩ <;> rw [body] at refused
    · have kept := checkParts_keeps indifferent_decisive (fun _ _ _ _ _ => rfl)
        (fun _ _ => rfl) host gate domainName dataRdf text dataHash signature world
      rw [Action.bind_apply] at refused
      rcases checked : gate.checkParts host domainName dataRdf text dataHash signature world with
        ⟨_ | _, stopped⟩ <;> rw [checked] at refused kept <;> cases refused
      exact kept
    · cases refused
      rfl
  · rcases verifyNonce_eq_ok_iff.mp verified with ⟨signature, timestamp, dataHash, -, rfl⟩
    exact .inr ⟨signature, _, _, rfl, rfl⟩

theorem prepareStatements_decisive (host : Host) (rdf : RdfLib) (gate : WriteGate)
    (domainName dataRdf rdfFormat : Str) (world : GateWorld) :
    decisive (gate.prepareStatements host rdf domainName dataRdf rdfFormat world).2.state =
        decisive world.state ∨
      ∃ time, decisive
          (gate.prepareStatements host rdf domainName dataRdf rdfFormat world).2.state =
        .validated domainName dataRdf rdfFormat time :: decisive world.state := by
  have verified := verifyShaclCompliance_decisive host rdf gate domainName dataRdf rdfFormat world
  have same : (gate.prepareStatements host rdf domainName dataRdf rdfFormat world).2.state =
      (gate.verifyShaclCompliance host rdf domainName dataRdf rdfFormat world).2.state := by
    rw [prepareStatements, Action.bind_apply]
    rcases gate.verifyShaclCompliance host rdf domainName dataRdf rdfFormat world with
      ⟨exc | ⟨report, nonce⟩, middle⟩
    · rfl
    dsimp only
    rw [Action.bind_apply, raiseIf_apply]
    split
    · rename_i raised
      split at raised <;> cases raised
      rcases rdf.parse dataRdf rdfFormat with text | graph <;> rfl
    · rename_i raised
      split at raised <;> cases raised
      rfl
  rw [same]
  exact verified

theorem authorizeWrite_keepsSources (host : Host) (rdf : RdfLib) (gate : WriteGate)
    (domainName dataRdf nonce rdfFormat : Str) (world : GateWorld) :
    KeepsSources asked world
      (gate.authorizeWrite host rdf domainName dataRdf nonce rdfFormat world).2 := by
  rw [authorizeWrite, Action.bind_apply]
  have counted := checkQuota_keeps indifferent_decisive host gate world
  rcases quota : gate.checkQuota host world with ⟨exc | ⟨⟩, allowed⟩ <;> rw [quota] at counted
  · exact keepsSources_of_eq counted
  dsimp only at counted ⊢
  rw [Action.bind_apply]
  rcases verifyNonce_decisive host gate domainName dataRdf nonce allowed with
    ⟨exc, final, refused, same⟩ | ⟨signature, time, final, verified, more⟩
  · rw [refused]
    exact keepsSources_of_eq (same.trans counted)
  rw [verified]
  dsimp only
  rw [Action.bind_apply]
  have consumed := consumeNonce_keeps indifferent_decisive (fun _ _ => rfl) host gate nonce final
  dsimp only at consumed
  rw [more, counted] at consumed
  intro sourced
  -- The nonce was accepted for the same data before they are validated again.
  have accepted : EventLog.Each (GateEvent.Sourced asked)
      (.accepted domainName dataRdf nonce signature time :: decisive world.state) :=
    ⟨trivial, sourced⟩
  rw [← consumed] at accepted
  rcases burned : gate.consumeNonce host nonce final with ⟨exc | ⟨⟩, ready⟩ <;>
    rw [burned] at consumed accepted
  · exact accepted
  dsimp only at consumed accepted ⊢
  rw [Action.bind_apply]
  have prepared := prepareStatements_decisive host rdf gate domainName dataRdf rdfFormat ready
  have reached : EventLog.Each (GateEvent.Sourced asked)
      (decisive (gate.prepareStatements host rdf domainName dataRdf rdfFormat ready).2.state) := by
    rcases prepared with same | ⟨again, validated⟩
    · exact same ▸ accepted
    · rw [validated]
      refine ⟨.inr ⟨nonce, signature, time, ?_⟩, accepted⟩
      rw [consumed]
      exact List.mem_cons_self
  rcases handed : gate.prepareStatements host rdf domainName dataRdf rdfFormat ready with
    ⟨exc | statements, authorized⟩ <;> rw [handed] at reached
  · exact reached
  dsimp only
  split <;> exact reached

theorem enterWrite_keepsSources (host : Host) (rdf : RdfLib) (gate : WriteGate)
    (domainName dataRdf nonce rdfFormat : Str) (world : GateWorld) :
    KeepsSources asked world
      (gate.enterWrite host rdf domainName dataRdf nonce rdfFormat world).2 :=
  authorizeWrite_keepsSources host rdf gate domainName dataRdf nonce rdfFormat
    (world.note (.called domainName dataRdf nonce rdfFormat))

theorem completeWrite_keepsSources (host : Host) (gate : WriteGate) (domainName dataRdf : Str)
    (statements : List Str) (origin : GateWorld) :
    (gate.completeWrite host domainName dataRdf statements).FollowsFrom (KeepsSources asked)
      origin := by
  have ends : ∀ clock recordsWritten,
      (Coro.sync (writeResult host clock domainName dataRdf recordsWritten)).Follows
        (KeepsSources asked) := by
    intro clock recordsWritten
    refine Coro.follows_sync fun world => .single (keepsSources_of_eq ?_)
    rw [writeResult, Action.bind_of_ok (show Timed.draw clock world = (.ok _, world.read) from rfl),
      Action.bind_apply]
    rcases host.encode _ with exc | bytes <;> rfl
  unfold completeWrite
  split
  · refine Coro.followsFrom_bind (Neo4jDriver.executeWriteBatch_followsFrom ?_ ?_)
      fun _ _ _ => ends _ _ _
    · exact fun _ => keepsSources_of_eq rfl
    · exact fun _ _ => keepsSources_of_eq rfl
  · exact ends _ _ origin

/-- A write keeps the sources, whatever runs at its await points. -/
theorem executeGovernedWrite_keepsSources (host : Host) (rdf : RdfLib) (gate : WriteGate)
    (domainName dataRdf nonce rdfFormat : Str) :
    (gate.executeGovernedWrite host rdf domainName dataRdf nonce rdfFormat).Follows
      (KeepsSources asked) := by
  refine Coro.follows_bind ?_ fun statements => completeWrite_keepsSources host gate _ _ statements
  exact Coro.follows_sync fun world =>
    .single (enterWrite_keepsSources host rdf gate domainName dataRdf nonce rdfFormat world)

theorem verifyShaclCompliance_keepsSources (host : Host) (rdf : RdfLib) (gate : WriteGate)
    {domainName dataRdf : Str} (asks : asked domainName dataRdf) (rdfFormat : Str)
    (world : GateWorld) :
    KeepsSources asked world
      (gate.verifyShaclCompliance host rdf domainName dataRdf rdfFormat world).2 := by
  rcases verifyShaclCompliance_decisive host rdf gate domainName dataRdf rdfFormat world with
    same | ⟨time, validated⟩
  · exact keepsSources_of_eq same
  · intro sourced
    rw [validated]
    exact ⟨.inl asks, sourced⟩

/-! ### Back to the first validation -/

/-- Where acceptances are authorised and validations have sources, all go back to what was asked. -/
theorem asked_of_mem {ttl : ℤ} {log : List GateEvent} {domain data : Str}
    (authorised : EventLog.Each (GateEvent.Authorised ttl) log)
    (sourced : EventLog.Each (GateEvent.Sourced asked) log)
    (occurs : (∃ nonce signature time, .accepted domain data nonce signature time ∈ log) ∨
      ∃ format time, .validated domain data format time ∈ log) : asked domain data := by
  induction log with
  | nil => rcases occurs with ⟨_, _, _, mem⟩ | ⟨_, _, mem⟩ <;> cases mem
  | cons event earlier ih =>
      have before := ih authorised.2 sourced.2
      rcases occurs with ⟨nonce, signature, time, mem⟩ | ⟨format, time, mem⟩
      · rcases List.mem_cons.mp mem with rfl | mem
        · rcases authorised.1 with ⟨format, issued, validated, -, -⟩
          exact before (.inr ⟨format, issued, validated⟩)
        · exact before (.inl ⟨nonce, signature, time, mem⟩)
      · rcases List.mem_cons.mp mem with rfl | mem
        · exact sourced.1.elim id fun accepted => before (.inl accepted)
        · exact before (.inr ⟨format, time, mem⟩)

theorem authorised_decisive {ttl : ℤ} {state : GateState}
    (authorised : EventLog.Each (GateEvent.Authorised ttl) state.history) :
    EventLog.Each (GateEvent.Authorised ttl) (decisive state) := by
  refine authorised.filter ?_
  intro event earlier law
  cases event with
  | accepted =>
      rcases law with ⟨format, issued, mem, ordered, timely⟩
      exact ⟨format, issued, List.mem_filter.mpr ⟨mem, rfl⟩, ordered, timely⟩
  | _ => trivial

/-- Data whose nonce was accepted had been asked about. -/
theorem asked_of_accepted {initial : Database} {state : GateState}
    {domain data nonce signature : Str} {time : ℚ} (governed : Governed rdf gate initial state)
    (sourced : EventLog.Each (GateEvent.Sourced asked) (decisive state))
    (accepted : .accepted domain data nonce signature time ∈ state.history) : asked domain data :=
  asked_of_mem (authorised_decisive governed.authorised) sourced
    (.inl ⟨nonce, signature, time, (mem_decisive rfl).mpr accepted⟩)

/-- A nonce is returned for data that were validated. -/
theorem validated_of_nonce {domainName dataRdf rdfFormat nonce : Str}
    {report : SHACLValidationReport} {world final : GateWorld}
    (returned : gate.verifyShaclCompliance host rdf domainName dataRdf rdfFormat world =
      (.ok (report, some nonce), final)) :
    ∃ time, .validated domainName dataRdf rdfFormat time ∈ final.state.history := by
  rcases Action.bind_eq_ok_iff.mp returned with ⟨shapes, cached, -, returned⟩
  rcases Action.bind_eq_ok_iff.mp returned with ⟨checked, middle, -, issued⟩
  split at issued
  · rcases Action.bind_eq_ok_iff.mp issued with ⟨⟨_, time⟩, stamped, -, recorded⟩
    cases recorded
    exact ⟨time, List.mem_cons_self⟩
  · cases issued

theorem accepted_of_authorizeWrite {domainName dataRdf nonce rdfFormat : Str}
    {statements : List Str} {world final : GateWorld}
    (returned : gate.authorizeWrite host rdf domainName dataRdf nonce rdfFormat world =
      (.ok statements, final)) :
    ∃ signature time, .accepted domainName dataRdf nonce signature time ∈ final.state.history := by
  rcases authorizeWrite_eq_ok_iff.mp returned with
    ⟨signature, timestamp, dataHash, graph, -, -, rfl⟩
  refine ⟨signature, host.monotonic (gate.countedWorld host world).tick, ?_⟩
  have cached := (cachedWorld_state host gate domainName (consumedWorld host gate domainName dataRdf
    nonce signature timestamp dataHash (gate.countedWorld host world))).2.2
  unfold authorizedWorld
  dsimp only
  split <;> simp only [note_history, issuedWorld_history, cached, consumedWorld_history] <;> simp

end WriteGate

end AgentOS
