import AgentOS.Cooperative.Unwinding
import AgentOS.Governance.GovernedWrite
import AgentOS.Governance.Replay

/-!
# Refused nonces

What a write leaves behind that was refused for its nonce is a sweep of expired entries, and,
under a policy, one write less in the quota. Without a policy no other call can tell whether
the refused call was made: the runs with and without it stay in step.
-/

namespace AgentOS

open Python Cooperative

/-- The states agree but for the history and for the entries that are expired at the time. -/
structure Alike (now : ℚ) (state state' : GateState) : Prop where
  validators : state.validators = state'.validators
  quota : state.quota = state'.quota
  database : state.database = state'.database
  nonces : ∀ signature expires, now < expires →
    (state.consumedNonces.get? signature = some expires ↔
      state'.consumedNonces.get? signature = some expires)

/-- The states agree at the time of the first world. -/
def AlikeSince (host : Host) (world world' : GateWorld) : Prop :=
  Alike (host.monotonic world.tick) world.state world'.state

/-- The worlds agree at the same time. -/
def InStep (host : Host) (world world' : GateWorld) : Prop :=
  world.tick = world'.tick ∧ AlikeSince host world world'

theorem Alike.later {now later : ℚ} {state state' : GateState} (alike : Alike now state state')
    (ordered : now ≤ later) : Alike later state state' :=
  ⟨alike.validators, alike.quota, alike.database,
    fun signature expires young => alike.nonces signature expires (ordered.trans_lt young)⟩

theorem AlikeSince.refl (host : Host) (world : GateWorld) : AlikeSince host world world :=
  ⟨rfl, rfl, rfl, fun _ _ _ => Iff.rfl⟩

namespace InStep

variable {host : Host} {α : Type}

theorem respects_draw (source : ℕ → α) :
    (Timed.draw source : Action Exc GateWorld α).Respects (InStep host) := by
  rintro world world' ⟨ticks, alike⟩
  simp only [Timed.draw_apply, ← ticks]
  exact ⟨trivial, rfl, alike.later (host.monotonic_mono (Nat.le_succ _))⟩

theorem respects_outcome (source : ℕ → Except Exc α) :
    (Timed.outcome source : Action Exc GateWorld α).Respects (InStep host) := by
  rintro world world' ⟨ticks, alike⟩
  simp only [Timed.outcome, ← ticks]
  exact ⟨trivial, rfl, alike.later (host.monotonic_mono (Nat.le_succ _))⟩

theorem respects_ofExcept (result : Except Exc α) :
    (ofExcept result : Action Exc GateWorld α).Respects (InStep host) := by
  intro world world' same
  rw [ofExcept_apply, ofExcept_apply]
  exact ⟨rfl, same⟩

theorem respects_raiseIf (refused : Prop) [Decidable refused] (exc : Exc) :
    (raiseIf refused exc : Action Exc GateWorld Unit).Respects (InStep host) := by
  intro world world' same
  rw [raiseIf_apply, raiseIf_apply]
  exact ⟨rfl, same⟩

theorem respects_modify {change : GateState → GateState}
    (keeps : ∀ now state state', Alike now state state' →
      Alike now (change state) (change state')) :
    (Timed.modify change).Respects (InStep host) :=
  fun _ _ same => ⟨rfl, same.1, keeps _ _ _ same.2⟩

theorem respects_note (event : GateEvent) : (note event).Respects (InStep host) :=
  respects_modify fun _ _ _ alike => ⟨alike.1, alike.2, alike.3, alike.4⟩

end InStep

namespace WriteGate

variable (host : Host) (rdf : RdfLib) (gate : WriteGate)

theorem checkQuota_respects : (gate.checkQuota host).Respects (InStep host) := by
  unfold checkQuota
  rcases gate.autonomyPolicy with _ | policy
  · exact Action.respects_pure _
  · rintro ⟨tick, state⟩ ⟨tick', state'⟩ ⟨ticks, alike⟩
    obtain rfl : tick = tick' := ticks
    have parts : (⟨tick, state.quota⟩ : Timed WriteQuotaState) = ⟨tick, state'.quota⟩ := by
      rw [alike.quota]
    have later : (policy.checkWriteQuota host ⟨tick, state'.quota⟩).2.tick = tick + 1 :=
      AutonomyPolicy.checkWriteQuota_tick host policy ⟨tick, state'.quota⟩
    simp only [Action.zoom, Timed.part, parts]
    refine ⟨trivial, rfl, ?_⟩
    refine ⟨alike.validators, rfl, alike.database, ?_⟩
    have ordered : host.monotonic tick ≤ host.monotonic
        (policy.checkWriteQuota host ⟨tick, state'.quota⟩).2.tick :=
      host.monotonic_mono (later ▸ Nat.le_succ tick)
    exact (alike.later ordered).nonces

/-- After the sweep the tables agree on every signature that is looked up. -/
theorem lookup_respects {α : Type} (payload signature : Str) (timestamp : ℤ) (checked : ℚ)
    (exc : Exc) {rest : Action Exc GateWorld α}
    (restRespects : rest.Respects (InStep host)) :
    (do
      let swept ← cleanupExpiredNonces host
      note (.lookedUp payload signature timestamp checked swept)
      let consumed ← Timed.view GateState.consumedNonces
      raiseIf (consumed.get? signature).isSome exc
      rest).Respects (InStep host) := by
  rintro ⟨tick, state⟩ ⟨tick', state'⟩ ⟨ticks, alike⟩
  obtain rfl : tick = tick' := ticks
  have young : ∀ other, (state.consumedNonces.filter fun _ expires =>
      host.monotonic tick < expires).get? other =
        (state'.consumedNonces.filter fun _ expires =>
          host.monotonic tick < expires).get? other := by
    intro other
    apply Option.ext
    intro expires
    simp only [Dict.get?_filter, Option.filter_eq_some_iff, decide_eq_true_eq]
    constructor
    · rintro ⟨entry, fresh⟩
      exact ⟨(alike.nonces other expires fresh).mp entry, fresh⟩
    · rintro ⟨entry, fresh⟩
      exact ⟨(alike.nonces other expires fresh).mpr entry, fresh⟩
  have swept : InStep host
      ((GateWorld.sweep host ⟨tick, state⟩).note
        (.lookedUp payload signature timestamp checked (host.monotonic tick)))
      ((GateWorld.sweep host ⟨tick, state'⟩).note
        (.lookedUp payload signature timestamp checked (host.monotonic tick))) := by
    refine ⟨rfl, alike.validators, alike.quota, alike.database, ?_⟩
    intro other expires _
    change (state.consumedNonces.filter _).get? other = _ ↔
      (state'.consumedNonces.filter _).get? other = _
    rw [young other]
  have looked : ((state.consumedNonces.filter fun _ expires =>
      host.monotonic tick < expires).get? signature).isSome =
        ((state'.consumedNonces.filter fun _ expires =>
          host.monotonic tick < expires).get? signature).isSome := by
    rw [young signature]
  have refusals : ∀ found found' : Bool, found = found' → ∀ world world', InStep host world world' →
      ((raiseIf found exc >>= fun _ => rest : Action Exc GateWorld α) world).1 =
          ((raiseIf found' exc >>= fun _ => rest : Action Exc GateWorld α) world').1 ∧
        InStep host ((raiseIf found exc >>= fun _ => rest : Action Exc GateWorld α) world).2
          ((raiseIf found' exc >>= fun _ => rest : Action Exc GateWorld α) world').2 := by
    rintro found _ rfl
    exact Action.respects_bind (InStep.respects_raiseIf _ _) fun _ => restRespects
  exact refusals _ _ looked _ _ swept

theorem checkSignature_respects (domainName text dataHash signature : Str) :
    (gate.checkSignature host domainName text dataHash signature).Respects (InStep host) := by
  apply Action.respects_bind (InStep.respects_ofExcept _)
  intro timestamp
  apply Action.respects_bind (InStep.respects_draw _)
  intro now
  apply Action.respects_bind (InStep.respects_raiseIf _ _)
  intro _
  apply Action.respects_bind (InStep.respects_raiseIf _ _)
  intro _
  apply lookup_respects
  apply Action.respects_bind (InStep.respects_ofExcept _)
  intro payload
  apply Action.respects_bind (InStep.respects_ofExcept _)
  intro same
  apply Action.respects_bind (InStep.respects_raiseIf _ _)
  intro _
  exact Action.respects_bind (InStep.respects_note _) fun _ => Action.respects_pure _

theorem checkParts_respects (domainName dataRdf text dataHash signature : Str) :
    (gate.checkParts host domainName dataRdf text dataHash signature).Respects (InStep host) := by
  apply Action.respects_bind (checkSignature_respects host gate _ _ _ _)
  intro now
  apply Action.respects_bind (InStep.respects_ofExcept _)
  intro bytes
  apply Action.respects_bind (InStep.respects_raiseIf _ _)
  intro _
  exact Action.respects_bind (InStep.respects_draw _) fun _ => Action.respects_pure _

theorem verifyNonce_respects (domainName dataRdf nonce : Str) :
    (gate.verifyNonce host domainName dataRdf nonce).Respects (InStep host) := by
  apply Action.respects_tryCatch
  · rcases verifyBody_cases host gate domainName dataRdf nonce with
      ⟨text, dataHash, signature, _, body⟩ | ⟨_, exc, body⟩ <;> rw [body]
    · apply Action.respects_bind (checkParts_respects host gate _ _ _ _ _)
      exact fun _ => InStep.respects_note _
    · exact Action.respects_throw _
  · intro exc
    split <;> exact Action.respects_throw _

theorem consumeNonce_respects (nonce : Str) :
    (gate.consumeNonce host nonce).Respects (InStep host) := by
  unfold consumeNonce
  split
  · rename_i signature
    apply Action.respects_bind (InStep.respects_draw _)
    intro now
    apply Action.respects_bind
    · apply InStep.respects_modify
      intro time state state' alike
      refine ⟨alike.validators, alike.quota, alike.database, ?_⟩
      intro other expires young
      simp only [Dict.get?_set]
      split
      · rfl
      · exact alike.nonces other expires young
    · exact fun _ => InStep.respects_note _
  · exact Action.respects_pure _

theorem getValidator_respects (domainName : Str) :
    (gate.getValidator host domainName).Respects (InStep host) := by
  have views : (Timed.view GateState.validators).Respects (InStep host) :=
    fun _ _ same => ⟨congrArg Except.ok same.2.validators, same⟩
  apply Action.respects_bind views
  intro validators
  rcases validators.get? domainName with _ | shapes
  · rcases gate.schemaProvider.getDomain domainName with _ | domain
    · exact Action.respects_throw _
    · apply Action.respects_bind (InStep.respects_ofExcept _)
      intro shapes
      apply Action.respects_bind
      · apply InStep.respects_modify
        intro time state state' alike
        exact ⟨congrArg (fun validators => validators.set domainName shapes) alike.validators,
          alike.quota, alike.database, alike.nonces⟩
      · exact fun _ => Action.respects_pure _
  · exact Action.respects_pure _

theorem verifyShaclCompliance_respects (domainName dataRdf rdfFormat : Str) :
    (gate.verifyShaclCompliance host rdf domainName dataRdf rdfFormat).Respects
      (InStep host) := by
  apply Action.respects_bind (getValidator_respects host gate _)
  intro shapes
  apply Action.respects_bind (InStep.respects_ofExcept _)
  intro report
  split
  · apply Action.respects_bind
    · apply Action.respects_bind (InStep.respects_draw _)
      intro now
      apply Action.respects_bind (InStep.respects_ofExcept _)
      intro bytes
      apply Action.respects_bind (InStep.respects_ofExcept _)
      intro payload
      exact Action.respects_bind (InStep.respects_note _) fun _ => Action.respects_pure _
    · rintro ⟨nonce, time⟩
      exact Action.respects_bind (InStep.respects_note _) fun _ => Action.respects_pure _
  · exact Action.respects_pure _

theorem enterWrite_respects (domainName dataRdf nonce rdfFormat : Str) :
    (gate.enterWrite host rdf domainName dataRdf nonce rdfFormat).Respects (InStep host) := by
  apply Action.respects_bind (InStep.respects_note _)
  intro _
  apply Action.respects_bind (checkQuota_respects host gate)
  intro _
  apply Action.respects_bind (verifyNonce_respects host gate _ _ _)
  intro _
  apply Action.respects_bind (consumeNonce_respects host gate _)
  intro _
  apply Action.respects_bind
  · apply Action.respects_bind (verifyShaclCompliance_respects host rdf gate _ _ _)
    rintro ⟨report, issued⟩
    apply Action.respects_bind (InStep.respects_raiseIf _ _)
    intro _
    rcases rdf.parse dataRdf rdfFormat with text | graph
    · exact Action.respects_throw _
    · exact Action.respects_pure _
  · intro statements
    split
    · exact Action.respects_bind (InStep.respects_note _) fun _ => Action.respects_pure _
    · exact Action.respects_pure _

/-! ### The driver -/

theorem runStatements_respects (driver : Neo4jDriver) (statements : List Str)
    (totalWritten : ℕ) :
    (driver.runStatements statements totalWritten : Coro Exc GateWorld ℕ).Respects
      (InStep host) := by
  induction statements generalizing totalWritten with
  | nil => trivial
  | cons cypher rest ih =>
      unfold Neo4jDriver.runStatements
      split
      · exact ih totalWritten
      · apply Coro.respects_bind (Coro.respects_sync (InStep.respects_outcome _))
        intro _
        apply Coro.respects_bind (Coro.respects_sync (InStep.respects_outcome _))
        intro counters
        exact ih _

theorem completeWrite_respects (domainName dataRdf : Str) (statements : List Str) :
    (gate.completeWrite host domainName dataRdf statements).Respects (InStep host) := by
  have answers : ∀ clock recordsWritten,
      (writeResult host clock domainName dataRdf recordsWritten).Respects (InStep host) := by
    intro clock recordsWritten
    apply Action.respects_bind (InStep.respects_draw _)
    intro now
    apply Action.respects_bind (InStep.respects_ofExcept _)
    intro bytes
    exact Action.respects_bind (InStep.respects_note _) fun _ => Action.respects_pure _
  unfold completeWrite
  rcases gate.neo4jClient with _ | client
  · exact Coro.respects_sync (answers _ _)
  · refine Coro.respects_bind ?_ fun _ => Coro.respects_sync (answers _ _)
    apply Coro.respects_bind (Coro.respects_sync (InStep.respects_outcome _))
    intro _
    apply Coro.respects_tryCatch
    · apply Coro.respects_bind (runStatements_respects host client _ _)
      intro totalWritten
      refine Coro.respects_bind (Coro.respects_sync ?_) fun _ => trivial
      apply Action.respects_bind (InStep.respects_outcome _)
      intro _
      apply InStep.respects_modify
      intro time state state' alike
      exact ⟨alike.validators, alike.quota,
        congrArg (· ++ [Neo4jDriver.runnable statements]) alike.database, alike.nonces⟩
    · intro exc
      apply Coro.respects_bind (Coro.respects_sync (InStep.respects_draw _))
      intro closed
      split
      · trivial
      · exact Coro.respects_bind (Coro.respects_sync (InStep.respects_outcome _))
          fun _ => trivial

/-! ### Runs on a timed schedule -/

end WriteGate

/-- What a call returns. -/
inductive GateAnswer where
  | validated (report : SHACLValidationReport) (nonce : Option Str)
  | written (result : WriteResult)

/-- A call with its result. -/
def GateCall.answer (host : Host) (rdf : RdfLib) (gate : WriteGate) :
    GateCall → Coro Exc GateWorld GateAnswer
  | verifyShaclCompliance domain data format => do
      let (report, nonce) ← Coro.sync (gate.verifyShaclCompliance host rdf domain data format)
      pure (.validated report nonce)
  | executeGovernedWrite domain data nonce format => do
      let result ← gate.executeGovernedWrite host rdf domain data nonce format
      pure (.written result)

theorem GateCall.answer_respects (host : Host) (rdf : RdfLib) (gate : WriteGate)
    (call : GateCall) : (call.answer host rdf gate).Respects (InStep host) := by
  cases call with
  | verifyShaclCompliance domain data format =>
      exact Coro.respects_bind
        (Coro.respects_sync (WriteGate.verifyShaclCompliance_respects host rdf gate _ _ _))
        fun _ => trivial
  | executeGovernedWrite domain data nonce format =>
      refine Coro.respects_bind ?_ fun _ => trivial
      exact Coro.respects_bind
        (Coro.respects_sync (WriteGate.enterWrite_respects host rdf gate _ _ _ _))
        fun _ => WriteGate.completeWrite_respects host gate _ _ _

namespace WriteGate

variable (host : Host) (rdf : RdfLib) (gate : WriteGate)

/-- The clock has come to a reading. -/
def atTick (tick : ℕ) (world : GateWorld) : GateWorld := ⟨tick, world.state⟩

/-- The calls on a new gate. -/
def callsOn (calls : ℕ → GateCall) (database : Database) : Pool ℕ Exc GateWorld GateAnswer :=
  ⟨⟨0, GateState.initial database⟩, fun i => (calls i).answer host rdf gate⟩

/--
The calls after a timed schedule, which names, one after another, the call that runs up to its
next await and the reading of the clocks at which it does so.
-/
def timedCalls (calls : ℕ → GateCall) (database : Database) (schedule : List (ℕ × ℕ)) :
    Pool ℕ Exc GateWorld GateAnswer :=
  (gate.callsOn host rdf calls database).execAt atTick schedule

/-- No slot of the schedule comes before the clock has come to its reading. -/
def Timely (calls : ℕ → GateCall) (database : Database) (schedule : List (ℕ × ℕ)) : Prop :=
  (gate.callsOn host rdf calls database).InOrder atTick
    (fun tick world => world.tick ≤ tick) schedule

instance (calls : ℕ → GateCall) (database : Database) (schedule : List (ℕ × ℕ)) :
    Decidable (gate.Timely host rdf calls database schedule) :=
  inferInstanceAs (Decidable (Pool.InOrder _ _ _ _))

/-- The write is refused by the nonce check. -/
def RefusedByNonce (domainName dataRdf nonce rdfFormat : Str) (world : GateWorld) : Prop :=
  ∃ counted exc final,
    gate.checkQuota host (world.note (.called domainName dataRdf nonce rdfFormat)) =
      (.ok (), counted) ∧
    gate.verifyNonce host domainName dataRdf nonce counted = (.error exc, final) ∧
    exc.cls = .writeGateError

/-- A refused call is invisible: to the other calls, and in the state that it leaves. -/
structure Invisible (calls : ℕ → GateCall) (database : Database) (earlier later : List (ℕ × ℕ))
    (call tick : ℕ) : Prop where
  outcomes : ∀ other, other ≠ call →
    (gate.timedCalls host rdf calls database (earlier ++ (call, tick) :: later)).tasks other =
      (gate.timedCalls host rdf calls database
        (earlier ++ later.filter fun slot => slot.1 ≠ call)).tasks other
  nonces : ∀ signature expires,
    host.monotonic
        (gate.timedCalls host rdf calls database (earlier ++ [(call, tick)])).state.tick <
      expires →
    ((gate.timedCalls host rdf calls database
        (earlier ++ [(call, tick)])).state.state.consumedNonces.get? signature = some expires ↔
      (gate.timedCalls host rdf calls database earlier).state.state.consumedNonces.get?
        signature = some expires)
  quota : (gate.timedCalls host rdf calls database
      (earlier ++ [(call, tick)])).state.state.quota =
    (gate.timedCalls host rdf calls database earlier).state.state.quota

variable {host rdf gate}

/-! ### What a refused call leaves behind -/

theorem preserves_ofExcept {α : Type} (base : GateWorld) (result : Except Exc α) :
    (ofExcept result : Action Exc GateWorld α).Preserves fun world =>
      AlikeSince host world base := by
  intro world alike
  rw [ofExcept_apply]
  exact alike

theorem preserves_raiseIf (base : GateWorld) (refused : Prop) [Decidable refused] (exc : Exc) :
    (raiseIf refused exc : Action Exc GateWorld Unit).Preserves fun world =>
      AlikeSince host world base := by
  intro world alike
  rw [raiseIf_apply]
  exact alike

theorem preserves_draw {α : Type} (base : GateWorld) (source : ℕ → α) :
    (Timed.draw source : Action Exc GateWorld α).Preserves fun world =>
      AlikeSince host world base :=
  fun _ alike => alike.later (host.monotonic_mono (Nat.le_succ _))

theorem preserves_note (base : GateWorld) (event : GateEvent) :
    (note event).Preserves fun world => AlikeSince host world base :=
  fun _ alike => ⟨alike.1, alike.2, alike.3, alike.4⟩

theorem preserves_view {α : Type} (base : GateWorld) (read : GateState → α) :
    (Timed.view read).Preserves fun world => AlikeSince host world base :=
  fun _ alike => alike

/-- The sweep removes only what is expired. -/
theorem cleanupExpiredNonces_preserves (base : GateWorld) :
    (cleanupExpiredNonces host).Preserves fun world => AlikeSince host world base := by
  intro world alike
  have later := alike.later (host.monotonic_mono (Nat.le_succ world.tick))
  refine ⟨alike.validators, alike.quota, alike.database, ?_⟩
  intro signature expires young
  have fresh : host.monotonic world.tick < expires :=
    (host.monotonic_mono (Nat.le_succ world.tick)).trans_lt young
  rw [← later.nonces signature expires young]
  change (world.state.consumedNonces.filter _).get? signature = some expires ↔ _
  rw [Dict.get?_filter, Option.filter_eq_some_iff]
  simp [fresh]

theorem checkSignature_preserves (base : GateWorld) (domainName text dataHash signature : Str) :
    (gate.checkSignature host domainName text dataHash signature).Preserves fun world =>
      AlikeSince host world base := by
  apply Action.preserves_bind (preserves_ofExcept base _)
  intro timestamp
  apply Action.preserves_bind (preserves_draw base _)
  intro now
  apply Action.preserves_bind (preserves_raiseIf base _ _)
  intro _
  apply Action.preserves_bind (preserves_raiseIf base _ _)
  intro _
  apply Action.preserves_bind (cleanupExpiredNonces_preserves base)
  intro swept
  apply Action.preserves_bind (preserves_note base _)
  intro _
  apply Action.preserves_bind (preserves_view base _)
  intro consumed
  apply Action.preserves_bind (preserves_raiseIf base _ _)
  intro _
  apply Action.preserves_bind (preserves_ofExcept base _)
  intro payload
  apply Action.preserves_bind (preserves_ofExcept base _)
  intro same
  apply Action.preserves_bind (preserves_raiseIf base _ _)
  intro _
  exact Action.preserves_bind (preserves_note base _) fun _ => Action.preserves_pure _

theorem verifyNonce_preserves (base : GateWorld) (domainName dataRdf nonce : Str) :
    (gate.verifyNonce host domainName dataRdf nonce).Preserves fun world =>
      AlikeSince host world base := by
  apply Action.preserves_tryCatch
  · rcases verifyBody_cases host gate domainName dataRdf nonce with
      ⟨text, dataHash, signature, _, body⟩ | ⟨_, exc, body⟩ <;> rw [body]
    · refine Action.preserves_bind ?_ fun _ => preserves_note base _
      apply Action.preserves_bind (checkSignature_preserves base _ _ _ _)
      intro now
      apply Action.preserves_bind (preserves_ofExcept base _)
      intro bytes
      apply Action.preserves_bind (preserves_raiseIf base _ _)
      intro _
      exact Action.preserves_bind (preserves_draw base _) fun _ => Action.preserves_pure _
    · exact Action.preserves_throw _
  · intro exc
    split <;> exact Action.preserves_throw _

/-- A call that the nonce check refuses raises before its first await. -/
theorem RefusedByNonce.entered {domainName dataRdf nonce rdfFormat : Str} {world : GateWorld}
    (refused : RefusedByNonce host gate domainName dataRdf nonce rdfFormat world) :
    ∃ exc final, gate.enterWrite host rdf domainName dataRdf nonce rdfFormat world =
        (.error exc, final) ∧
      AlikeSince host final
        (gate.countedWorld host (world.note (.called domainName dataRdf nonce rdfFormat))) := by
  rcases refused with ⟨counted, exc, final, allowed, verified, -⟩
  rcases checkQuota_eq_ok_iff.mp allowed with ⟨-, rfl⟩
  refine ⟨exc, final, ?_, ?_⟩
  · have raised : gate.authorizeWrite host rdf domainName dataRdf nonce rdfFormat
        (world.note (.called domainName dataRdf nonce rdfFormat)) = (.error exc, final) := by
      rw [authorizeWrite, Action.bind_of_ok allowed, Action.bind_of_error verified]
    exact raised
  · have kept := @verifyNonce_preserves host gate _ domainName dataRdf nonce _
      (AlikeSince.refl host
        (gate.countedWorld host (world.note (.called domainName dataRdf nonce rdfFormat))))
    rw [verified] at kept
    exact kept

theorem timedCalls_respects (calls : ℕ → GateCall) (database : Database)
    (schedule : List (ℕ × ℕ)) (task : ℕ) :
    ((gate.timedCalls host rdf calls database schedule).tasks task).Respects (InStep host) := by
  apply Pool.execAt_respects fun world => ⟨rfl, AlikeSince.refl host world⟩
  exact fun task => GateCall.answer_respects host rdf gate (calls task)

theorem timedCalls_append {calls : ℕ → GateCall} {database : Database}
    (schedule later : List (ℕ × ℕ)) :
    gate.timedCalls host rdf calls database (schedule ++ later) =
      (gate.timedCalls host rdf calls database schedule).execAt atTick later :=
  Pool.execAt_append _ _ _

/-- The slot of a refused call ends it. -/
theorem timedCalls_refused {calls : ℕ → GateCall} {database : Database}
    {earlier : List (ℕ × ℕ)} {call tick : ℕ} {domainName dataRdf nonce rdfFormat : Str}
    (fresh : ∀ slot ∈ earlier, slot.1 ≠ call)
    (asks : calls call = .executeGovernedWrite domainName dataRdf nonce rdfFormat)
    (refused : RefusedByNonce host gate domainName dataRdf nonce rdfFormat
      (atTick tick (gate.timedCalls host rdf calls database earlier).state)) :
    ∃ exc final,
      gate.timedCalls host rdf calls database (earlier ++ [(call, tick)]) =
        ⟨final, Function.update (gate.timedCalls host rdf calls database earlier).tasks call
          (.raise exc)⟩ ∧
      AlikeSince host final (gate.countedWorld host
        ((atTick tick (gate.timedCalls host rdf calls database earlier).state).note
          (.called domainName dataRdf nonce rdfFormat))) := by
  rcases @RefusedByNonce.entered host rdf gate _ _ _ _ _ refused with ⟨exc, final, entered, alike⟩
  refine ⟨exc, final, ?_, alike⟩
  have waiting : (gate.timedCalls host rdf calls database earlier).tasks call =
      (GateCall.executeGovernedWrite domainName dataRdf nonce rdfFormat).answer host rdf gate := by
    have same : (gate.timedCalls host rdf calls database earlier).tasks call =
        (calls call).answer host rdf gate := Pool.execAt_tasks_of_absent fresh
    rw [same, asks]
  have taken : gate.timedCalls host rdf calls database (earlier ++ [(call, tick)]) =
      (gate.timedCalls host rdf calls database earlier).advanceAt atTick (call, tick) :=
    timedCalls_append _ _
  rw [taken, Pool.advanceAt, Pool.advance]
  dsimp only
  rw [waiting]
  change (⟨(gate.enterWrite host rdf domainName dataRdf nonce rdfFormat _).2, Function.update _ call
    (((Coro.done (gate.enterWrite host rdf domainName dataRdf nonce rdfFormat _).1).bind _).bind
      _)⟩ : Pool ℕ Exc GateWorld GateAnswer) = _
  rw [entered]
  rfl

theorem countedWorld_of_none (unlimited : gate.autonomyPolicy = none) (world : GateWorld) :
    gate.countedWorld host world = world := by
  rw [countedWorld, unlimited]

/-- With a policy the refused call was counted. -/
theorem countedWorld_writeCount {policy : AutonomyPolicy}
    (limited : gate.autonomyPolicy = some policy) (world : GateWorld) :
    (gate.countedWorld host world).state.quota.writeCount = world.state.quota.writeCount + 1 := by
  rw [countedWorld, limited]
  rfl

/--
A write that is refused for its nonce is invisible exactly for a gate without a policy: under
a policy it was counted.
-/
theorem refusal_invisible_iff {calls : ℕ → GateCall} {database : Database}
    {earlier later : List (ℕ × ℕ)} {call tick : ℕ} {domainName dataRdf nonce rdfFormat : Str}
    (timely : gate.Timely host rdf calls database (earlier ++ (call, tick) :: later))
    (fresh : ∀ slot ∈ earlier, slot.1 ≠ call)
    (asks : calls call = .executeGovernedWrite domainName dataRdf nonce rdfFormat)
    (refused : RefusedByNonce host gate domainName dataRdf nonce rdfFormat
      (atTick tick (gate.timedCalls host rdf calls database earlier).state)) :
    gate.Invisible host rdf calls database earlier later call tick ↔
      gate.autonomyPolicy = none := by
  rcases timedCalls_refused fresh asks refused with ⟨exc, final, after, alike⟩
  constructor
  · intro invisible
    rcases limited : gate.autonomyPolicy with _ | policy
    · rfl
    · have quota := invisible.quota
      rw [after] at quota
      have count := @countedWorld_writeCount host _ _ limited
        ((atTick tick (gate.timedCalls host rdf calls database earlier).state).note
          (.called domainName dataRdf nonce rdfFormat))
      rw [← alike.quota, quota] at count
      change (gate.timedCalls host rdf calls database earlier).state.state.quota.writeCount =
        (gate.timedCalls host rdf calls database earlier).state.state.quota.writeCount + 1 at count
      omega
  · intro unlimited
    rw [countedWorld_of_none unlimited] at alike
    have meets : ∀ (time : ℕ) (state state' : GateWorld), state.tick ≤ time →
        AlikeSince host state state' → InStep host (atTick time state) (atTick time state') :=
      fun _ _ _ ready alike => ⟨rfl, alike.later (host.monotonic_mono ready)⟩
    have passes : ∀ (time : ℕ) (state state' : GateWorld), state.tick ≤ time →
        AlikeSince host state state' → AlikeSince host (atTick time state) state' :=
      fun _ _ _ ready alike => alike.later (host.monotonic_mono ready)
    have parts : ∀ state state', InStep host state state' → AlikeSince host state state' :=
      fun _ _ inStep => inStep.2
    have since : AlikeSince host final (gate.timedCalls host rdf calls database earlier).state :=
      ⟨alike.validators, alike.quota, alike.database, alike.nonces⟩
    have inOrder : (gate.timedCalls host rdf calls database (earlier ++ [(call, tick)])).InOrder
        atTick (fun tick world => world.tick ≤ tick) later := by
      rw [List.append_cons] at timely
      exact Pool.InOrder.append timely
    refine ⟨?_, ?_, ?_⟩
    · rw [List.append_cons, timedCalls_append _ later, timedCalls_append _ (later.filter _)]
      rw [after] at inOrder ⊢
      apply Pool.execAt_without meets parts passes since _ _ _ inOrder
      · simp [Coro.Finished]
      · intro task differ
        simp [differ]
      · intro task differ
        have respects := @timedCalls_respects host rdf gate calls database earlier task
        simpa [differ] using respects
    · rw [after]
      exact since.nonces
    · rw [after]
      exact since.quota

end WriteGate

namespace Sample

/-- A write with a forged nonce, a validation, and a write with the nonce issued to it. -/
def contestedCalls : ℕ → GateCall
  | 0 => .executeGovernedWrite domainName data (py "forged") (py "turtle")
  | 1 => .verifyShaclCompliance domainName data (py "turtle")
  | _ => .executeGovernedWrite domainName data nonce (py "turtle")

/-- The steps of the honest write, after the slot of the forged one. -/
def honestSlots : List (ℕ × ℕ) := [(2, 20), (2, 30), (2, 40), (2, 50), (2, 60), (2, 70)]

/-- The sample gate under a policy of one write a session. -/
def limitedGate : WriteGate :=
  { gate with autonomyPolicy := some ⟨⟨[], [], []⟩, ⟨1, 10⟩, 3600, 1000⟩ }

/-- The class of the exception with which a call ended. -/
def raisedClass : Coro Exc GateWorld GateAnswer → Option ExcClass
  | .raise exc => some exc.cls
  | _ => none

theorem forged_write_refused (world : GateWorld) (policy : Option AutonomyPolicy)
    (allowed : WriteGate.WithinQuota steadyHost { gate with autonomyPolicy := policy }
      (world.note (.called domainName data (py "forged") (py "turtle")))) :
    WriteGate.RefusedByNonce steadyHost { gate with autonomyPolicy := policy } domainName data
      (py "forged") (py "turtle") world :=
  ⟨_, _, _, WriteGate.checkQuota_eq_ok_iff.mpr ⟨allowed, rfl⟩, rfl, rfl⟩

theorem forged_write_invisible :
    gate.Invisible steadyHost rdf contestedCalls [] [(1, 0)] honestSlots 0 10 :=
  (WriteGate.refusal_invisible_iff (by decide +kernel) (by decide) rfl
    (forged_write_refused _ none trivial)).mpr rfl

/-- Under the policy the forged write takes the only write of the session. -/
theorem forged_write_starves :
    ¬ ∀ (host : Host) (rdf : RdfLib) (gate : WriteGate) (calls : ℕ → GateCall)
      (database : Database) (earlier later : List (ℕ × ℕ)) (call tick : ℕ)
      (domainName dataRdf nonce rdfFormat : Str),
      gate.Timely host rdf calls database (earlier ++ (call, tick) :: later) →
      (∀ slot ∈ earlier, slot.1 ≠ call) →
      calls call = .executeGovernedWrite domainName dataRdf nonce rdfFormat →
      gate.RefusedByNonce host domainName dataRdf nonce rdfFormat
        (WriteGate.atTick tick (gate.timedCalls host rdf calls database earlier).state) →
      gate.Invisible host rdf calls database earlier later call tick := by
  intro claim
  have allowed : limitedGate.WithinQuota steadyHost
      ((WriteGate.atTick 10
        (limitedGate.timedCalls steadyHost rdf contestedCalls [] [(1, 0)]).state).note
          (.called domainName data (py "forged") (py "turtle"))) :=
    ⟨by decide, by decide⟩
  have invisible := claim steadyHost rdf limitedGate contestedCalls [] [(1, 0)] honestSlots 0 10
    domainName data (py "forged") (py "turtle") (by decide) (by decide) rfl
    (forged_write_refused _ _ allowed)
  have same := congrArg raisedClass (invisible.outcomes 2 (by decide))
  revert same
  decide +kernel

end Sample

end AgentOS
