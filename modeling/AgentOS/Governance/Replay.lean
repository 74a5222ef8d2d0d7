import AgentOS.Cooperative.EventLog
import AgentOS.Cooperative.Pool
import AgentOS.Governance.GateStep

/-!
# Replay protection

A consumed signature is kept in a table until the TTL has passed since it was consumed. A
nonce is refused once more than the TTL has passed since its timestamp. The first rule is
strict where the second is not, and each reads the clock on its own: a call that checks the
age of the nonce at the last instant, or before it, and sweeps the table at this instant, or
after it, may forget a consumed signature while its nonce still passes.

This file proves that in every interleaving of calls on one gate no other call reuses a
nonce that is not dated ahead of its own acceptance. The timestamps that a gate signs are
readings of its own clock, so only a nonce signed elsewhere with the secret can be.
-/

namespace AgentOS

open Python Cooperative

/-- A call on a gate. -/
inductive GateCall where
  | verifyShaclCompliance (domain data format : Str)
  | executeGovernedWrite (domain data nonce format : Str)

namespace GateCall

variable (host : Host) (rdf : RdfLib) (gate : WriteGate)

/-- The code of a call; the caller sees its result and may choose later calls by it. -/
def task : GateCall → Coro Exc GateWorld Unit
  | verifyShaclCompliance domain data format => do
      let _ ← Coro.sync (gate.verifyShaclCompliance host rdf domain data format)
  | executeGovernedWrite domain data nonce format => do
      let _ ← gate.executeGovernedWrite host rdf domain data nonce format

theorem task_follows (call : GateCall) :
    (call.task host rdf gate).Follows (WriteGate.GateStep host rdf gate True) := by
  cases call with
  | verifyShaclCompliance domain data format =>
      apply Coro.follows_bind
      · exact Coro.follows_sync (WriteGate.verifyShaclCompliance_follows _ _ _)
      · exact fun _ => Coro.follows_pure _
  | executeGovernedWrite domain data nonce format =>
      apply Coro.follows_bind (WriteGate.executeGovernedWrite_follows _ _ _ _)
      exact fun _ => Coro.follows_pure _

end GateCall

namespace WriteGate

variable (host : Host) (rdf : RdfLib) (gate : WriteGate)

/--
The world of a new gate after some calls on it have run: the schedule names, one after
another, the call that runs up to its next await.
-/
def afterCalls (calls : ℕ → GateCall) (database : Database) (schedule : List ℕ) : GateWorld :=
  (Pool.exec ⟨⟨0, GateState.initial database⟩, fun i => (calls i).task host rdf gate⟩
    schedule).state

theorem afterCalls_steps (calls : ℕ → GateCall) (database : Database) (schedule : List ℕ) :
    Relation.ReflTransGen (GateStep host rdf gate True) ⟨0, GateState.initial database⟩
      (gate.afterCalls host rdf calls database schedule) :=
  Pool.exec_follows ⟨⟨0, GateState.initial database⟩, fun i => (calls i).task host rdf gate⟩
    (fun i => (calls i).task_follows host rdf gate) schedule

/-- What holds of a new gate and survives every step holds after all calls. -/
theorem afterCalls_induction {motive : GateWorld → Prop} (calls : ℕ → GateCall)
    (database : Database) (schedule : List ℕ)
    (start : motive ⟨0, GateState.initial database⟩)
    (keeps : ∀ world world', GateStep host rdf gate True world world' → motive world →
      motive world') : motive (gate.afterCalls host rdf calls database schedule) :=
  Action.holds_of_steps keeps (gate.afterCalls_steps host rdf calls database schedule) start

end WriteGate

/-- The event is the acceptance of a nonce with the signature. -/
def GateEvent.accepts (signature : Str) : GateEvent → Bool
  | accepted _ _ _ other _ => other = signature
  | _ => false

/--
What a nonce with the signature and the timestamp asks of an earlier event when it is looked
up: it is not dated ahead of an acceptance of the signature, and a call during which its time
runs out sweeps before the TTL has passed since a consumption.
-/
def GateEvent.AllowsLookUp (ttl : ℤ) (signature : Str) (timestamp : ℤ) (checked swept : ℚ) :
    GateEvent → Prop
  | accepted _ _ _ other time => other = signature → timestamp ≤ time
  | burned other consumed => other = signature →
      checked ≤ timestamp + ttl → timestamp + ttl ≤ swept → swept < consumed + ttl
  | _ => True

/-- A nonce whose signature is the gate's own is looked up before and not while it expires. -/
def GateEvent.LookedUpInTime (host : Host) (gate : WriteGate) (event : GateEvent)
    (earlier : List GateEvent) : Prop :=
  match event with
  | lookedUp payload signature timestamp checked swept =>
      signature = (host.hmacSha256 gate.nonceSecret payload).text →
        ∀ other ∈ earlier, other.AllowsLookUp gate.nonceTtl signature timestamp checked swept
  | _ => True

instance (ttl : ℤ) (signature : Str) (timestamp : ℤ) (checked swept : ℚ) (event : GateEvent) :
    Decidable (event.AllowsLookUp ttl signature timestamp checked swept) := by
  unfold GateEvent.AllowsLookUp
  split <;> infer_instance

instance (host : Host) (gate : WriteGate) (event : GateEvent) (earlier : List GateEvent) :
    Decidable (event.LookedUpInTime host gate earlier) := by
  unfold GateEvent.LookedUpInTime
  split <;> infer_instance

/-- A consumed signature is in the table, unless the clock has shown that the TTL is over. -/
def Tracked (host : Host) (ttl : ℤ) (world : GateWorld) : Prop :=
  ∀ signature (consumed : ℚ), .burned signature consumed ∈ world.state.history →
    (∃ expires, world.state.consumedNonces.get? signature = some expires ∧
      consumed + ttl ≤ expires) ∨
    ∃ tick < world.tick, consumed + ttl ≤ host.monotonic tick

/-- Every consumption was stamped by an earlier reading of the clock. -/
def StampedBefore (host : Host) (world : GateWorld) : Prop :=
  ∀ signature (consumed : ℚ), .burned signature consumed ∈ world.state.history →
    ∃ tick < world.tick, consumed = host.monotonic tick

/-- No signature was accepted twice, and what was accepted was consumed then or later. -/
structure AcceptedOnce (history : List GateEvent) : Prop where
  once : ∀ signature, history.countP (GateEvent.accepts signature) ≤ 1
  consumed : ∀ signature, 0 < history.countP (GateEvent.accepts signature) →
    ∃ domain data nonce time consumed, .accepted domain data nonce signature time ∈ history ∧
      .burned signature consumed ∈ history ∧ time ≤ consumed

namespace WriteGate

variable {host : Host} {rdf : RdfLib} {gate : WriteGate}

/-- Only the acceptance of a nonce consumes a signature. -/
theorem burned_of_step {world world' : GateWorld} (step : GateStep host rdf gate True world world')
    {signature : Str} {consumed : ℚ} (mem : .burned signature consumed ∈ world'.state.history) :
    .burned signature consumed ∈ world.state.history ∨ consumed = host.monotonic (world.tick + 3) ∧
      world'.tick = world.tick + 4 ∧
      world'.state.consumedNonces.get? signature = some (consumed + gate.nonceTtl) := by
  cases step with
  | read | quota | sweep | cache | commit => exact .inl mem
  | note neutral =>
      rw [note_history, List.mem_cons] at mem
      rcases mem with rfl | mem
      · cases neutral
      · exact .inl mem
  | issue =>
      simp only [issuedWorld_history, List.mem_cons, reduceCtorEq, false_or] at mem
      exact .inl mem
  | call | submit =>
      simp only [note_history, List.mem_cons, reduceCtorEq, false_or] at mem
      exact .inl mem
  | accept admits =>
      simp only [consumedWorld_history, List.mem_cons, reduceCtorEq, false_or] at mem
      rcases mem with ⟨rfl, rfl⟩ | mem
      · exact .inr ⟨rfl, rfl, by rw [consumedWorld_nonces, Dict.get?_set_self]⟩
      · exact .inl mem

theorem GateStep.tick_le {world world' : GateWorld}
    (step : GateStep host rdf gate True world world') : world.tick ≤ world'.tick := by
  cases step with
  | call | quota | note | cache | submit | commit => exact le_rfl
  | read | sweep | issue => exact Nat.le_succ _
  | accept => exact Nat.le_add_right _ 4

theorem stampedBefore_of_step {world world' : GateWorld}
    (step : GateStep host rdf gate True world world') (stamped : StampedBefore host world) :
    StampedBefore host world' := by
  intro signature consumed mem
  rcases burned_of_step step mem with mem | ⟨rfl, ticks, _⟩
  · rcases stamped signature consumed mem with ⟨tick, before, rfl⟩
    exact ⟨tick, before.trans_le step.tick_le, rfl⟩
  · exact ⟨_, by omega, rfl⟩

/-- A sweep removes an entry only when its time has come. -/
theorem get?_sweep (host : Host) {world : GateWorld} {signature : Str} {expires : ℚ}
    (entry : world.state.consumedNonces.get? signature = some expires) :
    (world.sweep host).state.consumedNonces.get? signature = some expires ∨
      expires ≤ host.monotonic world.tick := by
  simp only [GateWorld.sweep, Dict.get?_filter, entry, Option.filter_some, decide_eq_true_eq]
  by_cases kept : host.monotonic world.tick < expires
  · rw [if_pos kept]
    exact .inl rfl
  · exact .inr (not_lt.mp kept)

theorem tracked_of_step {world world' : GateWorld}
    (step : GateStep host rdf gate True world world') (stamped : StampedBefore host world)
    (tracked : Tracked host gate.nonceTtl world) : Tracked host gate.nonceTtl world' := by
  intro signature consumed mem
  rcases burned_of_step step mem with held | ⟨rfl, _, entry⟩
  · rcases tracked signature consumed held with ⟨expires, entry, late⟩ | ⟨tick, before, late⟩
    · cases step with
      | call | read | quota | note | cache | issue | submit | commit =>
          exact .inl ⟨expires, entry, late⟩
      | sweep =>
          rcases get?_sweep host entry with kept | due
          · exact .inl ⟨expires, kept, late⟩
          · exact .inr ⟨world.tick, Nat.lt_succ_self _, late.trans due⟩
      | accept admits =>
          rename_i burnedSignature _ _
          rw [consumedWorld_nonces]
          by_cases same : signature = burnedSignature
          · rcases stamped signature consumed held with ⟨tick, before, rfl⟩
            refine .inl ⟨_, by rw [same, Dict.get?_set_self], ?_⟩
            have ordered := host.monotonic_mono (before.le.trans (Nat.le_add_right world.tick 3))
            linarith
          · rw [Dict.get?_set_of_ne _ _ same]
            have read : world.read.state.consumedNonces.get? signature = some expires := entry
            rcases get?_sweep host read with kept | due
            · exact .inl ⟨expires, kept, late⟩
            · refine .inr ⟨world.tick + 1, ?_, late.trans due⟩
              change world.tick + 1 < world.tick + 4
              omega
    · exact .inr ⟨tick, before.trans_le step.tick_le, late⟩
  · exact .inl ⟨_, entry, le_rfl⟩

/-- A tracked signature that is looked up in time is found. -/
theorem lookup_finds {world : GateWorld} {signature : Str}
    {consumed : ℚ} (tracked : Tracked host gate.nonceTtl world)
    (burned : .burned signature consumed ∈ world.state.history)
    (inTime : host.monotonic (world.tick + 1) < consumed + gate.nonceTtl) :
    (world.read.sweep host).state.consumedNonces.get? signature ≠ none := by
  rcases tracked signature consumed burned with ⟨expires, entry, late⟩ | ⟨tick, before, late⟩
  · have read : world.read.state.consumedNonces.get? signature = some expires := entry
    rcases get?_sweep host read with kept | due
    · simp [kept]
    · exact absurd (late.trans due) (not_le.mpr inTime)
  · have shown := host.monotonic_mono (before.le.trans (Nat.le_succ world.tick))
    exact absurd (late.trans shown) (not_le.mpr inTime)

theorem acceptedOnce_cons {event : GateEvent} {history : List GateEvent}
    (other : ∀ signature, event.accepts signature = false) (once : AcceptedOnce history) :
    AcceptedOnce (event :: history) := by
  refine ⟨?_, ?_⟩
  · intro signature
    rw [List.countP_cons_of_neg (by simp [other])]
    exact once.once signature
  · intro signature accepted
    rw [List.countP_cons_of_neg (by simp [other])] at accepted
    rcases once.consumed signature accepted with
      ⟨domain, data, nonce, time, consumed, mem, burned, ordered⟩
    exact ⟨domain, data, nonce, time, consumed, List.mem_cons_of_mem _ mem,
      List.mem_cons_of_mem _ burned, ordered⟩

/--
The two rules agree on a nonce that passes: its time runs out no later than the entry of its
signature, so that only a call that is surprised by the end of this time finds no entry.
-/
theorem swept_lt_of_allowed {ttl timestamp : ℤ} {signature domain data nonce : Str}
    {checked swept time consumed : ℚ} (timely : checked - timestamp ≤ ttl)
    (ordered : time ≤ consumed)
    (dated : (GateEvent.accepted domain data nonce signature time).AllowsLookUp ttl signature
      timestamp checked swept)
    (bounded : (GateEvent.burned signature consumed).AllowsLookUp ttl signature timestamp checked
      swept) : swept < consumed + ttl := by
  have inTime : checked ≤ timestamp + ttl := by linarith
  have issued : (timestamp : ℚ) ≤ consumed := (dated rfl).trans ordered
  by_contra late
  have ranOut : timestamp + ttl ≤ swept := by linarith
  exact late (bounded rfl inTime ranOut)

theorem acceptedOnce_of_step {world world' : GateWorld}
    (step : GateStep host rdf gate True world world') (tracked : Tracked host gate.nonceTtl world)
    (inTime : EventLog.Each (GateEvent.LookedUpInTime host gate) world'.state.history)
    (once : AcceptedOnce world.state.history) : AcceptedOnce world'.state.history := by
  cases step with
  | read | quota | sweep | cache | commit => exact once
  | note neutral =>
      apply acceptedOnce_cons _ once
      intro signature
      rename_i event
      cases event <;> first | rfl | cases neutral
  | issue =>
      rw [issuedWorld_history]
      exact acceptedOnce_cons (fun _ => rfl) (acceptedOnce_cons (fun _ => rfl) once)
  | call | submit => exact acceptedOnce_cons (fun _ => rfl) once
  | accept admits =>
      rename_i domainName dataRdf nonce burnedSignature dataHash timestamp
      rw [consumedWorld_history] at inTime ⊢
      have unseen : world.state.history.countP (GateEvent.accepts burnedSignature) = 0 := by
        by_contra seen
        rcases once.consumed burnedSignature (Nat.pos_of_ne_zero seen) with
          ⟨domain, data, other, time, consumed, mem, burned, ordered⟩
        have allowed := inTime.2.2.2.1 admits.signed
        apply lookup_finds tracked burned _ admits.unused
        exact swept_lt_of_allowed admits.timely ordered (allowed _ mem) (allowed _ burned)
      refine ⟨?_, ?_⟩
      · intro signature
        have before := once.once signature
        by_cases same : burnedSignature = signature
        · subst same
          simp [GateEvent.accepts, unseen]
        · simpa [GateEvent.accepts, List.countP_cons, same] using before
      · intro signature accepted
        by_cases same : burnedSignature = signature
        · subst same
          refine ⟨domainName, dataRdf, nonce, host.monotonic world.tick, _, by simp,
            List.mem_cons_self, ?_⟩
          exact host.monotonic_mono (Nat.le_add_right world.tick 3)
        · have before : 0 < world.state.history.countP (GateEvent.accepts signature) := by
            simpa [GateEvent.accepts, List.countP_cons, same] using accepted
          rcases once.consumed signature before with
            ⟨domain, data, other, time, consumed, mem, burned, ordered⟩
          exact ⟨domain, data, other, time, consumed, by simp [mem], by simp [burned], ordered⟩

/--
In every interleaving of calls on a gate in which no nonce expires while it is looked up, no
signature is accepted twice.
-/
theorem nonce_accepted_once (calls : ℕ → GateCall) (database : Database) (schedule : List ℕ)
    (inTime : EventLog.Each (GateEvent.LookedUpInTime host gate)
      (gate.afterCalls host rdf calls database schedule).state.history) (signature : Str) :
    (gate.afterCalls host rdf calls database schedule).state.history.countP
      (GateEvent.accepts signature) ≤ 1 := by
  have reached := gate.afterCalls_induction host rdf
    (motive := fun world => (StampedBefore host world ∧ Tracked host gate.nonceTtl world) ∧
      (EventLog.Each (GateEvent.LookedUpInTime host gate) world.state.history →
        AcceptedOnce world.state.history))
    calls database schedule ?start ?keeps
  · exact (reached.2 inTime).once signature
  case start =>
    refine ⟨⟨?_, ?_⟩, fun _ => ⟨by simp [GateState.initial], by simp [GateState.initial]⟩⟩ <;>
      · intro _ _ mem
        cases mem
  case keeps =>
    rintro world world' step ⟨⟨stamped, tracked⟩, once⟩
    refine ⟨⟨stampedBefore_of_step step stamped, tracked_of_step step stamped tracked⟩, ?_⟩
    intro inTime
    exact acceptedOnce_of_step step tracked inTime (once (inTime.suffix step.history_grows))

end WriteGate

/-! ### A gate with one domain -/

namespace Sample

/-- One triple in Turtle. -/
def data : Str := py "<urn:a> <urn:p> <urn:b> ."

def domainName : Str := py "it-asset-mgmt"

def nonceSecret : Str := py "dev-nonce-secret-change-in-prod"

def zeroDigest : HexDigest := ⟨[0x30], by decide⟩

def dataHash : HexDigest :=
  ⟨py "a3504e41ae889d21ad232d74deec547cfa672e85c50a6f01ee23b391c2b53f48", by decide⟩

def signature : HexDigest :=
  ⟨py "9d219a35a21c59814928ca6af3dd2add364073a250a721f12c98194b58a950a2", by decide⟩

def laterSignature : HexDigest :=
  ⟨py "3af1945d9edfe75e72845099003de399f3aecacab6cdf64fb7508a0c73cfdedc", by decide⟩

def transactionDigest : HexDigest :=
  ⟨py "ab050cee8ffc18b0fa608a58baf08fb31a121013e569fe1aee42d35b0b1407f6", by decide⟩

/-- A host with the given monotonic clock and the digests of the texts used below. -/
def host (monotonic : ℕ → ℚ) (nonneg : ∀ tick, 0 ≤ monotonic tick) (mono : Monotone monotonic)
    (small : ∀ tick, monotonic tick < 2 ^ 34) : Host where
  monotonic := monotonic
  time := fun _ => 1000
  monotonic_nonneg := nonneg
  monotonic_mono := mono
  monotonic_lt := small
  sha256 := fun text =>
    if text = data then dataHash
    else if text = domainName ++ py ":1000.0" then transactionDigest
    else zeroDigest
  hmacSha256 := fun _ text =>
    if text = WriteGate.noncePayload 100 dataHash.text domainName then signature
    else if text = WriteGate.noncePayload 400 dataHash.text domainName then laterSignature
    else zeroDigest
  repr := fun text => py "'" ++ text ++ py "'"
  strFloat := fun _ => py "1000.0"
  strFloat_encodable := fun _ => by decide
  fixed := fun _ _ => []
  encodeError := fun _ => []
  intError := fun _ => []
  strValue := fun _ => []
  formatMap := fun template _ => .ok template
  print := fun _ _ => .ok ()
  uuid4 := fun _ => py "00000000-0000-4000-8000-000000000000"
  isoFormat := fun _ => py "1970-01-01T00:16:40+00:00"
  isoFormat_encodable := fun _ => by decide
  sqliteReal := fun _ => []

def triple : Triple := ⟨.uriRef (py "urn:a"), .uriRef (py "urn:p"), .uriRef (py "urn:b")⟩

def rdf : RdfLib where
  parse := fun text _ => if text = data then .ok [triple] else .error []
  parseError := fun _ => []
  literalValue := fun lexical _ => some (lexical, lexical ≠ [])
  validate := fun _ _ => .ok (true, [])

def driver : Neo4jDriver where
  beginTransaction := fun _ => .ok ()
  run := fun _ _ => .ok ()
  consume := fun _ _ => .ok ⟨2, 1⟩
  commit := fun _ => .ok ()
  closed := fun _ => true
  rollback := fun _ => .ok ()

/-- A gate for one domain without shapes. -/
def gate : WriteGate where
  schemaProvider := ⟨Dict.ofEntries [(domainName, ⟨domainName, .ok [], .ok []⟩)]⟩
  neo4jClient := some driver
  nonceSecret := nonceSecret
  nonceTtl := 300
  autonomyPolicy := none

/-- The nonce issued for the data at 100 seconds. -/
def nonce : Str := WriteGate.noncePayload 100 dataHash.text signature.text

/-- A validation and then writes of the validated data, all with the nonce issued at 100. -/
def calls : ℕ → GateCall
  | 0 => .verifyShaclCompliance domainName data (py "turtle")
  | _ => .executeGovernedWrite domainName data nonce (py "turtle")

def schedule : List ℕ := [0, 1, 1, 1, 1, 1, 1, 2, 2, 2, 2, 2, 2]

/-- A clock that stands still at 100 seconds. -/
def steadyHost : Host :=
  host (fun _ => 100) (fun _ => by norm_num) (fun _ _ _ => le_rfl) fun _ => by norm_num

/-- The clock shows 100 seconds until the first write is done and then 400 seconds. -/
def boundaryHost : Host :=
  host (fun tick => if tick < 11 then 100 else 400) (fun tick => by split <;> norm_num)
    (by
      intro tick later before
      dsimp only
      split <;> split <;> first | omega | norm_num)
    fun tick => by split <;> norm_num

/-- While the clock stands still the second write with the nonce is refused. -/
theorem steady_accepted_once :
    (gate.afterCalls steadyHost rdf calls [] schedule).state.history.countP
      (GateEvent.accepts signature.text) ≤ 1 :=
  WriteGate.nonce_accepted_once calls [] schedule (by decide +kernel) signature.text

/-- At the instant at which the TTL is over one nonce authorises two writes. -/
theorem boundary_accepted_twice :
    ¬ ∀ (host : Host) (rdf : RdfLib) (gate : WriteGate) (calls : ℕ → GateCall)
      (database : Database) (schedule : List ℕ) (signature : Str),
      (gate.afterCalls host rdf calls database schedule).state.history.countP
        (GateEvent.accepts signature) ≤ 1 := by
  intro claim
  have twice : (gate.afterCalls boundaryHost rdf calls [] schedule).state.history.countP
      (GateEvent.accepts signature.text) = 2 := by decide +kernel
  have once := claim boundaryHost rdf gate calls [] schedule signature.text
  rw [twice] at once
  exact absurd once (by decide)

end Sample

end AgentOS
