import AgentOS.Governance.Authorisation

/-!
# Restarts

The monotonic clock counts from the boot of the machine, and the TTL check compares one of
its readings with the timestamp of the nonce from above only. Processes of one boot read one
clock; after a reboot the clock starts again, so that a nonce of an earlier boot seems to
come from the future. The age of an accepted nonce in real time is bounded for the nonces
that were signed since the boot.
-/

namespace AgentOS

open Python Cooperative

/-- One process: its gate, which starts with empty tables, and the calls on it. -/
structure Session where
  schemaProvider : SchemaProvider
  neo4jClient : Option Neo4jDriver
  nonceTtl : ℤ
  autonomyPolicy : Option AutonomyPolicy
  calls : ℕ → GateCall
  schedule : List ℕ

/-- The machine from one boot to the next: its clocks and the processes, one after another. -/
structure Boot where
  /-- The real time at which the monotonic clock showed zero. -/
  startedAt : ℚ
  monotonic : ℕ → ℚ
  monotonic_nonneg : ∀ tick, 0 ≤ monotonic tick
  monotonic_mono : Monotone monotonic
  monotonic_lt : ∀ tick, monotonic tick < 2 ^ 34
  time : ℕ → ℚ
  sessions : List Session

/-- An event with the boot it happened in and the TTL of the gate. -/
structure LogEntry where
  event : GateEvent
  startedAt : ℚ
  ttl : ℤ
  deriving DecidableEq

def Session.gate (nonceSecret : Str) (session : Session) : WriteGate where
  schemaProvider := session.schemaProvider
  neo4jClient := session.neo4jClient
  nonceSecret := nonceSecret
  nonceTtl := session.nonceTtl
  autonomyPolicy := session.autonomyPolicy

/-- The host with the clocks of the boot. -/
def Boot.host (base : Host) (boot : Boot) : Host :=
  { base with
    monotonic := boot.monotonic
    monotonic_nonneg := boot.monotonic_nonneg
    monotonic_mono := boot.monotonic_mono
    monotonic_lt := boot.monotonic_lt
    time := boot.time }

section Runs

variable (host : Host) (rdf : RdfLib) (nonceSecret : Str)

/-- The gate of a process when the process stops. -/
def Session.stopped (session : Session) (start : Timed Database) : GateWorld :=
  (Pool.exec ⟨⟨start.tick, GateState.initial start.state⟩,
    fun i => (session.calls i).task host rdf (session.gate nonceSecret)⟩ session.schedule).state

def Session.entries (session : Session) (startedAt : ℚ) (history : List GateEvent) :
    List LogEntry :=
  history.map fun event => ⟨event, startedAt, session.nonceTtl⟩

/-- The log, newest entry first, and the database after the processes of a boot. -/
def runSessions (startedAt : ℚ) :
    List Session → Timed Database → List LogEntry → List LogEntry × Database
  | [], start, log => (log, start.state)
  | session :: rest, start, log =>
      let world := session.stopped host rdf nonceSecret start
      runSessions startedAt rest ⟨world.tick, world.state.database⟩
        (session.entries startedAt world.state.history ++ log)

/-- The log after the boots of a machine. -/
def runBoots : List Boot → Database → List LogEntry → List LogEntry
  | [], _, log => log
  | boot :: rest, database, log =>
      let ran := runSessions (boot.host host) rdf nonceSecret boot.startedAt boot.sessions
        ⟨0, database⟩ log
      runBoots rest ran.2 ran.1

end Runs

/-- The payload that a nonce carries for a domain. -/
def payloadOf (domainName nonce : Str) : Option Str :=
  match splitSep 0x3A nonce with
  | [text, dataHash, _] =>
      (int text).map fun timestamp => WriteGate.noncePayload timestamp dataHash domainName
  | _ => none

namespace LogEntry

/-- The payload of an accepted nonce was signed since the boot. -/
def SignedSinceBoot (entry : LogEntry) (earlier : List LogEntry) : Prop :=
  match entry.event with
  | .accepted domain _ nonce _ _ =>
      ∃ other ∈ earlier, other.startedAt = entry.startedAt ∧
        some other.event = (payloadOf domain nonce).map GateEvent.signed
  | _ => True

/-- The real time at which the entry issued the nonce for the domain. -/
def issuedAt (host : Host) (domainName nonce : Str) (entry : LogEntry) : Option ℚ :=
  match entry.event with
  | .validated domain data _ issued =>
      if domain = domainName ∧ payloadOf domainName nonce =
          some (WriteGate.noncePayload (truncate issued) (host.sha256 data).text domainName) then
        some (issued + entry.startedAt)
      else none
  | _ => none

/-- An accepted nonce was issued for its domain at most TTL + 1 seconds ago in real time. -/
def IssuedInTime (host : Host) (entry : LogEntry) (earlier : List LogEntry) : Prop :=
  match entry.event with
  | .accepted domain _ nonce _ time =>
      ∃ other ∈ earlier, ∃ issued ∈ other.issuedAt host domain nonce,
        time + entry.startedAt - issued ≤ entry.ttl + 1
  | _ => True

instance (entry : LogEntry) (earlier : List LogEntry) :
    Decidable (entry.SignedSinceBoot earlier) := by
  unfold SignedSinceBoot
  split <;> infer_instance

instance (host : Host) (entry : LogEntry) (earlier : List LogEntry) :
    Decidable (entry.IssuedInTime host earlier) := by
  unfold IssuedInTime
  split <;> infer_instance

end LogEntry

/-- The event is a validation that stamped the payload. -/
def StampedBy (host : Host) (payload : Str) (event : GateEvent) : Prop :=
  ∃ domain data format issued, event = .validated domain data format issued ∧ 0 ≤ issued ∧
    payload = WriteGate.noncePayload (truncate issued) (host.sha256 data).text domain

/-- An accepted nonce is within its TTL, and what was signed before was validated before. -/
def GateEvent.AcceptedSoundly (host : Host) (ttl : ℤ) (event : GateEvent)
    (earlier : List GateEvent) : Prop :=
  match event with
  | accepted domain _ nonce _ time =>
      (∃ timestamp data, payloadOf domain nonce =
          some (WriteGate.noncePayload timestamp (host.sha256 data).text domain) ∧
        time - timestamp ≤ ttl) ∧
      ∀ payload, .signed payload ∈ earlier → ∃ other ∈ earlier, StampedBy host payload other
  | _ => True

namespace WriteGate

variable {host : Host} {rdf : RdfLib} {gate : WriteGate}

theorem stampedBy_of_issuedSoundly {world : GateWorld} (sound : IssuedSoundly host rdf gate world)
    {payload : Str} (signed : .signed payload ∈ world.state.history) :
    ∃ event ∈ world.state.history, StampedBy host payload event := by
  rcases sound.stamped payload signed with ⟨domain, data, format, issued, mem, shape⟩
  rcases (sound.conformed _ _ _ _ mem).2 with ⟨tick, _, rfl⟩
  exact ⟨_, mem, domain, data, format, _, rfl, host.monotonic_nonneg tick, shape⟩

theorem acceptedSoundly_of_step {world world' : GateWorld}
    (step : GateStep host rdf gate True world world') (sound : IssuedSoundly host rdf gate world)
    (accepted : EventLog.Each (GateEvent.AcceptedSoundly host gate.nonceTtl)
      world.state.history) :
    EventLog.Each (GateEvent.AcceptedSoundly host gate.nonceTtl) world'.state.history := by
  cases step with
  | read | quota | sweep | cache | commit => exact accepted
  | call | submit => exact ⟨trivial, accepted⟩
  | issue => exact ⟨trivial, trivial, accepted⟩
  | note neutral =>
      refine ⟨?_, accepted⟩
      rename_i event
      cases event <;> trivial
  | accept admits =>
      rename_i domainName dataRdf nonce signature dataHash timestamp
      rw [consumedWorld_history]
      refine ⟨trivial, ⟨⟨timestamp, dataRdf, ?_, admits.timely⟩, ?_⟩, trivial, trivial, accepted⟩
      · rcases admits.parts with ⟨text, split, parsed⟩
        rw [payloadOf, split, admits.hashed]
        simp [parsed]
      · intro payload signed
        have before : .signed payload ∈ world.state.history := by simpa using signed
        rcases stampedBy_of_issuedSoundly sound before with ⟨event, mem, stamped⟩
        exact ⟨event, by simp [mem], stamped⟩

end WriteGate

/-- What a process leaves in its history. -/
theorem Session.stopped_sound (host : Host) (rdf : RdfLib) (nonceSecret : Str)
    (session : Session) (start : Timed Database) :
    (∀ payload, .signed payload ∈ (session.stopped host rdf nonceSecret start).state.history →
      ∃ event ∈ (session.stopped host rdf nonceSecret start).state.history,
        StampedBy host payload event) ∧
    EventLog.Each (GateEvent.AcceptedSoundly host session.nonceTtl)
      (session.stopped host rdf nonceSecret start).state.history := by
  have moved := Pool.exec_follows ⟨⟨start.tick, GateState.initial start.state⟩,
    fun i => (session.calls i).task host rdf (session.gate nonceSecret)⟩
    (fun i => (session.calls i).task_follows host rdf (session.gate nonceSecret))
    session.schedule
  have reached := @Action.holds_of_steps _ _ (fun world : GateWorld =>
      (WriteGate.CacheSound (session.gate nonceSecret) world.state ∧
        WriteGate.IssuedSoundly host rdf (session.gate nonceSecret) world) ∧
      EventLog.Each (GateEvent.AcceptedSoundly host session.nonceTtl) world.state.history) _ _
    ?keeps moved ?start
  · exact ⟨fun payload signed => WriteGate.stampedBy_of_issuedSoundly reached.1.2 signed,
      reached.2⟩
  case keeps =>
    rintro world world' step ⟨⟨cache, sound⟩, accepted⟩
    exact ⟨⟨WriteGate.cacheSound_of_step step cache,
      WriteGate.issuedSoundly_of_step step cache sound⟩,
      WriteGate.acceptedSoundly_of_step step sound accepted⟩
  case start =>
    refine ⟨⟨?_, ⟨?_, ?_⟩⟩, trivial⟩
    · intro domainName shapes found
      cases found
    · intro _ _ _ _ mem
      cases mem
    · intro _ mem
      cases mem

/-- Every signed payload of the log was stamped in the same boot. -/
def Settled (host : Host) (log : List LogEntry) : Prop :=
  ∀ entry ∈ log, ∀ payload, entry.event = .signed payload →
    ∃ other ∈ log, other.startedAt = entry.startedAt ∧ StampedBy host payload other.event

theorem Session.entries_settled {host : Host} (session : Session) (startedAt : ℚ)
    {history : List GateEvent} {log : List LogEntry}
    (stamped : ∀ payload, .signed payload ∈ history →
      ∃ event ∈ history, StampedBy host payload event)
    (settled : Settled host log) : Settled host (session.entries startedAt history ++ log) := by
  intro entry mem payload signed
  rcases List.mem_append.mp mem with new | old
  · rcases List.mem_map.mp new with ⟨event, eventMem, rfl⟩
    rcases stamped payload (signed ▸ eventMem) with ⟨other, otherMem, by_other⟩
    exact ⟨⟨other, startedAt, session.nonceTtl⟩,
      List.mem_append_left _ (List.mem_map_of_mem otherMem), rfl, by_other⟩
  · rcases settled entry old payload signed with ⟨other, otherMem, same, by_other⟩
    exact ⟨other, List.mem_append_right _ otherMem, same, by_other⟩

/-- One process more: its acceptances are in time. -/
theorem Session.entries_inTime {host : Host} (session : Session) (startedAt : ℚ)
    {history : List GateEvent} {log : List LogEntry}
    (accepted : EventLog.Each (GateEvent.AcceptedSoundly host session.nonceTtl) history)
    (settled : Settled host log)
    (since : EventLog.Each LogEntry.SignedSinceBoot (session.entries startedAt history ++ log))
    (before : EventLog.Each (LogEntry.IssuedInTime host) log) :
    EventLog.Each (LogEntry.IssuedInTime host) (session.entries startedAt history ++ log) := by
  induction history with
  | nil => exact before
  | cons event earlier ih =>
      refine ⟨?_, ih accepted.2 since.2⟩
      have sound := accepted.1
      have signed := since.1
      rcases event with _ | _ | _ | _ | _ | ⟨domain, data, nonce, signature, time⟩ | _ | _ | _
      case accepted =>
        rcases sound with ⟨⟨timestamp, hashed, carried, timely⟩, stamped⟩
        rcases signed with ⟨other, mem, sameBoot, signing⟩
        rcases Option.map_eq_some_iff.mp signing.symm with ⟨payload, found, signing⟩
        have issue : ∃ issue ∈ session.entries startedAt earlier ++ log,
            issue.startedAt = startedAt ∧ StampedBy host payload issue.event := by
          rcases List.mem_append.mp mem with new | old
          · rcases List.mem_map.mp new with ⟨event, eventMem, rfl⟩
            rcases stamped payload (signing.symm ▸ eventMem) with ⟨validation, validMem, by_it⟩
            exact ⟨⟨validation, startedAt, session.nonceTtl⟩,
              List.mem_append_left _ (List.mem_map_of_mem validMem), rfl, by_it⟩
          · rcases settled other old payload signing.symm with ⟨validation, validMem, same, by_it⟩
            exact ⟨validation, List.mem_append_right _ validMem, same.trans sameBoot, by_it⟩
        rcases issue with ⟨issue, issueMem, issueBoot, domain', data', format, issued, shape, low,
          rfl⟩
        have same := Option.some.inj (found.symm.trans carried)
        rcases WriteGate.noncePayload_injective (HexDigest.colon_not_mem _)
          (HexDigest.colon_not_mem _) same with ⟨stamp, hashes, rfl⟩
        refine ⟨issue, issueMem, issued + issue.startedAt, ?_, ?_⟩
        · simp only [LogEntry.issuedAt, shape, Option.mem_def]
          exact if_pos ⟨trivial, found⟩
        have fraction := Int.floor_le issued
        rw [truncate, if_pos low] at stamp
        rw [← stamp] at timely
        rw [issueBoot]
        linarith
      all_goals trivial

/-- The log keeps what its boots established, whatever processes come next. -/
theorem runSessions_inTime (host : Host) (rdf : RdfLib) (nonceSecret : Str) (boot : Boot)
    (sessions : List Session) (start : Timed Database) {log : List LogEntry}
    (settled : Settled host log)
    (inTime : EventLog.Each LogEntry.SignedSinceBoot log →
      EventLog.Each (LogEntry.IssuedInTime host) log) :
    Settled host
        (runSessions (boot.host host) rdf nonceSecret boot.startedAt sessions start log).1 ∧
      (EventLog.Each LogEntry.SignedSinceBoot
          (runSessions (boot.host host) rdf nonceSecret boot.startedAt sessions start log).1 →
        EventLog.Each (LogEntry.IssuedInTime host)
          (runSessions (boot.host host) rdf nonceSecret boot.startedAt sessions start log).1) := by
  induction sessions generalizing start log with
  | nil => exact ⟨settled, inTime⟩
  | cons session rest ih =>
      rcases session.stopped_sound (boot.host host) rdf nonceSecret start with ⟨stamped, accepted⟩
      apply ih
      · exact session.entries_settled boot.startedAt stamped settled
      · intro since
        have before := since.suffix (List.suffix_append _ log)
        exact session.entries_inTime boot.startedAt accepted settled since (inTime before)

theorem runBoots_inTime (host : Host) (rdf : RdfLib) (nonceSecret : Str) (boots : List Boot)
    (database : Database) {log : List LogEntry} (settled : Settled host log)
    (inTime : EventLog.Each LogEntry.SignedSinceBoot log →
      EventLog.Each (LogEntry.IssuedInTime host) log)
    (since : EventLog.Each LogEntry.SignedSinceBoot
      (runBoots host rdf nonceSecret boots database log)) :
    EventLog.Each (LogEntry.IssuedInTime host)
      (runBoots host rdf nonceSecret boots database log) := by
  induction boots generalizing database log with
  | nil => exact inTime since
  | cons boot rest ih =>
      rcases runSessions_inTime host rdf nonceSecret boot boot.sessions ⟨0, database⟩ settled inTime
        with ⟨settled', inTime'⟩
      exact ih _ settled' inTime' since

/-- Every accepted nonce of the log was issued at most TTL + 1 seconds before in real time. -/
structure ExpirySurvives (host : Host) (log : List LogEntry) : Prop where
  inTime : EventLog.Each (LogEntry.IssuedInTime host) log

instance (host : Host) (log : List LogEntry) : Decidable (ExpirySurvives host log) :=
  decidable_of_iff (EventLog.Each (LogEntry.IssuedInTime host) log)
    ⟨fun inTime => ⟨inTime⟩, fun survives => survives.inTime⟩

/--
Over any boots of a machine and any processes on it: when every accepted nonce was signed
since the boot, every accepted nonce was issued at most TTL + 1 seconds ago in real time.
-/
theorem accepted_nonces_in_time (host : Host) (rdf : RdfLib) (nonceSecret : Str)
    (boots : List Boot) (database : Database)
    (since : EventLog.Each LogEntry.SignedSinceBoot
      (runBoots host rdf nonceSecret boots database [])) :
    ExpirySurvives host (runBoots host rdf nonceSecret boots database []) := by
  refine ⟨runBoots_inTime host rdf nonceSecret boots database ?_ (fun _ => EventLog.each_nil)
    since⟩
  intro entry mem
  cases mem

namespace Sample

def session (calls : ℕ → GateCall) (schedule : List ℕ) : Session where
  schemaProvider := gate.schemaProvider
  neo4jClient := gate.neo4jClient
  nonceTtl := gate.nonceTtl
  autonomyPolicy := gate.autonomyPolicy
  calls := calls
  schedule := schedule

/-- A boot whose clock stands still. -/
def boot (startedAt reading : ℚ) (nonneg : 0 ≤ reading) (small : reading < 2 ^ 34)
    (sessions : List Session) : Boot where
  startedAt := startedAt
  monotonic := fun _ => reading
  monotonic_nonneg := fun _ => nonneg
  monotonic_mono := fun _ _ _ => le_rfl
  monotonic_lt := fun _ => small
  time := fun _ => 1000
  sessions := sessions

/-- The data are validated in one process and written in the next one. -/
def oneBoot : List Boot :=
  [boot 0 100 (by norm_num) (by norm_num)
    [session calls [0], session calls [1, 1, 1, 1, 1, 1]]]

/-- The machine is rebooted a day after the validation, and the data are written then. -/
def rebooted : List Boot :=
  [boot 0 100 (by norm_num) (by norm_num) [session calls [0]],
    boot 86400 5 (by norm_num) (by norm_num) [session calls [1, 1, 1, 1, 1, 1]]]

theorem one_boot_in_time :
    ExpirySurvives steadyHost (runBoots steadyHost rdf nonceSecret oneBoot [] []) :=
  accepted_nonces_in_time steadyHost rdf nonceSecret oneBoot [] (by decide +kernel)

/-- After a reboot a nonce is accepted a day after it was issued. -/
theorem stale_nonce_accepted :
    ¬ ∀ (host : Host) (rdf : RdfLib) (nonceSecret : Str) (boots : List Boot)
      (database : Database),
      ExpirySurvives host (runBoots host rdf nonceSecret boots database []) := by
  intro claim
  have survives := claim steadyHost rdf nonceSecret rebooted []
  have stale : ¬ ExpirySurvives steadyHost
      (runBoots steadyHost rdf nonceSecret rebooted [] []) := by
    decide +kernel
  exact stale survives

end Sample

end AgentOS
