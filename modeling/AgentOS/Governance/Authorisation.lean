import AgentOS.Governance.Replay

/-!
# Every authorised write was validated

Under the usual assumptions about the digests, a nonce that passes was issued to the same
data in the same domain, and what reaches the database is the translation of data that
conformed once more in the same call. The signed text is unambiguous: neither a timestamp
nor a hash contains a colon, so the domain may contain any.
-/

namespace AgentOS

open Python Cooperative

/-- A signature verifies only for a payload that was signed before. -/
def GateEvent.Unforged (event : GateEvent) (earlier : List GateEvent) : Prop :=
  match event with
  | verified payload _ => .signed payload ∈ earlier
  | _ => True

instance (event : GateEvent) (earlier : List GateEvent) : Decidable (event.Unforged earlier) := by
  unfold GateEvent.Unforged
  split <;> infer_instance

/-- The data that a validation or an acceptance hashed. -/
def GateEvent.hashedData : GateEvent → Option Str
  | validated _ data _ _ => some data
  | accepted _ data _ _ _ => some data
  | _ => none

/-- No two texts hashed in the history have the same digest. -/
def NoCollision (host : Host) (history : List GateEvent) : Prop :=
  ∀ data ∈ history.filterMap GateEvent.hashedData,
    ∀ data' ∈ history.filterMap GateEvent.hashedData,
      (host.sha256 data).text = (host.sha256 data').text → data = data'

instance (host : Host) (history : List GateEvent) : Decidable (NoCollision host history) := by
  unfold NoCollision
  infer_instance

/-- An accepted nonce goes back to a validation of the same data within the TTL. -/
def GateEvent.Authorised (ttl : ℤ) (event : GateEvent) (earlier : List GateEvent) : Prop :=
  match event with
  | accepted domain data _ _ time =>
      ∃ format issued, .validated domain data format issued ∈ earlier ∧ issued ≤ time ∧
        time - ⌊issued⌋ ≤ ttl
  | _ => True

/-- The graph conforms to the shapes that the provider loads for the domain. -/
def WriteGate.ConformsTo (rdf : RdfLib) (gate : WriteGate) (domainName : Str) (graph : Graph) :
    Prop :=
  ∃ domain shapes results, gate.schemaProvider.getDomain domainName = some domain ∧
    domain.shaclGraph = .ok shapes ∧ rdf.validate graph shapes = .ok (true, results)

/-- Submitted statements translate a graph that conformed in the same, authorised call. -/
def GateEvent.Validated (rdf : RdfLib) (gate : WriteGate) (event : GateEvent)
    (earlier : List GateEvent) : Prop :=
  match event with
  | submitted domain data format statements =>
      ∃ graph issued payload signature consumed nonce time before,
        rdf.parse data format = .ok graph ∧ statements = rdfToCypherStatements rdf graph ∧
        gate.ConformsTo rdf domain graph ∧
        earlier = .validated domain data format issued :: .signed payload ::
          .burned signature consumed :: .accepted domain data nonce signature time :: before
  | _ => True

/-- Every batch of the database beyond the initial ones was submitted as it stands. -/
def WritesSubmitted (initial : Database) (gate : GateState) : Prop :=
  ∀ batch ∈ gate.database, batch ∈ initial ∨
    ∃ domain data format, .submitted domain data format batch ∈ gate.history

variable {host : Host} {rdf : RdfLib} {gate : WriteGate}

theorem NoCollision.suffix {earlier history : List GateEvent}
    (noCollision : NoCollision host history) (before : earlier <:+ history) :
    NoCollision host earlier := by
  have kept := (before.filterMap GateEvent.hashedData).subset
  intro data mem data' mem'
  exact noCollision data (kept mem) data' (kept mem')

theorem WritesSubmitted.grows {initial : Database} {state state' : GateState}
    (written : WritesSubmitted initial state) (database : state'.database = state.database)
    (grows : state.history ⊆ state'.history) : WritesSubmitted initial state' := by
  intro batch mem
  rw [database] at mem
  rcases written batch mem with old | ⟨domain, data, format, submitted⟩
  · exact .inl old
  · exact .inr ⟨domain, data, format, grows submitted⟩

namespace WriteGate

theorem noncePayload_injective {timestamp timestamp' : ℤ}
    {dataHash dataHash' domainName domainName' : Str} (solid : 0x3A ∉ dataHash)
    (solid' : 0x3A ∉ dataHash')
    (same : noncePayload timestamp dataHash domainName =
      noncePayload timestamp' dataHash' domainName') :
    timestamp = timestamp' ∧ dataHash = dataHash' ∧ domainName = domainName' := by
  have outer := append_sep_inj (colon_not_mem_strInt _) (colon_not_mem_strInt _) same
  have inner := append_sep_inj solid solid' outer.2
  exact ⟨strInt_injective outer.1, inner.1, inner.2⟩

/-- Every statement has text, so that the batch runs all of them. -/
theorem runnable_translation (rdf : RdfLib) (graph : Graph) :
    Neo4jDriver.runnable (rdfToCypherStatements rdf graph) = rdfToCypherStatements rdf graph := by
  rw [Neo4jDriver.runnable, List.filter_eq_self]
  intro statement mem
  rcases List.mem_map.mp mem with ⟨triple, _, rfl⟩
  have start : ∃ rest, tripleToCypher rdf triple = 0x4D :: rest := by
    simp only [tripleToCypher, List.append_assoc]
    exact ⟨_, rfl⟩
  rcases start with ⟨rest, shape⟩
  rw [shape, decide_eq_true_eq, strip, List.dropWhile_cons_of_neg (by decide)]
  intro blank
  have spaces := List.rdropWhile_eq_nil_iff.mp blank
  exact absurd (spaces 0x4D List.mem_cons_self) (by decide)

/-- The cached validators are those of the schema provider. -/
def CacheSound (gate : WriteGate) (state : GateState) : Prop :=
  ∀ domainName shapes, state.validators.get? domainName = some shapes →
    ∃ domain, gate.schemaProvider.getDomain domainName = some domain ∧
      domain.shaclGraph = .ok shapes

theorem cacheSound_of_step {world world' : GateWorld}
    (step : GateStep host rdf gate True world world')
    (sound : CacheSound gate world.state) : CacheSound gate world'.state := by
  cases step with
  | call | read | quota | sweep | note | issue | accept | submit | commit => exact sound
  | cache known loaded =>
      rename_i domainName domain shapes
      intro other found get
      change (world.state.validators.set domainName shapes).get? other = some found at get
      by_cases same : other = domainName
      · subst same
        rw [Dict.get?_set_self, Option.some.injEq] at get
        exact ⟨domain, known, get ▸ loaded⟩
      · rw [Dict.get?_set_of_ne _ _ same] at get
        exact sound other found get

/-- What the validations of the history did. -/
structure IssuedSoundly (host : Host) (rdf : RdfLib) (gate : WriteGate) (world : GateWorld) :
    Prop where
  conformed : ∀ domain data format issued,
    .validated domain data format issued ∈ world.state.history →
      (∃ graph, rdf.parse data format = .ok graph ∧ gate.ConformsTo rdf domain graph) ∧
      ∃ tick < world.tick, issued = host.monotonic tick
  stamped : ∀ payload, .signed payload ∈ world.state.history →
    ∃ domain data format issued, .validated domain data format issued ∈ world.state.history ∧
      payload = noncePayload (truncate issued) (host.sha256 data).text domain

theorem issuedSoundly_of_other {world world' : GateWorld} (ticks : world.tick ≤ world'.tick)
    (grows : world.state.history ⊆ world'.state.history)
    (validations : ∀ domain data format issued,
      .validated domain data format issued ∈ world'.state.history →
        .validated domain data format issued ∈ world.state.history)
    (signatures : ∀ payload, .signed payload ∈ world'.state.history →
      .signed payload ∈ world.state.history)
    (sound : IssuedSoundly host rdf gate world) : IssuedSoundly host rdf gate world' := by
  refine ⟨?_, ?_⟩
  · intro domain data format issued mem
    rcases sound.conformed _ _ _ _ (validations _ _ _ _ mem) with ⟨conformed, tick, before, rfl⟩
    exact ⟨conformed, tick, before.trans_le ticks, rfl⟩
  · intro payload mem
    rcases sound.stamped payload (signatures payload mem) with
      ⟨domain, data, format, issued, held, rfl⟩
    exact ⟨domain, data, format, issued, grows held, rfl⟩

theorem issuedSoundly_of_step {world world' : GateWorld}
    (step : GateStep host rdf gate True world world') (cache : CacheSound gate world.state)
    (sound : IssuedSoundly host rdf gate world) : IssuedSoundly host rdf gate world' := by
  have ticks := step.tick_le
  have grows := step.history_grows.subset
  cases step with
  | read | quota | sweep | cache | commit =>
      exact issuedSoundly_of_other ticks grows (fun _ _ _ _ mem => mem) (fun _ mem => mem) sound
  | note neutral =>
      rename_i event
      apply issuedSoundly_of_other ticks grows _ _ sound
      · intro domain data format issued mem
        rcases List.mem_cons.mp mem with rfl | mem
        · cases neutral
        · exact mem
      · intro payload mem
        rcases List.mem_cons.mp mem with rfl | mem
        · cases neutral
        · exact mem
  | accept admits =>
      apply issuedSoundly_of_other ticks grows _ _ sound <;> intros <;> simp_all
  | call | submit =>
      apply issuedSoundly_of_other ticks grows _ _ sound <;> intros <;> simp_all
  | issue cached parsed conforms =>
      rename_i domainName dataRdf rdfFormat shapes graph results
      refine ⟨?_, ?_⟩
      · intro domain data format issued mem
        simp only [issuedWorld_history, List.mem_cons, GateEvent.validated.injEq, reduceCtorEq,
          false_or] at mem
        rcases mem with ⟨rfl, rfl, rfl, rfl⟩ | mem
        · rcases cache domain shapes cached with ⟨schema, known, loaded⟩
          exact ⟨⟨graph, parsed, schema, shapes, results, known, loaded, conforms⟩, world.tick,
            Nat.lt_succ_self _, rfl⟩
        · rcases sound.conformed _ _ _ _ mem with ⟨conformed, tick, before, rfl⟩
          exact ⟨conformed, tick, before.trans_le ticks, rfl⟩
      · intro payload mem
        simp only [issuedWorld_history, List.mem_cons, GateEvent.signed.injEq, reduceCtorEq,
          false_or] at mem
        rcases mem with rfl | mem
        · exact ⟨domainName, dataRdf, rdfFormat, _, by simp, rfl⟩
        · rcases sound.stamped payload mem with ⟨domain, data, format, issued, held, rfl⟩
          exact ⟨domain, data, format, issued, grows held, rfl⟩

/-- A nonce that verifies is the one issued to the same data in the same domain. -/
theorem authorised_of_admits {world : GateWorld}
    {domainName dataRdf nonce signature dataHash : Str} {timestamp : ℤ}
    (admits : Admits host gate domainName dataRdf nonce signature timestamp dataHash world)
    (sound : IssuedSoundly host rdf gate world)
    (unforged : .signed (noncePayload timestamp dataHash domainName) ∈ world.state.history)
    (noCollision : ∀ data, data ∈ world.state.history.filterMap GateEvent.hashedData →
      (host.sha256 data).text = (host.sha256 dataRdf).text → data = dataRdf) :
    ∃ format issued, .validated domainName dataRdf format issued ∈ world.state.history ∧
      issued ≤ host.monotonic world.tick ∧
      host.monotonic world.tick - ⌊issued⌋ ≤ gate.nonceTtl := by
  rcases sound.stamped _ unforged with ⟨domain, data, format, issued, mem, payload⟩
  rw [← admits.hashed] at payload
  rcases noncePayload_injective (HexDigest.colon_not_mem _) (HexDigest.colon_not_mem _) payload
    with ⟨rfl, hashes, rfl⟩
  have same := noCollision data (List.mem_filterMap.mpr ⟨_, mem, rfl⟩) hashes.symm
  subst same
  rcases (sound.conformed _ _ _ _ mem).2 with ⟨tick, before, rfl⟩
  refine ⟨format, _, mem, host.monotonic_mono before.le, ?_⟩
  have timely := admits.timely
  rwa [truncate, if_pos (host.monotonic_nonneg tick)] at timely

/-- The statements about a history that hold under the assumptions about the digests. -/
structure Governed (rdf : RdfLib) (gate : WriteGate) (initial : Database) (state : GateState) :
    Prop where
  authorised : EventLog.Each (GateEvent.Authorised gate.nonceTtl) state.history
  validated : EventLog.Each (GateEvent.Validated rdf gate) state.history
  written : WritesSubmitted initial state

theorem governed_of_step {initial : Database} {world world' : GateWorld}
    (step : GateStep host rdf gate True world world') (sound : IssuedSoundly host rdf gate world)
    (unforged : EventLog.Each GateEvent.Unforged world'.state.history)
    (noCollision : NoCollision host world'.state.history)
    (governed : Governed rdf gate initial world.state) :
    Governed rdf gate initial world'.state := by
  have grows := step.history_grows.subset
  cases step with
  | read | quota | sweep | cache =>
      exact ⟨governed.authorised, governed.validated, governed.written⟩
  | call => exact ⟨⟨trivial, governed.authorised⟩, ⟨trivial, governed.validated⟩,
      governed.written.grows rfl grows⟩
  | note neutral =>
      refine ⟨⟨?_, governed.authorised⟩, ⟨?_, governed.validated⟩, governed.written.grows rfl grows⟩
      all_goals
        rename_i event
        cases event <;> trivial
  | issue => exact ⟨⟨trivial, trivial, governed.authorised⟩, ⟨trivial, trivial, governed.validated⟩,
      governed.written.grows rfl grows⟩
  | accept admits =>
      rename_i domainName dataRdf nonce signature dataHash timestamp
      rw [consumedWorld_history] at unforged noCollision
      have signed : .signed (noncePayload timestamp dataHash domainName) ∈
          .lookedUp (noncePayload timestamp dataHash domainName) signature timestamp
            (host.monotonic world.tick) (host.monotonic (world.tick + 1)) ::
              world.state.history :=
        unforged.2.2.1
      have distinct : ∀ data, data ∈ world.state.history.filterMap GateEvent.hashedData →
          (host.sha256 data).text = (host.sha256 dataRdf).text → data = dataRdf := by
        intro data mem
        exact noCollision data (List.mem_cons_of_mem dataRdf mem) dataRdf List.mem_cons_self
      rcases authorised_of_admits admits sound (by simpa using signed) distinct with
        ⟨format, issued, mem, ordered, timely⟩
      refine ⟨⟨trivial, ⟨format, issued,
        List.mem_cons_of_mem _ (List.mem_cons_of_mem _ mem), ordered, timely⟩, trivial, trivial,
        governed.authorised⟩, ⟨trivial, trivial, trivial, trivial, governed.validated⟩,
        governed.written.grows rfl grows⟩
  | submit history parsed =>
      rename_i domainName dataRdf rdfFormat payload nonce signature issued consumed passed earlier
        graph
      refine ⟨⟨trivial, governed.authorised⟩, ⟨?_, governed.validated⟩,
        governed.written.grows rfl grows⟩
      have mem : .validated domainName dataRdf rdfFormat issued ∈ world.state.history := by
        simp [history]
      rcases (sound.conformed _ _ _ _ mem).1 with ⟨graph', parsed', conforms⟩
      rw [parsed] at parsed'
      cases parsed'
      exact ⟨graph, issued, payload, signature, consumed, nonce, passed, earlier, parsed, rfl,
        conforms, history⟩
  | commit submitted =>
      rename_i domainName dataRdf rdfFormat statements
      refine ⟨governed.authorised, governed.validated, ?_⟩
      intro batch mem
      rcases List.mem_append.mp mem with old | new
      · exact governed.written batch old
      · rw [List.mem_singleton] at new
        rcases governed.validated.of_mem submitted with
          ⟨_, _, graph, _, _, _, _, _, _, _, _, rfl, _⟩
        rw [runnable_translation] at new
        subst new
        exact .inr ⟨domainName, dataRdf, rdfFormat, submitted⟩

/--
In every interleaving of calls, with any nonces: an accepted nonce was issued to the same
data in the same domain within the TTL, and what is submitted or written translates data
that conformed again in the same authorised call.
-/
theorem authorised_writes_were_validated (calls : ℕ → GateCall) (database : Database)
    (schedule : List ℕ)
    (unforged : EventLog.Each GateEvent.Unforged
      (gate.afterCalls host rdf calls database schedule).state.history)
    (noCollision : NoCollision host
      (gate.afterCalls host rdf calls database schedule).state.history) :
    Governed rdf gate database (gate.afterCalls host rdf calls database schedule).state := by
  have reached := gate.afterCalls_induction host rdf
    (motive := fun world => (CacheSound gate world.state ∧ IssuedSoundly host rdf gate world) ∧
      (EventLog.Each GateEvent.Unforged world.state.history →
        NoCollision host world.state.history → Governed rdf gate database world.state))
    calls database schedule ?start ?keeps
  · exact reached.2 unforged noCollision
  case start =>
    refine ⟨⟨?_, ⟨?_, ?_⟩⟩, fun _ _ => ⟨trivial, trivial, fun _ mem => .inl mem⟩⟩
    · intro domainName shapes found
      cases found
    · intro _ _ _ _ mem
      cases mem
    · intro _ mem
      cases mem
  case keeps =>
    rintro world world' step ⟨⟨cache, sound⟩, governed⟩
    refine ⟨⟨cacheSound_of_step step cache, issuedSoundly_of_step step cache sound⟩, ?_⟩
    intro unforged noCollision
    have before := step.history_grows
    exact governed_of_step step sound unforged noCollision
      (governed (unforged.suffix before) (noCollision.suffix before))

end WriteGate

/-- The run of the sample gate on a steady clock meets the assumptions. -/
theorem Sample.steady_governed :
    WriteGate.Governed Sample.rdf Sample.gate []
      (Sample.gate.afterCalls Sample.steadyHost Sample.rdf Sample.calls []
        Sample.schedule).state :=
  WriteGate.authorised_writes_were_validated Sample.calls [] Sample.schedule (by decide +kernel)
    (by decide +kernel)

end AgentOS
