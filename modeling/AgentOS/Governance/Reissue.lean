import AgentOS.Governance.GovernedWrite
import AgentOS.Governance.Replay

/-!
# Re-validated data

The timestamp of a nonce counts whole seconds, so that data validated twice within a second
get the same nonce. The table of consumed nonces outlives both: a nonce that is within its
TTL passes exactly when its signature was not consumed, by whatever call, in the last TTL
seconds.
-/

namespace AgentOS

open Python Cooperative

/-- Every entry of the table of consumed nonces was made by a consumption. -/
def EntriesConsumed (ttl : ℤ) (world : GateWorld) : Prop :=
  ∀ signature expires, world.state.consumedNonces.get? signature = some expires →
    ∃ consumed, .burned signature consumed ∈ world.state.history ∧ expires = consumed + ttl

namespace WriteGate

variable (host : Host) (rdf : RdfLib) (gate : WriteGate)

/-- `execute_governed_write` up to the end of `_verify_nonce`. -/
def verification (domainName dataRdf validationNonce rdfFormat : Str) :
    Action Exc GateWorld Unit := do
  note (.called domainName dataRdf validationNonce rdfFormat)
  gate.checkQuota host
  gate.verifyNonce host domainName dataRdf validationNonce

/-- A write called now passes `_verify_nonce`. -/
def PassesVerification (domainName dataRdf validationNonce rdfFormat : Str) (world : GateWorld) :
    Prop :=
  (gate.verification host domainName dataRdf validationNonce rdfFormat world).1 = .ok ()

/-- The signature in the nonce that conforming data get now. -/
def issuedSignature (domainName dataRdf : Str) (world : GateWorld) : Str :=
  (host.hmacSha256 gate.nonceSecret (currentPayload host domainName dataRdf world)).text

/-- Every consumption of the signature is forgotten by the sweep of the next check. -/
def Unspent (signature : Str) (world : GateWorld) : Prop :=
  ∀ consumed, .burned signature consumed ∈ world.state.history →
    consumed + gate.nonceTtl ≤ host.monotonic (world.tick + 1)

variable {host rdf gate}

theorem entriesConsumed_of_step {world world' : GateWorld}
    (step : GateStep host rdf gate True world world')
    (consumed : EntriesConsumed gate.nonceTtl world) : EntriesConsumed gate.nonceTtl world' := by
  have kept : ∀ signature expires, world.state.consumedNonces.get? signature = some expires →
      ∃ time, .burned signature time ∈ world'.state.history ∧ expires = time + gate.nonceTtl := by
    intro signature expires entry
    rcases consumed signature expires entry with ⟨time, mem, rfl⟩
    exact ⟨time, step.history_grows.subset mem, rfl⟩
  have swept : ∀ {world : GateWorld} {signature expires},
      (world.sweep host).state.consumedNonces.get? signature = some expires →
        world.state.consumedNonces.get? signature = some expires := by
    intro world signature expires entry
    simp only [GateWorld.sweep, Dict.get?_filter, Option.filter_eq_some_iff] at entry
    exact entry.1
  cases step with
  | call | read | quota | note | cache | issue | submit | commit => exact kept
  | sweep => exact fun signature expires entry => kept signature expires (swept entry)
  | accept admits =>
      rename_i domainName dataRdf nonce burnedSignature dataHash timestamp
      intro signature expires entry
      rw [consumedWorld_nonces] at entry
      by_cases same : signature = burnedSignature
      · subst same
        rw [Dict.get?_set_self, Option.some.injEq] at entry
        exact ⟨_, by rw [consumedWorld_history]; exact List.mem_cons_self, entry.symm⟩
      · rw [Dict.get?_set_of_ne _ _ same] at entry
        exact kept signature expires (@swept world.read _ _ entry)

/-- In a state that calls lead to, the look-up answers for the whole history of consumptions. -/
theorem unused_iff {world : GateWorld} (tracked : Tracked host gate.nonceTtl world)
    (consumed : EntriesConsumed gate.nonceTtl world) (signature : Str) :
    (world.read.sweep host).state.consumedNonces.get? signature = none ↔
      gate.Unspent host signature world := by
  constructor
  · intro unused time mem
    by_contra young
    exact lookup_finds tracked mem (not_le.mp young) unused
  · intro unspent
    rcases entry : (world.read.sweep host).state.consumedNonces.get? signature with _ | expires
    · rfl
    · exfalso
      simp only [GateWorld.sweep, Dict.get?_filter, Option.filter_eq_some_iff, decide_eq_true_eq]
        at entry
      rcases consumed signature expires entry.1 with ⟨time, mem, rfl⟩
      exact absurd entry.2 (not_lt.mpr (unspent time mem))

theorem currentPayload_cachedWorld (host : Host) (gate : WriteGate) (domainName dataRdf : Str)
    (world : GateWorld) :
    currentPayload host domainName dataRdf (gate.cachedWorld host domainName world) =
      currentPayload host domainName dataRdf world := by
  rw [currentPayload, (cachedWorld_state host gate domainName world).1]
  rfl

/-- The nonce that a validation returns. -/
theorem verifyShaclCompliance_nonce {domainName dataRdf rdfFormat nonce : Str}
    {report : SHACLValidationReport} {world : GateWorld}
    (issued : (gate.verifyShaclCompliance host rdf domainName dataRdf rdfFormat world).1 =
      .ok (report, some nonce)) :
    encodable dataRdf = true ∧ encodable (currentPayload host domainName dataRdf world) = true ∧
      nonce = noncePayload (truncate (host.monotonic world.tick)) (host.sha256 dataRdf).text
        (gate.issuedSignature host domainName dataRdf world) := by
  have looked := getValidator_apply host gate domainName world
  have ticks := (cachedWorld_state host gate domainName world).1
  rcases found : gate.shapesFor host domainName world.state with exc | shapes <;>
    rw [found] at looked
  · rw [verifyShaclCompliance, Action.bind_of_error looked] at issued
    cases issued
  rw [verifyShaclCompliance, Action.bind_of_ok looked] at issued
  rcases checked : checkData rdf shapes dataRdf rdfFormat with exc | checkedReport
  · rw [checked] at issued
    cases issued
  have reduced : ((if checkedReport.isValid then
        gate.issueNonce host domainName dataRdf rdfFormat checkedReport
      else pure (checkedReport, none)) (gate.cachedWorld host domainName world)).1 =
        .ok (report, some nonce) := by
    rw [checked] at issued
    exact issued
  split at reduced
  · rcases generated : gate.generateNonce host domainName dataRdf
      (gate.cachedWorld host domainName world) with ⟨exc | ⟨made, time⟩, final⟩
    · rw [issueNonce, Action.bind_of_error generated] at reduced
      cases reduced
    · rw [issueNonce, Action.bind_of_ok generated] at reduced
      rcases generateNonce_eq_ok_iff.mp generated with ⟨data, payload, rfl, shape, rfl⟩
      rw [currentPayload_cachedWorld] at payload shape
      rw [ticks] at shape
      refine ⟨data, payload, ?_⟩
      cases reduced
      exact shape
  · cases reduced

theorem truncate_monotonic (host : Host) (tick : ℕ) :
    truncate (host.monotonic tick) = ⌊host.monotonic tick⌋ :=
  if_pos (host.monotonic_nonneg tick)

/-- A timestamp of the clock is small enough to be read back and compared. -/
theorem timestamp_small (host : Host) (tick : ℕ) :
    (truncate (host.monotonic tick)).natAbs < 2 ^ 34 := by
  rw [truncate_monotonic]
  have low : 0 ≤ ⌊host.monotonic tick⌋ := Int.floor_nonneg.mpr (host.monotonic_nonneg tick)
  have high : ⌊host.monotonic tick⌋ < 2 ^ 34 := by
    rw [Int.floor_lt]
    exact_mod_cast host.monotonic_lt tick
  omega

/-- An issued nonce within its TTL is refused only because its signature is in the table. -/
theorem admits_issued_iff {domainName dataRdf rdfFormat nonce : Str}
    {report : SHACLValidationReport} {world later : GateWorld}
    (issued : (gate.verifyShaclCompliance host rdf domainName dataRdf rdfFormat world).1 =
      .ok (report, some nonce))
    (inTime : host.monotonic later.tick ≤ host.monotonic world.tick + gate.nonceTtl - 1) :
    (∃ signature timestamp dataHash,
      Admits host gate domainName dataRdf nonce signature timestamp dataHash later) ↔
      (later.read.sweep host).state.consumedNonces.get?
        (gate.issuedSignature host domainName dataRdf world) = none := by
  rcases verifyShaclCompliance_nonce issued with ⟨dataEncodes, payloadEncodes, shape⟩
  have small := timestamp_small host world.tick
  have parts : splitSep 0x3A nonce = [strInt (truncate (host.monotonic world.tick)),
      (host.sha256 dataRdf).text, gate.issuedSignature host domainName dataRdf world] := by
    rw [shape, noncePayload, splitSep_append (colon_not_mem_strInt _),
      splitSep_append (HexDigest.colon_not_mem _), issuedSignature,
      splitSep_of_not_mem (HexDigest.colon_not_mem _)]
  constructor
  · rintro ⟨signature, timestamp, dataHash, admits⟩
    rcases admits.parts with ⟨text, split, _⟩
    have same : gate.issuedSignature host domainName dataRdf world = signature := by
      rw [parts] at split
      simpa using congrArg List.getLast? split
    rw [same]
    exact admits.unused
  · intro unused
    have digits : (truncate (host.monotonic world.tick)).natAbs < 10 ^ 34 :=
      small.trans_le (Nat.pow_le_pow_left (by norm_num) 34)
    refine ⟨_, _, _, ⟨_, parts, int_strInt (by norm_num) (by norm_num) digits⟩, ?_, ?_, unused,
      payloadEncodes, rfl, dataEncodes, rfl⟩
    · have large : ∀ power, 34 ≤ power → 2 ^ 34 ≤ 2 ^ power := fun power above =>
        Nat.pow_le_pow_right (by norm_num) above
      have split : 2 ^ 1024 = 2 ^ 970 * 2 ^ 54 := by rw [← pow_add]
      have bound := large 970 (by norm_num)
      simp only [exceedsFloat, decide_eq_true_eq, not_le]
      omega
    · have fraction := Int.lt_floor_add_one (host.monotonic world.tick)
      rw [truncate_monotonic]
      linarith

/-- Without a quota a call passes `_verify_nonce` when its nonce is admitted. -/
theorem passesVerification_iff (unlimited : gate.autonomyPolicy = none)
    {domainName dataRdf nonce rdfFormat : Str} {world : GateWorld} :
    gate.PassesVerification host domainName dataRdf nonce rdfFormat world ↔
      ∃ signature timestamp dataHash,
        Admits host gate domainName dataRdf nonce signature timestamp dataHash world := by
  have quota : gate.checkQuota host = pure () := by
    simp only [checkQuota, unlimited]
  have verified : gate.verification host domainName dataRdf nonce rdfFormat world =
      gate.verifyNonce host domainName dataRdf nonce
        (world.note (.called domainName dataRdf nonce rdfFormat)) := by
    rw [verification, quota]
    rfl
  rw [PassesVerification, verified]
  constructor
  · intro passed
    rcases checked : gate.verifyNonce host domainName dataRdf nonce
      (world.note (.called domainName dataRdf nonce rdfFormat)) with ⟨exc | ⟨⟩, final⟩
    · rw [checked] at passed
      cases passed
    · rcases verifyNonce_eq_ok_iff.mp checked with ⟨signature, timestamp, dataHash, admits, _⟩
      exact ⟨signature, timestamp, dataHash, admits_note.mp admits⟩
  · rintro ⟨signature, timestamp, dataHash, admits⟩
    rw [verifyNonce_eq_ok_iff.mpr ⟨_, _, _, admits_note.mpr admits, rfl⟩]

/-! ### Runs -/

/-- What a run knows about the table of consumed nonces. -/
theorem afterCalls_table (host : Host) (rdf : RdfLib) (gate : WriteGate) (calls : ℕ → GateCall)
    (database : Database) (schedule : List ℕ) :
    Tracked host gate.nonceTtl (gate.afterCalls host rdf calls database schedule) ∧
      EntriesConsumed gate.nonceTtl (gate.afterCalls host rdf calls database schedule) := by
  have reached := gate.afterCalls_induction host rdf
    (motive := fun world => StampedBefore host world ∧ Tracked host gate.nonceTtl world ∧
      EntriesConsumed gate.nonceTtl world)
    calls database schedule ?start ?keeps
  · exact reached.2
  case start =>
    refine ⟨?_, ?_, ?_⟩
    · intro signature consumed mem
      cases mem
    · intro signature consumed mem
      cases mem
    · intro signature expires entry
      cases entry
  case keeps =>
    rintro world world' step ⟨stamped, tracked, consumed⟩
    exact ⟨stampedBefore_of_step step stamped, tracked_of_step step stamped tracked,
      entriesConsumed_of_step step consumed⟩

/--
In every run: a write that presents the nonce of a validation within the TTL, less the second
that the timestamp may lack, passes `_verify_nonce` exactly when no call, the earlier ones
included, consumed the signature of the nonce in the last TTL seconds.
-/
theorem issued_nonce_passes_iff (unlimited : gate.autonomyPolicy = none) (calls : ℕ → GateCall)
    (database : Database) (earlier later : List ℕ)
    {domainName dataRdf nonce validationFormat : Str} (rdfFormat : Str)
    {report : SHACLValidationReport}
    (issued : (gate.verifyShaclCompliance host rdf domainName dataRdf validationFormat
      (gate.afterCalls host rdf calls database earlier)).1 = .ok (report, some nonce))
    (inTime : host.monotonic (gate.afterCalls host rdf calls database (earlier ++ later)).tick ≤
      host.monotonic (gate.afterCalls host rdf calls database earlier).tick +
        gate.nonceTtl - 1) :
    gate.PassesVerification host domainName dataRdf nonce rdfFormat
        (gate.afterCalls host rdf calls database (earlier ++ later)) ↔
      gate.Unspent host
        (gate.issuedSignature host domainName dataRdf
          (gate.afterCalls host rdf calls database earlier))
        (gate.afterCalls host rdf calls database (earlier ++ later)) := by
  rcases gate.afterCalls_table host rdf calls database (earlier ++ later) with
    ⟨tracked, consumed⟩
  rw [passesVerification_iff unlimited, admits_issued_iff issued inTime,
    unused_iff tracked consumed]

end WriteGate

namespace Sample

/-- The data are validated and written, and validated and written again. -/
def repeatedCalls : ℕ → GateCall
  | 0 | 2 => .verifyShaclCompliance domainName data (py "turtle")
  | _ => .executeGovernedWrite domainName data nonce (py "turtle")

/-- The run in which the first nonce was used and the data were validated again. -/
def revalidated : GateWorld :=
  gate.afterCalls steadyHost rdf repeatedCalls [] ([0, 1, 1, 1, 1, 1, 1] ++ [2])

theorem nonce_issued_again :
    (gate.verifyShaclCompliance steadyHost rdf domainName data (py "turtle")
      (gate.afterCalls steadyHost rdf repeatedCalls [] [0, 1, 1, 1, 1, 1, 1])).1 =
        .ok (⟨true, []⟩, some nonce) := by decide +kernel

theorem steady_nonce_passes_iff :
    gate.PassesVerification steadyHost domainName data nonce (py "turtle") revalidated ↔
      gate.Unspent steadyHost
        (gate.issuedSignature steadyHost domainName data
          (gate.afterCalls steadyHost rdf repeatedCalls [] [0, 1, 1, 1, 1, 1, 1]))
        revalidated :=
  WriteGate.issued_nonce_passes_iff rfl repeatedCalls [] [0, 1, 1, 1, 1, 1, 1] [2] (py "turtle")
    nonce_issued_again (by norm_num [steadyHost, host, gate])

/-- Within one second the second validation returns the nonce that is already consumed. -/
theorem revalidation_repeats_nonce :
    ¬ ∀ (host : Host) (rdf : RdfLib) (gate : WriteGate) (calls : ℕ → GateCall)
      (database : Database) (earlier later : List ℕ)
      (domainName dataRdf nonce validationFormat rdfFormat : Str)
      (report : SHACLValidationReport), gate.autonomyPolicy = none →
      (gate.verifyShaclCompliance host rdf domainName dataRdf validationFormat
        (gate.afterCalls host rdf calls database earlier)).1 = .ok (report, some nonce) →
      host.monotonic (gate.afterCalls host rdf calls database (earlier ++ later)).tick ≤
        host.monotonic (gate.afterCalls host rdf calls database earlier).tick +
          gate.nonceTtl - 1 →
      gate.PassesVerification host domainName dataRdf nonce rdfFormat
        (gate.afterCalls host rdf calls database (earlier ++ later)) := by
  intro claim
  have passes := claim steadyHost rdf gate repeatedCalls [] [0, 1, 1, 1, 1, 1, 1] [2] domainName
    data nonce (py "turtle") (py "turtle") ⟨true, []⟩ rfl nonce_issued_again
    (by norm_num [steadyHost, host, gate])
  revert passes
  unfold WriteGate.PassesVerification
  decide +kernel

end Sample

end AgentOS
