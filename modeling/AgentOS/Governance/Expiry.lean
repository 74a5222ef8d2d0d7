import AgentOS.Governance.GateFailure
import AgentOS.Governance.Reissue

/-!
# Expired nonces

When a governed write is refused because the nonce that it presents has expired: within the
quota this is decided by the timestamp alone, whatever else is wrong with the nonce.
-/

namespace AgentOS

open Python Cooperative

namespace WriteGate

/-- The refusal of an expired nonce. -/
def nonceExpired (gate : WriteGate) : Exc := writeGateError
  (py "Validation nonce has expired (TTL=" ++ strInt gate.nonceTtl ++
    py "s). Please re-validate via verify_shacl_compliance.")

/-- `execute_governed_write` gets to `_verify_nonce`, which refuses the nonce as expired. -/
def RefusesExpired (host : Host) (gate : WriteGate) (domainName : Str) (value nonce : Json)
    (world : GateWorld) : Prop :=
  match value, nonce with
  | .str dataRdf, .str validationNonce =>
      (gate.verification host domainName dataRdf validationNonce (py "turtle") world).1 =
        .error gate.nonceExpired
  | value, nonce =>
      ((gate.checkQuota host >>= fun _ => gate.refuseValues host domainName value nonce :
        Action Exc GateWorld WriteResult) world).1 = .error gate.nonceExpired

variable {host : Host} {rdf : RdfLib} {gate : WriteGate}

/-- The refusal leaves `execute_governed_write` as it is. -/
theorem writeValue_of_refusesExpired (rdf : RdfLib) {domainName : Str} {value nonce : Json}
    {world : GateWorld} (refuses : gate.RefusesExpired host domainName value nonce world) :
    ((gate.writeValue host rdf domainName value nonce (py "turtle")).run world).1 =
      .error gate.nonceExpired := by
  have foreign : ∀ value nonce : Json,
      ((gate.checkQuota host >>= fun _ => gate.refuseValues host domainName value nonce :
        Action Exc GateWorld WriteResult) world).1 = .error gate.nonceExpired →
      ((Coro.sync (do
        gate.checkQuota host
        gate.refuseValues host domainName value nonce) : Coro Exc GateWorld WriteResult).run
          world).1 = .error gate.nonceExpired := by
    intro value nonce refused
    rw [Coro.run_sync]
    exact refused
  rcases value with _ | _ | _ | _ | dataRdf | _ | _
  case str =>
    rcases nonce with _ | _ | _ | _ | validationNonce | _ | _
    case str =>
      rcases verified : gate.verification host domainName dataRdf validationNonce (py "turtle")
        world with ⟨exc | ⟨⟩, final⟩
      · have entered : gate.enterWrite host rdf domainName dataRdf validationNonce (py "turtle")
            world = (.error exc, final) := by
          rw [enterWrite, authorizeWrite]
          rw [verification] at verified
          simp only [Action.bind_apply, AgentOS.note, Timed.modify_apply] at verified ⊢
          revert verified
          rcases gate.checkQuota host { world with state := world.state.note _ } with
            ⟨other | ⟨⟩, counted⟩
          · rintro ⟨⟩
            rfl
          · dsimp only
            rcases gate.verifyNonce host domainName dataRdf validationNonce counted with
              ⟨other | ⟨⟩, checked⟩
            · rintro ⟨⟩
              rfl
            · rintro ⟨⟩
        have raised : (Coro.sync (gate.enterWrite host rdf domainName dataRdf validationNonce
            (py "turtle"))).run world = (.error exc, final) := by
          rw [Coro.run_sync, entered]
        rw [writeValue, executeGovernedWrite, Coro.run_bind_of_error raised]
        rw [RefusesExpired, verified] at refuses
        exact congrArg Except.error (Except.error.inj refuses)
      · rw [RefusesExpired, verified] at refuses
        cases refuses
    all_goals exact foreign _ _ refuses
  all_goals exact foreign _ _ refuses

/-! ### Other exceptions -/

/-- The exception is another one than the refusal of an expired nonce. -/
def IsOther (gate : WriteGate) (exc : Exc) : Prop := exc ≠ gate.nonceExpired

theorem isOther_of_cls {exc : Exc} (other : exc.cls ≠ .writeGateError) : gate.IsOther exc := by
  rintro rfl
  exact other rfl

/-- A message that differs where the refusal says `expired` is another one. -/
theorem isOther_of_message {message : Str} (differs : message[21]? ≠ some 0x65) :
    gate.IsOther (writeGateError message) := by
  intro same
  have text : message = gate.nonceExpired.message := congrArg Exc.message same
  rw [text] at differs
  exact differs rfl

theorem ne_of_raisesOnly {α : Type} {body : Action Exc GateWorld α}
    (raises : body.RaisesOnly gate.IsOther) (world : GateWorld) :
    (body world).1 ≠ .error gate.nonceExpired := by
  rcases ended : body world with ⟨exc | value, final⟩
  · intro same
    exact raises world exc final ended (Except.error.inj same)
  · simp

theorem encode_isOther (host : Host) (text : Str) (exc : Exc)
    (raised : host.encode text = .error exc) : gate.IsOther exc := by
  apply isOther_of_cls
  unfold Host.encode at raised
  split at raised <;> cases raised
  simp [Exc.builtin]

theorem compareDigest_isOther {signature : Str} {expected : HexDigest} (exc : Exc)
    (raised : compareDigest signature expected = .error exc) : gate.IsOther exc := by
  apply isOther_of_cls
  unfold compareDigest at raised
  split at raised <;> cases raised
  simp [Exc.builtin]

theorem asVerification_expired_iff {α : Type} {body : Action Exc GateWorld α} {world : GateWorld} :
    (asVerification body world).1 = .error gate.nonceExpired ↔
      (body world).1 = .error gate.nonceExpired := by
  rw [asVerification, Action.tryCatch_apply]
  rcases body world with ⟨exc | value, final⟩
  · dsimp only
    split
    · rfl
    · rename_i other
      have wrapped : ∀ text : Str, writeGateError (py "Failed to verify validation nonce: " ++
          exc.message ++ text) ≠ gate.nonceExpired := by
        intro text
        apply isOther_of_message
        rw [List.append_assoc]
        intro same
        cases same
      have foreign : exc ≠ gate.nonceExpired := isOther_of_cls other
      constructor
      · intro same
        exact absurd (Except.error.inj same) (wrapped _)
      · intro same
        exact absurd (Except.error.inj same) foreign
  · simp

theorem raiseIf_of_not {refused : Prop} [Decidable refused] (passes : ¬ refused) (exc : Exc)
    (world : GateWorld) : raiseIf refused exc world = (.ok (), world) := by
  rw [raiseIf_apply, if_neg passes]

/-- A timestamp of the clock is refused exactly when it is older than the TTL. -/
theorem checkSignature_expired_iff {domainName text dataHash signature : Str} {timestamp : ℤ}
    {world : GateWorld} (parsed : int text = some timestamp)
    (small : exceedsFloat timestamp = false) :
    (gate.checkSignature host domainName text dataHash signature world).1 =
        .error gate.nonceExpired ↔
      (gate.nonceTtl : ℚ) < host.monotonic world.tick - timestamp := by
  have read : (ofExcept (host.parseInt text) : Action Exc GateWorld ℤ) world =
      (.ok timestamp, world) := by
    rw [ofExcept_apply, Host.parseInt_eq_ok_iff.mpr parsed]
  have now : (host.readMonotonic : Action Exc GateWorld ℚ) world =
      (.ok (host.monotonic world.tick), world.read) := rfl
  rw [checkSignature, Action.bind_of_ok read, Action.bind_of_ok now,
    Action.bind_of_ok (raiseIf_of_not (by simp [small]) _ _)]
  by_cases expired : (gate.nonceTtl : ℚ) < host.monotonic world.tick - timestamp
  · simp only [expired, iff_true]
    rw [Action.bind_apply, raiseIf_apply, if_pos expired]
    rfl
  · simp only [expired, iff_false]
    rw [Action.bind_of_ok (raiseIf_of_not expired _ _)]
    apply ne_of_raisesOnly
    apply Action.raisesOnly_bind
    · unfold cleanupExpiredNonces
      refine Action.raisesOnly_bind (raisesOnly_draw _) ?_
      intro now
      exact Action.raisesOnly_bind (Action.raisesOnly_update _) fun _ => Action.raisesOnly_pure _
    intro swept
    refine Action.raisesOnly_bind (Action.raisesOnly_update _) ?_
    intro _
    refine Action.raisesOnly_bind (Action.raisesOnly_read _) ?_
    intro consumed
    refine Action.raisesOnly_bind (raisesOnly_raiseIf (isOther_of_message (by decide))) ?_
    intro _
    refine Action.raisesOnly_bind (raisesOnly_ofExcept (encode_isOther host _)) ?_
    intro payload
    refine Action.raisesOnly_bind (raisesOnly_ofExcept compareDigest_isOther) ?_
    intro same
    refine Action.raisesOnly_bind (raisesOnly_raiseIf (isOther_of_message (by decide))) ?_
    intro _
    exact Action.raisesOnly_bind (Action.raisesOnly_update _) fun _ => Action.raisesOnly_pure _

/-- After the signature only the data are compared. -/
theorem checkParts_expired_iff {domainName dataRdf text dataHash signature : Str}
    {world : GateWorld} :
    (gate.checkParts host domainName dataRdf text dataHash signature world).1 =
        .error gate.nonceExpired ↔
      (gate.checkSignature host domainName text dataHash signature world).1 =
        .error gate.nonceExpired := by
  rw [checkParts, Action.bind_apply]
  rcases gate.checkSignature host domainName text dataHash signature world with
    ⟨exc | now, final⟩
  · rfl
  · simp only [reduceCtorEq, iff_false]
    apply ne_of_raisesOnly
    refine Action.raisesOnly_bind (raisesOnly_ofExcept (encode_isOther host _)) ?_
    intro bytes
    refine Action.raisesOnly_bind (raisesOnly_raiseIf (isOther_of_message (by decide))) ?_
    intro _
    exact Action.raisesOnly_bind (raisesOnly_draw _) fun _ => Action.raisesOnly_pure _

/-- A nonce in the form in which the gate issues it. -/
def Stamped (host : Host) (nonce : Str) (issued : ℚ) : Prop :=
  (∃ tick, issued = host.monotonic tick) ∧ ∃ dataHash signature : HexDigest,
    nonce = noncePayload (truncate issued) dataHash.text signature.text

/-- The parts of an issued nonce. -/
theorem Stamped.parts {nonce : Str} {issued : ℚ} (stamped : Stamped host nonce issued) :
    ∃ text dataHash signature, splitSep 0x3A nonce = [text, dataHash, signature] ∧
      int text = some ⌊issued⌋ ∧ exceedsFloat ⌊issued⌋ = false := by
  rcases stamped with ⟨⟨tick, rfl⟩, dataHash, signature, rfl⟩
  have small := timestamp_small host tick
  have floor := truncate_monotonic host tick
  refine ⟨strInt (truncate (host.monotonic tick)), dataHash.text, signature.text, ?_, ?_, ?_⟩
  · rw [noncePayload, splitSep_append (colon_not_mem_strInt _),
      splitSep_append (HexDigest.colon_not_mem _), splitSep_of_not_mem (HexDigest.colon_not_mem _)]
  · have digits : (truncate (host.monotonic tick)).natAbs < 10 ^ 34 :=
      small.trans_le (Nat.pow_le_pow_left (by norm_num) 34)
    rw [int_strInt (by norm_num) (by norm_num) digits, floor]
  · rw [floor] at small
    have large : ∀ power, 34 ≤ power → 2 ^ 34 ≤ 2 ^ power := fun power above =>
      Nat.pow_le_pow_right (by norm_num) above
    have bound := large 970 (by norm_num)
    have split : 2 ^ 1024 = 2 ^ 970 * 2 ^ 54 := by rw [← pow_add]
    simp only [exceedsFloat, decide_eq_false_iff_not, not_le]
    omega

/-- The nonce of a validation is stamped with its reading of the clock. -/
theorem stamped_of_verified {domainName dataRdf rdfFormat nonce : Str}
    {report : SHACLValidationReport} {world : GateWorld}
    (issued : (gate.verifyShaclCompliance host rdf domainName dataRdf rdfFormat world).1 =
      .ok (report, some nonce)) : Stamped host nonce (host.monotonic world.tick) :=
  ⟨⟨_, rfl⟩, _, _, (verifyShaclCompliance_nonce issued).2.2⟩

/-- The quota refuses with another exception. -/
theorem checkQuota_bind_expired_iff {α : Type} {rest : Action Exc GateWorld α}
    {world : GateWorld} :
    ((gate.checkQuota host >>= fun _ => rest) world).1 = .error gate.nonceExpired ↔
      gate.WithinQuota host world ∧
        (rest (gate.countedWorld host world)).1 = .error gate.nonceExpired := by
  rw [Action.bind_apply]
  rcases checked : gate.checkQuota host world with ⟨exc | ⟨⟩, counted⟩
  · have other : gate.IsOther exc := by
      apply isOther_of_cls
      simp [checkQuota_refuses world exc counted checked]
    constructor
    · intro same
      exact absurd (Except.error.inj same) other
    · rintro ⟨within, -⟩
      rw [checkQuota_eq_ok_iff.mpr ⟨within, rfl⟩] at checked
      cases checked
  · rcases checkQuota_eq_ok_iff.mp checked with ⟨within, rfl⟩
    simp [within]

theorem withinQuota_note (host : Host) (gate : WriteGate) (event : GateEvent)
    (world : GateWorld) :
    gate.WithinQuota host (world.note event) ↔ gate.WithinQuota host world := by
  unfold WithinQuota
  rcases gate.autonomyPolicy with _ | _ <;> rfl

/-- Within the quota, the nonce has expired when its second is further back than the TTL. -/
theorem refusesExpired_iff {domainName : Str} (value : Json) {nonce : Str} {issued : ℚ}
    {world : GateWorld} (stamped : Stamped host nonce issued) :
    gate.RefusesExpired host domainName value (.str nonce) world ↔
      gate.WithinQuota host world ∧
        (gate.nonceTtl : ℚ) < host.monotonic (gate.countedWorld host world).tick - ⌊issued⌋ := by
  rcases stamped.parts with ⟨text, dataHash, signature, split, parsed, small⟩
  have expires : ∀ world, (gate.checkSignature host domainName text dataHash signature world).1 =
      .error gate.nonceExpired ↔ (gate.nonceTtl : ℚ) < host.monotonic world.tick - ⌊issued⌋ :=
    fun world => checkSignature_expired_iff parsed small
  have foreign : ∀ value, ((gate.checkQuota host >>= fun _ =>
      gate.refuseValues host domainName value (.str nonce) : Action Exc GateWorld WriteResult)
        world).1 = .error gate.nonceExpired ↔ gate.WithinQuota host world ∧
          (gate.nonceTtl : ℚ) < host.monotonic (gate.countedWorld host world).tick - ⌊issued⌋ := by
    intro value
    rw [checkQuota_bind_expired_iff, refuseValues, asVerification_expired_iff, ← expires,
      refuseBody, split]
    dsimp only
    rw [Action.bind_apply]
    rcases gate.checkSignature host domainName text dataHash signature
      (gate.countedWorld host world) with ⟨exc | now, final⟩
    · simp
    · have other : noAttribute value "encode" ≠ gate.nonceExpired :=
        isOther_of_cls (by simp [noAttribute, Exc.builtin])
      simp [other]
  rcases value with _ | _ | _ | _ | dataRdf | _ | _
  case str =>
    let event : GateEvent := .called domainName dataRdf nonce (py "turtle")
    have called : AgentOS.note event world = (.ok (), world.note event) := rfl
    have expired : (gate.checkSignature host domainName text dataHash signature
        ((gate.countedWorld host world).note event)).1 = .error gate.nonceExpired ↔
          (gate.nonceTtl : ℚ) < host.monotonic (gate.countedWorld host world).tick - ⌊issued⌋ :=
      expires _
    rw [RefusesExpired, verification, Action.bind_of_ok called, checkQuota_bind_expired_iff,
      withinQuota_note, countedWorld_note, verifyNonce, asVerification_expired_iff, verifyBody,
      split, ← expired, ← checkParts_expired_iff]
    dsimp only
    rw [Action.bind_apply]
    rcases gate.checkParts host domainName dataRdf text dataHash signature
      ((gate.countedWorld host world).note event) with ⟨exc | now, final⟩ <;>
      simp [AgentOS.note]
  all_goals exact foreign _

end WriteGate

end AgentOS
