import AgentOS.Kernel.Host
import AgentOS.Python.Text

/-!
# Autonomy policy

Least-privilege checks: the session limit, the command allowlist and the write quotas. A
refused check raises a `PolicyViolationError`. Only the write quota keeps a state.
-/

namespace AgentOS

open Python Cooperative

/-- `CommandsPolicy`. -/
structure CommandsPolicy where
  mode : Str
  allowed : List Str
  denied : List Str

/-- `WriteQuotasPolicy`; the list of domains that require SHACL is only logged. -/
structure WriteQuotasPolicy where
  maxOperationsPerSession : ℤ
  maxOperationsPerMinute : ℤ

/-- `AutonomyPolicy`: the loaded configuration and the start of the session. -/
structure AutonomyPolicy where
  commands : CommandsPolicy
  writeQuotas : WriteQuotasPolicy
  maxDurationSeconds : ℤ
  sessionStart : ℚ

/-- The counters of `check_write_quota`. -/
structure WriteQuotaState where
  writeCount : ℕ
  writeTimestamps : List ℚ

namespace AutonomyPolicy

variable (host : Host) (policy : AutonomyPolicy) {σ : Type}

/-- `check_session_alive`. -/
def checkSessionAlive : Action Exc (Timed σ) Unit := do
  let now ← host.readTime
  let elapsed := now - policy.sessionStart
  raiseIf ((policy.maxDurationSeconds : ℚ) < elapsed)
    ⟨.policyViolationError,
      py "Session expired: running for " ++ host.fixed 0 elapsed ++ py "s (max: " ++
        strInt policy.maxDurationSeconds ++ py "s). Please start a new session.", none⟩

/-- `command.strip().split()[0] if command.strip() else ""`. -/
def program (command : Str) : Str := (split (strip command)).headD []

/-- `check_command`. -/
def checkCommand (command : Str) : Except Exc Unit :=
  if policy.commands.mode = py "allowlist" then
    if program command ∈ policy.commands.allowed then .ok ()
    else
      .error ⟨.policyViolationError,
        py "Command '" ++ program command ++ py "' is not in the allowlist. Allowed commands: " ++
          host.reprList policy.commands.allowed, none⟩
  else if program command ∈ policy.commands.denied then
    .error ⟨.policyViolationError,
      py "Command '" ++ program command ++
        py "' is explicitly denied. This command cannot be executed.", none⟩
  else .ok ()

/-- `check_write_quota`; a refusal by the rate limit still drops the old timestamps. -/
def checkWriteQuota : Action Exc (Timed WriteQuotaState) Unit := do
  let now ← host.readTime
  let count ← Timed.view WriteQuotaState.writeCount
  raiseIf (policy.writeQuotas.maxOperationsPerSession ≤ count)
    ⟨.policyViolationError,
      py "Write quota exhausted: " ++ strNat count ++ py "/" ++
        strInt policy.writeQuotas.maxOperationsPerSession ++
        py " operations this session. Start a new session to continue.", none⟩
  Timed.modify fun quota =>
    { quota with writeTimestamps := quota.writeTimestamps.filter fun ts => now - 60 < ts }
  let recent ← Timed.view fun quota => quota.writeTimestamps.length
  raiseIf (policy.writeQuotas.maxOperationsPerMinute ≤ recent)
    ⟨.policyViolationError,
      py "Write rate limit exceeded: " ++ strNat recent ++
        py " operations in the last 60s (max: " ++
        strInt policy.writeQuotas.maxOperationsPerMinute ++
        py "/min). Please wait before retrying.", none⟩
  Timed.modify fun quota =>
    { writeCount := quota.writeCount + 1
      writeTimestamps := quota.writeTimestamps ++ [now] }

/-- The timestamps of the last minute. -/
def recent (now : ℚ) (quota : WriteQuotaState) : List ℚ :=
  quota.writeTimestamps.filter fun ts => now - 60 < ts

/-- Another write at the time stays within both quotas. -/
def withinQuota (now : ℚ) (quota : WriteQuotaState) : Prop :=
  (quota.writeCount : ℤ) < policy.writeQuotas.maxOperationsPerSession ∧
    ((recent now quota).length : ℤ) < policy.writeQuotas.maxOperationsPerMinute

/-- The counters after a write at the time. -/
def counted (now : ℚ) (quota : WriteQuotaState) : WriteQuotaState :=
  ⟨quota.writeCount + 1, recent now quota ++ [now]⟩

theorem checkWriteQuota_eq_ok_iff {host : Host} {policy : AutonomyPolicy}
    {world final : Timed WriteQuotaState} :
    policy.checkWriteQuota host world = (.ok (), final) ↔
      policy.withinQuota (host.time world.tick) world.state ∧
        final = ⟨world.tick + 1, counted (host.time world.tick) world.state⟩ := by
  simp only [checkWriteQuota, Action.bind_eq_ok_iff, Host.readTime_apply, Timed.view_apply,
    raiseIf_eq_ok_iff, Timed.modify_apply, Prod.mk.injEq, Except.ok.injEq, ↓existsAndEq, true_and,
    and_assoc, exists_and_left, exists_const, not_le]
  constructor
  · rintro ⟨session, minute, rfl⟩
    exact ⟨⟨session, minute⟩, rfl⟩
  · rintro ⟨⟨session, minute⟩, rfl⟩
    exact ⟨session, minute, rfl⟩

/-- The session limit raises before anything is pruned, the rate limit after it. -/
theorem checkWriteQuota_apply (host : Host) (policy : AutonomyPolicy)
    (world : Timed WriteQuotaState) :
    (policy.writeQuotas.maxOperationsPerSession ≤ world.state.writeCount ∧
      ∃ exc, policy.checkWriteQuota host world = (.error exc, ⟨world.tick + 1, world.state⟩)) ∨
    ((world.state.writeCount : ℤ) < policy.writeQuotas.maxOperationsPerSession ∧
      policy.writeQuotas.maxOperationsPerMinute ≤
        (recent (host.time world.tick) world.state).length ∧
      ∃ exc, policy.checkWriteQuota host world = (.error exc, ⟨world.tick + 1,
        ⟨world.state.writeCount, recent (host.time world.tick) world.state⟩⟩)) ∨
    (policy.withinQuota (host.time world.tick) world.state ∧
      policy.checkWriteQuota host world =
        (.ok (), ⟨world.tick + 1, counted (host.time world.tick) world.state⟩)) := by
  simp only [checkWriteQuota, Action.bind_apply, Host.readTime_apply, Timed.view_apply,
    raiseIf_apply, Timed.modify_apply]
  by_cases session : policy.writeQuotas.maxOperationsPerSession ≤ world.state.writeCount
  · simp [session]
  · by_cases minute : policy.writeQuotas.maxOperationsPerMinute ≤
        (recent (host.time world.tick) world.state).length
    · rw [recent] at minute
      simp [session, minute, recent, not_le.mp session]
    · have within : policy.withinQuota (host.time world.tick) world.state :=
        ⟨not_le.mp session, not_le.mp minute⟩
      rw [recent] at minute
      simp [session, minute, recent, within, counted]

/-- The quota check reads the clock once. -/
theorem checkWriteQuota_tick (host : Host) (policy : AutonomyPolicy)
    (world : Timed WriteQuotaState) :
    (policy.checkWriteQuota host world).2.tick = world.tick + 1 := by
  rcases checkWriteQuota_apply host policy world with
    ⟨-, exc, same⟩ | ⟨-, -, exc, same⟩ | ⟨-, same⟩
  all_goals rw [same]

end AutonomyPolicy

end AgentOS
