import AgentOS.Kernel.Host
import AgentOS.Python.Dict

/-!
# Billing fuse

The cost of every recorded usage is added up; once the sum exceeds the budget the fuse
trips and every further record raises. Money is a float: every operation on it rounds, and
how is a part of the fuse, so that the same definitions speak of exact arithmetic too.
-/

namespace AgentOS

open Python Cooperative

/-- Prices in US dollars for a million tokens. -/
structure Rates where
  prompt : ℚ
  completion : ℚ

structure TokenUsage where
  promptTokens : ℤ
  completionTokens : ℤ
  model : Str
  timestamp : ℚ
  deriving DecidableEq

structure BillingFuse where
  budgetCapUsd : ℚ
  pricingTable : Dict Str Rates
  revokeOnTrip : Bool
  defaultRates : Rates
  /-- The registered revoke callback: what its call does, from how often it was called before. -/
  revokeCallback : Option (ℕ → Except Exc Unit)
  /-- What an operation on floats makes of its exact result. -/
  round : ℚ → ℚ

structure FuseState where
  spendUsd : ℚ
  usageHistory : List TokenUsage
  tripped : Bool
  /-- How often the revoke callback was called. -/
  revocations : ℕ

namespace BillingFuse

variable (host : Host) (fuse : BillingFuse)

/-- The price of some tokens: the count becomes a float, is divided and multiplied. -/
def tokenCost (tokens : ℤ) (rate : ℚ) : ℚ :=
  fuse.round (fuse.round (fuse.round tokens / 1000000) * rate)

/-- `_calculate_cost`. -/
def calculateCost (usage : TokenUsage) : ℚ :=
  let rates := (fuse.pricingTable.get? usage.model).getD fuse.defaultRates
  let promptCost := fuse.tokenCost usage.promptTokens rates.prompt
  let completionCost := fuse.tokenCost usage.completionTokens rates.completion
  fuse.round (promptCost + completionCost)

/-- The spend after a usage was added up. -/
def newSpend (usage : TokenUsage) (state : FuseState) : ℚ :=
  fuse.round (state.spendUsd + fuse.calculateCost usage)

def alreadyTripped (spend : ℚ) : Exc :=
  ⟨.billingFuseTrippedError,
    py "Billing fuse already tripped. Cumulative spend: $" ++ host.fixed 4 spend ++ py " / $" ++
      host.fixed 2 fuse.budgetCapUsd, none⟩

def budgetExceeded (spend : ℚ) : Exc :=
  ⟨.billingFuseTrippedError,
    py "Budget exceeded: $" ++ host.fixed 4 spend ++ py " spent of $" ++
      host.fixed 2 fuse.budgetCapUsd ++ py " cap. All further LLM calls are blocked.", none⟩

/-- The state after a usage was added up. -/
def charge (usage : TokenUsage) (state : FuseState) : FuseState :=
  { state with
    spendUsd := fuse.newSpend usage state
    usageHistory := state.usageHistory ++ [usage] }

/-- The call of the registered callback, which does not touch the fuse. -/
def callRevoke (callback : ℕ → Except Exc Unit) : Action Exc FuseState Unit := fun state =>
  (callback state.revocations, { state with revocations := state.revocations + 1 })

/-- The credentials are revoked if configured; what the callback raises is only logged. -/
def revoke : Action Exc FuseState Unit :=
  match fuse.revokeOnTrip, fuse.revokeCallback with
  | true, some callback => tryCatch (callRevoke callback) fun _ => pure ()
  | _, _ => pure ()

def recordUsage (usage : TokenUsage) : Action Exc FuseState ℚ := fun state =>
  if state.tripped then (.error (fuse.alreadyTripped host state.spendUsd), state)
  else
    let charged := fuse.charge usage state
    if fuse.budgetCapUsd < charged.spendUsd then
      (do
        fuse.revoke
        throw (fuse.budgetExceeded host charged.spendUsd)) { charged with tripped := true }
    else (.ok charged.spendUsd, charged)

/-- `reset`. -/
def reset (state : FuseState) : FuseState :=
  { state with spendUsd := 0, usageHistory := [], tripped := false }

/-- The state of a new fuse. -/
def initial : FuseState := ⟨0, [], false, 0⟩

/-- The fuse has not tripped and the usage stays within the budget. -/
def WithinBudget (usage : TokenUsage) (state : FuseState) : Prop :=
  state.tripped = false ∧ fuse.newSpend usage state ≤ fuse.budgetCapUsd

/-- How often one trip calls the callback. -/
def revocationsPerTrip : ℕ :=
  if fuse.revokeOnTrip && fuse.revokeCallback.isSome then 1 else 0

/-- The state after the fuse tripped and the callback, if any, was called. -/
def trip (state : FuseState) : FuseState :=
  { state with
    tripped := true
    revocations := state.revocations + fuse.revocationsPerTrip }

/-- Revoking returns whatever the callback does. -/
theorem revoke_apply (state : FuseState) :
    fuse.revoke { state with tripped := true } = (.ok (), fuse.trip state) := by
  unfold revoke trip revocationsPerTrip
  rcases fuse.revokeOnTrip with _ | _
  · rfl
  · rcases fuse.revokeCallback with _ | callback
    · rfl
    · simp only [Action.tryCatch_apply, callRevoke]
      rcases callback state.revocations with _ | _ <;> rfl

theorem recordUsage_of_tripped {usage : TokenUsage} {state : FuseState}
    (tripped : state.tripped = true) : fuse.recordUsage host usage state =
      (.error (fuse.alreadyTripped host state.spendUsd), state) := by
  simp [recordUsage, tripped]

theorem recordUsage_of_within {usage : TokenUsage} {state : FuseState}
    (within : fuse.WithinBudget usage state) : fuse.recordUsage host usage state =
      (.ok (fuse.newSpend usage state), fuse.charge usage state) := by
  simp [recordUsage, within.1, charge, not_lt.mpr within.2]

theorem recordUsage_of_beyond {usage : TokenUsage} {state : FuseState}
    (untripped : state.tripped = false)
    (beyond : fuse.budgetCapUsd < fuse.newSpend usage state) :
    fuse.recordUsage host usage state =
      (.error (fuse.budgetExceeded host (fuse.newSpend usage state)),
        fuse.trip (fuse.charge usage state)) := by
  have revoked := fuse.revoke_apply (fuse.charge usage state)
  simp only [recordUsage, untripped, charge, beyond, Bool.false_eq_true, if_false, if_true]
  exact Action.bind_of_ok revoked

/-- A usage is recorded within the budget and raises outside of it. -/
theorem recordUsage_cases (usage : TokenUsage) (state : FuseState) :
    (fuse.WithinBudget usage state ∧ fuse.recordUsage host usage state =
      (.ok (fuse.newSpend usage state), fuse.charge usage state)) ∨
    (¬ fuse.WithinBudget usage state ∧ ∃ exc final, exc.cls = .billingFuseTrippedError ∧
      fuse.recordUsage host usage state = (.error exc, final)) := by
  by_cases within : fuse.WithinBudget usage state
  · exact .inl ⟨within, fuse.recordUsage_of_within host within⟩
  · refine .inr ⟨within, ?_⟩
    rcases tripped : state.tripped with _ | _
    · have beyond := lt_of_not_ge fun fits => within ⟨tripped, fits⟩
      exact ⟨_, _, rfl, fuse.recordUsage_of_beyond host tripped beyond⟩
    · exact ⟨_, _, rfl, fuse.recordUsage_of_tripped host tripped⟩

end BillingFuse

end AgentOS
