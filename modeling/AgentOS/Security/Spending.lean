import AgentOS.Cooperative.Transcript
import AgentOS.Governance.Replay
import AgentOS.Security.BillingFuse
import Mathlib.Algebra.BigOperators.Group.List.Basic

/-!
# Spending

The fuse against its books: the usages recorded since the last reset, up to and including
the first one that exceeds the cap. The books know neither the flag nor the running sum.
They are kept exactly, so this is about a fuse whose arithmetic does not round.
-/

namespace AgentOS

open Python Cooperative

/-- The calls that change a fuse. -/
inductive FuseCall
  | recordUsage (usage : TokenUsage)
  | reset

namespace BillingFuse

variable (host : Host) (fuse : BillingFuse)

/-- A call of the fuse; `reset` returns nothing. -/
def perform : FuseCall → Action Exc FuseState (Option ℚ)
  | .recordUsage usage => some <$> fuse.recordUsage host usage
  | .reset => fun state => (.ok none, reset state)

/-- The arithmetic of the fuse does not round. -/
def IsExact : Prop := ∀ amount, fuse.round amount = amount

/-- The costs of all usages on the books. -/
def totalCost (books : List TokenUsage) : ℚ := (books.map fuse.calculateCost).sum

/-- The books after one more call. -/
def entered (books : List TokenUsage) : FuseCall → List TokenUsage
  | .recordUsage usage =>
      if fuse.budgetCapUsd < fuse.totalCost books then books else books ++ [usage]
  | .reset => []

/-- The usages that were recorded since the last reset. -/
def booksAfter (calls : List FuseCall) : List TokenUsage := calls.foldl fuse.entered []

/-- The fuse agrees with its books. -/
structure Agrees (books : List TokenUsage) (state : FuseState) : Prop where
  history : state.usageHistory = books
  spend : state.spendUsd = fuse.totalCost books
  tripped_iff : state.tripped = true ↔ fuse.budgetCapUsd < state.spendUsd

/-- The call trips the fuse. -/
def Trips (call : FuseCall) (state : FuseState) : Prop :=
  state.tripped = false ∧ (fuse.perform host call state).2.tripped = true

/-- The accounts of a fuse in a state that a run of calls has left. -/
structure Accounted (calls : List FuseCall) (state : FuseState) : Prop where
  /-- The history, the spend and the flag are those of the books. -/
  agrees : fuse.Agrees (fuse.booksAfter calls) state
  /-- A usage that is recorded without an exception leaves a spend within the cap. -/
  within : ∀ usage total final, fuse.recordUsage host usage state = (.ok total, final) →
    total = final.spendUsd ∧ final.spendUsd ≤ fuse.budgetCapUsd
  /-- Once tripped, the fuse refuses every usage and stays as it is. -/
  refuses : state.tripped = true → ∀ usages : List TokenUsage,
    after (fuse.perform host) (usages.map .recordUsage) state = state ∧
      ∀ usage, ∃ exc, exc.cls = .billingFuseTrippedError ∧
        fuse.recordUsage host usage state = (.error exc, state)
  /-- A trip raises, whatever the callback does. -/
  raises : ∀ usage, fuse.Trips host (.recordUsage usage) state →
    ∃ exc, exc.cls = .billingFuseTrippedError ∧
      (fuse.recordUsage host usage state).1 = .error exc
  /-- A trip calls the callback once, if configured, and no other call does. -/
  revokes : ∀ call, (fuse.Trips host call state →
      (fuse.perform host call state).2.revocations =
        state.revocations + fuse.revocationsPerTrip) ∧
    (¬ fuse.Trips host call state →
      (fuse.perform host call state).2.revocations = state.revocations)

variable {host fuse}

@[simp]
theorem totalCost_nil : fuse.totalCost [] = 0 := rfl

@[simp]
theorem totalCost_concat (books : List TokenUsage) (usage : TokenUsage) :
    fuse.totalCost (books ++ [usage]) = fuse.totalCost books + fuse.calculateCost usage := by
  simp [totalCost]

theorem newSpend_of_exact (unrounded : fuse.IsExact) (usage : TokenUsage) (state : FuseState) :
    fuse.newSpend usage state = state.spendUsd + fuse.calculateCost usage :=
  unrounded _

theorem perform_recordUsage (usage : TokenUsage) (state : FuseState) :
    (fuse.perform host (.recordUsage usage) state).2 = (fuse.recordUsage host usage state).2 := by
  change ((fuse.recordUsage host usage >>= fun total => pure (some total)) state).2 = _
  rw [Action.bind_apply]
  rcases fuse.recordUsage host usage state with ⟨_ | total, final⟩ <;> rfl

/-- An empty book agrees with a cap that nothing exceeds yet. -/
theorem agrees_of_cleared (capped : 0 ≤ fuse.budgetCapUsd) (revocations : ℕ) :
    fuse.Agrees [] ⟨0, [], false, revocations⟩ := by
  refine ⟨rfl, by simp, ?_⟩
  simp [capped]

theorem Agrees.recordUsage (unrounded : fuse.IsExact) {books : List TokenUsage} {state : FuseState}
    (agrees : fuse.Agrees books state) (usage : TokenUsage) :
    fuse.Agrees (fuse.entered books (.recordUsage usage))
      (fuse.recordUsage host usage state).2 := by
  have spent := agrees.spend
  rcases tripped : state.tripped with _ | _
  · have open' : ¬ fuse.budgetCapUsd < fuse.totalCost books := by
      intro above
      have closed := agrees.tripped_iff.mpr (by rwa [spent])
      simp [tripped] at closed
    have booked : fuse.entered books (.recordUsage usage) = books ++ [usage] := if_neg open'
    rw [booked]
    by_cases beyond : fuse.budgetCapUsd < fuse.newSpend usage state
    · rw [recordUsage_of_beyond host fuse tripped beyond]
      refine ⟨?_, ?_, ?_⟩
      · simp [trip, charge, agrees.history]
      · simp [trip, charge, newSpend_of_exact unrounded, spent]
      · simp [trip, charge, beyond]
    · rw [recordUsage_of_within host fuse ⟨tripped, not_lt.mp beyond⟩]
      refine ⟨?_, ?_, ?_⟩
      · simp [charge, agrees.history]
      · simp [charge, newSpend_of_exact unrounded, spent]
      · simpa [charge, tripped] using beyond
  · have above : fuse.budgetCapUsd < fuse.totalCost books := by
      rw [← spent]
      exact agrees.tripped_iff.mp tripped
    have booked : fuse.entered books (.recordUsage usage) = books := if_pos above
    rw [booked, recordUsage_of_tripped host fuse tripped]
    exact agrees

/-- A call leaves a fuse that agrees with its books again. -/
theorem Agrees.perform (unrounded : fuse.IsExact) (capped : 0 ≤ fuse.budgetCapUsd)
    {books : List TokenUsage} {state : FuseState} (agrees : fuse.Agrees books state)
    (call : FuseCall) :
    fuse.Agrees (fuse.entered books call) (fuse.perform host call state).2 := by
  cases call with
  | recordUsage usage =>
      rw [perform_recordUsage]
      exact agrees.recordUsage unrounded usage
  | reset => exact agrees_of_cleared capped state.revocations

/-- After every run of calls the fuse agrees with its books. -/
theorem agrees_after (unrounded : fuse.IsExact) (capped : 0 ≤ fuse.budgetCapUsd)
    (calls : List FuseCall) :
    fuse.Agrees (fuse.booksAfter calls) (after (fuse.perform host) calls initial) := by
  have keeps : ∀ (log : List (FuseCall × Except Exc (Option ℚ))) (state : FuseState)
      (call : FuseCall), fuse.Agrees (fuse.booksAfter (log.map Prod.fst)) state →
      (∀ entry ∈ log, True) →
      fuse.Agrees (fuse.booksAfter ((log ++ [(call, (fuse.perform host call state).1)]).map
        Prod.fst)) (fuse.perform host call state).2 := by
    intro log state call agrees _
    simp only [List.map_append, List.map_cons, List.map_nil, booksAfter, List.foldl_append]
    exact agrees.perform unrounded capped call
  have run := holds_after (fuse.perform host) (fun _ _ => True)
    (fun log state => fuse.Agrees (fuse.booksAfter (log.map Prod.fst)) state)
    (agrees_of_cleared capped 0) keeps (List.pairwise_of_forall (l := calls) fun _ _ => trivial)
  rwa [map_fst_transcript] at run

theorem within_of_recorded {usage : TokenUsage} {state final : FuseState} {total : ℚ}
    (recorded : fuse.recordUsage host usage state = (.ok total, final)) :
    total = final.spendUsd ∧ final.spendUsd ≤ fuse.budgetCapUsd := by
  rcases fuse.recordUsage_cases host usage state with ⟨within, same⟩ | ⟨-, exc, other, -, same⟩
  · cases recorded.symm.trans same
    exact ⟨rfl, within.2⟩
  · cases recorded.symm.trans same

/-- A tripped fuse is stuck until it is reset. -/
theorem after_of_tripped {state : FuseState} (tripped : state.tripped = true)
    (usages : List TokenUsage) :
    after (fuse.perform host) (usages.map .recordUsage) state = state := by
  induction usages with
  | nil => rfl
  | cons usage usages ih =>
      rw [List.map_cons, after_cons, perform_recordUsage, recordUsage_of_tripped host fuse tripped]
      exact ih

theorem revocations_of_recorded (usage : TokenUsage) (state : FuseState) :
    (fuse.Trips host (.recordUsage usage) state ∧
      (fuse.recordUsage host usage state).2.revocations =
        state.revocations + fuse.revocationsPerTrip ∧
      ∃ exc, exc.cls = .billingFuseTrippedError ∧
        (fuse.recordUsage host usage state).1 = .error exc) ∨
    (¬ fuse.Trips host (.recordUsage usage) state ∧
      (fuse.recordUsage host usage state).2.revocations = state.revocations) := by
  simp only [Trips, perform_recordUsage]
  rcases tripped : state.tripped with _ | _
  · by_cases beyond : fuse.budgetCapUsd < fuse.newSpend usage state
    · left
      rw [recordUsage_of_beyond host fuse tripped beyond]
      exact ⟨⟨rfl, rfl⟩, rfl, _, rfl, rfl⟩
    · right
      rw [recordUsage_of_within host fuse ⟨tripped, not_lt.mp beyond⟩]
      exact ⟨by simp [charge, tripped], rfl⟩
  · right
    rw [recordUsage_of_tripped host fuse tripped]
    exact ⟨by simp, rfl⟩

/-- In every state that calls reach, the fuse accounts exactly. -/
theorem accounts_exactly (unrounded : fuse.IsExact) (capped : 0 ≤ fuse.budgetCapUsd)
    (calls : List FuseCall) :
    fuse.Accounted host calls (after (fuse.perform host) calls initial) := by
  refine ⟨agrees_after unrounded capped calls, ?_, ?_, ?_, ?_⟩
  · intro usage total final recorded
    exact within_of_recorded recorded
  · intro tripped usages
    refine ⟨after_of_tripped tripped usages, ?_⟩
    intro usage
    exact ⟨_, rfl, recordUsage_of_tripped host fuse tripped⟩
  · intro usage trips
    rcases revocations_of_recorded usage _ with
      ⟨-, -, raised⟩ | ⟨calm, -⟩
    · exact raised
    · exact absurd trips calm
  · intro call
    cases call with
    | recordUsage usage =>
        rw [perform_recordUsage]
        rcases revocations_of_recorded usage _ with
          ⟨trips, once, -⟩ | ⟨calm, never⟩
        · exact ⟨fun _ => once, fun calm => absurd trips calm⟩
        · exact ⟨fun trips => absurd trips calm, fun _ => never⟩
    | reset =>
        refine ⟨?_, fun _ => rfl⟩
        rintro ⟨-, tripped⟩
        cases tripped

end BillingFuse

namespace Sample

/-- A fuse of one dollar whose callback raises; its arithmetic is exact. -/
def oneDollar : BillingFuse where
  budgetCapUsd := 1
  pricingTable := Dict.empty
  revokeOnTrip := true
  defaultRates := ⟨3, 15⟩
  revokeCallback := some fun _ => .error (.builtin "RuntimeError" (py "revocation failed"))
  round := id

/-- A usage of a dollar and a half, and a refund of three. -/
def bigUsage : TokenUsage := ⟨0, 100000, py "gpt-4", 0⟩

def refund : TokenUsage := ⟨-1000000, 0, py "gpt-4", 1⟩

theorem one_dollar_accounts :
    oneDollar.IsExact ∧ (0 : ℚ) ≤ oneDollar.budgetCapUsd ∧
      oneDollar.Accounted steadyHost [.recordUsage refund, .reset, .recordUsage bigUsage]
        (after (oneDollar.perform steadyHost)
          [.recordUsage refund, .reset, .recordUsage bigUsage] BillingFuse.initial) :=
  ⟨fun _ => rfl, by decide, BillingFuse.accounts_exactly (fun _ => rfl) (by decide) _⟩

example : (oneDollar.recordUsage steadyHost bigUsage BillingFuse.initial).2.revocations = 1 := by
  decide +kernel

end Sample

end AgentOS
