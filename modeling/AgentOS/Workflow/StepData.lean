import AgentOS.Governance.Expiry
import AgentOS.Workflow.StepFailure

/-!
# What a step leaves in the data

A step changes at most one entry of the run data: an approval that asks leaves its card, and
a validation leaves its nonce. Time only goes forward while a step runs.
-/

namespace AgentOS

open Python Cooperative

/-! ### The clock -/

namespace WriteGate

variable {host : Host} {rdf : RdfLib} {gate : WriteGate}

theorem tick_le_of_steps {world world' : GateWorld}
    (moved : Relation.ReflTransGen (GateStep host rdf gate True) world world') :
    world.tick ≤ world'.tick := by
  induction moved with
  | refl => exact le_rfl
  | tail _ step since => exact since.trans step.tick_le

theorem refuseValues_follows (α : Type) (domainName : Str) (value nonce : Json) :
    (gate.refuseValues host domainName value nonce : Action Exc GateWorld α).Follows
      (GateStep host rdf gate True) := by
  apply Action.follows_tryCatch
  · rcases refuseBody_cases host gate α domainName value nonce with
      ⟨text, dataHash, signature, body⟩ | ⟨exc, body⟩
    · rw [body]
      apply Action.follows_bind (checkSignature_follows host rdf gate True _ _ _ _)
      exact fun _ => Action.follows_throw _
    · rw [body]
      exact Action.follows_throw _
  · intro exc
    split <;> exact Action.follows_throw _

/-- A write that is within the quota goes on from where it was counted. -/
theorem writeValue_moves (rdf : RdfLib) {domainName : Str} (value nonce : Json) (rdfFormat : Str)
    {world : GateWorld} (within : gate.WithinQuota host world) :
    (gate.countedWorld host world).tick ≤
      ((gate.writeValue host rdf domainName value nonce rdfFormat).run world).2.tick := by
  have foreign : ∀ value nonce : Json, (gate.countedWorld host world).tick ≤
      ((Coro.sync (do
        gate.checkQuota host
        gate.refuseValues host domainName value nonce) : Coro Exc GateWorld WriteResult).run
          world).2.tick := by
    intro value nonce
    rw [Coro.run_sync, Action.bind_of_ok (checkQuota_eq_ok_iff.mpr ⟨within, rfl⟩)]
    exact @tick_le_of_steps host rdf gate _ _ (refuseValues_follows WriteResult domainName value
      nonce _)
  rcases value with _ | _ | _ | _ | dataRdf | _ | _
  case str =>
    rcases nonce with _ | _ | _ | _ | validationNonce | _ | _
    case str =>
      let event : GateEvent := .called domainName dataRdf validationNonce rdfFormat
      have counted : gate.checkQuota host (world.note event) =
          (.ok (), (gate.countedWorld host world).note event) := by
        rw [checkQuota_eq_ok_iff, withinQuota_note, countedWorld_note]
        exact ⟨within, rfl⟩
      have moved := @authorizeWrite_moves host rdf gate True domainName dataRdf validationNonce
        rdfFormat _ _ counted
      have entered : (Coro.sync (gate.enterWrite host rdf domainName dataRdf validationNonce
          rdfFormat)).run world = gate.authorizeWrite host rdf domainName dataRdf validationNonce
            rdfFormat (world.note event) := Coro.run_sync _ _
      rw [writeValue, executeGovernedWrite]
      rcases ended : gate.authorizeWrite host rdf domainName dataRdf validationNonce rdfFormat
        (world.note event) with ⟨exc | statements, middle⟩ <;> rw [ended] at moved entered
      · rw [Coro.run_bind_of_error entered]
        have ticks := tick_le_of_steps moved
        exact ticks
      · rw [Coro.run_bind_of_ok entered]
        have submitted := fun client => authorizeWrite_submitted client ended
        have ticks := tick_le_of_steps (moved.trans (completeWrite_followsFrom submitted).run)
        exact ticks
    all_goals exact foreign _ _
  all_goals exact foreign _ _

theorem writeValue_tick (host : Host) (rdf : RdfLib) (gate : WriteGate) (domainName : Str)
    (value nonce : Json) (rdfFormat : Str) (world : GateWorld) :
    world.tick ≤
      ((gate.writeValue host rdf domainName value nonce rdfFormat).run world).2.tick := by
  apply @tick_le_of_steps host rdf gate
  have foreign : ∀ value nonce : Json, ((Coro.sync (do
      gate.checkQuota host
      gate.refuseValues host domainName value nonce) : Coro Exc GateWorld WriteResult)).Follows
        (GateStep host rdf gate True) := by
    intro value nonce
    apply Coro.follows_sync
    apply Action.follows_bind checkQuota_follows
    exact fun _ => refuseValues_follows WriteResult domainName value nonce
  rcases value with _ | _ | _ | _ | dataRdf | _ | _
  case str =>
    rcases nonce with _ | _ | _ | _ | validationNonce | _ | _
    case str =>
      exact (executeGovernedWrite_follows domainName dataRdf validationNonce rdfFormat world).run
    all_goals exact (foreign _ _ world).run
  all_goals exact (foreign _ _ world).run

theorem verifyValue_tick (host : Host) (rdf : RdfLib) (gate : WriteGate) (domainName : Str)
    (value : Json) (rdfFormat : Str) (world : GateWorld) :
    world.tick ≤ (gate.verifyValue host rdf domainName value rdfFormat world).2.tick := by
  apply @tick_le_of_steps host rdf gate
  have foreign : ∀ text : Str, (gate.getValidator host domainName >>= fun _ =>
      throw (unparsable rdfFormat text) : Action Exc GateWorld
        (SHACLValidationReport × Option Str)).Follows (GateStep host rdf gate True) := by
    intro text
    apply Action.follows_bind _ fun _ => Action.follows_throw _
    intro world
    rcases getValidator_cases host rdf gate True domainName world with
      ⟨middle, moved, -, ⟨exc, raised⟩ | ⟨shapes, -, found⟩⟩
    · rw [raised]
      exact moved
    · rw [found]
      exact moved
  rcases value with _ | _ | _ | _ | dataRdf | _ | _
  case str => exact verifyShaclCompliance_follows domainName dataRdf rdfFormat world
  all_goals exact foreign _ world

end WriteGate

/-! ### The data -/

/-- What a step that begins when the clock shows a time makes of the data. -/
inductive StepData (host : Host) (step : SOPStep) (data : Dict Str Json) (time : ℚ) :
    Except Exc Json → Dict Str Json → Prop
  | kept (result : Except Exc Json)
      (passive : step.type = .validate → step.domain.isSome = true → ∀ value, result ≠ .ok value) :
      StepData host step data time result data
  | asked (result : Except Exc Json) (asks : step.type = .humanApproval) (card : Json)
      (shown : card.truthy = true) :
      StepData host step data time result (data.set (py "_pending_card") card)
  | validated (value : Json) (validates : step.type = .validate)
      (domain : step.domain.isSome = true)
      (present : (dataOr data step.dataKey).truthy = true) {nonce : Str}
      (stamped : WriteGate.Stamped host nonce time) :
      StepData host step data time (.ok value) (data.set step.nonceKey (.str nonce))

namespace SOPEngine

variable {host : Host} {rdf : RdfLib} {engine : SOPEngine} {step : SOPStep}
  {ctx ctx' : SOPRunContext}
  {world middle : EngineWorld} {outcome : Except Exc Json}

/-- A validation that returns a valid report returns a nonce, stamped with the time it began. -/
theorem verifyValue_stamped {gate : WriteGate} {domainName : Str} {value : Json}
    {report : SHACLValidationReport} {nonce : Option Str} {world final : GateWorld}
    (verified : gate.verifyValue host rdf domainName value (py "turtle") world =
      (.ok (report, nonce), final)) (valid : report.isValid = true) :
    ∃ text, nonce = some text ∧ WriteGate.Stamped host text (host.monotonic world.tick) := by
  have foreign : ∀ text : Str, (gate.getValidator host domainName >>= fun _ =>
      throw (WriteGate.unparsable (py "turtle") text) : Action Exc GateWorld
        (SHACLValidationReport × Option Str)) world ≠ (.ok (report, nonce), final) := by
    intro text
    rw [Action.bind_apply]
    rcases gate.getValidator host domainName world with ⟨exc | shapes, cached⟩ <;> rintro ⟨⟩
  rcases value with _ | _ | _ | _ | dataRdf | _ | _
  case str =>
    rw [WriteGate.verifyValue] at verified
    rcases WriteGate.verifyShaclCompliance_cases host rdf gate True domainName dataRdf
      (py "turtle") world with ⟨middle, -, -, ⟨result, ended, invalid⟩ |
        ⟨report', text, shapes, graph, results, -, -, -, -, ended⟩⟩
    · cases ended.symm.trans verified
      rw [invalid report nonce rfl] at valid
      cases valid
    · cases ended.symm.trans verified
      exact ⟨text, rfl, WriteGate.stamped_of_verified (congrArg Prod.fst verified)⟩
  all_goals exact absurd verified (foreign _)

theorem stepValidate_data {gate : WriteGate} (wired : engine.writeGate = some gate)
    (validates : step.type = .validate)
    (ran : (engine.stepValidate host rdf step ctx).run world = (.ok (outcome, ctx'), middle)) :
    world.tick ≤ middle.tick ∧
      StepData host step ctx.data (host.monotonic world.tick) outcome ctx'.data := by
  unfold stepValidate at ran
  rcases domain : step.domain with _ | domainName
  · rw [wired, domain] at ran
    cases ran
    exact ⟨le_rfl, .kept _ (by simp [domain])⟩
  · rw [wired, domain] at ran
    dsimp only at ran
    split at ran
    · rename_i present
      rw [validateData, Coro.run_bind, Coro.run_attempt, atGate_run, Coro.run_sync] at ran
      have ticks := WriteGate.verifyValue_tick host rdf gate domainName
        (dataOr ctx.data step.dataKey) (py "turtle") (world.part EngineState.gate)
      rcases verified : gate.verifyValue host rdf domainName (dataOr ctx.data step.dataKey)
        (py "turtle") (world.part EngineState.gate) with ⟨exc | ⟨report, nonce⟩, after⟩ <;>
        rw [verified] at ran ticks
      · cases ran
        exact ⟨ticks, .kept _ (by simp)⟩
      · dsimp only at ran
        split at ran
        · rename_i valid
          cases ran
          rcases verifyValue_stamped verified valid with ⟨text, rfl, stamped⟩
          exact ⟨ticks, .validated _ validates (by simp [domain]) present stamped⟩
        · cases ran
          exact ⟨ticks, .kept _ (by simp)⟩
    · cases ran
      exact ⟨le_rfl, .kept _ (by simp)⟩

theorem stepHumanApproval_data (asks : step.type = .humanApproval)
    (ran : (engine.stepHumanApproval host step ctx).run world = (.ok (outcome, ctx'), middle)) :
    world.tick ≤ middle.tick ∧
      StepData host step ctx.data (host.monotonic world.tick) outcome ctx'.data := by
  have asked : (Coro.sync (engine.triggers step ctx.data)).run world =
      (.ok (engine.asks step ctx.data world.tick), ⟨askedAt step world.tick, world.state⟩) := by
    rw [Coro.run_sync, triggers_eq]
  have later : world.tick ≤ askedAt step world.tick := by
    unfold askedAt
    split <;> omega
  have sent : ∀ tick, tick ≤ engine.sentAt tick := by
    intro tick
    unfold sentAt
    split <;> omega
  have idle : step.type = .validate → ∀ result : Except Exc Json, step.domain.isSome = true →
      ∀ value, result ≠ .ok value := by
    intro validates
    rw [asks] at validates
    cases validates
  rw [stepHumanApproval, Coro.run_bind_of_ok asked] at ran
  split at ran
  · split at ran
    · rename_i message formatted
      have shown := sent (askedAt step world.tick)
      rw [askApproval_run] at ran
      dsimp only at ran
      split at ran
      · cases ran
        exact ⟨later.trans shown, .asked _ asks _ rfl⟩
      · split at ran <;> cases ran <;>
          exact ⟨(later.trans shown).trans (Nat.le_succ _), .asked _ asks _ rfl⟩
    · cases ran
      exact ⟨later, .kept _ fun validates => idle validates _⟩
  · cases ran
    exact ⟨later, .kept _ fun validates => idle validates _⟩

theorem actionGovernedWrite_data (acts : step.type = .action)
    (ran : (engine.actionGovernedWrite host rdf step ctx).run world =
      (.ok (outcome, ctx'), middle)) :
    world.tick ≤ middle.tick ∧
      StepData host step ctx.data (host.monotonic world.tick) outcome ctx'.data := by
  have passive : ∀ result,
      StepData host step ctx.data (host.monotonic world.tick) result ctx.data :=
    fun result => .kept result (by simp [acts])
  unfold actionGovernedWrite at ran
  rcases wired : engine.writeGate with _ | gate
  · rw [wired] at ran
    cases ran
    exact ⟨le_rfl, passive _⟩
  · rw [wired] at ran
    dsimp only at ran
    split at ran
    · rw [Coro.run_bind, Coro.run_attempt, atGate_run] at ran
      have ticks := WriteGate.writeValue_tick host rdf gate (step.domain.getD [])
        (dataOr ctx.data step.dataKey) (dataOr ctx.data step.nonceKey) (py "turtle")
        (world.part EngineState.gate)
      rcases wrote : (gate.writeValue host rdf (step.domain.getD []) (dataOr ctx.data step.dataKey)
        (dataOr ctx.data step.nonceKey) (py "turtle")).run (world.part EngineState.gate) with
        ⟨exc | result, after⟩
      all_goals
        rw [wrote] at ran ticks
        cases ran
        exact ⟨ticks, passive _⟩
    · cases ran
      exact ⟨le_rfl, passive _⟩

theorem stepNotify_data (notifies : step.type = .notify)
    (ran : (stepNotify host step ctx).run world = (.ok (outcome, ctx'), middle)) :
    world.tick ≤ middle.tick ∧
      StepData host step ctx.data (host.monotonic world.tick) outcome ctx'.data := by
  have passive : ∀ result,
      StepData host step ctx.data (host.monotonic world.tick) result ctx.data :=
    fun result => .kept result (by simp [notifies])
  unfold stepNotify at ran
  split at ran
  · rw [Coro.run_bind, Coro.run_attempt, Coro.run_sync] at ran
    simp only [Timed.outcome] at ran
    split at ran
    all_goals
      cases ran
      exact ⟨Nat.le_succ _, passive _⟩
  · cases ran
    exact ⟨le_rfl, passive _⟩

/-- Every step that is executed takes the clock forward and changes the data so. -/
theorem executeStep_data {gate : WriteGate} (wired : engine.writeGate = some gate)
    (ran : (engine.executeStep host rdf step ctx).run world = (.ok (outcome, ctx'), middle)) :
    world.tick ≤ middle.tick ∧
      StepData host step ctx.data (host.monotonic world.tick) outcome ctx'.data := by
  unfold executeStep at ran
  rcases type : step.type <;> simp only [type] at ran
  case validate => exact stepValidate_data wired type ran
  case humanApproval => exact stepHumanApproval_data type ran
  case notify => exact stepNotify_data type ran
  case action =>
    unfold stepAction at ran
    split at ran
    · exact actionGovernedWrite_data type ran
    · cases ran
      exact ⟨le_rfl, .kept _ (by simp [type])⟩

end SOPEngine

end AgentOS
