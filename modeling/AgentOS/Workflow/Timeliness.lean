import AgentOS.Workflow.Approvals
import AgentOS.Workflow.Continuation
import AgentOS.Workflow.StepData

/-!
# Approvals in time

A validation leaves a nonce in the run data, and a governved write presents it after the
approval between them. The timeout of the approval step is never compared with the TTL of the
gate: the write is refused when the time between the two exceeds the TTL.
-/

namespace AgentOS

open Python Cooperative

namespace SOPStep

/-- A step that leaves a new nonce under the key when it succeeds. -/
def renews (key : Str) (step : SOPStep) : Bool :=
  step.type = .validate ∧ step.domain.isSome = true ∧ step.dataKey = key

/-- The entry with the nonce of the key. -/
def nonceEntry (key : Str) : Str := py "_nonce_" ++ key

end SOPStep

/-- Under the key lie data, and beside them a nonce that was issued at the time. -/
structure Parked (host : Host) (key : Str) (data : Dict Str Json) (issued : ℚ) : Prop where
  present : (dataOr data key).truthy = true
  stamped : ∃ nonce, dataOr data (SOPStep.nonceEntry key) = .str nonce ∧
    WriteGate.Stamped host nonce issued

/-- One of the steps renews the nonce of the key. -/
def Renewed (key : Str) (steps : List SOPStep) : Prop := ∃ step ∈ steps, step.renews key = true

section Step

variable {host : Host} {step : SOPStep} {data data' : Dict Str Json} {time issued : ℚ} {key : Str}
  {result : Except Exc Json}

theorem dataOr_set (data : Dict Str Json) (key other : Str) (value : Json) :
    dataOr (data.set key value) other = if other = key then value else dataOr data other := by
  unfold dataOr
  rw [Dict.get?_set]
  split <;> rfl

theorem nonceEntry_ne_card (key : Str) : SOPStep.nonceEntry key ≠ py "_pending_card" := by
  intro same
  cases same

theorem stamped_truthy {nonce : Str} (stamped : WriteGate.Stamped host nonce issued) :
    (Json.str nonce).truthy = true := by
  rcases stamped with ⟨-, dataHash, signature, rfl⟩
  simp [Json.truthy, WriteGate.noncePayload]

/-- An entry that is set to something leaves no key without data. -/
theorem present_set {entry : Str} {value : Json} (truthy : value.truthy = true)
    (present : (dataOr data key).truthy = true) :
    (dataOr (data.set entry value) key).truthy = true := by
  rw [dataOr_set]
  split
  · exact truthy
  · exact present

/-- A step that renews the nonce parks one of the time at which it begins. -/
theorem parked_of_renews (renews : step.renews key = true) {value : Json}
    (made : StepData host step data time (.ok value) data') : Parked host key data' time := by
  simp only [SOPStep.renews, decide_eq_true_eq] at renews
  rcases renews with ⟨validates, domain, rfl⟩
  cases made with
  | kept _ passive => exact absurd rfl (passive validates domain value)
  | asked _ asks =>
      rw [asks] at validates
      cases validates
  | validated _ _ _ present stamped =>
      refine ⟨present_set (stamped_truthy stamped) present, _, ?_, stamped⟩
      rw [dataOr_set]
      exact if_pos rfl

/-- Every other step leaves what is parked where it is. -/
theorem Parked.keep (parked : Parked host key data issued) (other : ¬ step.renews key = true)
    (made : StepData host step data time result data') : Parked host key data' issued := by
  rcases parked with ⟨present, nonce, lies, stamped⟩
  cases made with
  | kept => exact ⟨present, nonce, lies, stamped⟩
  | asked _ _ card shown =>
      refine ⟨present_set shown present, nonce, ?_, stamped⟩
      rw [dataOr_set, if_neg (nonceEntry_ne_card key)]
      exact lies
  | validated _ validates domain _ fresh =>
      refine ⟨present_set (stamped_truthy fresh) present, nonce, ?_, stamped⟩
      have differs : SOPStep.nonceEntry key ≠ step.nonceKey := by
        intro same
        apply other
        simp [SOPStep.renews, validates, domain, List.append_cancel_left same]
      rw [dataOr_set, if_neg differs]
      exact lies

end Step

theorem renewed_cons {key : Str} {step : SOPStep} {steps : List SOPStep} :
    Renewed key (step :: steps) ↔ step.renews key = true ∨ Renewed key steps := by
  simp [Renewed]

/--
What some steps, executed from one data to another in a part of a run, make of the nonce of a
key: they renew it at a tick in between, or what was parked before is parked still.
-/
def Carries (host : Host) (key : Str) (steps : List SOPStep) (data data' : Dict Str Json)
    (start stop : ℕ) : Prop :=
  (Renewed key steps ∧ ∃ tick, start ≤ tick ∧ tick ≤ stop ∧
    Parked host key data' (host.monotonic tick)) ∨
  (¬ Renewed key steps ∧ ∀ issued, Parked host key data issued → Parked host key data' issued)

section Carries

variable {host : Host} {step : SOPStep} {steps : List SOPStep} {data data' data'' : Dict Str Json}
  {start middle stop : ℕ} {key : Str} {value : Json}

theorem carries_nil (host : Host) (key : Str) (data : Dict Str Json) (start stop : ℕ) :
    Carries host key [] data data start stop :=
  .inr ⟨by simp [Renewed], fun _ parked => parked⟩

/-- One step more in front. -/
theorem Carries.cons
    (made : StepData host step data (host.monotonic start) (.ok value) data')
    (rest : Carries host key steps data' data'' middle stop) (before : start ≤ middle)
    (after : start ≤ stop) : Carries host key (step :: steps) data data'' start stop := by
  rcases rest with ⟨renewed, tick, low, high, parked⟩ | ⟨quiet, keeps⟩
  · exact .inl ⟨renewed_cons.mpr (.inr renewed), tick, before.trans low, high, parked⟩
  · by_cases renews : step.renews key = true
    · exact .inl ⟨renewed_cons.mpr (.inl renews), start, le_rfl, after,
        keeps _ (parked_of_renews renews made)⟩
    · refine .inr ⟨?_, fun issued parked => keeps issued (parked.keep renews made)⟩
      rw [renewed_cons]
      exact not_or.mpr ⟨renews, quiet⟩

end Carries

namespace SOPEngine

variable {host : Host} {rdf : RdfLib} {engine : SOPEngine} {gate : WriteGate} {sop : SOPDefinition}
  {step : SOPStep} {steps : List SOPStep} {index : ℕ} {ctx ctx' visited : SOPRunContext}
  {world middle saved at_ final : EngineWorld} {key : Str}

/-- A loop takes the clock forward. -/
theorem runSteps_tick (wired : engine.writeGate = some gate) (steps : List SOPStep) (index : ℕ)
    (ctx : SOPRunContext) (world : EngineWorld) :
    world.tick ≤ ((engine.runSteps host rdf steps index ctx).run world).2.tick := by
  induction steps generalizing index ctx world with
  | nil =>
      rw [runSteps_nil]
      rcases ended : engine.save { ctx with state := .completed } world with ⟨exc | ⟨⟩, saved⟩ <;>
        exact (save_tick ended).ge
  | cons step rest ih =>
      rcases executeStep_run host rdf engine step { ctx with currentStepIndex := index }
        (begun index ctx world) with ⟨outcome, ctx', middle, ran, -, -⟩
      have forward : world.tick ≤ middle.tick := (executeStep_data wired ran).1
      rcases runSteps_leaves rest ran with ended | ⟨kept, -, ended⟩ | ⟨kept, -, ended⟩ <;>
        rw [ended]
      · exact forward
      · exact forward.trans (save_tick rfl).ge
      · have since : world.tick ≤ (engine.save kept middle).2.tick :=
          forward.trans (save_tick rfl).ge
        exact since.trans (ih _ _ _)

/-- What a loop carries to a step that it comes to. -/
theorem Visits.carries (wired : engine.writeGate = some gate) (key : Str)
    (visits : engine.Visits host rdf steps index ctx world step visited at_) :
    ∃ count, visited.currentStepIndex = index + count ∧ world.tick ≤ at_.tick ∧
      Carries host key (steps.take count) ctx.data visited.data world.tick at_.tick := by
  induction visits with
  | here => exact ⟨0, rfl, le_rfl, carries_nil host key _ _ _⟩
  | later ran goesOn stored visits ih =>
      rcases executeStep_data wired ran with ⟨forward, made⟩
      rcases ih with ⟨count, place, since, carries⟩
      have before := forward.trans (save_tick stored).ge
      refine ⟨count + 1, by omega, before.trans since, ?_⟩
      exact carries.cons made before (before.trans since)

/-- What a loop carries to the end, when the run waits there. -/
theorem carries_of_waits (wired : engine.writeGate = some gate) (key : Str)
    {waiting : SOPRunContext}
    (returned : (engine.runSteps host rdf steps index ctx).run world = (.ok waiting, final))
    (suspended : waiting.state = .suspended) :
    ∃ count, waiting.currentStepIndex = index + count ∧ world.tick ≤ final.tick ∧
      Carries host key (steps.take (count + 1)) ctx.data waiting.data world.tick final.tick := by
  have since : world.tick ≤ final.tick := by
    have forward := @runSteps_tick host rdf engine gate wired steps index ctx world
    rw [returned] at forward
    exact forward
  induction steps generalizing index ctx world with
  | nil =>
      rw [runSteps_nil] at returned
      rcases ended : engine.save { ctx with state := .completed } world with ⟨exc | ⟨⟩, saved⟩ <;>
        rw [ended] at returned <;> cases returned
      cases suspended
  | cons step rest ih =>
      rcases stepReturns_of_returned returned with ⟨-, -, rfl⟩ | @⟨_, ctx', _, ran, -, -, rfl⟩ |
        @⟨result, ctx', _, saved, ran, _, stored, returned⟩
      case failed => cases suspended
      case waits =>
        rcases executeStep_data wired ran with ⟨-, made⟩
        have place : ctx'.currentStepIndex = index := by
          cases (executeStep_stepped ran).1 <;> rfl
        refine ⟨0, place, since, ?_⟩
        exact (carries_nil host key _ _ _).cons made since since
      case goesOn =>
        rcases executeStep_data wired ran with ⟨forward, made⟩
        have later : saved.tick ≤ final.tick := by
          have grown := @runSteps_tick host rdf engine gate wired rest (index + 1)
            (ctx'.logResult step result) saved
          rw [returned] at grown
          exact grown
        rcases ih returned later with ⟨count, place, -, carries⟩
        refine ⟨count + 1, by omega, since, ?_⟩
        exact carries.cons made (forward.trans (save_tick stored).ge) since

/-- A step that a loop comes to is over before the loop is. -/
theorem Visits.ends (wired : engine.writeGate = some gate)
    (visits : engine.Visits host rdf steps index ctx world step visited at_) :
    ((engine.executeStep host rdf step visited).run at_).2.tick ≤
      ((engine.runSteps host rdf steps index ctx).run world).2.tick := by
  induction visits with
  | @here step rest index ctx world =>
      rcases executeStep_run host rdf engine step { ctx with currentStepIndex := index }
        (begun index ctx world) with ⟨outcome, ctx', middle, ran, -, -⟩
      have finish : ((engine.executeStep host rdf step { ctx with currentStepIndex := index }).run
          (begun index ctx world)).2.tick = middle.tick := by rw [ran]
      rw [finish]
      rcases runSteps_leaves rest ran with ended | ⟨kept, -, ended⟩ | ⟨kept, -, ended⟩ <;>
        rw [ended]
      · exact (save_tick rfl).ge
      · have since : middle.tick ≤ (engine.save kept middle).2.tick := (save_tick rfl).ge
        exact since.trans (runSteps_tick wired _ _ _ _)
  | later ran goesOn stored visits ih =>
      rw [runSteps_goesOn ran goesOn stored]
      exact ih

/-! ### Approvals -/

variable (host rdf engine sop)

/-- The loop takes no time: the clock shows the same from its start to its end. -/
def LoopAt (time : ℚ) (loop : LoopStart) : Prop :=
  ∀ tick, loop.world.tick ≤ tick →
    tick ≤ ((engine.runSteps host rdf (sop.steps.drop loop.index) loop.index loop.ctx).run
      loop.world).2.tick →
    host.monotonic tick = time

/-- The steps from one index up to another. -/
def stepsBetween (first next : ℕ) : List SOPStep := (sop.steps.drop first).take (next - first)

/-- A loop that ends at a time waits there, and is answered within the timeout of its last step. -/
inductive TimelyApproval : LoopStart → ℚ → LoopStart → ℚ → Prop
  | intro {loop : LoopStart} {time now : ℚ} {waiting : SOPRunContext} {approval : SOPStep}
      {middle later recorded : EngineWorld} (reason approverId : Json)
      (stands : engine.LoopAt host rdf sop time loop)
      (returned : (engine.runSteps host rdf (sop.steps.drop loop.index) loop.index loop.ctx).run
        loop.world = (.ok waiting, middle))
      (suspended : waiting.state = .suspended)
      (asked : sop.steps[waiting.currentStepIndex]? = some approval)
      (since : middle.tick ≤ later.tick)
      (timely : now - time ≤ approval.timeoutSeconds)
      (unrecorded : engine.feedbackDb = false → recorded = later)
      (decided : engine.feedbackDb = true → insertFeedback host
        (waiting.answer (py "APPROVED") reason approverId) (py "APPROVED") reason approverId later =
          (.ok (), recorded))
      (goesOn : engine.LoopAt host rdf sop now ⟨waiting.currentStepIndex + 1,
        { waiting.answer (py "APPROVED") reason approverId with
          state := .running, currentStepIndex := waiting.currentStepIndex + 1 }, recorded⟩) :
      TimelyApproval loop time ⟨waiting.currentStepIndex + 1,
        { waiting.answer (py "APPROVED") reason approverId with
          state := .running, currentStepIndex := waiting.currentStepIndex + 1 }, recorded⟩ now

/--
A loop that begins at a time follows an approval, and the nonce of the key was issued at another
time: by a step of the loop before it, or by one of an earlier loop.
-/
inductive Issued (key : Str) : LoopStart → ℚ → ℚ → Prop
  | validated {loop next : LoopStart} {time now : ℚ}
      (approved : TimelyApproval host rdf engine sop loop time next now)
      (renewed : Renewed key (stepsBetween sop loop.index next.index)) :
      Issued key next now time
  | kept {loop next : LoopStart} {time now issued : ℚ} (before : Issued key loop time issued)
      (approved : TimelyApproval host rdf engine sop loop time next now)
      (quiet : ¬ Renewed key (stepsBetween sop loop.index next.index)) :
      Issued key next now issued

/-- The exception of a governed write whose nonce has expired. -/
def writeExpired (gate : WriteGate) (step : SOPStep) : Exc :=
  sopExecutionError (py "governed_write 步骤 " ++ step.id ++ py " 执行失败: " ++
    gate.nonceExpired.message)

/-- The governed write fails because its nonce has expired. -/
def FailsExpired (gate : WriteGate) (step : SOPStep) (ctx : SOPRunContext) (world : EngineWorld) :
    Prop :=
  gate.RefusesExpired host (step.domain.getD []) (dataOr ctx.data step.dataKey)
      (dataOr ctx.data step.nonceKey) (world.part EngineState.gate) ∧
    ∃ middle, (engine.executeStep host rdf step ctx).run world =
      (.ok (.error (writeExpired gate step), ctx), middle)

variable {host rdf engine sop}

/-- A timely approval is what `resume` does. -/
theorem resume_of_timely {loop next : LoopStart} {time now : ℚ}
    (approved : TimelyApproval host rdf engine sop loop time next now) :
    ∃ waiting later reason approverId,
      (engine.resume host rdf sop waiting (py "APPROVED") reason approverId).run later =
        (engine.runSteps host rdf (sop.steps.drop next.index) next.index
          next.ctx).run next.world := by
  rcases approved with
    @⟨_, waiting, _, _, later, recorded, reason, approverId, -, -, suspended, -, -, -, unrecorded,
      decided, -⟩
  have other : py "APPROVED" ≠ py "REJECTED" := by decide
  refine ⟨waiting, later, reason, approverId, ?_⟩
  rcases records : engine.feedbackDb with _ | _
  · rw [resume_unrecorded suspended records, unrecorded records]
    rfl
  · rw [resume_recording suspended records]
    exact Coro.run_bind_of_ok ((Coro.run_sync _ _).trans (decided records))

theorem loopAt_of_issued {loop : LoopStart} {now issued : ℚ}
    (approved : Issued host rdf engine sop key loop now issued) :
    engine.LoopAt host rdf sop now loop := by
  cases approved with
  | validated approved =>
      rcases approved with ⟨_, _, -, -, -, -, -, -, -, -, goesOn⟩
      exact goesOn
  | kept _ approved =>
      rcases approved with ⟨_, _, -, -, -, -, -, -, -, -, goesOn⟩
      exact goesOn

/-- What a loop carries over an approval. -/
theorem TimelyApproval.carries (wired : engine.writeGate = some gate) (key : Str)
    {loop next : LoopStart} {time now : ℚ}
    (approved : TimelyApproval host rdf engine sop loop time next now) :
    (Renewed key (stepsBetween sop loop.index next.index) → Parked host key next.ctx.data time) ∧
      (¬ Renewed key (stepsBetween sop loop.index next.index) →
        ∀ issued, Parked host key loop.ctx.data issued → Parked host key next.ctx.data issued) := by
  rcases approved with ⟨_, _, stands, returned, suspended, -, -, -, -, -, -⟩
  rcases carries_of_waits wired key returned suspended with ⟨count, place, -, carries⟩
  have steps : stepsBetween sop loop.index (loop.index + count + 1) =
      (sop.steps.drop loop.index).take (count + 1) := by
    rw [stepsBetween]
    congr 1
    omega
  rw [LoopAt, returned] at stands
  dsimp only
  rw [place, steps]
  rcases carries with ⟨renewed, tick, low, high, parked⟩ | ⟨quiet, keeps⟩
  · rw [stands tick low high] at parked
    exact ⟨fun _ => parked, fun quiet => absurd renewed quiet⟩
  · exact ⟨fun renewed => absurd renewed quiet, fun _ => keeps⟩

/-- After the approval the nonce lies in the data still. -/
theorem parked_of_issued (wired : engine.writeGate = some gate) {loop : LoopStart} {now issued : ℚ}
    (approved : Issued host rdf engine sop key loop now issued) :
    Parked host key loop.ctx.data issued := by
  induction approved with
  | validated approved renewed => exact (approved.carries wired key).1 renewed
  | kept before approved quiet parked => exact (approved.carries wired key).2 quiet _ parked

/-- A governed write of what is parked hands it to the gate. -/
theorem executeStep_governed (wired : engine.writeGate = some gate) {stamp : ℚ}
    (governs : step.governs = true) (parked : Parked host step.dataKey ctx.data stamp) :
    ((engine.executeStep host rdf step ctx).run world).2.tick =
        ((gate.writeValue host rdf (step.domain.getD []) (dataOr ctx.data step.dataKey)
          (dataOr ctx.data step.nonceKey) (py "turtle")).run (world.part EngineState.gate)).2.tick ∧
      ∀ exc : Exc, ((gate.writeValue host rdf (step.domain.getD []) (dataOr ctx.data step.dataKey)
          (dataOr ctx.data step.nonceKey) (py "turtle")).run (world.part EngineState.gate)).1 =
            .error exc →
        ((engine.executeStep host rdf step ctx).run world).1 =
          .ok (.error (sopExecutionError (py "governed_write 步骤 " ++ step.id ++ py " 执行失败: " ++
            exc.message)), ctx) := by
  simp only [SOPStep.governs, decide_eq_true_eq] at governs
  rcases parked with ⟨present, nonce, lies, stamped⟩
  have shape : engine.executeStep host rdf step ctx =
      engine.actionGovernedWrite host rdf step ctx := by
    simp only [executeStep, governs.1, stepAction, governs.2, if_true]
  have both : ((dataOr ctx.data step.dataKey).truthy && (dataOr ctx.data step.nonceKey).truthy) =
      true := by
    change dataOr ctx.data step.nonceKey = .str nonce at lies
    rw [present, lies, stamped_truthy stamped]
    rfl
  rw [shape, actionGovernedWrite, wired]
  dsimp only
  rw [if_pos both, Coro.run_bind, Coro.run_attempt, atGate_run]
  rcases ended : (gate.writeValue host rdf (step.domain.getD []) (dataOr ctx.data step.dataKey)
    (dataOr ctx.data step.nonceKey) (py "turtle")).run (world.part EngineState.gate) with
    ⟨exc | result, after⟩
  · refine ⟨rfl, fun other same => ?_⟩
    cases same
    rfl
  · refine ⟨rfl, fun other same => ?_⟩
    cases same

/-- The write of what is parked fails as expired exactly when the gate refuses it so. -/
theorem failsExpired_iff_refuses (wired : engine.writeGate = some gate) {stamp : ℚ}
    (governs : step.governs = true) (parked : Parked host step.dataKey ctx.data stamp) :
    engine.FailsExpired host rdf gate step ctx world ↔
      gate.RefusesExpired host (step.domain.getD []) (dataOr ctx.data step.dataKey)
        (dataOr ctx.data step.nonceKey) (world.part EngineState.gate) := by
  constructor
  · exact fun fails => fails.1
  · intro refuses
    have refused := WriteGate.writeValue_of_refusesExpired rdf refuses
    have failed := (@executeStep_governed host rdf engine gate step ctx world wired stamp governs
      parked).2 _ refused
    exact ⟨refuses, _, Prod.ext failed rfl⟩

/-- In a loop that takes no time the nonce of a write has expired if its second is too far back. -/
theorem failsExpired_iff (wired : engine.writeGate = some gate) {write : SOPStep}
    (governs : write.governs = true) {loop : LoopStart} {now stamp : ℚ}
    (stands : engine.LoopAt host rdf sop now loop)
    (visits : engine.Visits host rdf (sop.steps.drop loop.index) loop.index loop.ctx loop.world
      write visited at_)
    (parked : Parked host write.dataKey visited.data stamp) :
    engine.FailsExpired host rdf gate write visited at_ ↔
      gate.WithinQuota host (at_.part EngineState.gate) ∧
        (gate.nonceTtl : ℚ) < now - ⌊stamp⌋ := by
  rw [failsExpired_iff_refuses wired governs parked]
  rcases parked with ⟨present, nonce, lies, stamped⟩
  have presented : dataOr visited.data write.nonceKey = .str nonce := lies
  rw [presented, WriteGate.refusesExpired_iff _ stamped]
  refine and_congr_right fun within => ?_
  rcases visits.carries wired write.dataKey with ⟨-, -, since, -⟩
  have low : at_.tick ≤ (gate.countedWorld host (at_.part EngineState.gate)).tick := by
    rcases policy : gate.autonomyPolicy with _ | policy <;>
      simp [WriteGate.countedWorld, policy, Timed.part]
  have high := @WriteGate.writeValue_moves host gate rdf (write.domain.getD [])
    (dataOr visited.data write.dataKey) (dataOr visited.data write.nonceKey) (py "turtle") _ within
  rw [← (executeStep_governed wired governs ⟨present, nonce, lies, stamped⟩).1] at high
  rw [stands _ (since.trans low) (high.trans (visits.ends wired))]

/--
An approval in time saves the write exactly when the quota is used up, or the TTL lasts from the
second of the last validation, in this loop or in an earlier one, to the write.
-/
theorem timely_write_iff (host : Host) (rdf : RdfLib) (sop : SOPDefinition)
    (wired : engine.writeGate = some gate) {write : SOPStep} (governs : write.governs = true)
    {loop : LoopStart} {now issued : ℚ}
    (approved : Issued host rdf engine sop write.dataKey loop now issued)
    (visits : engine.Visits host rdf (sop.steps.drop loop.index) loop.index loop.ctx loop.world
      write visited at_) :
    ¬ engine.FailsExpired host rdf gate write visited at_ ↔
      ¬ gate.WithinQuota host (at_.part EngineState.gate) ∨
        (Renewed write.dataKey (stepsBetween sop loop.index visited.currentStepIndex) ∧
          now - ⌊now⌋ ≤ gate.nonceTtl) ∨
        (¬ Renewed write.dataKey (stepsBetween sop loop.index visited.currentStepIndex) ∧
          now - ⌊issued⌋ ≤ gate.nonceTtl) := by
  have stands := loopAt_of_issued approved
  have parked := parked_of_issued wired approved
  rcases visits.carries wired write.dataKey with ⟨count, place, since, carries⟩
  have steps : stepsBetween sop loop.index visited.currentStepIndex =
      (sop.steps.drop loop.index).take count := by
    rw [stepsBetween, place]
    congr 1
    omega
  rw [steps]
  rcases carries with ⟨renewed, tick, low, high, renewal⟩ | ⟨quiet, keeps⟩
  · have finish := visits.ends wired
    rcases @executeStep_governed host rdf engine gate write visited at_ wired _ governs renewal with
      ⟨ticks, -⟩
    have still := WriteGate.writeValue_tick host rdf gate (write.domain.getD [])
      (dataOr visited.data write.dataKey) (dataOr visited.data write.nonceKey) (py "turtle")
      (at_.part EngineState.gate)
    have before : at_.tick ≤ ((engine.executeStep host rdf write visited).run at_).2.tick := by
      rw [ticks]
      exact still
    rw [stands tick low ((high.trans before).trans finish)] at renewal
    rw [failsExpired_iff wired governs stands visits renewal]
    simp [renewed, imp_iff_not_or]
  · rw [failsExpired_iff wired governs stands visits (keeps _ parked)]
    simp [quiet, imp_iff_not_or]

end SOPEngine

namespace Sample

open SOPEngine

def writeStep : SOPStep := sopStep (py "write") .action

/-- The clock shows 100 seconds until the run is approved, and 500 seconds from then on. -/
def lateHost : Host :=
  host (fun tick => if tick < 3 then 100 else 500) (fun tick => by split <;> norm_num)
    (by
      intro tick later before
      dsimp only
      split <;> split <;> first | omega | norm_num)
    fun tick => by split <;> norm_num

/-- The clock shows 100 seconds until the run is approved, and 350 seconds from then on. -/
def promptHost : Host :=
  host (fun tick => if tick < 3 then 100 else 350) (fun tick => by split <;> norm_num)
    (by
      intro tick later before
      dsimp only
      split <;> split <;> first | omega | norm_num)
    fun tick => by split <;> norm_num

/-- The run that validated its data waits for the approval. -/
def waitsForApproval (clock : Host) : Bool :=
  returnedWith (fun waiting middle => waiting.state = .suspended ∧ waiting.currentStepIndex = 1 ∧
      middle.tick = 2)
    ((unrecorded.runSteps clock rdf onboarding.steps 0
      { newContext data with state := .running }).run newWorld)

/-- The approval within the hour brings the run to the write. -/
theorem approved_after {clock : Host} {now : ℚ} (waits : waitsForApproval clock = true)
    (early : ∀ tick < 3, clock.monotonic tick = 100) (late : ∀ tick ≥ 3, clock.monotonic tick = now)
    (timely : now - 100 ≤ 3600) :
    ∃ loop, Issued clock rdf unrecorded onboarding writeStep.dataKey loop now 100 ∧
      loop.index = 2 := by
  rcases returnedWith_iff.mp waits with ⟨waiting, middle, returned, facts⟩
  simp only [decide_eq_true_eq] at facts
  rcases facts with ⟨suspended, place, ticks⟩
  have stands : unrecorded.LoopAt clock rdf onboarding 100
      ⟨0, { newContext data with state := .running }, newWorld⟩ := by
    intro tick _ before
    have ended := congrArg (fun result => result.2.tick) returned
    have within : tick ≤ middle.tick := before.trans ended.le
    exact early tick (by omega)
  have asked : onboarding.steps[waiting.currentStepIndex]? =
      some (sopStep (py "approve") .humanApproval) := by
    rw [place]
    rfl
  let answered : EngineWorld := ⟨3, middle.state⟩
  have since : middle.tick ≤ answered.tick := ticks.le.trans (Nat.le_succ 2)
  have approved := TimelyApproval.intro .null (.str (py "boss")) stands returned suspended asked
    since timely (fun _ => rfl) (by simp [unrecorded]) (fun tick after _ => late tick after)
  refine ⟨_, .validated approved ⟨sopStep (py "validate") .validate, ?_, rfl⟩, ?_⟩
  · dsimp only
    rw [place]
    exact List.mem_cons_self
  · exact congrArg Nat.succ place

/-- Behind the approval the run comes to the write at once. -/
theorem writes_next (clock : Host) {loop : LoopStart} (place : loop.index = 2) :
    unrecorded.Visits clock rdf (onboarding.steps.drop loop.index) loop.index loop.ctx loop.world
      writeStep { loop.ctx with currentStepIndex := loop.index }
      (begun loop.index loop.ctx loop.world) := by
  have next : onboarding.steps.drop loop.index = [writeStep] := by
    rw [place]
    rfl
  rw [next]
  exact .here

/-- The TTL of 300 seconds is over before the hour of the approval. -/
theorem late_approval_wasted : ¬ ∀ loop now issued visited at_,
    Issued lateHost rdf unrecorded onboarding writeStep.dataKey loop now issued →
      unrecorded.Visits lateHost rdf
        (onboarding.steps.drop loop.index) loop.index loop.ctx loop.world writeStep visited at_ →
      ¬ unrecorded.FailsExpired lateHost rdf gate writeStep visited at_ := by
  intro claim
  have waits : waitsForApproval lateHost = true := by decide +kernel
  rcases approved_after waits (fun tick early => if_pos early)
    (fun tick late => if_neg (Nat.not_lt.mpr late)) (by norm_num) with ⟨loop, approved, place⟩
  have visits := writes_next lateHost place
  have wired : unrecorded.writeGate = some gate := rfl
  have fails := failsExpired_iff wired rfl (loopAt_of_issued approved) visits
    (parked_of_issued wired approved)
  exact claim loop _ _ _ _ approved visits (fails.mpr ⟨trivial, by norm_num [gate]⟩)

/-- The approval within the TTL is not wasted. -/
theorem prompt_approval_kept : ∃ visited at_,
    ¬ unrecorded.FailsExpired promptHost rdf gate writeStep visited at_ := by
  have waits : waitsForApproval promptHost = true := by decide +kernel
  rcases approved_after waits (fun tick early => if_pos early)
    (fun tick late => if_neg (Nat.not_lt.mpr late)) (by norm_num) with ⟨loop, approved, place⟩
  refine ⟨_, _, (timely_write_iff promptHost rdf onboarding rfl rfl approved
    (writes_next promptHost place)).mpr (.inr (.inr ⟨?_, by norm_num [gate]⟩))⟩
  simp [stepsBetween, Renewed]

end Sample

end AgentOS
