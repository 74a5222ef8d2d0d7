import AgentOS.Workflow.Decisions
import AgentOS.Workflow.Outcomes

/-!
# Approving a run to the end

A run is answered with APPROVED whenever it waits. The feedback table holds one decision for
each run, so a second approval step that asks cannot be answered: the run is approved to the
end exactly when every approval step that asks does so before any decision was recorded.
-/

namespace AgentOS

open Python Cooperative Relation

namespace SOPRunContext

/-- The context of a run that waits for the decision on the step. -/
def waiting (step : SOPStep) (message : Str) (ctx : SOPRunContext) : SOPRunContext :=
  ((ctx.setData (py "_pending_card") (buildApprovalCard step.cardTitleText message ctx.runId
    step.id)).suspend step).logResult step
      (.obj [(py "suspended", .bool true), (py "step_id", .str step.id),
        (py "run_id", .str ctx.runId), (py "card_title", .str step.cardTitleText)])

/-- The context after an approval step that did not ask. -/
def autoApproved (step : SOPStep) (ctx : SOPRunContext) : SOPRunContext :=
  ctx.logResult step
    (.obj [(py "auto_approved", .bool true), (py "condition", .optional step.condition)])

end SOPRunContext

/-- The reason and the approver of an answer, chosen from what the context shows. -/
abbrev Answers := SOPRunContext → Option Str × Str

namespace SOPEngine

variable (host : Host) (rdf : RdfLib) (engine : SOPEngine) (sop : SOPDefinition)
  (answers : Answers)

/-- Answers a run with APPROVED whenever it waits, and lists the answers that were given. -/
def approveAll : ℕ → SOPRunContext → Coro Exc EngineWorld (SOPRunContext × List (Option Str × Str))
  | 0, ctx => pure (ctx, [])
  | fuel + 1, ctx =>
      if ctx.state = .suspended then do
        let ctx' ← engine.resume host rdf sop ctx (py "APPROVED") (.optional (answers ctx).1)
          (.str (answers ctx).2)
        let (final, given) ← approveAll fuel ctx'
        pure (final, answers ctx :: given)
      else pure (ctx, [])

/-- The decision, the reason and the reviewer of each decision on the run. -/
def decisions (runId : Str) (feedback : FeedbackTable) : List (Str × Option Str × Str) :=
  (FeedbackTable.rowsOf runId feedback).map fun row => (row.decision, row.reason, row.reviewer)

/-- The created run is approved to its end, and every approval that was given is recorded. -/
def ApprovedToTheEnd (created : SOPRunContext) (start : EngineWorld) : Prop :=
  ∃ ctx given final,
    (do
      let ctx ← engine.run host rdf sop created
      engine.approveAll host rdf sop answers sop.steps.length ctx).run start =
        (.ok (ctx, given), final) ∧
    ctx.state = .completed ∧
    decisions created.runId final.state.feedback = decisions created.runId start.state.feedback ++
      given.map fun answer => (py "APPROVED", answer)

/-- The loop comes to a step: the context and the world in which the step is executed. -/
inductive Visits : List SOPStep → ℕ → SOPRunContext → EngineWorld →
    SOPStep → SOPRunContext → EngineWorld → Prop
  | here {step : SOPStep} {rest : List SOPStep} {index : ℕ} {ctx : SOPRunContext}
      {world : EngineWorld} :
      Visits (step :: rest) index ctx world step { ctx with currentStepIndex := index }
        (begun index ctx world)
  | later {step other : SOPStep} {rest : List SOPStep} {index : ℕ}
      {ctx ctx' visited : SOPRunContext} {world middle saved at_ : EngineWorld} {result : Json}
      (ran : (engine.executeStep host rdf step { ctx with currentStepIndex := index }).run
        (begun index ctx world) = (.ok (.ok result, ctx'), middle))
      (goesOn : ctx'.state ≠ .suspended)
      (stored : engine.save (ctx'.logResult step result) middle = (.ok (), saved))
      (visits : Visits rest (index + 1) (ctx'.logResult step result) saved other visited at_) :
      Visits (step :: rest) index ctx world other visited at_

/-- Where a loop of the run begins. -/
structure LoopStart where
  index : ℕ
  ctx : SOPRunContext
  world : EngineWorld

/-- The run waits at the end of a loop, is answered with APPROVED and goes on with the next. -/
inductive Answered : LoopStart → LoopStart → Prop
  | intro {loop : LoopStart} {waiting : SOPRunContext} {middle recorded : EngineWorld}
      (returned : (engine.runSteps host rdf (sop.steps.drop loop.index) loop.index loop.ctx).run
        loop.world = (.ok waiting, middle))
      (suspended : waiting.state = .suspended)
      (decided : insertFeedback host (waiting.answer (py "APPROVED")
        (.optional (answers waiting).1) (.str (answers waiting).2)) (py "APPROVED")
        (.optional (answers waiting).1) (.str (answers waiting).2) middle = (.ok (), recorded)) :
      Answered loop ⟨waiting.currentStepIndex + 1,
        { waiting.answer (py "APPROVED") (.optional (answers waiting).1) (.str (answers waiting).2)
          with state := .running, currentStepIndex := waiting.currentStepIndex + 1 }, recorded⟩

/-- The step is executed in the loop or in one after it. -/
def Executes (loop : LoopStart) (step : SOPStep) (ctx : SOPRunContext) (world : EngineWorld) :
    Prop :=
  ∃ later, ReflTransGen (engine.Answered host rdf sop answers) loop later ∧
    engine.Visits host rdf (sop.steps.drop later.index) later.index later.ctx later.world step ctx
      world

/-- The first loop of a created run. -/
def firstLoop (created : SOPRunContext) (start : EngineWorld) : LoopStart :=
  ⟨created.currentStepIndex, { created with state := .running }, start⟩

/-- The step returns a result, with which the context can be stored. -/
def Succeeds (step : SOPStep) (ctx : SOPRunContext) (world : EngineWorld) : Prop :=
  ∃ result ctx' middle, (engine.executeStep host rdf step ctx).run world =
    (.ok (.ok result, ctx'), middle) ∧ engine.Storable (ctx'.logResult step result)

/-- The card of the approval step is made, sent and printed. -/
def CardShown (step : SOPStep) (ctx : SOPRunContext) (world : EngineWorld) (message : Str) : Prop :=
  host.formatMap step.cardTemplate ctx.data = .ok message ∧
    engine.cardSent step message ctx.runId (askedAt step world.tick) = .ok () ∧
    host.print (cardConsoleText step.cardTitleText message ctx.runId)
      (engine.sentAt (askedAt step world.tick)) = .ok ()

/-- The approval step does not ask, and the run goes on. -/
def Unasked (step : SOPStep) (ctx : SOPRunContext) (world : EngineWorld) : Prop :=
  engine.asks step ctx.data world.tick = false ∧ engine.Storable (ctx.autoApproved step)

/-- The approval step asks, and the run waits in the context. -/
def Asked (step : SOPStep) (ctx : SOPRunContext) (world : EngineWorld) (waiting : SOPRunContext) :
    Prop :=
  engine.asks step ctx.data world.tick = true ∧ engine.Storable waiting ∧
    ∃ message, engine.CardShown host step ctx world message ∧ waiting = ctx.waiting step message

/-- The approval step does not ask, or it asks and its answer is the first decision on the run. -/
def Approvable (step : SOPStep) (ctx : SOPRunContext) (world : EngineWorld) : Prop :=
  engine.Unasked step ctx world ∨ ∃ waiting, engine.Asked host step ctx world waiting ∧
    Recordable waiting (answers waiting).1 (answers waiting).2 world.state.feedback

variable {host rdf engine sop answers} {step : SOPStep} {ctx ctx' : SOPRunContext}
  {world middle : EngineWorld}

/-- What executing an approval step comes to. -/
theorem executeApproval_cases (host : Host) (rdf : RdfLib) (engine : SOPEngine)
    (asks : step.type = .humanApproval) (ctx : SOPRunContext) (world : EngineWorld) :
    (engine.asks step ctx.data world.tick = false ∧ ∃ result middle,
      (engine.executeStep host rdf step ctx).run world = (.ok (.ok result, ctx), middle) ∧
      ctx.logResult step result = ctx.autoApproved step) ∨
    (engine.asks step ctx.data world.tick = true ∧ ∃ message result ctx' middle,
      engine.CardShown host step ctx world message ∧
      (engine.executeStep host rdf step ctx).run world = (.ok (.ok result, ctx'), middle) ∧
      ctx'.state = .suspended ∧ ctx'.logResult step result = ctx.waiting step message) ∨
    (engine.asks step ctx.data world.tick = true ∧
      (∀ message, ¬ engine.CardShown host step ctx world message) ∧ ∃ exc ctx' middle,
      (engine.executeStep host rdf step ctx).run world = (.ok (.error exc, ctx'), middle)) := by
  have asked : (Coro.sync (engine.triggers step ctx.data)).run world =
      (.ok (engine.asks step ctx.data world.tick), ⟨askedAt step world.tick, world.state⟩) := by
    rw [Coro.run_sync, triggers_eq]
  have shape : (engine.executeStep host rdf step ctx) = engine.stepHumanApproval host step ctx := by
    unfold executeStep
    rw [asks]
  rw [shape, stepHumanApproval, Coro.run_bind_of_ok asked]
  rcases triggered : engine.asks step ctx.data world.tick
  · exact .inl ⟨rfl, _, _, rfl, rfl⟩
  right
  rw [if_pos rfl]
  rcases formatted : host.formatMap step.cardTemplate ctx.data with exc | message
  · refine .inr ⟨rfl, ?_, exc, _, _, rfl⟩
    rintro message ⟨made, -⟩
    cases formatted.symm.trans made
  · have other : ∀ message', engine.CardShown host step ctx world message' →
        message' = message := by
      rintro message' ⟨made, -⟩
      cases formatted.symm.trans made
      rfl
    dsimp only
    rw [askApproval_run]
    dsimp only
    rcases sent : engine.cardSent step message ctx.runId (askedAt step world.tick) with exc | ⟨⟨⟩⟩
    · refine .inr ⟨rfl, ?_, exc, _, _, rfl⟩
      intro message' shown
      cases other message' shown
      cases sent.symm.trans shown.2.1
    · dsimp only
      rcases printed : host.print (cardConsoleText step.cardTitleText message ctx.runId)
        (engine.sentAt (askedAt step world.tick)) with exc | ⟨⟨⟩⟩
      · refine .inr ⟨rfl, ?_, exc, _, _, rfl⟩
        intro message' shown
        cases other message' shown
        cases printed.symm.trans shown.2.2
      · exact .inl ⟨rfl, message, _, _, _, ⟨formatted, sent, printed⟩, rfl, rfl, rfl⟩

theorem executeStep_feedback {outcome : Except Exc Json}
    (ran : (engine.executeStep host rdf step ctx).run world = (.ok (outcome, ctx'), middle)) :
    middle.state.feedback = world.state.feedback ∧ ctx'.runId = ctx.runId ∧
      (step.type ≠ .humanApproval → ctx'.state = ctx.state) := by
  rcases executeStep_run host rdf engine step ctx world with
    ⟨outcome', after, middle', ran', stepped, kept⟩
  cases ran.symm.trans ran'
  refine ⟨congrArg (fun records => records.2.1) kept, ?_⟩
  cases stepped with
  | suspended _ data asks => exact ⟨rfl, fun other => absurd asks other⟩
  | went _ data => exact ⟨rfl, fun _ => rfl⟩

theorem save_feedback {saved : EngineWorld} (stored : engine.save ctx world = (.ok (), saved)) :
    saved.state.feedback = world.state.feedback := by
  rcases save_cases engine ctx world with ⟨-, saved', stored', -, -, -, same⟩ | ⟨-, exc, refused⟩
  · cases stored.symm.trans stored'
    exact same
  · cases stored.symm.trans refused

/-- A visited step belongs to the run, and nobody has recorded a decision on the way. -/
theorem Visits.same {steps : List SOPStep} {index : ℕ} {visited : SOPRunContext}
    {at_ : EngineWorld} (visits : engine.Visits host rdf steps index ctx world step visited at_) :
    step ∈ steps ∧ visited.runId = ctx.runId ∧ at_.state.feedback = world.state.feedback := by
  induction visits with
  | here => exact ⟨List.mem_cons_self, rfl, rfl⟩
  | later ran goesOn stored visits ih =>
      rcases executeStep_feedback ran with ⟨feedback, named, -⟩
      rcases ih with ⟨mem, same, table⟩
      exact ⟨List.mem_cons_of_mem _ mem, same.trans named,
        table.trans ((save_feedback stored).trans feedback)⟩

/-- A visit after a step that succeeded is a visit of that step or of the rest. -/
theorem visits_of_ok {rest : List SOPStep} {index : ℕ} {result : Json} {other : SOPStep}
    {visited : SOPRunContext} {at_ : EngineWorld}
    (ran : (engine.executeStep host rdf step { ctx with currentStepIndex := index }).run
      (begun index ctx world) = (.ok (.ok result, ctx'), middle))
    (visits : engine.Visits host rdf (step :: rest) index ctx world other visited at_) :
    (other = step ∧ visited = { ctx with currentStepIndex := index } ∧
      at_ = begun index ctx world) ∨
    (ctx'.state ≠ .suspended ∧ ∃ saved,
      engine.save (ctx'.logResult step result) middle = (.ok (), saved) ∧
      engine.Visits host rdf rest (index + 1) (ctx'.logResult step result) saved other visited
        at_) := by
  cases visits with
  | here => exact .inl ⟨rfl, rfl, rfl⟩
  | later ran' goesOn stored visits =>
      cases ran.symm.trans ran'
      exact .inr ⟨goesOn, _, stored, visits⟩

variable (host rdf engine)

/-- How a loop ends whose other steps succeed. -/
inductive LoopEnds (steps : List SOPStep) (index : ℕ) (ctx : SOPRunContext) (world : EngineWorld) :
    Prop
  | completes (final : SOPRunContext) (saved : EngineWorld)
      (returned : (engine.runSteps host rdf steps index ctx).run world = (.ok final, saved))
      (completed : final.state = .completed)
      (feedback : saved.state.feedback = world.state.feedback)
      (quiet : ∀ step visited at_, engine.Visits host rdf steps index ctx world step visited at_ →
        step.type = .humanApproval → engine.Unasked step visited at_)
  | waits (step : SOPStep) (visited : SOPRunContext) (at_ : EngineWorld) (waiting : SOPRunContext)
      (saved : EngineWorld)
      (visits : engine.Visits host rdf steps index ctx world step visited at_)
      (approves : step.type = .humanApproval) (asked : engine.Asked host step visited at_ waiting)
      (returned : (engine.runSteps host rdf steps index ctx).run world = (.ok waiting, saved))
      (feedback : saved.state.feedback = world.state.feedback)
      (only : ∀ other visited' at',
        engine.Visits host rdf steps index ctx world other visited' at' →
        other.type = .humanApproval → engine.Unasked other visited' at' ∨
          other = step ∧ visited' = visited ∧ at' = at_)
  | breaks (step : SOPStep) (visited : SOPRunContext) (at_ : EngineWorld)
      (visits : engine.Visits host rdf steps index ctx world step visited at_)
      (approves : step.type = .humanApproval) (unpassed : ¬ engine.Unasked step visited at_)
      (unasked : ∀ waiting, ¬ engine.Asked host step visited at_ waiting)
      (failed : ∀ final saved,
        (engine.runSteps host rdf steps index ctx).run world = (.ok final, saved) →
        final.state = .failed)

variable {host rdf engine}

/-- A loop that goes on after its first step ends as the rest of it does. -/
theorem LoopEnds.after {rest : List SOPStep} {index : ℕ} {result : Json} {saved : EngineWorld}
    (ran : (engine.executeStep host rdf step { ctx with currentStepIndex := index }).run
      (begun index ctx world) = (.ok (.ok result, ctx'), middle))
    (goesOn : ctx'.state ≠ .suspended)
    (stored : engine.save (ctx'.logResult step result) middle = (.ok (), saved))
    (table : saved.state.feedback = world.state.feedback)
    (passed : step.type = .humanApproval →
      engine.Unasked step { ctx with currentStepIndex := index } (begun index ctx world))
    (ends : engine.LoopEnds host rdf rest (index + 1) (ctx'.logResult step result) saved) :
    engine.LoopEnds host rdf (step :: rest) index ctx world := by
  have same : (engine.runSteps host rdf (step :: rest) index ctx).run world =
      (engine.runSteps host rdf rest (index + 1) (ctx'.logResult step result)).run saved :=
    runSteps_goesOn ran goesOn stored
  have split : ∀ {other visited at_},
      engine.Visits host rdf (step :: rest) index ctx world other visited at_ →
      (other = step ∧ visited = { ctx with currentStepIndex := index } ∧
        at_ = begun index ctx world) ∨
      engine.Visits host rdf rest (index + 1) (ctx'.logResult step result) saved other visited
        at_ := by
    intro other visited at_ visits
    rcases visits_of_ok ran visits with here | ⟨-, saved', stored', later⟩
    · exact .inl here
    · cases stored.symm.trans stored'
      exact .inr later
  cases ends with
  | completes final last returned completed feedback quiet =>
      refine .completes final last (same.trans returned) completed (feedback.trans table) ?_
      intro other visited at_ visits approves
      rcases split visits with ⟨rfl, rfl, rfl⟩ | later
      · exact passed approves
      · exact quiet other visited at_ later approves
  | waits other visited at_ waiting last visits approves asked returned feedback only =>
      refine .waits other visited at_ waiting last (.later ran goesOn stored visits) approves asked
        (same.trans returned) (feedback.trans table) ?_
      intro another visited' at' visits' approves'
      rcases split visits' with ⟨rfl, rfl, rfl⟩ | later
      · exact .inl (passed approves')
      · exact only another visited' at' later approves'
  | breaks other visited at_ visits approves unpassed unasked failed =>
      refine .breaks other visited at_ (.later ran goesOn stored visits) approves unpassed
        unasked ?_
      intro final last returned
      exact failed final last (same.symm.trans returned)

/-- A loop whose first step raised has failed, if it returns. -/
theorem failed_of_step_error {rest : List SOPStep} {index : ℕ} {exc : Exc}
    (ran : (engine.executeStep host rdf step { ctx with currentStepIndex := index }).run
      (begun index ctx world) = (.ok (.error exc, ctx'), middle)) {final : SOPRunContext}
    {saved : EngineWorld}
    (returned : (engine.runSteps host rdf (step :: rest) index ctx).run world =
      (.ok final, saved)) : final.state = .failed := by
  rcases stepReturns_of_returned returned with ⟨ran', -, rfl⟩ | ⟨ran', -⟩ | ⟨ran', -⟩ <;>
    cases ran.symm.trans ran'
  rfl

/-- A loop that cannot save what its first step returned does not return. -/
theorem not_returned_of_unstorable {rest : List SOPStep} {index : ℕ} {result : Json}
    (ran : (engine.executeStep host rdf step { ctx with currentStepIndex := index }).run
      (begun index ctx world) = (.ok (.ok result, ctx'), middle))
    (foreign : ¬ engine.Storable (ctx'.logResult step result)) (final : SOPRunContext)
    (saved : EngineWorld) :
    (engine.runSteps host rdf (step :: rest) index ctx).run world ≠ (.ok final, saved) := by
  intro returned
  rcases save_cases engine (ctx'.logResult step result) middle with
    ⟨storable, -⟩ | ⟨-, exc, refused⟩
  · exact foreign storable
  · rcases stepReturns_of_returned returned with ⟨ran', -⟩ | ⟨ran', -, stored, -⟩ |
      ⟨ran', -, stored, -⟩ <;> cases ran.symm.trans ran'
    · cases refused.symm.trans stored
    · cases refused.symm.trans stored

/-- A loop that begins with an approval step. -/
theorem loopEnds_approval (approves : step.type = .humanApproval) {rest : List SOPStep} {index : ℕ}
    (running : ctx.state = .running)
    (later : ∀ result middle saved, ({ ctx with currentStepIndex := index }.logResult step
        result).toJson.encodable = true →
      (engine.executeStep host rdf step { ctx with currentStepIndex := index }).run
        (begun index ctx world) = (.ok (.ok result, { ctx with currentStepIndex := index }),
          middle) →
      engine.save ({ ctx with currentStepIndex := index }.logResult step result) middle =
        (.ok (), saved) →
      engine.LoopEnds host rdf rest (index + 1)
        ({ ctx with currentStepIndex := index }.logResult step result) saved)
    (stores : engine.stateStore = true) :
    engine.LoopEnds host rdf (step :: rest) index ctx world := by
  rcases executeApproval_cases host rdf engine approves { ctx with currentStepIndex := index }
    (begun index ctx world) with ⟨quiet, result, middle, ran, shape⟩ |
      ⟨asks, message, result, ctx', middle, shown, ran, suspended, shape⟩ |
      ⟨asks, hidden, exc, ctx', middle, ran⟩
  · have table := (executeStep_feedback ran).1
    rcases save_cases engine ({ ctx with currentStepIndex := index }.logResult step result) middle
      with ⟨storable, saved, stored, -, -, -, feedback⟩ | ⟨foreign, -⟩
    · refine .after ran (by simp [running]) stored (feedback.trans table) ?_
        (later result middle saved (storable stores) ran stored)
      exact fun _ => ⟨quiet, shape ▸ storable⟩
    · refine .breaks step _ _ .here approves ?_ ?_ ?_
      · exact fun unasked => foreign (shape ▸ unasked.2)
      · exact fun waiting asked => Bool.false_ne_true (quiet.symm.trans asked.1)
      · exact fun final saved returned =>
          absurd returned (not_returned_of_unstorable ran foreign final saved)
  · have table := (executeStep_feedback ran).1
    rcases save_cases engine (ctx'.logResult step result) middle
      with ⟨storable, saved, stored, -, -, -, feedback⟩ | ⟨foreign, -⟩
    · have ended := @runSteps_cons _ _ _ step rest _ _ _ _ _ _ ran
      simp only [stored, suspended, if_true] at ended
      refine .waits step _ _ _ saved .here approves ⟨asks, storable, message, shown, shape⟩ ended
        (feedback.trans table) ?_
      intro other visited' at' visits _
      rcases visits_of_ok ran visits with here | ⟨goesOn, -⟩
      · exact .inr here
      · exact absurd suspended goesOn
    · refine .breaks step _ _ .here approves ?_ ?_ ?_
      · exact fun unasked => Bool.false_ne_true (unasked.1.symm.trans asks)
      · rintro waiting ⟨-, storable, message', shown', rfl⟩
        cases shown.1.symm.trans shown'.1
        exact foreign (shape ▸ storable)
      · exact fun final saved returned =>
          absurd returned (not_returned_of_unstorable ran foreign final saved)
  · refine .breaks step _ _ .here approves ?_ ?_ ?_
    · exact fun unasked => Bool.false_ne_true (unasked.1.symm.trans asks)
    · rintro waiting ⟨-, -, message, shown, -⟩
      exact hidden message shown
    · exact fun final saved returned => failed_of_step_error ran returned

/-- Every loop ends in one of the ways, when its other steps succeed. -/
theorem runSteps_ends (stores : engine.stateStore = true) {steps : List SOPStep} {index : ℕ}
    (others : ∀ step visited at_, engine.Visits host rdf steps index ctx world step visited at_ →
      step.type ≠ .humanApproval → engine.Succeeds host rdf step visited at_)
    (plain : ctx.toJson.encodable = true) (running : ctx.state = .running) :
    engine.LoopEnds host rdf steps index ctx world := by
  induction steps generalizing index ctx world with
  | nil =>
      have ended := runSteps_nil host rdf engine index ctx world
      rcases save_cases engine { ctx with state := .completed } world with
        ⟨-, saved, stored, -, -, -, feedback⟩ | ⟨foreign, -⟩
      · rw [stored] at ended
        refine .completes _ saved ended rfl feedback ?_
        intro step visited at_ visits
        cases visits
      · exact absurd (fun _ => (SOPRunContext.toJson_encodable_position ctx _ _).trans plain)
          foreign
  | cons step rest ih =>
      have further : ∀ {result ctx' middle saved},
          (engine.executeStep host rdf step { ctx with currentStepIndex := index }).run
            (begun index ctx world) = (.ok (.ok result, ctx'), middle) →
          ctx'.state = .running → (ctx'.logResult step result).toJson.encodable = true →
          engine.save (ctx'.logResult step result) middle = (.ok (), saved) →
          engine.LoopEnds host rdf rest (index + 1) (ctx'.logResult step result) saved := by
        intro result ctx' middle saved ran running plain stored
        have goesOn : ctx'.state ≠ .suspended := by simp [running]
        apply ih _ plain running
        intro other visited at_ visits
        exact others other visited at_ (.later ran goesOn stored visits)
      by_cases approves : step.type = .humanApproval
      · apply loopEnds_approval approves running _ stores
        intro result middle saved plain ran stored
        exact further ran running plain stored
      · rcases others step _ _ .here approves with ⟨result, ctx', middle, ran, storable⟩
        rcases executeStep_feedback ran with ⟨table, -, same⟩
        have running' : ctx'.state = .running := (same approves).trans running
        rcases save_cases engine (ctx'.logResult step result) middle with
          ⟨-, saved, stored, -, -, -, feedback⟩ | ⟨foreign, -⟩
        · refine .after ran (by simp [running']) stored (feedback.trans table) ?_
            (further ran running' (storable stores) stored)
          exact fun asks => absurd asks approves
        · exact absurd storable foreign

variable (host rdf engine sop answers)

/-- The loop and those after it end in COMPLETED, and every approval that was given is recorded. -/
def Finishes (fuel : ℕ) (loop : LoopStart) : Prop :=
  ∃ ctx given final,
    (do
      let ctx ← engine.runSteps host rdf (sop.steps.drop loop.index) loop.index loop.ctx
      engine.approveAll host rdf sop answers fuel ctx).run loop.world = (.ok (ctx, given), final) ∧
    ctx.state = .completed ∧
    decisions loop.ctx.runId final.state.feedback =
      decisions loop.ctx.runId loop.world.state.feedback ++
        given.map fun answer => (py "APPROVED", answer)

/-- Every approval step that is executed from the loop on can be approved. -/
def AllApprovable (loop : LoopStart) : Prop :=
  ∀ step ctx world, engine.Executes host rdf sop answers loop step ctx world →
    step.type = .humanApproval → engine.Approvable host answers step ctx world

/-- The steps of the run that are no approvals succeed. -/
def OthersSucceed (loop : LoopStart) : Prop :=
  ∀ step ctx world, engine.Executes host rdf sop answers loop step ctx world →
    step.type ≠ .humanApproval → engine.Succeeds host rdf step ctx world

variable {host rdf engine sop answers}

theorem approveAll_of_ended {fuel : ℕ} (ended : ctx.state ≠ .suspended) :
    engine.approveAll host rdf sop answers fuel ctx = pure (ctx, []) := by
  cases fuel with
  | zero => rfl
  | succ fuel => rw [approveAll, if_neg ended]

/-- The answer to a waiting run raises when it cannot be recorded. -/
theorem resume_refused {waiting : SOPRunContext} (records : engine.feedbackDb = true)
    (suspended : waiting.state = .suspended) (plain : waiting.toJson.encodable = true)
    {reason : Option Str} {approverId : Str}
    (refused : ¬ Recordable waiting reason approverId world.state.feedback) :
    ∃ exc final, (engine.resume host rdf sop waiting (py "APPROVED") (.optional reason)
      (.str approverId)).run world = (.error exc, final) := by
  have decided : isDecision (py "APPROVED") = true := by decide
  rcases insertFeedback_cases host world decided reason approverId plain with
    ⟨recordable, -⟩ | ⟨-, exc, raised⟩
  · exact absurd recordable refused
  · refine ⟨exc, ⟨world.tick + 1, world.state⟩, ?_⟩
    rw [resume_recording suspended records]
    exact Coro.run_bind_of_error ((Coro.run_sync _ _).trans raised)

/-- The answer to a waiting run that is recorded begins the next loop. -/
theorem resume_recorded {waiting : SOPRunContext} {recorded : EngineWorld}
    (records : engine.feedbackDb = true) (suspended : waiting.state = .suspended)
    {reason : Option Str} {approverId : Str}
    (decided : insertFeedback host (waiting.answer (py "APPROVED") (.optional reason)
      (.str approverId)) (py "APPROVED") (.optional reason) (.str approverId) world =
      (.ok (), recorded)) :
    (engine.resume host rdf sop waiting (py "APPROVED") (.optional reason) (.str approverId)).run
        world =
      (engine.runSteps host rdf (sop.steps.drop (waiting.currentStepIndex + 1))
        (waiting.currentStepIndex + 1)
        { waiting.answer (py "APPROVED") (.optional reason) (.str approverId) with
          state := .running, currentStepIndex := waiting.currentStepIndex + 1 }).run recorded := by
  rw [resume_recording suspended records]
  exact Coro.run_bind_of_ok ((Coro.run_sync _ _).trans decided)

/-- A loop that returns a waiting run. -/
theorem LoopEnds.waiting {steps : List SOPStep} {index : ℕ} {waiting : SOPRunContext}
    (ends : engine.LoopEnds host rdf steps index ctx world) (stores : engine.stateStore = true)
    (returned : (engine.runSteps host rdf steps index ctx).run world = (.ok waiting, middle))
    (suspended : waiting.state = .suspended) :
    steps ≠ [] ∧ waiting.toJson.encodable = true ∧ waiting.runId = ctx.runId ∧
      middle.state.feedback = world.state.feedback := by
  cases ends with
  | completes final saved returned' completed =>
      cases returned.symm.trans returned'
      simp [completed] at suspended
  | waits step visited at_ waiting' saved visits approves asked returned' feedback =>
      cases returned.symm.trans returned'
      rcases asked with ⟨-, storable, message, -, rfl⟩
      exact ⟨List.ne_nil_of_mem visits.same.1, storable stores, visits.same.2.1, feedback⟩
  | breaks step visited at_ visits approves unpassed unasked failed =>
      simp [failed waiting middle returned] at suspended

theorem OthersSucceed.ends {loop : LoopStart} (stores : engine.stateStore = true)
    (others : OthersSucceed host rdf engine sop answers loop)
    (plain : loop.ctx.toJson.encodable = true) (running : loop.ctx.state = .running) :
    engine.LoopEnds host rdf (sop.steps.drop loop.index) loop.index loop.ctx loop.world := by
  apply runSteps_ends stores _ plain running
  intro step visited at_ visits
  exact others step visited at_ ⟨loop, .refl, visits⟩

/-- An answer that is recorded is the first on the run, and the next loop begins with it. -/
theorem Answered.facts {loop next : LoopStart} (stores : engine.stateStore = true)
    (answered : engine.Answered host rdf sop answers loop next)
    (ends : engine.LoopEnds host rdf (sop.steps.drop loop.index) loop.index loop.ctx loop.world) :
    sop.steps ≠ [] ∧ FeedbackTable.rowsOf loop.ctx.runId loop.world.state.feedback = [] ∧
      next.ctx.toJson.encodable = true ∧ next.ctx.state = .running ∧
      FeedbackTable.rowsOf next.ctx.runId next.world.state.feedback ≠ [] := by
  cases answered with
  | intro returned suspended decided =>
      rename_i waiting middle recorded
      rcases ends.waiting stores returned suspended with ⟨some_, plain, named, table⟩
      have approved : isDecision (py "APPROVED") = true := by decide
      rcases insertFeedback_cases host middle approved (answers waiting).1 (answers waiting).2 plain
        with ⟨⟨fresh, why, who⟩, inserted⟩ | ⟨-, exc, raised⟩
      · cases decided.symm.trans inserted
        rw [named, table] at fresh
        refine ⟨?_, fresh, ?_, rfl, ?_⟩
        · rintro none
          simp [none] at some_
        · exact (SOPRunContext.toJson_encodable_position _ _ _).trans
            (answer_encodable plain (by decide) why who)
        · simp [EngineState.setFeedback, FeedbackTable.rowsOf_append, decisionRow,
            SOPRunContext.answer]
      · cases decided.symm.trans raised

theorem Answered.unique {loop next next' : LoopStart}
    (answered : engine.Answered host rdf sop answers loop next)
    (answered' : engine.Answered host rdf sop answers loop next') : next' = next := by
  cases answered with
  | intro returned suspended decided =>
      cases answered' with
      | intro returned' suspended' decided' =>
          cases returned.symm.trans returned'
          cases decided.symm.trans decided'
          rfl

/-- What is executed from a loop on, when another loop follows it. -/
theorem executes_iff_of_answered {loop next : LoopStart} {visited : SOPRunContext}
    {at_ : EngineWorld} (answered : engine.Answered host rdf sop answers loop next) :
    engine.Executes host rdf sop answers loop step visited at_ ↔
      engine.Visits host rdf (sop.steps.drop loop.index) loop.index loop.ctx loop.world step visited
        at_ ∨ engine.Executes host rdf sop answers next step visited at_ := by
  constructor
  · rintro ⟨later, reached, visits⟩
    rcases reached.cases_head with rfl | ⟨second, answered', reached⟩
    · exact .inl visits
    · cases answered.unique answered'
      exact .inr ⟨later, reached, visits⟩
  · rintro (visits | ⟨later, reached, visits⟩)
    · exact ⟨loop, .refl, visits⟩
    · exact ⟨later, .head answered reached, visits⟩

/-- What is executed from a loop on, when it is the last one. -/
theorem executes_iff_of_last {loop : LoopStart} {visited : SOPRunContext} {at_ : EngineWorld}
    (last : ∀ next, ¬ engine.Answered host rdf sop answers loop next) :
    engine.Executes host rdf sop answers loop step visited at_ ↔
      engine.Visits host rdf (sop.steps.drop loop.index) loop.index loop.ctx loop.world step visited
        at_ := by
  constructor
  · rintro ⟨later, reached, visits⟩
    rcases reached.cases_head with rfl | ⟨second, answered, -⟩
    · exact visits
    · exact absurd answered (last second)
  · exact fun visits => ⟨loop, .refl, visits⟩

theorem Asked.unique {waiting waiting' : SOPRunContext}
    (asked : engine.Asked host step ctx world waiting)
    (asked' : engine.Asked host step ctx world waiting') : waiting' = waiting := by
  rcases asked with ⟨-, -, message, shown, rfl⟩
  rcases asked' with ⟨-, -, message', shown', rfl⟩
  cases shown.1.symm.trans shown'.1
  rfl

/-- One more loop: the answer is listed and recorded. -/
theorem finishes_succ_iff {loop : LoopStart} {fuel : ℕ} {waiting : SOPRunContext}
    {recorded : EngineWorld} (records : engine.feedbackDb = true)
    (returned : (engine.runSteps host rdf (sop.steps.drop loop.index) loop.index loop.ctx).run
      loop.world = (.ok waiting, middle))
    (suspended : waiting.state = .suspended) (named : waiting.runId = loop.ctx.runId)
    (decided : insertFeedback host (waiting.answer (py "APPROVED")
      (.optional (answers waiting).1) (.str (answers waiting).2)) (py "APPROVED")
      (.optional (answers waiting).1) (.str (answers waiting).2) middle = (.ok (), recorded))
    (table : decisions waiting.runId recorded.state.feedback =
      decisions loop.ctx.runId loop.world.state.feedback ++ [(py "APPROVED", answers waiting)]) :
    engine.Finishes host rdf sop answers (fuel + 1) loop ↔
      engine.Finishes host rdf sop answers fuel ⟨waiting.currentStepIndex + 1,
        { waiting.answer (py "APPROVED") (.optional (answers waiting).1) (.str (answers waiting).2)
          with
            state := .running, currentStepIndex := waiting.currentStepIndex + 1 }, recorded⟩ := by
  have resumed := @resume_recorded host rdf engine sop middle waiting recorded records suspended _ _
    decided
  have listed : ∀ given : List (Option Str × Str),
      decisions loop.ctx.runId loop.world.state.feedback ++
        (answers waiting :: given).map (fun answer => (py "APPROVED", answer)) =
      decisions waiting.runId recorded.state.feedback ++
        given.map fun answer => (py "APPROVED", answer) := by
    intro given
    simp [table]
  constructor
  · rintro ⟨final, given, last, ran, completed, kept⟩
    rw [Coro.run_bind_of_ok returned, approveAll, if_pos suspended] at ran
    rcases Coro.run_bind_eq_ok_iff.mp ran with ⟨ctx, after, answered, rest⟩
    rcases Coro.run_bind_eq_ok_iff.mp rest with ⟨⟨ctx', given'⟩, after', goesOn, ended⟩
    cases ended
    refine ⟨final, given', last, Coro.run_bind_eq_ok_iff.mpr
      ⟨ctx, after, resumed.symm.trans answered, goesOn⟩, completed, ?_⟩
    rw [listed, ← named] at kept
    exact kept
  · rintro ⟨final, given, last, ran, completed, kept⟩
    rcases Coro.run_bind_eq_ok_iff.mp ran with ⟨ctx, after, answered, goesOn⟩
    refine ⟨final, answers waiting :: given, last, ?_, completed, ?_⟩
    · rw [Coro.run_bind_of_ok returned, approveAll, if_pos suspended,
        Coro.run_bind_of_ok (resumed.trans answered), Coro.run_bind_of_ok goesOn]
      rfl
    · rw [listed, ← named]
      exact kept

/-- A loop that returns a completed run finishes without an answer. -/
theorem finishes_of_completed {loop : LoopStart} {fuel : ℕ} {final : SOPRunContext}
    {saved : EngineWorld}
    (returned : (engine.runSteps host rdf (sop.steps.drop loop.index) loop.index loop.ctx).run
      loop.world = (.ok final, saved))
    (completed : final.state = .completed)
    (table : saved.state.feedback = loop.world.state.feedback) :
    engine.Finishes host rdf sop answers fuel loop ∧
      ∀ next, ¬ engine.Answered host rdf sop answers loop next := by
  constructor
  · refine ⟨final, [], saved, ?_, completed, by simp [table]⟩
    rw [Coro.run_bind_of_ok returned, approveAll_of_ended (by simp [completed])]
    rfl
  · rintro _ ⟨returned', suspended, -⟩
    cases returned.symm.trans returned'
    simp [completed] at suspended

theorem not_finishes_of_failed {loop : LoopStart} {fuel : ℕ}
    (failed : ∀ final saved, (engine.runSteps host rdf (sop.steps.drop loop.index) loop.index
      loop.ctx).run loop.world = (.ok final, saved) → final.state = .failed) :
    ¬ engine.Finishes host rdf sop answers fuel loop := by
  rintro ⟨ctx, given, final, ran, completed, -⟩
  rcases Coro.run_bind_eq_ok_iff.mp ran with ⟨value, after, returned, rest⟩
  have broken := failed value after returned
  rw [approveAll_of_ended (by simp [broken])] at rest
  cases rest
  simp [broken] at completed

/-- A loop whose answer is refused does not finish. -/
theorem not_finishes_of_refused {loop : LoopStart} {fuel : ℕ} {waiting : SOPRunContext}
    (records : engine.feedbackDb = true)
    (returned : (engine.runSteps host rdf (sop.steps.drop loop.index) loop.index loop.ctx).run
      loop.world = (.ok waiting, middle))
    (suspended : waiting.state = .suspended) (plain : waiting.toJson.encodable = true)
    (refused : ¬ Recordable waiting (answers waiting).1 (answers waiting).2 middle.state.feedback) :
    ¬ engine.Finishes host rdf sop answers fuel loop := by
  rintro ⟨ctx, given, final, ran, completed, -⟩
  rcases Coro.run_bind_eq_ok_iff.mp ran with ⟨value, after, returned', rest⟩
  cases returned.symm.trans returned'
  rcases fuel with _ | fuel
  · cases rest
    simp [suspended] at completed
  · rcases @resume_refused host rdf engine sop middle waiting records suspended plain _ _ refused
      with ⟨exc, stopped, raised⟩
    rw [approveAll, if_pos suspended, Coro.run_bind_of_error raised] at rest
    cases rest

/-- Of a loop that waits at a step that can be approved, the steps after it remain. -/
theorem allApprovable_iff_of_answered {loop next : LoopStart} {visited : SOPRunContext}
    {at_ : EngineWorld} (answered : engine.Answered host rdf sop answers loop next)
    (approvable : engine.Approvable host answers step visited at_)
    (only : ∀ other visited' at', engine.Visits host rdf (sop.steps.drop loop.index) loop.index
      loop.ctx loop.world other visited' at' → other.type = .humanApproval →
        engine.Unasked other visited' at' ∨ other = step ∧ visited' = visited ∧ at' = at_) :
    engine.AllApprovable host rdf sop answers next ↔
      engine.AllApprovable host rdf sop answers loop := by
  constructor
  · intro all other ctx world executes approves
    rcases (executes_iff_of_answered answered).mp executes with visits | executes
    · rcases only other ctx world visits approves with passed | ⟨rfl, rfl, rfl⟩
      · exact .inl passed
      · exact approvable
    · exact all other ctx world executes approves
  · intro all other ctx world executes approves
    exact all other ctx world ((executes_iff_of_answered answered).mpr (.inr executes)) approves

/-- A loop finishes exactly when it can be approved, if the loops after it do. -/
theorem finishes_iff_of_next {loop : LoopStart} {fuel : ℕ} (records : engine.feedbackDb = true)
    (stores : engine.stateStore = true)
    (ends : engine.LoopEnds host rdf (sop.steps.drop loop.index) loop.index loop.ctx loop.world)
    (goesOn : ∀ next, engine.Answered host rdf sop answers loop next → ∃ less, fuel = less + 1 ∧
      (engine.Finishes host rdf sop answers less next ↔
        engine.AllApprovable host rdf sop answers next)) :
    engine.Finishes host rdf sop answers fuel loop ↔
      engine.AllApprovable host rdf sop answers loop := by
  rcases ends with ⟨final, saved, returned, completed, table, quiet⟩ |
    ⟨step, visited, at_, waiting, saved, visits, approves, asked, returned, table, only⟩ |
    ⟨step, visited, at_, visits, approves, unpassed, unasked, failed⟩
  case completes =>
    rcases finishes_of_completed returned completed table with ⟨finishes, last⟩
    refine iff_of_true finishes ?_
    intro step ctx world executes approves
    exact .inl (quiet step ctx world ((executes_iff_of_last last).mp executes) approves)
  case breaks =>
    refine iff_of_false (not_finishes_of_failed failed) ?_
    intro all
    rcases all step visited at_ ⟨loop, .refl, visits⟩ approves with passed | ⟨waiting, asked, -⟩
    · exact unpassed passed
    · exact unasked waiting asked
  case waits =>
    have ends := LoopEnds.waits step visited at_ waiting saved visits approves asked returned table
      only
    have suspended : waiting.state = .suspended := by
      rcases asked with ⟨-, -, message, -, rfl⟩
      rfl
    rcases ends.waiting stores returned suspended with ⟨-, plain, named, -⟩
    have here : at_.state.feedback = saved.state.feedback := visits.same.2.2.trans table.symm
    have approved : isDecision (py "APPROVED") = true := by decide
    rcases insertFeedback_cases host saved approved (answers waiting).1 (answers waiting).2 plain
      with ⟨recordable, decided⟩ | ⟨refused, -⟩
    · have answered := Answered.intro returned suspended decided
      rcases goesOn _ answered with ⟨less, rfl, finishes⟩
      have approvable : engine.Approvable host answers step visited at_ :=
        .inr ⟨waiting, asked, here ▸ recordable⟩
      rw [finishes_succ_iff records returned suspended named decided, finishes]
      · exact allApprovable_iff_of_answered answered approvable only
      · rw [← named, ← table]
        simp [decisions, EngineState.setFeedback, FeedbackTable.rowsOf_append, decisionRow]
    · refine iff_of_false (not_finishes_of_refused records returned suspended plain refused) ?_
      intro all
      rcases all step visited at_ ⟨loop, .refl, visits⟩ approves with
        ⟨quiet, -⟩ | ⟨waiting', asked', recordable⟩
      · exact Bool.false_ne_true (quiet.symm.trans asked.1)
      · cases asked.unique asked'
        exact refused (here ▸ recordable)

/-- Once a decision on the run is recorded, every answer that is still asked for is refused. -/
theorem not_answered_of_decided {loop next : LoopStart} (stores : engine.stateStore = true)
    (ends : engine.LoopEnds host rdf (sop.steps.drop loop.index) loop.index loop.ctx loop.world)
    (decided : FeedbackTable.rowsOf loop.ctx.runId loop.world.state.feedback ≠ []) :
    ¬ engine.Answered host rdf sop answers loop next :=
  fun answered => decided (answered.facts stores ends).2.1

/-- A loop that does not fail has executed steps that succeed only. -/
theorem visits_succeed {steps : List SOPStep} {index : ℕ} {final : SOPRunContext}
    {saved : EngineWorld} (unfailed : final.state ≠ .failed)
    (returned : (engine.runSteps host rdf steps index ctx).run world = (.ok final, saved))
    {visited : SOPRunContext} {at_ : EngineWorld}
    (visits : engine.Visits host rdf steps index ctx world step visited at_) :
    engine.Succeeds host rdf step visited at_ := by
  induction visits with
  | @here first rest index ctx world =>
      rcases executeStep_run host rdf engine first { ctx with currentStepIndex := index }
        (begun index ctx world) with ⟨exc | result, ctx', middle, ran, -, -⟩
      · exact absurd (failed_of_step_error ran returned) unfailed
      · refine ⟨result, ctx', middle, ran, ?_⟩
        by_contra foreign
        exact not_returned_of_unstorable ran foreign final saved returned
  | @later first other rest index ctx ctx' visited world middle after at_ result ran goesOn stored
      visits ih =>
      exact ih ((runSteps_goesOn ran goesOn stored).symm.trans returned)

/-- A run that is approved to its end has executed steps that succeed only. -/
theorem succeeds_of_completed (records : engine.feedbackDb = true) {fuel : ℕ} {loop : LoopStart}
    {given : List (Option Str × Str)} {final : EngineWorld}
    (returned : (do
      let ctx ← engine.runSteps host rdf (sop.steps.drop loop.index) loop.index loop.ctx
      engine.approveAll host rdf sop answers fuel ctx).run loop.world = (.ok (ctx, given), final))
    (completed : ctx.state = .completed) {visited : SOPRunContext} {at_ : EngineWorld}
    (executes : engine.Executes host rdf sop answers loop step visited at_) :
    engine.Succeeds host rdf step visited at_ := by
  have ended : ∀ {loop : LoopStart} {middle : EngineWorld},
      (engine.runSteps host rdf (sop.steps.drop loop.index) loop.index loop.ctx).run loop.world =
        (.ok ctx, middle) → engine.Executes host rdf sop answers loop step visited at_ →
      engine.Succeeds host rdf step visited at_ := by
    intro loop middle ran executes
    have last : ∀ next, ¬ engine.Answered host rdf sop answers loop next := by
      rintro _ ⟨ran', suspended, -⟩
      cases ran.symm.trans ran'
      simp [completed] at suspended
    exact visits_succeed (by simp [completed]) ran ((executes_iff_of_last last).mp executes)
  induction fuel generalizing loop given with
  | zero =>
      rcases Coro.run_bind_eq_ok_iff.mp returned with ⟨value, middle, ran, rest⟩
      cases rest
      exact ended ran executes
  | succ fuel ih =>
      rcases Coro.run_bind_eq_ok_iff.mp returned with ⟨value, middle, ran, rest⟩
      by_cases suspended : value.state = .suspended
      · rw [approveAll, if_pos suspended] at rest
        rcases Coro.run_bind_eq_ok_iff.mp rest with ⟨ctx', after, resumed, rest⟩
        rcases Coro.run_bind_eq_ok_iff.mp rest with ⟨⟨ctx'', given'⟩, after', goesOn, same⟩
        cases same
        have answered' := resumed
        rw [resume_recording suspended records] at answered'
        rcases Coro.run_bind_eq_ok_iff.mp answered' with ⟨⟨⟩, recorded, inserted, -⟩
        have decided := (Coro.run_sync _ _).symm.trans inserted
        have answered : engine.Answered host rdf sop answers loop _ :=
          .intro ran suspended decided
        rcases (executes_iff_of_answered answered).mp executes with visits | executes
        · exact visits_succeed (by simp [suspended]) ran visits
        · refine ih (Coro.run_bind_eq_ok_iff.mpr ⟨ctx', after, ?_, goesOn⟩) executes
          exact (resume_recorded records suspended decided).symm.trans resumed
      · rw [approveAll_of_ended suspended] at rest
        cases rest
        exact ended ran executes

/--
A created run, whose other steps succeed, is approved to its end exactly when each approval
step that it executes does not ask, or asks before any decision on the run is recorded.
-/
theorem approvedToTheEnd_iff (records : engine.feedbackDb = true)
    (stores : engine.stateStore = true)
    {data : Dict Str Json} {runId : Option Str} {created : SOPRunContext}
    {begins start : EngineWorld}
    (creates : engine.createRun host sop data runId begins = (.ok created, start))
    (others : OthersSucceed host rdf engine sop answers (firstLoop created start)) :
    ApprovedToTheEnd host rdf engine sop answers created start ↔
      engine.AllApprovable host rdf sop answers (firstLoop created start) := by
  have plain : created.toJson.encodable = true := by
    rcases createRun_cases host engine sop data runId begins with ⟨ctx, tick, -, -, -, -, shape⟩
    rw [shape] at creates
    rcases Action.bind_eq_ok_iff.mp creates with ⟨⟨⟩, saved, stored, same⟩
    cases same
    rcases save_cases engine created ⟨tick, begins.state⟩ with ⟨storable, -⟩ | ⟨-, exc, refused⟩
    · exact storable stores
    · cases stored.symm.trans refused
  have first : (firstLoop created start).ctx.toJson.encodable = true :=
    (SOPRunContext.toJson_encodable_position created _ _).trans plain
  have ends := others.ends stores first rfl
  have whole : ApprovedToTheEnd host rdf engine sop answers created start ↔
      engine.Finishes host rdf sop answers sop.steps.length (firstLoop created start) := Iff.rfl
  rw [whole]
  apply finishes_iff_of_next records stores ends
  intro next answered
  rcases answered.facts stores ends with ⟨some_, -, plain', running, decided⟩
  have others' : OthersSucceed host rdf engine sop answers next := by
    intro step ctx world executes
    exact others step ctx world ((executes_iff_of_answered answered).mpr (.inr executes))
  have ends' := others'.ends stores plain' running
  rcases Nat.exists_eq_succ_of_ne_zero (mt List.length_eq_zero_iff.mp some_) with ⟨less, count⟩
  refine ⟨less, count, finishes_iff_of_next records stores ends' ?_⟩
  intro another answered'
  exact absurd answered' (not_answered_of_decided stores ends' decided)

end SOPEngine

namespace Sample

/-- The approver of the sample run. -/
def boss : Answers := fun _ => (none, py "boss")

/-- The sample run is approved to its end, so its approval step could be approved. -/
theorem onboarding_approvable : ∃ created start,
    engine.AllApprovable steadyHost rdf onboarding boss (SOPEngine.firstLoop created start) := by
  let asset : Dict Str Json := Dict.ofEntries [(py "asset", .str data)]
  let create := engine.createRun steadyHost onboarding asset (some (py "run-1"))
  let approve (created : SOPRunContext) : Coro Exc EngineWorld
      (SOPRunContext × List (Option Str × Str)) := do
    let ctx ← engine.run steadyHost rdf onboarding created
    engine.approveAll steadyHost rdf onboarding boss onboarding.steps.length ctx
  have completes : returnedWith (fun created start =>
      returnedWith (fun done final => done.1.state = .completed ∧
          SOPEngine.decisions created.runId final.state.feedback =
            SOPEngine.decisions created.runId start.state.feedback ++
              done.2.map fun answer => (py "APPROVED", answer))
        ((approve created).run start)) (create newWorld) = true := by
    decide +kernel
  rcases returnedWith_iff.mp completes with ⟨created, start, creates, approves⟩
  rcases returnedWith_iff.mp approves with ⟨⟨ctx, given⟩, final, returned, held⟩
  have ended := of_decide_eq_true held
  refine ⟨created, start, (SOPEngine.approvedToTheEnd_iff rfl rfl creates ?_).mp
    ⟨ctx, given, final, returned, ended⟩⟩
  intro step visited at_ executes _
  exact SOPEngine.succeeds_of_completed rfl returned ended.1 executes

/-- Two persons have to approve. -/
def twoApprovals : SOPDefinition :=
  ⟨py "onboarding", [sopStep (py "approve") .humanApproval, sopStep (py "confirm") .humanApproval]⟩

/-- The second approval of a run cannot be recorded. -/
theorem second_approval_refused :
    ¬ ∀ (host : Host) (rdf : RdfLib) (engine : SOPEngine) (sop : SOPDefinition) (answers : Answers)
      (data : Dict Str Json) (runId : Option Str) (created : SOPRunContext)
      (begins start : EngineWorld),
      engine.feedbackDb = true → engine.stateStore = true →
      engine.createRun host sop data runId begins = (.ok created, start) →
      engine.OthersSucceed host rdf sop answers (SOPEngine.firstLoop created start) →
      engine.ApprovedToTheEnd host rdf sop answers created start := by
  intro claim
  let create := engine.createRun steadyHost twoApprovals Dict.empty (some (py "run-1"))
  let approve (created : SOPRunContext) : Coro Exc EngineWorld
      (SOPRunContext × List (Option Str × Str)) := do
    let ctx ← engine.run steadyHost rdf twoApprovals created
    engine.approveAll steadyHost rdf twoApprovals boss twoApprovals.steps.length ctx
  have raises : returnedWith (fun created start => !((approve created).run start).1.isOk)
      (create newWorld) = true := by
    decide +kernel
  rcases returnedWith_iff.mp raises with ⟨created, start, creates, refused⟩
  have others : engine.OthersSucceed steadyHost rdf twoApprovals boss
      (SOPEngine.firstLoop created start) := by
    rintro step visited at_ ⟨later, -, visits⟩ other
    have mem := List.mem_of_mem_drop visits.same.1
    simp only [twoApprovals, List.mem_cons, List.not_mem_nil, or_false] at mem
    rcases mem with rfl | rfl <;> exact absurd rfl other
  rcases claim steadyHost rdf engine twoApprovals boss Dict.empty _ created newWorld start rfl rfl
    creates others with ⟨ctx, given, final, returned, -⟩
  have succeeded := congrArg (fun result => result.1.isOk) returned
  rw [show ((approve created).run start).1.isOk = true from succeeded] at refused
  cases refused

end Sample

end AgentOS
