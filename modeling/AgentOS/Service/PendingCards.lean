import AgentOS.Adapters.WebhookBody
import AgentOS.Service.EngineUse
import AgentOS.Service.OwnCards
import AgentOS.Workflow.Lifecycle

/-!
# Pending cards

The card of an approval step is kept in the data of the run, and its two buttons are what the
webhook is called with when they are clicked. Whatever the service has been asked for, the card
in a stored run that waits is the one of the step that it waits for, and either of its buttons
decides on just this run.
-/

namespace AgentOS

open Python Cooperative Relation

/-! ### Buttons and clicks -/

/-- The value of a button, which names the decision, the run and the step. -/
def buttonValue (decision runId stepId : Str) : Json :=
  .obj [(py "action", .str decision), (py "run_id", .str runId), (py "step_id", .str stepId)]

def itemsOf : Json → List Json
  | .arr items => items
  | _ => []

/-- The values of the buttons that a card shows. -/
def cardButtons (card : Json) : List Json :=
  (itemsOf (FeishuAdapter.fieldOr card "elements" .null)).flatMap fun element =>
    if (FeishuAdapter.fieldOr element "tag" .null).isStr (py "action") then
      (itemsOf (FeishuAdapter.fieldOr element "actions" .null)).map fun button =>
        FeishuAdapter.fieldOr button "value" .null
    else []

/-- What the webhook is called with when a button is clicked: who clicked it and what they wrote. -/
def buttonClick (reviewer input : Str) (value : Json) : Json :=
  .obj [(py "open_id", .str reviewer),
    (py "action", .obj [(py "value", value), (py "input", .str input)])]

theorem cardButtons_buildApprovalCard (title message runId stepId : Str) :
    cardButtons (buildApprovalCard title message runId stepId) =
      [buttonValue (py "APPROVED") runId stepId, buttonValue (py "REJECTED") runId stepId] :=
  rfl

/-- The callback that a click is parsed into. -/
def clickedCallback (reviewer input runId stepId : Str) {decision : Str}
    (decided : isDecision decision = true) : CardCallback where
  runId := .str runId
  stepId := .str stepId
  decision := decision
  reviewer := .str reviewer
  reason := .str input
  decided := decided

theorem parseCardCallback_buttonClick {decision runId : Str} (named : runId ≠ [])
    (decided : isDecision decision = true) (reviewer input stepId : Str) :
    FeishuAdapter.parseCardCallback
      (buttonClick reviewer input (buttonValue decision runId stepId)) =
      .ok (some (clickedCallback reviewer input runId stepId decided)) := by
  have truthy : (Json.str runId).truthy = true := by simpa [Json.truthy] using named
  have looked : FeishuAdapter.parseCardCallback
      (buttonClick reviewer input (buttonValue decision runId stepId)) =
        FeishuAdapter.callbackOf (.str runId) (.str stepId) (.str decision) (.str reviewer)
          (.str input) := by
    rcases input with _ | ⟨c, rest⟩ <;> rfl
  rw [looked, FeishuAdapter.callbackOf, dif_pos decided, if_pos truthy]
  rfl

/-! ### Stored runs and their cards -/

/-- A run that waits has the card of the step that it waits for, whose buttons name the run. -/
def SOPRunContext.CardPending (ctx : SOPRunContext) : Prop :=
  ctx.state = .suspended → ∃ stepId card, ctx.suspendedStepId = some stepId ∧
    ctx.data.get? (py "_pending_card") = some card ∧
    cardButtons card =
      [buttonValue (py "APPROVED") ctx.runId stepId, buttonValue (py "REJECTED") ctx.runId stepId]

/-- Every stored run was written from a context with the card that it waits for. -/
def EngineState.CardsPending (engine : EngineState) : Prop :=
  ∀ runId row, engine.runs.get? runId = some row → ∃ ctx : SOPRunContext, ctx.runId = runId ∧
    row.state = ctx.state ∧ row.contextJson = ctx.toJson ∧ ctx.CardPending

/-- A step of the engine after which the stored runs still have their cards. -/
def PendingStep (world world' : EngineWorld) : Prop :=
  world.state.CardsPending → world'.state.CardsPending

/-- A run that is read from its row is the one that the row was written from. -/
theorem EngineState.CardsPending.read {engine : EngineState} (pending : engine.CardsPending)
    {runId : Str} {row : StoredRun} {ctx : SOPRunContext}
    (found : engine.runs.get? runId = some row) (read : row.context? = some ctx) :
    ctx.runId = runId ∧ row.contextJson = ctx.toJson ∧
      ctx.CardPending := by
  rcases pending runId row found with ⟨written, named, -, document, carded⟩
  rw [StoredRun.context?, document, SOPRunContext.ofJson_toJson] at read
  split at read <;> cases read
  exact ⟨named, document, carded⟩

theorem cardPending_of_going {ctx : SOPRunContext} (going : ctx.state ≠ .suspended) :
    ctx.CardPending :=
  fun suspended => absurd suspended going

theorem cardPending_suspend (step : SOPStep) (message : Str) (ctx : SOPRunContext) :
    ((ctx.setData (py "_pending_card") (buildApprovalCard step.cardTitleText message ctx.runId
      step.id)).suspend step).CardPending := by
  intro _
  refine ⟨step.id, _, rfl, Dict.get?_set_self _ _ _, ?_⟩
  exact cardButtons_buildApprovalCard step.cardTitleText message ctx.runId step.id

theorem pendingStep_of_runs {world world' : EngineWorld}
    (runs : world'.state.runs = world.state.runs) : PendingStep world world' := by
  intro pending
  rw [EngineState.CardsPending, runs]
  exact pending

theorem pendingStep_save (engine : SOPEngine) {ctx : SOPRunContext} (carded : ctx.CardPending)
    (world : EngineWorld) : PendingStep world (engine.save ctx world).2 := by
  unfold SOPEngine.save
  split
  · simp only [Action.bind_apply, Timed.view_apply, ofExcept_apply]
    rcases RunTable.saveState_cases ctx world.state.runs with
      ⟨encoded, stored⟩ | ⟨-, exc, refused⟩
    · rw [stored]
      intro pending runId row found
      change (Dict.set world.state.runs ctx.runId _).get? runId = some row at found
      by_cases same : runId = ctx.runId
      · rw [same, Dict.get?_set_self] at found
        cases found
        exact ⟨ctx, same.symm, rfl, rfl, carded⟩
      · rw [Dict.get?_set_of_ne _ _ same] at found
        exact pending runId row found
    · rw [refused]
      exact pendingStep_of_runs rfl
  · exact pendingStep_of_runs rfl

namespace SOPEngine

variable {host : Host} {rdf : RdfLib} {engine : SOPEngine} {ctx : SOPRunContext}

/-- A step never raises, and when it suspends the run it leaves its card. -/
def StepEndsPending (result : Except Exc StepOutcome) : Prop :=
  ∃ outcome, result = .ok outcome ∧ outcome.2.CardPending

theorem pending_of_stepEnds {step : SOPStep} (going : ctx.state ≠ .suspended)
    (other : step.type ≠ .humanApproval) {result : Except Exc StepOutcome}
    (ends : StepEnds step ctx result) : StepEndsPending result := by
  rcases ends with ⟨outcome, rfl, stepped⟩
  refine ⟨outcome, rfl, ?_⟩
  cases stepped with
  | went => exact cardPending_of_going going
  | suspended _ _ asks => exact absurd asks other

theorem stepHumanApproval_pending (host : Host) (engine : SOPEngine) (step : SOPStep)
    (going : ctx.state ≠ .suspended) :
    (engine.stepHumanApproval host step ctx).Keeps recordsOf StepEndsPending := by
  have went : ∀ (result : Except Exc Json) (data : Dict Str Json),
      StepEndsPending (.ok (result, { ctx with data })) :=
    fun result data => ⟨_, rfl, cardPending_of_going going⟩
  apply Coro.keeps_bind (triggers_keeps EngineState.records engine step ctx.data)
  · rintro triggered -
    split
    · split
      · apply Coro.keeps_attempt_bind
        · apply Coro.keeps_bind (sendCard_keeps (fun _ _ => rfl) engine step _ _ _)
          · exact fun _ _ => outcome_keeps EngineState.records _
          · exact fun _ _ => trivial
        · rintro (exc | ⟨⟩) -
          · exact went (.error exc) _
          · exact ⟨_, rfl, cardPending_suspend step _ ctx⟩
      · exact went _ ctx.data
    · exact went _ ctx.data
  · rintro exc ⟨_, raised⟩
    cases raised

theorem executeStep_pending (host : Host) (rdf : RdfLib) (engine : SOPEngine) (step : SOPStep)
    (going : ctx.state ≠ .suspended) :
    (engine.executeStep host rdf step ctx).Keeps recordsOf StepEndsPending := by
  by_cases asks : step.type = .humanApproval
  · simp only [executeStep, asks]
    exact stepHumanApproval_pending host engine step going
  · exact (executeStep_keeps host rdf engine step ctx).mono
      fun _ ends => pending_of_stepEnds going asks ends

theorem save_pending (carded : ctx.CardPending) (origin : EngineWorld) :
    (Coro.sync (engine.save ctx)).Steps PendingStep (fun _ _ => True) origin :=
  Coro.steps_sync fun world _ => ⟨pendingStep_save engine carded world, trivial⟩

/-- The loop saves a run that waits with the card of the step that asked. -/
theorem runSteps_pending (rdf : RdfLib) (steps : List SOPStep) (index : ℕ)
    (going : ctx.state ≠ .suspended) (origin : EngineWorld) :
    (engine.runSteps host rdf steps index ctx).Steps PendingStep (fun _ _ => True) origin := by
  induction steps generalizing index ctx origin with
  | nil =>
      have completed : SOPRunContext.CardPending { ctx with state := .completed } :=
        cardPending_of_going nofun
      apply Coro.steps_bind (save_pending completed origin)
      · exact fun _ _ _ _ => trivial
      · exact fun _ _ _ => trivial
  | cons step rest ih =>
      have noted : (Coro.sync (note (.executing ctx.runId index ctx.data))).Steps PendingStep
          (fun _ _ => True) origin :=
        Coro.steps_sync fun _ _ => ⟨pendingStep_of_runs rfl, trivial⟩
      apply Coro.steps_bind noted
      · intro _ world _ _
        have executes := @executeStep_pending { ctx with currentStepIndex := index } host rdf engine
          step going
        have quiet : ∀ world world' : EngineWorld, recordsOf world' = recordsOf world →
            PendingStep world world' :=
          fun _ _ same => pendingStep_of_runs (congrArg Prod.fst same)
        apply Coro.steps_bind (executes.steps quiet world)
        · rintro ⟨exc | result, ctx'⟩ world' - ⟨_, ⟨⟩, carded⟩
          · dsimp only
            split
            · have failed : (ctx'.fail exc.message).CardPending := cardPending_of_going nofun
              apply Coro.steps_bind (save_pending failed world')
              · exact fun _ _ _ _ => trivial
              · exact fun _ _ _ => trivial
            · trivial
          · have logged : (ctx'.logResult step result).CardPending := carded
            apply Coro.steps_bind (save_pending logged world')
            · intro _ world'' _ _
              split
              · trivial
              · rename_i goesOn
                exact ih (index + 1) goesOn world''
            · exact fun _ _ _ => trivial
        · exact fun _ _ _ => trivial
      · exact fun _ _ _ => trivial

theorem run_pending (rdf : RdfLib) (sop : SOPDefinition) (ctx : SOPRunContext)
    (origin : EngineWorld) :
    (engine.run host rdf sop ctx).Steps PendingStep (fun _ _ => True) origin :=
  runSteps_pending rdf _ _ (by simp) origin

theorem resume_pending (rdf : RdfLib) (sop : SOPDefinition) (ctx : SOPRunContext) (decision : Str)
    (reason approverId : Json) (origin : EngineWorld) :
    (engine.resume host rdf sop ctx decision reason approverId).Steps PendingStep
      (fun _ _ => True) origin := by
  have proceeds : ∀ (ctx : SOPRunContext) (world : EngineWorld),
      (engine.proceed host rdf sop ctx decision).Steps PendingStep (fun _ _ => True) world := by
    intro ctx world
    unfold proceed
    split
    · have rejected : SOPRunContext.CardPending { ctx with state := .rejected } :=
        cardPending_of_going nofun
      apply Coro.steps_bind (save_pending rejected world)
      · exact fun _ _ _ _ => trivial
      · exact fun _ _ _ => trivial
    · exact run_pending rdf sop _ world
  have inserts : (Coro.sync (insertFeedback host (ctx.answer decision reason approverId) decision
      reason approverId)).Steps PendingStep (fun _ _ => True) origin := by
    apply Coro.steps_sync
    intro world _
    have runs := @insertFeedback_keeps _ EngineState.runs (fun _ _ => rfl) host
      (ctx.answer decision reason approverId) decision reason approverId world
    exact ⟨pendingStep_of_runs runs, trivial⟩
  unfold resume
  split
  · trivial
  · dsimp only
    split
    · apply Coro.steps_bind inserts
      · exact fun _ world _ _ => proceeds _ world
      · exact fun _ _ _ => trivial
    · exact proceeds _ origin

theorem createRun_pending (engine : SOPEngine) (host : Host) (sop : SOPDefinition)
    (data : Dict Str Json) (given : Option Str) (origin : EngineWorld) :
    (Coro.sync (engine.createRun host sop data given)).Steps PendingStep (fun _ _ => True)
      origin := by
  apply Coro.steps_sync
  intro world _
  rcases createRun_saves host engine sop data given world with
    ⟨ctx, tick, -, -, pending, -, -, saved, -⟩
  have carded : ctx.CardPending := cardPending_of_going (by simp [pending])
  rw [saved]
  exact ⟨pendingStep_save engine carded ⟨tick, world.state⟩, trivial⟩

theorem insertFeedback_click (host : Host) (plain : ctx.toJson.encodable = true) {decision : Str}
    (decided : isDecision decision = true) {reviewer input : Str} (who : encodable reviewer = true)
    (why : encodable input = true) {world : EngineWorld}
    (undecided : FeedbackTable.rowsOf ctx.runId world.state.feedback = []) :
    insertFeedback host (ctx.answer decision (.str input) (.str reviewer)) decision (.str input)
        (.str reviewer) world =
      (.ok (), ⟨world.tick + 1, world.state.setFeedback (world.state.feedback ++
        [decisionRow host ctx decision (some input) reviewer world])⟩) := by
  rcases insertFeedback_cases host world decided (some input) reviewer plain with
    ⟨-, inserted⟩ | ⟨refused, -⟩
  · exact inserted
  · exact absurd ⟨undecided, why, who⟩ refused

theorem insertable_click (host : Host) (engine : SOPEngine) (plain : ctx.toJson.encodable = true)
    {decision : Str} (decided : isDecision decision = true) {reviewer input : Str}
    (who : encodable reviewer = true) (why : encodable input = true) {world : EngineWorld}
    (undecided : FeedbackTable.rowsOf ctx.runId world.state.feedback = []) :
    Insertable host engine ctx decision (.str input) (.str reviewer) world := by
  intro _
  have inserted := @insertFeedback_click ctx host plain decision decided reviewer input who why
    world undecided
  rw [insertFeedback_apply host _ decided] at inserted
  have named : (ctx.answer decision (.str input) (.str reviewer)).runId = ctx.runId := rfl
  have output : (ctx.answer decision (.str input) (.str reviewer)).originalOutput host =
      ctx.originalOutput host := rfl
  rw [named, output] at inserted
  rcases inserts : FeedbackTable.insertFeedback host ctx.runId (.str reviewer) decision (.str input)
    (ctx.originalOutput host) (host.isoFormat (host.time world.tick)) world.state.feedback with
    exc | table
  · rw [inserts] at inserted
    cases inserted
  · exact ⟨table, rfl⟩

/-- A suspended run without a decision is decided by a click. -/
theorem resume_click (records : engine.feedbackDb = true) (stores : engine.stateStore = true)
    (host : Host) (rdf : RdfLib) (sop : SOPDefinition) (suspended : ctx.state = .suspended)
    (plain : ctx.toJson.encodable = true) {decision : Str} (decided : isDecision decision = true)
    {reviewer input : Str} (who : encodable reviewer = true) (why : encodable input = true)
    {world : EngineWorld} (named : (runViewOf ctx.runId world).Named ctx.runId)
    (undecided : FeedbackTable.rowsOf ctx.runId world.state.feedback = []) :
    ∃ record : FeedbackRecord, record.decision = decision ∧ record.reviewer = reviewer ∧
      record.reason = some input ∧
      DecidedBy ctx (runViewOf ctx.runId world) record (runViewOf ctx.runId
        ((engine.resume host rdf sop ctx decision (.str input) (.str reviewer)).run world).2) ∧
      (decision = py "REJECTED" → (runViewOf ctx.runId
        ((engine.resume host rdf sop ctx decision (.str input) (.str reviewer)).run
          world).2).Rejected) := by
  have inserted := @insertFeedback_click ctx host plain decision decided reviewer input who why
    world undecided
  have answered : (ctx.answer decision (.str input) (.str reviewer)).toJson.encodable = true :=
    answer_encodable plain (encodable_of_isDecision decided) why who
  rw [resume_recording suspended records, Coro.run_bind_of_ok ((Coro.run_sync _ _).trans inserted)]
  let record := decisionRow host ctx decision (some input) reviewer world
  have progress : Progress ctx (runViewOf ctx.runId world) record 0 (runViewOf ctx.runId
      ⟨world.tick + 1, world.state.setFeedback (world.state.feedback ++ [record])⟩) := by
    refine ⟨?_, ?_, named⟩
    · change FeedbackTable.rowsOf ctx.runId (world.state.feedback ++ [record]) = [record]
      have traced : record.traceId = ctx.runId := rfl
      rw [FeedbackTable.rowsOf_append, if_pos traced, undecided]
      rfl
    · exact (List.append_nil _).symm
  have tracks := @proceed_tracks engine ctx record _ stores host rdf sop
    (ctx.answer decision (.str input) (.str reviewer)) answered rfl rfl _ progress
  have lawful : Law ctx (runViewOf ctx.runId world) record (runViewOf ctx.runId
      ⟨world.tick + 1, world.state.setFeedback (world.state.feedback ++ [record])⟩) :=
    ⟨⟨progress.decisions, ⟨0, progress.executed⟩, fun _ => rfl⟩, progress.named⟩
  refine ⟨record, rfl, rfl, rfl, (tracks.run_law lawful).1, ?_⟩
  exact tracks.run

theorem resume_rejects (records : engine.feedbackDb = true) (host : Host) (rdf : RdfLib)
    (sop : SOPDefinition) (suspended : ctx.state = .suspended)
    (plain : ctx.toJson.encodable = true) {reviewer input : Str} (who : encodable reviewer = true)
    (why : encodable input = true) {world : EngineWorld}
    (undecided : FeedbackTable.rowsOf ctx.runId world.state.feedback = []) :
    ∃ final, ((engine.resume host rdf sop ctx (py "REJECTED") (.str input) (.str reviewer)).run
      world).1 = .ok final := by
  have inserted := @insertFeedback_click ctx host plain (py "REJECTED") (by decide) reviewer input
    who why world undecided
  let rejected : SOPRunContext :=
    { ctx.answer (py "REJECTED") (.str input) (.str reviewer) with state := .rejected }
  have answered : rejected.toJson.encodable = true := by
    rw [SOPRunContext.toJson_encodable_position _ .rejected _]
    exact answer_encodable plain (by decide) why who
  rw [resume_recording suspended records, Coro.run_bind_of_ok ((Coro.run_sync _ _).trans inserted),
    proceed, if_pos rfl]
  refine ⟨rejected, ?_⟩
  rcases save_cases engine rejected ⟨world.tick + 1, world.state.setFeedback
    (world.state.feedback ++ [decisionRow host ctx (py "REJECTED") (some input) reviewer world])⟩
    with ⟨-, saved, stored, -⟩ | ⟨foreign, -⟩
  · exact congrArg Prod.fst (Coro.run_bind_of_ok ((Coro.run_sync _ _).trans stored))
  · exact absurd (fun _ => answered) foreign

theorem pending_movesBy (host : Host) (rdf : RdfLib) (engine : SOPEngine) :
    engine.MovesBy host rdf PendingStep where
  idle := fun _ _ same => pendingStep_of_runs (congrArg Prod.fst same)
  begins := by
    intro sop data given origin
    apply Coro.steps_bind (createRun_pending engine host sop data given origin)
    · exact fun ctx world _ _ => run_pending rdf sop ctx world
    · exact fun _ _ _ => trivial
  resumes := fun sop ctx decision reason approverId origin =>
    resume_pending rdf sop ctx decision reason approverId origin

end SOPEngine

/-- A click decided on the run, which went on or was stored as rejected. -/
structure ClickDecides {ν : Type} (ctx : SOPRunContext) (decision reviewer input : Str)
    (world : ServiceWorld ν) (result : Except Exc ServiceAnswer × ServiceWorld ν) : Prop where
  recorded : ∃ record : FeedbackRecord, record.decision = decision ∧ record.reviewer = reviewer ∧
    record.reason = some input ∧ DecidedBy ctx (world.state.engine.runView ctx.runId) record
      (result.2.state.engine.runView ctx.runId)
  advances : ∃ during, result.2.state.engine.history = during ++ world.state.engine.history ∧
    ((∃ event ∈ during, event.advances ctx.runId = true) ↔ decision = py "APPROVED")
  rejects : decision = py "REJECTED" →
    (result.2.state.engine.runView ctx.runId).Rejected ∧
      result.1 = .ok (.reply (.obj [(py "status", .str (py "ok")), (py "run_id", .str ctx.runId),
        (py "decision", .str (py "REJECTED"))]))

namespace ServiceBootstrap

variable {ν : Type} {host : Host} {rdf : RdfLib} {loads : Str → Except Exc Json}
  {boot : ServiceBootstrap ν} {requests : ℕ → ServiceRequest} {start : ServiceWorld ν}
  {runId : Str} {row : StoredRun} {ctx : SOPRunContext}

/-- Whatever is asked for and in whatever order, the runs that wait have their cards. -/
theorem serve_pending (host : Host) (rdf : RdfLib) (loads : Str → Except Exc Json)
    (boot : ServiceBootstrap ν) (requests : ℕ → ServiceRequest)
    (pending : start.state.engine.CardsPending) (schedule : List ℕ) :
    (boot.serve host rdf loads requests start schedule).state.engine.CardsPending := by
  have moved := @serve_steps _ host rdf loads boot PendingStep
    (SOPEngine.pending_movesBy host rdf boot.sopEngine) requests start
    (fun _ sop ctx _ => SOPEngine.run_pending rdf sop ctx _) schedule
  have carried : ∀ world : EngineWorld, ReflTransGen PendingStep (start.part ServiceState.engine)
      world → world.state.CardsPending := by
    intro world moved
    induction moved with
    | refl => exact pending
    | tail _ step ih => exact step ih
  exact carried _ moved

theorem click_leads {world : EngineWorld} {sop : SOPDefinition}
    (found : world.state.runs.get? ctx.runId = some row) (read : row.context? = some ctx)
    (named : ctx.runId ≠ []) (plain : encodable ctx.runId = true)
    (defined : boot.loadSopDefinition ctx.sopId world.tick = .ok (some sop)) {decision : Str}
    (decided : isDecision decision = true) (reviewer input stepId : Str) :
    boot.gateway.service.LeadsTo host
      (buttonClick reviewer input (buttonValue decision ctx.runId stepId))
      ⟨clickedCallback reviewer input ctx.runId stepId decided, boot.sopEngine, ctx, sop⟩
        world where
  parsed := parseCardCallback_buttonClick named decided reviewer input stepId
  wired := rfl
  stores := rfl
  loaded := by
    change RunTable.loadState host (.str ctx.runId) world.state.runs = _
    rw [RunTable.loadState_str, if_pos plain, found]
    exact congrArg Except.ok read
  defined := defined

/-- The webhook handles a click as the callback of a card, and is answered with its reply. -/
theorem task_click (adapter : boot.verificationToken.isSome = true) {request : WebhookRequest}
    {reviewer input : Str} {value : Json}
    (clicked : loads request.rawBody = .ok (buttonClick reviewer input value)) :
    boot.task host rdf loads (.webhook request) = (do
      let reply ← boot.gateway.handleCardCallback host rdf (buttonClick reviewer input value)
      pure (.reply reply)) := by
  have adapter' : boot.gateway.verificationToken.isSome = true := adapter
  have webhook : boot.gateway.feishuWebhook host rdf loads request =
      boot.gateway.handleCardCallback host rdf (buttonClick reviewer input value) := by
    rw [Gateway.feishuWebhook, if_pos adapter', clicked]
    rfl
  rw [task, webhook]

/-- Handling a click is resuming the run on the engine, and answering when that returns. -/
theorem handle_click (host : Host) (rdf : RdfLib) (boot : ServiceBootstrap ν)
    {world : ServiceWorld ν} {sop : SOPDefinition}
    (found : world.state.engine.runs.get? ctx.runId = some row)
    (read : row.context? = some ctx) (named : ctx.runId ≠ []) (plain : encodable ctx.runId = true)
    (defined : boot.loadSopDefinition ctx.sopId world.tick = .ok (some sop)) {decision : Str}
    (decided : isDecision decision = true) (reviewer input stepId : Str) :
    let resumed := (boot.sopEngine.resume host rdf sop ctx decision (.str input)
      (.str reviewer)).run ⟨world.tick + 1, world.state.engine⟩
    let handled := (boot.gateway.handleCardCallback host rdf
      (buttonClick reviewer input (buttonValue decision ctx.runId stepId))).run world
    handled.1 = resumed.1.map (fun _ => .obj [(py "status", .str (py "ok")),
        (py "run_id", .str ctx.runId), (py "decision", .str decision)]) ∧
      handled.2.state.engine = resumed.2.state := by
  intro resumed handled
  have leads := @click_leads _ host boot row ctx (world.part ServiceState.engine) sop found read
    named plain defined decision decided reviewer input stepId
  have ran := Gateway.handleCardCallback_engine host rdf boot.gateway
    (buttonClick reviewer input (buttonValue decision ctx.runId stepId)) world
  rw [Service.handleCardCallback_run, leads.lookUp] at ran
  have same := ran.symm.trans (Coro.run_map _ _ _)
  exact ⟨congrArg Prod.fst same, congrArg (fun result => result.2.state) same⟩

/-- A click of a run that waits without a decision decides on the run. -/
theorem click_decides {world : ServiceWorld ν} (adapter : boot.verificationToken.isSome = true)
    (found : world.state.engine.runs.get? ctx.runId = some row) (read : row.context? = some ctx)
    (document : row.contextJson = ctx.toJson) (named : ctx.runId ≠ [])
    (suspended : ctx.state = .suspended)
    (undecided : (world.state.engine.runView ctx.runId).decisions = []) {sop : SOPDefinition}
    (defined : boot.loadSopDefinition ctx.sopId world.tick = .ok (some sop)) {decision : Str}
    (decided : isDecision decision = true) {request : WebhookRequest}
    {reviewer input stepId : Str} (who : encodable reviewer = true) (why : encodable input = true)
    (clicked : loads request.rawBody =
      .ok (buttonClick reviewer input (buttonValue decision ctx.runId stepId))) :
    ClickDecides ctx decision reviewer input world
      ((boot.task host rdf loads (.webhook request)).run world) := by
  have plain : ctx.toJson.encodable = true := document ▸ row.encoded
  let after : EngineWorld := ⟨world.tick + 1, world.state.engine⟩
  have names : (SOPEngine.runViewOf ctx.runId after).Named ctx.runId :=
    SOPEngine.named_of_context found document
  have records : boot.sopEngine.feedbackDb = true := rfl
  have stores : boot.sopEngine.stateStore = true := rfl
  rcases handle_click host rdf boot found read named
    ((SOPRunContext.toJson_encodable_iff ctx).mp plain).1 defined decided reviewer input stepId with
    ⟨answer, left⟩
  rw [task_click adapter clicked, Coro.run_map]
  rcases SOPEngine.resume_click records stores host rdf sop suspended plain decided who why names
    undecided with ⟨record, decides, reviewed, explained, decidedBy, rejected⟩
  rcases SOPEngine.resume_adds host rdf boot.sopEngine sop suspended decided (.str input)
    (.str reviewer) after with ⟨during, adds, advances⟩
  refine ⟨⟨record, decides, reviewed, explained, ?_⟩, ⟨during, ?_, ?_⟩, ?_⟩
  · dsimp only
    rw [left]
    exact decidedBy
  · dsimp only
    rw [left]
    exact adds.1
  · have goesOn : boot.sopEngine.GoesOn sop (ctx.answer decision (.str input) (.str reviewer)) :=
      .inr ⟨stores, SOPEngine.answer_encodable plain (encodable_of_isDecision decided) why who⟩
    have insertable := @SOPEngine.insertable_click ctx host boot.sopEngine plain decision decided
      reviewer input who why after undecided
    rw [advances]
    exact ⟨fun all => all.1, fun approved => ⟨approved, insertable, goesOn⟩⟩
  · rintro rfl
    dsimp only
    rw [left, answer]
    rcases @SOPEngine.resume_rejects boot.sopEngine ctx records host rdf sop suspended plain
      reviewer input who why after undecided with ⟨final, returned⟩
    refine ⟨rejected rfl, ?_⟩
    rw [returned]
    rfl

/--
Whatever the service was asked for and in whatever order: a stored run that waits has the card of
the step that it waits for, and a click of either button of the card decides on just this run if
there is no decision on it yet.
-/
theorem pending_cards_decide (adapter : boot.verificationToken.isSome = true)
    (defined : ∀ tick, ∃ sop, boot.loadSopDefinition ctx.sopId tick = .ok (some sop))
    (requests : ℕ → ServiceRequest) (pending : start.state.engine.CardsPending) (schedule : List ℕ)
    (found : (boot.serve host rdf loads requests start schedule).state.engine.runs.get? runId =
      some row) (read : row.context? = some ctx) (suspended : ctx.state = .suspended) :
    ∃ stepId card, ctx.suspendedStepId = some stepId ∧
      ctx.data.get? (py "_pending_card") = some card ∧
      cardButtons card =
        [buttonValue (py "APPROVED") runId stepId, buttonValue (py "REJECTED") runId stepId] ∧
      (runId ≠ [] → ((boot.serve host rdf loads requests start schedule).state.engine.runView
          runId).decisions = [] →
        ∀ decision, buttonValue decision runId stepId ∈ cardButtons card →
          ∀ reviewer input request, encodable reviewer = true → encodable input = true →
            loads request.rawBody =
              .ok (buttonClick reviewer input (buttonValue decision runId stepId)) →
            ClickDecides ctx decision reviewer input
              (boot.serve host rdf loads requests start schedule)
              ((boot.task host rdf loads (.webhook request)).run
                (boot.serve host rdf loads requests start schedule))) := by
  rcases (serve_pending host rdf loads boot requests pending schedule).read found read with
    ⟨rfl, document, carded⟩
  rcases carded suspended with ⟨stepId, card, waits, kept, buttons⟩
  refine ⟨stepId, card, waits, kept, buttons, ?_⟩
  intro named undecided decision shown reviewer input request who why clicked
  have decided : isDecision decision = true := by
    rw [buttons] at shown
    simp only [buttonValue, List.mem_cons, List.not_mem_nil, or_false, Json.obj.injEq,
      List.cons.injEq, Prod.mk.injEq, Json.str.injEq, and_true, true_and] at shown
    simpa [isDecision] using shown
  rcases defined (boot.serve host rdf loads requests start schedule).tick with ⟨sop, defined⟩
  exact click_decides adapter found read document named suspended undecided defined decided who why
    clicked

end ServiceBootstrap

namespace Sample

/-- A request whose body is a click of the second button of the card. -/
def loadsRejection : Str → Except Exc Json := fun _ =>
  .ok (buttonClick (py "boss") (py "too early")
    (buttonValue (py "REJECTED") (py "run-1") (py "approve")))

theorem started_cardsPending (database : Database) (feedback : FeedbackTable) :
    (ServiceBootstrap.started database Dict.empty feedback :
      ServiceWorld Unit).state.engine.CardsPending := by
  intro runId row found
  cases found

/-- Each request begins a workflow for the run. -/
def approvalWorkflow : ℕ → ServiceRequest := fun _ =>
  .workflow (.create approvedWrite Dict.empty (some (py "run-1")))

def pausedService : ServiceWorld Unit :=
  bootstrap.serve steadyHost rdf loadsRejection approvalWorkflow
    (ServiceBootstrap.started [] Dict.empty []) [0, 0, 0, 0, 0]

/-- The workflow waits, and the click of its second button rejects it. -/
theorem pending_card_decides : ∃ row ctx,
    pausedService.state.engine.runs.get? (py "run-1") = some row ∧ row.context? = some ctx ∧
    ClickDecides ctx (py "REJECTED") (py "boss") (py "too early") pausedService
      ((bootstrap.task steadyHost rdf loadsRejection (.webhook unsignedRequest)).run
        pausedService) := by
  have waits : ((pausedService.state.engine.runs.get? (py "run-1")).bind StoredRun.context?).map
      (fun ctx => (ctx.state, ctx.suspendedStepId)) = some (.suspended, some (py "approve")) := by
    decide +kernel
  have undecided : (pausedService.state.engine.runView (py "run-1")).decisions = [] := by
    decide +kernel
  rcases Option.map_eq_some_iff.mp waits with ⟨ctx, stored, shape⟩
  rcases Option.bind_eq_some_iff.mp stored with ⟨row, found, read⟩
  simp only [Prod.mk.injEq] at shape
  have defined : ∀ tick, ∃ sop, bootstrap.loadSopDefinition ctx.sopId tick = .ok (some sop) :=
    fun _ => ⟨validation, rfl⟩
  rcases ServiceBootstrap.pending_cards_decide rfl defined approvalWorkflow
    (started_cardsPending [] []) [0, 0, 0, 0, 0] found read shape.1 with
    ⟨stepId, card, waitsFor, -, buttons, decides⟩
  have step : stepId = py "approve" := Option.some.inj (waitsFor.symm.trans shape.2)
  subst step
  refine ⟨row, ctx, found, read, ?_⟩
  apply decides (by simp [py]) undecided
  · rw [buttons]
    simp
  · decide
  · decide
  · rfl

end Sample

end AgentOS
