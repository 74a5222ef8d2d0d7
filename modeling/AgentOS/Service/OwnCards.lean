import AgentOS.Service.CardOrder
import AgentOS.Service.LookUp
import AgentOS.Workflow.Decisions

/-!
# Cards of other steps

A callback is handled for the run that it names, whatever step its card was made for. The run
goes on past the step at which it is suspended exactly when an APPROVED callback is accepted,
so that a card releases only its own step exactly when no accepted callback names another one.
-/

namespace AgentOS

open Python Cooperative

namespace EngineEvent

/-- A step of the run is executed, or the run is saved as COMPLETED. -/
def advances (runId : Str) : EngineEvent → Bool
  | .executing other _ _ => other = runId
  | .saved ctx => ctx.runId = runId ∧ ctx.state = .completed

/-- The event is one of the run. -/
def concerns (runId : Str) : EngineEvent → Prop
  | .executing other _ _ => other = runId
  | .saved ctx => ctx.runId = runId

theorem eq_of_advances {runId other : Str} {event : EngineEvent} (concerns : event.concerns runId)
    (advances : event.advances other = true) : runId = other := by
  cases event with
  | executing name index data =>
      simp only [EngineEvent.concerns, EngineEvent.advances, decide_eq_true_eq] at concerns advances
      exact concerns.symm.trans advances
  | saved ctx =>
      simp only [EngineEvent.concerns, EngineEvent.advances, decide_eq_true_eq] at concerns advances
      exact concerns.symm.trans advances.1

end EngineEvent

namespace SOPEngine

variable {host : Host} {rdf : RdfLib} {engine : SOPEngine} {ctx : SOPRunContext}
  {world : EngineWorld}

/-- The events are added to the history, and they are events of the run. -/
def Adds (runId : Str) (world final : EngineWorld) (during : List EngineEvent) : Prop :=
  final.state.history = during ++ world.state.history ∧ ∀ event ∈ during, event.concerns runId

/-- What a save adds to the history. -/
theorem save_adds_some (engine : SOPEngine) (ctx : SOPRunContext) (world : EngineWorld) :
    ∃ during, Adds ctx.runId world (engine.save ctx world).2 during := by
  rcases save_noted engine ctx world with ⟨-, noted⟩ | ⟨-, same⟩
  · refine ⟨[.saved ctx], noted, ?_⟩
    simp [EngineEvent.concerns]
  · exact ⟨[], same, by simp⟩

theorem Adds.trans {runId : Str} {middle final : EngineWorld} {first second : List EngineEvent}
    (adds : Adds runId world middle first) (further : Adds runId middle final second) :
    Adds runId world final (second ++ first) := by
  refine ⟨by rw [further.1, adds.1, List.append_assoc], ?_⟩
  intro event mem
  rcases List.mem_append.mp mem with mem | mem
  · exact further.2 event mem
  · exact adds.2 event mem

/-- The loop adds events of its run, the first step being the first of them. -/
theorem runSteps_adds (host : Host) (rdf : RdfLib) (engine : SOPEngine) (steps : List SOPStep)
    (index : ℕ) (ctx : SOPRunContext) (world : EngineWorld) :
    ∃ during, Adds ctx.runId world ((engine.runSteps host rdf steps index ctx).run world).2 during ∧
      ((∃ event ∈ during, event.advances ctx.runId = true) ↔
        steps ≠ [] ∨ engine.stateStore = true ∧ ctx.toJson.encodable = true) := by
  induction steps generalizing index ctx world with
  | nil =>
      have final : ((engine.runSteps host rdf [] index ctx).run world).2 =
          (engine.save { ctx with state := .completed } world).2 := by
        rw [runSteps_nil]
        rcases engine.save { ctx with state := .completed } world with ⟨exc | ⟨⟩, saved⟩ <;> rfl
      have plain := SOPRunContext.toJson_encodable_position ctx .completed ctx.currentStepIndex
      rw [final]
      rcases save_noted engine { ctx with state := .completed } world with
        ⟨storable, noted⟩ | ⟨foreign, same⟩
      · refine ⟨[.saved { ctx with state := .completed }], ⟨noted, ?_⟩, ?_⟩
        · simp [EngineEvent.concerns]
        · refine iff_of_true ?_ (.inr ⟨storable.1, plain.symm.trans storable.2⟩)
          simp [EngineEvent.advances]
      · refine ⟨[], ⟨same, by simp⟩, ?_⟩
        refine iff_of_false (by simp) ?_
        rintro (none | ⟨configured, encoded⟩)
        · exact none rfl
        · exact foreign ⟨configured, plain.trans encoded⟩
  | cons step rest ih =>
      rcases executeStep_run host rdf engine step { ctx with currentStepIndex := index }
        (begun index ctx world) with ⟨outcome, ctx', middle, ran, stepped, kept⟩
      have first : Adds ctx.runId world middle [.executing ctx.runId index ctx.data] := by
        refine ⟨congrArg (fun records => records.2.2) kept, ?_⟩
        simp [EngineEvent.concerns]
      have named : ctx'.runId = ctx.runId := by cases stepped <;> rfl
      have goesOn : ∀ {final during}, Adds ctx.runId middle final during →
          ∃ during, Adds ctx.runId world final during ∧
            ((∃ event ∈ during, event.advances ctx.runId = true) ↔
              step :: rest ≠ [] ∨ engine.stateStore = true ∧ ctx.toJson.encodable = true) := by
        intro final during adds
        refine ⟨during ++ [.executing ctx.runId index ctx.data], first.trans adds, ?_⟩
        apply iff_of_true
        · exact ⟨.executing ctx.runId index ctx.data, by simp, by simp [EngineEvent.advances]⟩
        · simp
      rcases runSteps_leaves rest ran with ended | ⟨kept, same, ended⟩ | ⟨kept, same, ended⟩ <;>
        rw [ended]
      · exact @goesOn middle [] ⟨rfl, by simp⟩
      · rcases save_adds_some engine kept middle with ⟨during, adds⟩
        rw [same, named] at adds
        exact goesOn adds
      · rcases save_adds_some engine kept middle with ⟨during, adds⟩
        rcases ih (index + 1) kept (engine.save kept middle).2 with ⟨later, more, -⟩
        rw [same, named] at adds more
        exact goesOn (adds.trans more)

/-- What is executed after the decision, or saved as COMPLETED when no step is left. -/
def GoesOn (engine : SOPEngine) (sop : SOPDefinition) (ctx : SOPRunContext) : Prop :=
  sop.steps.drop (ctx.currentStepIndex + 1) ≠ [] ∨
    engine.stateStore = true ∧ ctx.toJson.encodable = true

theorem proceed_adds (host : Host) (rdf : RdfLib) (engine : SOPEngine) (sop : SOPDefinition)
    (ctx : SOPRunContext) (decision : Str) (world : EngineWorld) :
    ∃ during,
      Adds ctx.runId world ((engine.proceed host rdf sop ctx decision).run world).2 during ∧
      ((∃ event ∈ during, event.advances ctx.runId = true) ↔
        decision ≠ py "REJECTED" ∧ engine.GoesOn sop ctx) := by
  unfold proceed
  split
  · rename_i rejected
    have final : ((do
        Coro.sync (engine.save { ctx with state := .rejected })
        pure { ctx with state := .rejected } : Coro Exc EngineWorld SOPRunContext).run world).2 =
        (engine.save { ctx with state := .rejected } world).2 := by
      rw [Coro.run_bind, Coro.run_sync]
      rcases engine.save { ctx with state := .rejected } world with ⟨exc | ⟨⟩, saved⟩ <;> rfl
    dsimp only
    rw [final]
    rcases save_noted engine { ctx with state := .rejected } world with ⟨-, noted⟩ | ⟨-, same⟩
    · refine ⟨[.saved { ctx with state := .rejected }], ⟨noted, by simp [EngineEvent.concerns]⟩, ?_⟩
      exact iff_of_false (by simp [EngineEvent.advances]) fun both => both.1 rejected
    · exact ⟨[], ⟨same, by simp⟩, iff_of_false (by simp) fun both => both.1 rejected⟩
  · rename_i approved
    have plain := SOPRunContext.toJson_encodable_position ctx .running (ctx.currentStepIndex + 1)
    rcases runSteps_adds host rdf engine (sop.steps.drop (ctx.currentStepIndex + 1))
      (ctx.currentStepIndex + 1)
      { ctx with state := .running, currentStepIndex := ctx.currentStepIndex + 1 } world with
      ⟨during, adds, advances⟩
    refine ⟨during, adds, advances.trans ?_⟩
    rw [plain]
    simp [GoesOn, approved]

/-- The decision can be recorded, if decisions are recorded at all. -/
def Insertable (host : Host) (engine : SOPEngine) (ctx : SOPRunContext) (decision : Str)
    (reason approverId : Json) (world : EngineWorld) : Prop :=
  engine.feedbackDb = true → ∃ table,
    FeedbackTable.insertFeedback host ctx.runId approverId decision
    reason (ctx.originalOutput host) (host.isoFormat (host.time world.tick)) world.state.feedback =
    .ok table

/-- A suspended run that is answered goes on exactly when the answer is accepted. -/
theorem resume_adds (host : Host) (rdf : RdfLib) (engine : SOPEngine) (sop : SOPDefinition)
    (suspended : ctx.state = .suspended) {decision : Str} (decided : isDecision decision = true)
    (reason approverId : Json) (world : EngineWorld) :
    ∃ during,
      Adds ctx.runId world
        ((engine.resume host rdf sop ctx decision reason approverId).run world).2 during ∧
      ((∃ event ∈ during, event.advances ctx.runId = true) ↔
        decision = py "APPROVED" ∧ Insertable host engine ctx decision reason approverId world ∧
          engine.GoesOn sop (ctx.answer decision reason approverId)) := by
  have approved : decision ≠ py "REJECTED" ↔ decision = py "APPROVED" := by
    simp only [isDecision, decide_eq_true_eq] at decided
    rcases decided with rfl | rfl
    · exact iff_of_true (by decide) rfl
    · exact iff_of_false (by decide) (by decide)
  rcases records : engine.feedbackDb with _ | _
  · rw [resume_unrecorded suspended records]
    rcases proceed_adds host rdf engine sop (ctx.answer decision reason approverId) decision world
      with ⟨during, adds, advances⟩
    refine ⟨during, adds, advances.trans ?_⟩
    have insertable : Insertable host engine ctx decision reason approverId world := by
      simp [Insertable, records]
    simp [approved, insertable]
  · rw [resume_recording suspended records]
    have ran := insertFeedback_apply host (ctx.answer decision reason approverId) decided reason
      approverId world
    have named : (ctx.answer decision reason approverId).runId = ctx.runId := rfl
    have output : (ctx.answer decision reason approverId).originalOutput host =
        ctx.originalOutput host := rfl
    rw [named, output] at ran
    rcases inserted : FeedbackTable.insertFeedback host ctx.runId approverId decision reason
      (ctx.originalOutput host) (host.isoFormat (host.time world.tick)) world.state.feedback with
      exc | table <;> rw [inserted] at ran
    · rw [Coro.run_bind_of_error ((Coro.run_sync _ _).trans ran)]
      refine ⟨[], ⟨rfl, by simp⟩, iff_of_false (by simp) ?_⟩
      rintro ⟨-, insertable, -⟩
      rcases insertable records with ⟨table, accepted⟩
      cases inserted.symm.trans accepted
    · rw [Coro.run_bind_of_ok ((Coro.run_sync _ _).trans ran)]
      rcases proceed_adds host rdf engine sop (ctx.answer decision reason approverId) decision
        ⟨world.tick + 1, world.state.setFeedback table⟩ with ⟨during, adds, advances⟩
      refine ⟨during, adds, advances.trans ?_⟩
      have insertable : Insertable host engine ctx decision reason approverId world :=
        fun _ => ⟨table, inserted⟩
      simp [approved, insertable]

end SOPEngine

namespace Service

variable (host : Host) (rdf : RdfLib) (service : Service)

/-- The callback names a run that is stored as suspended. -/
structure Finds (body : Json) (callback : CardCallback) (ctx : SOPRunContext)
    (world : EngineWorld) : Prop where
  parsed : FeishuAdapter.parseCardCallback body = .ok (some callback)
  loaded : RunTable.loadState host callback.runId world.state.runs = .ok (some ctx)
  suspended : ctx.state = .suspended

/-- The callback is an approval that is accepted: the run goes on with it. -/
structure Accepts (engine : SOPEngine) (sop : SOPDefinition) (body : Json) (callback : CardCallback)
    (ctx : SOPRunContext) (world : EngineWorld) : Prop extends
    Finds host body callback ctx world where
  wired : service.sopEngine = some engine
  stores : service.stateStore = true
  defined : service.loadSopDefinition ctx.sopId world.tick = .ok (some sop)
  approved : callback.decision = py "APPROVED"
  insertable : SOPEngine.Insertable host engine ctx callback.decision callback.reason
    callback.reviewer ⟨world.tick + 1, world.state⟩
  goesOn : engine.GoesOn sop (ctx.answer callback.decision callback.reason callback.reviewer)

/-- The state after the callbacks were handled one after another. -/
def handled (bodies : List Json) (start : EngineWorld) : EngineWorld :=
  bodies.foldl (fun world body => ((service.handleCardCallback host rdf body).run world).2) start

/-- The callback comes from the card of the step at which the run is suspended. -/
def IsOwnCard (callback : CardCallback) (ctx : SOPRunContext) : Prop :=
  ∃ stepId, ctx.suspendedStepId = some stepId ∧ callback.stepId = .str stepId

/--
Whenever a run goes on while the callbacks are handled, the callback in hand is an approval that
was made by the card of the step at which the run is suspended.
-/
def OwnCardsRelease (bodies : List Json) (start : EngineWorld) : Prop :=
  ∀ earlier body later, bodies = earlier ++ body :: later →
    ∀ during event runId,
      (service.handled host rdf (earlier ++ [body]) start).state.history =
        during ++ (service.handled host rdf earlier start).state.history →
      event ∈ during → event.advances runId = true →
      ∃ callback ctx, Finds host body callback ctx (service.handled host rdf earlier start) ∧
        ctx.runId = runId ∧ callback.decision = py "APPROVED" ∧ IsOwnCard callback ctx

variable {host rdf service}

/-- An accepted callback has found its run and the definition. -/
theorem Accepts.leadsTo {engine : SOPEngine} {sop : SOPDefinition} {body : Json}
    {callback : CardCallback} {ctx : SOPRunContext} {world : EngineWorld}
    (accepts : service.Accepts host engine sop body callback ctx world) :
    service.LeadsTo host body ⟨callback, engine, ctx, sop⟩ world :=
  ⟨accepts.parsed, accepts.wired, accepts.stores, accepts.loaded, accepts.defined⟩

/-- What the callback does when it has found its run and the definition. -/
theorem resume_accepts {body : Json} {found : Found} {world : EngineWorld}
    (leads : service.LeadsTo host body found world) :
    ∃ during, ((found.resume host rdf).run ⟨world.tick + 1, world.state⟩).2.state.history =
        during ++ world.state.history ∧
      ∀ runId, (∃ event ∈ during, event.advances runId = true) ↔
        ∃ engine sop callback ctx, service.Accepts host engine sop body callback ctx world ∧
          ctx.runId = runId := by
  rcases found with ⟨callback, engine, ctx, sop⟩
  have final : ((Found.resume host rdf ⟨callback, engine, ctx, sop⟩).run
      ⟨world.tick + 1, world.state⟩).2 = ((engine.resume host rdf sop ctx callback.decision
      callback.reason callback.reviewer).run ⟨world.tick + 1, world.state⟩).2 := by
    rw [Found.resume, Coro.run_bind]
    rcases (engine.resume host rdf sop ctx callback.decision callback.reason callback.reviewer).run
      ⟨world.tick + 1, world.state⟩ with ⟨exc | final, after⟩ <;> rfl
  rw [final]
  by_cases suspended : ctx.state = .suspended
  · rcases SOPEngine.resume_adds host rdf engine sop suspended callback.decided callback.reason
      callback.reviewer ⟨world.tick + 1, world.state⟩ with ⟨during, adds, advances⟩
    refine ⟨during, adds.1, ?_⟩
    intro runId
    constructor
    · rintro ⟨event, mem, advanced⟩
      cases EngineEvent.eq_of_advances (adds.2 event mem) advanced
      rcases advances.mp ⟨event, mem, advanced⟩ with ⟨approved, insertable, goesOn⟩
      exact ⟨engine, sop, callback, ctx, ⟨⟨leads.parsed, leads.loaded, suspended⟩, leads.wired,
        leads.stores, leads.defined, approved, insertable, goesOn⟩, rfl⟩
    · rintro ⟨engine', sop', callback', ctx', accepts, rfl⟩
      cases leads.unique accepts.leadsTo
      exact advances.mpr ⟨accepts.approved, accepts.insertable, accepts.goesOn⟩
  · rcases SOPEngine.resume_going suspended host rdf engine sop callback.decision callback.reason
      callback.reviewer with ⟨exc, raises⟩
    rw [raises]
    refine ⟨[], rfl, ?_⟩
    intro runId
    apply iff_of_false
    · simp
    · rintro ⟨engine', sop', callback', ctx', accepts, -⟩
      cases leads.unique accepts.leadsTo
      exact suspended accepts.suspended

/-- A run goes on while a callback is handled exactly when the callback is accepted for it. -/
theorem handleCardCallback_adds (host : Host) (rdf : RdfLib) (service : Service) (body : Json)
    (world : EngineWorld) :
    ∃ during, ((service.handleCardCallback host rdf body).run world).2.state.history =
        during ++ world.state.history ∧
      ∀ runId, (∃ event ∈ during, event.advances runId = true) ↔
        ∃ engine sop callback ctx, service.Accepts host engine sop body callback ctx world ∧
          ctx.runId = runId := by
  rw [handleCardCallback_run]
  rcases lookUp_cases host service body world with ⟨found, leads⟩ | ⟨result, tick, ends, looked⟩
  · rw [leads.lookUp]
    exact resume_accepts leads
  · rw [looked]
    refine ⟨[], by cases ends <;> rfl, ?_⟩
    intro runId
    apply iff_of_false
    · simp
    · rintro ⟨engine, sop, callback, ctx, accepts, -⟩
      exact ends.not_leadsTo looked _ accepts.leadsTo

theorem handled_concat (earlier : List Json) (body : Json) (start : EngineWorld) :
    service.handled host rdf (earlier ++ [body]) start =
      ((service.handleCardCallback host rdf body).run
        (service.handled host rdf earlier start)).2 := by
  simp [handled]

/-- A run that went on with the last callback did so by the card of its own step. -/
theorem OwnCardsRelease.last {earlier : List Json} {body : Json} {start : EngineWorld} {runId : Str}
    (released : OwnCardsRelease host rdf service (earlier ++ [body]) start)
    (more : (service.handled host rdf earlier start).state.history.countP
        (EngineEvent.advances runId) <
      (service.handled host rdf (earlier ++ [body]) start).state.history.countP
        (EngineEvent.advances runId)) :
    ∃ callback ctx, Finds host body callback ctx (service.handled host rdf earlier start) ∧
      IsOwnCard callback ctx := by
  rcases handleCardCallback_adds host rdf service body (service.handled host rdf earlier start)
    with ⟨during, history, -⟩
  rw [← handled_concat] at history
  rw [history, List.countP_append] at more
  have some_ : 0 < during.countP (EngineEvent.advances runId) := by omega
  rcases List.countP_pos_iff.mp some_ with ⟨event, mem, advances⟩
  rcases released earlier body [] rfl during event runId history mem advances with
    ⟨callback, ctx, finds, -, -, own⟩
  exact ⟨callback, ctx, finds, own⟩

/--
Every run goes on by the cards of its own steps exactly when no callback that is accepted names
another step than the one at which the run is suspended.
-/
theorem ownCardsRelease_iff (bodies : List Json) (start : EngineWorld) :
    OwnCardsRelease host rdf service bodies start ↔
      ∀ earlier body later, bodies = earlier ++ body :: later →
        ∀ engine sop callback ctx, service.Accepts host engine sop body callback ctx
          (service.handled host rdf earlier start) → IsOwnCard callback ctx := by
  constructor
  · intro released earlier body later shape engine sop callback ctx accepts
    rcases handleCardCallback_adds host rdf service body (service.handled host rdf earlier start)
      with ⟨during, history, advances⟩
    rcases (advances ctx.runId).mpr ⟨engine, sop, callback, ctx, accepts, rfl⟩ with
      ⟨event, mem, advanced⟩
    rw [← handled_concat] at history
    rcases released earlier body later shape during event ctx.runId history mem advanced with
      ⟨callback', ctx', finds, -, -, own⟩
    cases accepts.parsed.symm.trans finds.parsed
    cases accepts.loaded.symm.trans finds.loaded
    exact own
  · intro owns earlier body later shape during event runId history mem advanced
    rcases handleCardCallback_adds host rdf service body (service.handled host rdf earlier start)
      with ⟨during', history', advances⟩
    rw [← handled_concat] at history'
    cases List.append_cancel_right (history.symm.trans history')
    rcases (advances runId).mp ⟨event, mem, advanced⟩ with
      ⟨engine, sop, callback, ctx, accepts, named⟩
    exact ⟨callback, ctx, accepts.toFinds, named, accepts.approved,
      owns earlier body later shape engine sop callback ctx accepts⟩

end Service

namespace Sample

/-- An engine that keeps no feedback table. -/
def unrecordedEngine : SOPEngine := { engine with feedbackDb := false }

/-- Two persons have to approve before the notice. -/
def confirmedTwice : SOPDefinition :=
  ⟨py "onboarding", [sopStep (py "approve") .humanApproval, sopStep (py "confirm") .humanApproval,
    sopStep (py "announce") .notify]⟩

def unrecordedService : Service :=
  ⟨some unrecordedEngine, true, fun _ _ => .ok (some confirmedTwice)⟩

/-- The run waits at its first approval step. -/
def waitingForApproval : EngineWorld :=
  ((unrecordedService.task steadyHost rdf
    (.create confirmedTwice Dict.empty (some (py "run-1")))).run newWorld).2

/-- The button of the first card. -/
def approveClick : Json := clicked "APPROVED" "run-1" "approve"

/-- A click that is delivered twice approves the next step too. -/
theorem redelivered_click_releases :
    ¬ ∀ (host : Host) (rdf : RdfLib) (service : Service) (bodies : List Json) (start : EngineWorld),
      service.OwnCardsRelease host rdf bodies start := by
  intro claim
  have parsed : FeishuAdapter.parseCardCallback approveClick = .ok (some ⟨.str (py "run-1"),
      .str (py "approve"), py "APPROVED", .str (py "unknown"), .str [], by decide⟩) := by
    rfl
  have waits : ((unrecordedService.handled steadyHost rdf [approveClick]
      waitingForApproval).state.stored (py "run-1")).bind SOPRunContext.suspendedStepId =
      some (py "confirm") := by
    decide +kernel
  have more : (unrecordedService.handled steadyHost rdf [approveClick]
        waitingForApproval).state.history.countP (EngineEvent.advances (py "run-1")) <
      (unrecordedService.handled steadyHost rdf ([approveClick] ++ [approveClick])
        waitingForApproval).state.history.countP (EngineEvent.advances (py "run-1")) := by
    decide +kernel
  rcases (claim steadyHost rdf unrecordedService ([approveClick] ++ [approveClick])
    waitingForApproval).last more with ⟨callback, ctx, finds, stepId, suspended, own⟩
  cases parsed.symm.trans finds.parsed
  have loaded := finds.loaded
  rw [RunTable.loadState_str, if_pos (by decide)] at loaded
  have stored := Except.ok.inj loaded
  change EngineState.stored _ _ = _ at stored
  rw [stored] at waits
  have same := suspended.symm.trans waits
  cases own
  exact absurd same (by decide)

end Sample

end AgentOS
