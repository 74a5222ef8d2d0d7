import AgentOS.Cooperative.Stepping
import AgentOS.Service.Service
import AgentOS.Workflow.RunFailure

/-!
# Cards and suspensions

A card can be answered from the moment it is handed to the sender, but the run is stored as
SUSPENDED only after the sender has returned. In no interleaving is a run that was not asked
for before found suspended at the step whose card was just handed over: the first card of a
run always comes before the first suspension that is stored.
-/

namespace AgentOS

open Python Cooperative Relation

namespace EngineState

/-- The run is stored as SUSPENDED. -/
def Suspended (runId : Str) (engine : EngineState) : Prop :=
  ∃ ctx, engine.stored runId = some ctx ∧ ctx.state = .suspended

/-- `load_state` yields the run suspended at the step. -/
def Awaits (runId stepId : Str) (engine : EngineState) : Prop :=
  ∃ ctx, engine.stored runId = some ctx ∧ ctx.state = .suspended ∧
    ctx.suspendedStepId = some stepId

/-- A card of the run was handed over. -/
def Carded (runId : Str) (engine : EngineState) : Prop :=
  ∃ stepId, (runId, stepId) ∈ engine.cards

/-- No approval of the run is pending, and none was asked for. -/
def Unasked (runId : Str) (engine : EngineState) : Prop :=
  ¬ engine.Suspended runId ∧ ¬ engine.Carded runId

theorem Awaits.suspended {runId stepId : Str} {engine : EngineState}
    (awaits : engine.Awaits runId stepId) : engine.Suspended runId := by
  rcases awaits with ⟨ctx, stored, suspended, -⟩
  exact ⟨ctx, stored, suspended⟩

theorem stored_congr {engine engine' : EngineState} (same : engine'.runs = engine.runs)
    (runId : Str) : engine'.stored runId = engine.stored runId := by
  simp [stored, same]

theorem suspended_congr {engine engine' : EngineState} (same : engine'.runs = engine.runs)
    (runId : Str) : engine'.Suspended runId ↔ engine.Suspended runId := by
  simp [Suspended, stored_congr same]

end EngineState

/-- One card is handed over while the runs stay, or a suspension is stored of a run with a card. -/
structure CardStep (world world' : EngineWorld) : Prop where
  cards : world'.state.cards = world.state.cards ∨
    ∃ card, world'.state = world.state.handOver card
  suspends : ∀ runId, world'.state.Suspended runId →
    world.state.Suspended runId ∨ world.state.Carded runId

namespace CardStep

theorem of_same {world world' : EngineWorld} (runs : world'.state.runs = world.state.runs)
    (cards : world'.state.cards = world.state.cards) : CardStep world world' where
  cards := .inl cards
  suspends := by
    intro runId suspended
    exact .inl ((EngineState.suspended_congr runs runId).mp suspended)

theorem carded {world world' : EngineWorld} (step : CardStep world world') {runId : Str}
    (carded : world.state.Carded runId) : world'.state.Carded runId := by
  rcases carded with ⟨stepId, mem⟩
  rcases step.cards with same | ⟨card, handed⟩
  · exact ⟨stepId, same ▸ mem⟩
  · rw [handed]
    exact ⟨stepId, by simp [EngineState.handOver, mem]⟩

theorem carded_of_steps {world world' : EngineWorld} (moved : ReflTransGen CardStep world world')
    {runId : Str} (carded : world.state.Carded runId) : world'.state.Carded runId := by
  induction moved with
  | refl => exact carded
  | tail _ step ih => exact step.carded ih

end CardStep

theorem cardStep_save (engine : SOPEngine) (ctx : SOPRunContext) (world : EngineWorld)
    (asked : ctx.state = .suspended → world.state.Carded ctx.runId) :
    CardStep world (engine.save ctx world).2 := by
  unfold SOPEngine.save
  split
  · simp only [Action.bind_apply, Timed.view_apply, ofExcept_apply]
    rcases RunTable.saveState_cases ctx world.state.runs with
      ⟨encoded, stored⟩ | ⟨-, exc, refused⟩
    · rw [stored]
      refine ⟨.inl rfl, ?_⟩
      rintro runId ⟨found, stored, suspended⟩
      by_cases same : runId = ctx.runId
      · subst same
        right
        apply asked
        simp only [EngineState.stored, SOPEngine.note, Timed.modify_apply, EngineState.note,
          EngineState.setRuns, Dict.get?_set_self, Option.bind_some,
          RunTable.context?_rowFor] at stored
        split at stored
        · cases stored
          exact suspended
        · cases stored
      · left
        refine ⟨found, ?_, suspended⟩
        simpa [EngineState.stored, SOPEngine.note, EngineState.note, EngineState.setRuns,
          Dict.get?_set_of_ne _ _ same] using stored
    · rw [refused]
      exact .of_same rfl rfl
  · exact .of_same rfl rfl

namespace SOPEngine

/-- The runs and the cards, as `CardStep` sees them. -/
def cardView (engine : EngineState) : RunTable × List (Str × Str) := (engine.runs, engine.cards)

theorem cardStep_of_view {world world' : EngineWorld}
    (same : cardView world'.state = cardView world.state) : CardStep world world' := by
  simp only [cardView, Prod.mk.injEq] at same
  exact .of_same same.1 same.2

theorem steps_of_keeps {α : Type} {kept : Except Exc α → Prop} {body : Coro Exc EngineWorld α}
    (keeps : body.Keeps (fun world => cardView world.state) kept) (origin : EngineWorld) :
    body.Steps CardStep (fun result _ => kept result) origin :=
  keeps.steps (fun _ _ same => cardStep_of_view same) origin

theorem steps_sync_of_keeps {α : Type} {body : Action Exc EngineWorld α}
    (keeps : body.Keeps fun world => cardView world.state) (origin : EngineWorld) :
    (Coro.sync body).Steps CardStep (fun _ _ => True) origin :=
  Coro.steps_sync fun state _ => ⟨cardStep_of_view (keeps state), trivial⟩

theorem steps_save {engine : SOPEngine} {ctx : SOPRunContext} {origin : EngineWorld}
    (asked : ctx.state = .suspended → origin.state.Carded ctx.runId) :
    (Coro.sync (engine.save ctx)).Steps CardStep (fun _ _ => True) origin := by
  apply Coro.steps_sync
  intro world since
  refine ⟨cardStep_save engine ctx world ?_, trivial⟩
  intro suspended
  exact CardStep.carded_of_steps since (asked suspended)

/-- A step that suspends the run has handed over a card of it. -/
def StepEndsCarded (step : SOPStep) (ctx : SOPRunContext) (result : Except Exc StepOutcome)
    (world : EngineWorld) : Prop :=
  ∃ outcome, result = .ok outcome ∧ Stepped step ctx outcome ∧
    (ctx.state ≠ .suspended → outcome.2.state = .suspended → world.state.Carded ctx.runId)

theorem stepEndsCarded_went {step : SOPStep} {ctx : SOPRunContext} (result : Except Exc Json)
    (data : Dict Str Json) (world : EngineWorld) :
    StepEndsCarded step ctx (.ok (result, { ctx with data })) world :=
  ⟨_, rfl, .went result data, fun differ same => absurd same differ⟩

variable {host : Host} {rdf : RdfLib} {engine : SOPEngine} {step : SOPStep} {ctx : SOPRunContext}

theorem sendCard_steps (sends : engine.approvalCardSender.isSome = true) (message : Str)
    (card : Json) (origin : EngineWorld) :
    (engine.sendCard step message card ctx).Steps CardStep
      (fun _ world => world.state.Carded ctx.runId) origin := by
  unfold sendCard
  rcases sender : engine.approvalCardSender with _ | send
  · simp [sender] at sends
  · have handed : (Coro.sync (Timed.modify (EngineState.handOver (ctx.runId, step.id)) :
        Action Exc EngineWorld Unit)).Steps CardStep
          (fun _ world => world.state.Carded ctx.runId) origin := by
      apply Coro.steps_sync
      intro world _
      refine ⟨⟨.inr ⟨_, rfl⟩, ?_⟩, ⟨step.id, by simp [EngineState.handOver]⟩⟩
      intro runId suspended
      exact .inl ((EngineState.suspended_congr rfl runId).mp suspended)
    apply Coro.steps_bind handed
    · intro _ world _ carded
      apply Coro.steps_sync
      intro world' since
      exact ⟨.of_same rfl rfl, CardStep.carded_of_steps since carded⟩
    · exact fun _ _ carded => carded

theorem askApproval_steps (sends : engine.approvalCardSender.isSome = true) (host : Host)
    (message : Str) (asks : step.type = .humanApproval) (origin : EngineWorld) :
    (engine.askApproval host step message ctx).Steps CardStep (StepEndsCarded step ctx) origin := by
  let carded (_ : Except Exc Unit) (world : EngineWorld) : Prop := world.state.Carded ctx.runId
  refine @Coro.steps_attempt_bind _ _ _ _ _ carded _ origin _ _ ?_ ?_
  · apply Coro.steps_bind (sendCard_steps sends message _ origin)
    · intro _ world _ carded
      apply Coro.steps_sync
      intro world' since
      exact ⟨.of_same rfl rfl, CardStep.carded_of_steps since carded⟩
    · exact fun _ _ carded => carded
  · rintro (exc | ⟨⟩) world - carded
    · exact stepEndsCarded_went (.error exc) _ world
    · exact ⟨_, rfl, .suspended _ _ asks, fun _ _ => carded⟩

theorem executeStep_steps (sends : engine.approvalCardSender.isSome = true) (host : Host)
    (rdf : RdfLib) (step : SOPStep) (ctx : SOPRunContext) (origin : EngineWorld) :
    (engine.executeStep host rdf step ctx).Steps CardStep (StepEndsCarded step ctx) origin := by
  by_cases asks : step.type = .humanApproval
  · simp only [executeStep, asks, stepHumanApproval]
    apply Coro.steps_bind (steps_of_keeps (triggers_keeps cardView engine step ctx.data) origin)
    · rintro triggered world - -
      split
      · split
        · exact askApproval_steps sends host _ asks world
        · exact stepEndsCarded_went _ ctx.data world
      · exact stepEndsCarded_went _ ctx.data world
    · rintro exc world ⟨_, ⟨⟩⟩
  · have keeps := @executeStep_keeps_view _ cardView step (fun _ _ => rfl)
      (fun asked => absurd asked asks) host rdf engine ctx
    apply (steps_of_keeps keeps origin).mono
    rintro result world ⟨outcome, rfl, stepped⟩
    refine ⟨outcome, rfl, stepped, ?_⟩
    intro differ suspended
    cases stepped with
    | went result data => exact absurd suspended differ
    | suspended result data asked => exact absurd asked asks

/-- The loop stores a suspension only of a run with a card. -/
theorem runSteps_steps (sends : engine.approvalCardSender.isSome = true) (host : Host)
    (rdf : RdfLib) (steps : List SOPStep) (index : ℕ) (goes : ctx.state ≠ .suspended)
    (origin : EngineWorld) :
    (engine.runSteps host rdf steps index ctx).Steps CardStep (fun _ _ => True) origin := by
  induction steps generalizing index ctx origin with
  | nil =>
      have completed : ({ ctx with state := .completed } : SOPRunContext).state = .suspended →
          origin.state.Carded ctx.runId := nofun
      apply Coro.steps_bind (steps_save completed)
      · exact fun _ _ _ _ => trivial
      · exact fun _ _ _ => trivial
  | cons step rest ih =>
      apply Coro.steps_bind (steps_sync_of_keeps (fun _ => rfl) origin)
      · intro _ world _ _
        apply Coro.steps_bind (executeStep_steps sends host rdf step
          { ctx with currentStepIndex := index } world)
        · rintro ⟨outcome, ctx'⟩ world' - ⟨_, ⟨⟩, stepped, carded⟩
          rcases outcome with exc | result
          · dsimp only
            split
            · have failed : (ctx'.fail exc.message).state = .suspended →
                  world'.state.Carded ctx'.runId := nofun
              apply Coro.steps_bind (steps_save failed)
              · exact fun _ _ _ _ => trivial
              · exact fun _ _ _ => trivial
            · trivial
          · have asked : (ctx'.logResult step result).state = .suspended →
                world'.state.Carded ctx'.runId := by
              intro suspended
              have same : ctx'.runId = ctx.runId := by cases stepped <;> rfl
              rw [same]
              exact carded goes suspended
            apply Coro.steps_bind (steps_save asked)
            · intro _ world'' _ _
              split
              · trivial
              · rename_i continues
                exact ih (index + 1) continues world''
            · exact fun _ _ _ => trivial
        · exact fun _ _ _ => trivial
      · exact fun _ _ _ => trivial

theorem run_steps (sends : engine.approvalCardSender.isSome = true) (host : Host) (rdf : RdfLib)
    (sop : SOPDefinition) (ctx : SOPRunContext) (origin : EngineWorld) :
    (engine.run host rdf sop ctx).Steps CardStep (fun _ _ => True) origin :=
  runSteps_steps sends host rdf _ _ (by simp) origin

theorem resume_steps (sends : engine.approvalCardSender.isSome = true) (host : Host)
    (rdf : RdfLib) (sop : SOPDefinition) (ctx : SOPRunContext) (decision : Str)
    (reason approverId : Json) (origin : EngineWorld) :
    (engine.resume host rdf sop ctx decision reason approverId).Steps CardStep
      (fun _ _ => True) origin := by
  have proceeds : ∀ (ctx : SOPRunContext) (origin : EngineWorld),
      (engine.proceed host rdf sop ctx decision).Steps CardStep (fun _ _ => True) origin := by
    intro ctx origin
    unfold proceed
    split
    · have rejected : ({ ctx with state := .rejected } : SOPRunContext).state = .suspended →
          origin.state.Carded ctx.runId := nofun
      apply Coro.steps_bind (steps_save rejected)
      · exact fun _ _ _ _ => trivial
      · exact fun _ _ _ => trivial
    · exact run_steps sends host rdf sop _ origin
  unfold resume
  split
  · trivial
  · dsimp only
    split
    · have recorded := @insertFeedback_keeps _ cardView (fun _ _ => rfl) host
        (ctx.answer decision reason approverId) decision reason approverId
      apply Coro.steps_bind (steps_sync_of_keeps recorded origin)
      · exact fun _ world _ _ => proceeds _ world
      · exact fun _ _ _ => trivial
    · exact proceeds _ origin

theorem createRun_steps (engine : SOPEngine) (host : Host) (sop : SOPDefinition)
    (data : Dict Str Json) (runId : Option Str) (world : EngineWorld) :
    CardStep world (engine.createRun host sop data runId world).2 := by
  have saves : ∀ (ctx : SOPRunContext) (tick : ℕ), ctx.state = .pending →
      CardStep world ((engine.save ctx >>= fun _ => pure ctx) ⟨tick, world.state⟩).2 := by
    intro ctx tick pending
    have saved := cardStep_save engine ctx ⟨tick, world.state⟩ (by simp [pending])
    rw [Action.bind_apply]
    revert saved
    rcases engine.save ctx ⟨tick, world.state⟩ with ⟨exc | ⟨⟩, final⟩ <;>
      exact fun saved => ⟨saved.cards, saved.suspends⟩
  rcases createRun_cases host engine sop data runId world with
    ⟨ctx, tick, pending, -, -, -, created⟩
  rw [created]
  exact saves ctx tick pending

end SOPEngine

namespace Service

variable {host : Host} {rdf : RdfLib} {service : Service} {engine : SOPEngine}

theorem loadState_keeps (host : Host) (runId : Json) :
    (SOPEngine.loadState host runId).Keeps fun world => SOPEngine.cardView world.state := by
  apply Action.keeps_bind (Timed.keeps_view _)
  exact fun runs => keeps_ofExcept _

theorem handleCardCallback_steps (wired : service.sopEngine = some engine)
    (sends : engine.approvalCardSender.isSome = true) (body : Json) (origin : EngineWorld) :
    (service.handleCardCallback host rdf body).Steps CardStep (fun _ _ => True) origin := by
  unfold handleCardCallback
  rw [wired]
  split
  · trivial
  · trivial
  · split
    · rename_i same _
      cases same
      apply Coro.steps_bind (SOPEngine.steps_sync_of_keeps (loadState_keeps host _) origin)
      · intro loaded world _ _
        split
        · trivial
        · apply Coro.steps_bind (SOPEngine.steps_sync_of_keeps (fun _ => rfl) world)
          · intro defined world' _ _
            split
            · trivial
            · apply Coro.steps_bind (SOPEngine.resume_steps sends host rdf _ _ _ _ _ world')
              · exact fun _ _ _ _ => trivial
              · exact fun _ _ _ => trivial
          · exact fun _ _ _ => trivial
      · exact fun _ _ _ => trivial
    · trivial

theorem resumeAs_steps (sends : engine.approvalCardSender.isSome = true) (runId decision : Str)
    (reason approverId : Json) (origin : EngineWorld) :
    (service.resumeAs host rdf engine runId decision reason approverId).Steps CardStep
      (fun _ _ => True) origin := by
  apply Coro.steps_bind (SOPEngine.steps_sync_of_keeps (loadState_keeps host _) origin)
  · intro loaded world _ _
    split
    · trivial
    · apply Coro.steps_bind (SOPEngine.steps_sync_of_keeps (fun _ => rfl) world)
      · intro defined world' _ _
        split
        · trivial
        · apply Coro.steps_bind (SOPEngine.resume_steps sends host rdf _ _ _ _ _ world')
          · exact fun _ _ _ _ => trivial
          · exact fun _ _ _ => trivial
      · exact fun _ _ _ => trivial
  · exact fun _ _ _ => trivial

theorem resumeSop_steps (wired : service.sopEngine = some engine)
    (sends : engine.approvalCardSender.isSome = true) (runId : Str) (body : Json)
    (origin : EngineWorld) :
    (service.resumeSop host rdf runId body).Steps CardStep (fun _ _ => True) origin := by
  have field : ∀ (key : String) (default : Json) (world : EngineWorld),
      (Coro.done (getField body key default) : Coro Exc EngineWorld Json).Steps CardStep
        (fun _ _ => True) world := by
    intro key default world
    exact Coro.steps_done trivial
  unfold resumeSop
  rw [wired]
  split
  · rename_i same _
    cases same
    apply Coro.steps_bind (field _ _ origin)
    · intro decision world _ _
      split
      · split
        · apply Coro.steps_bind (field _ _ world)
          · intro reason world' _ _
            apply Coro.steps_bind (field _ _ world')
            · exact fun _ world'' _ _ => resumeAs_steps sends _ _ _ _ world''
            · exact fun _ _ _ => trivial
          · exact fun _ _ _ => trivial
        · trivial
      · trivial
    · exact fun _ _ _ => trivial
  · trivial

theorem task_steps (wired : service.sopEngine = some engine)
    (sends : engine.approvalCardSender.isSome = true) (call : Call) (origin : EngineWorld) :
    (service.task host rdf call).Steps CardStep (fun _ _ => True) origin := by
  have ends : ∀ {α β : Type} {body : Coro Exc EngineWorld α} {origin : EngineWorld}
      (result : α → β), body.Steps CardStep (fun _ _ => True) origin →
      (body >>= fun value => pure (result value)).Steps CardStep (fun _ _ => True) origin := by
    intro α β body origin result steps
    apply Coro.steps_bind steps
    · exact fun _ _ _ _ => trivial
    · exact fun _ _ _ => trivial
  cases call with
  | create sop data runId =>
      simp only [task, onEngine, wired]
      have created : (Coro.sync (engine.createRun host sop data runId)).Steps CardStep
          (fun _ _ => True) origin :=
        Coro.steps_sync fun world _ =>
          ⟨SOPEngine.createRun_steps engine host sop data runId world, trivial⟩
      apply Coro.steps_bind created
      · exact fun ctx world _ _ => ends Sum.inl (SOPEngine.run_steps sends host rdf sop ctx world)
      · exact fun _ _ _ => trivial
  | run sop ctx =>
      simp only [task, onEngine, wired]
      exact ends Sum.inl (SOPEngine.run_steps sends host rdf sop ctx origin)
  | cardCallback body => exact ends Sum.inr (handleCardCallback_steps wired sends body origin)
  | resumeRequest runId body =>
      exact ends Sum.inr (resumeSop_steps wired sends runId body origin)

variable (host rdf service)

/-- The slot of the schedule in which the card is handed over. -/
def HandsOver (calls : ℕ → Call) (start : EngineWorld) (earlier : List ℕ) (task : ℕ)
    (runId stepId : Str) : Prop :=
  (service.serve host rdf calls start (earlier ++ [task])).state.state.cards =
    (runId, stepId) :: (service.serve host rdf calls start earlier).state.state.cards

/-- Whenever a card of the run is handed over, the run is stored as suspended at its step. -/
def CardsFollowSuspension (calls : ℕ → Call) (start : EngineWorld) (schedule : List ℕ)
    (runId : Str) : Prop :=
  ∀ earlier task later stepId, schedule = earlier ++ task :: later →
    service.HandsOver host rdf calls start earlier task runId stepId →
    (service.serve host rdf calls start (earlier ++ [task])).state.state.Awaits runId stepId

variable {host rdf service} {calls : ℕ → Call} {start : EngineWorld} {runId : Str}

theorem serve_stepping (wired : service.sopEngine = some engine)
    (sends : engine.approvalCardSender.isSome = true) (schedule : List ℕ) :
    (service.serve host rdf calls start schedule).Stepping CardStep (fun _ _ => True) ∧
      ReflTransGen CardStep start (service.serve host rdf calls start schedule).state := by
  have started : Pool.Stepping CardStep (fun _ _ => True)
      (⟨start, fun i => service.task host rdf (calls i)⟩ :
        Pool ℕ Exc EngineWorld (SOPRunContext ⊕ Json)) :=
    Pool.stepping_of_tasks fun task => task_steps wired sends (calls task) start
  exact started.exec schedule

/-- In each slot at most one card is handed over, and the runs stay when one is. -/
theorem serve_slot (wired : service.sopEngine = some engine)
    (sends : engine.approvalCardSender.isSome = true) (earlier : List ℕ) (task : ℕ) :
    CardStep (service.serve host rdf calls start earlier).state
      (service.serve host rdf calls start (earlier ++ [task])).state := by
  have stepping : (service.serve host rdf calls start earlier).Stepping CardStep
      (fun _ _ => True) := (serve_stepping wired sends earlier).1
  have moved := (stepping.advance task).2
  unfold serve at moved ⊢
  rw [Pool.exec_concat]
  rcases moved with same | step
  · rw [same]
    exact .of_same rfl rfl
  · exact step

/-- No suspension is stored of a run that was not asked for. -/
theorem serve_unasked (wired : service.sopEngine = some engine)
    (sends : engine.approvalCardSender.isSome = true) (unasked : start.state.Unasked runId)
    (schedule : List ℕ)
    (uncarded : ¬ (service.serve host rdf calls start schedule).state.state.Carded runId) :
    ¬ (service.serve host rdf calls start schedule).state.state.Suspended runId := by
  have keeps : ∀ world world' : EngineWorld, CardStep world world' →
      (world.state.Suspended runId → world.state.Carded runId) →
      world'.state.Suspended runId → world'.state.Carded runId := by
    intro world world' step first suspended
    apply step.carded
    rcases step.suspends runId suspended with before | carded
    · exact first before
    · exact carded
  have moved : ReflTransGen CardStep start
      (service.serve host rdf calls start schedule).state :=
    (serve_stepping wired sends schedule).2
  intro suspended
  apply uncarded
  exact Action.holds_of_steps keeps moved (fun suspended => absurd suspended unasked.1) suspended

/-- Before the first card of a run none of its cards was handed over. -/
theorem exists_first_card (wired : service.sopEngine = some engine)
    (sends : engine.approvalCardSender.isSome = true) (unasked : start.state.Unasked runId)
    (schedule : List ℕ)
    (carded : (service.serve host rdf calls start schedule).state.state.Carded runId) :
    ∃ earlier task later stepId, schedule = earlier ++ task :: later ∧
      service.HandsOver host rdf calls start earlier task runId stepId ∧
      ¬ (service.serve host rdf calls start earlier).state.state.Carded runId := by
  induction schedule using List.reverseRecOn with
  | nil => exact absurd carded unasked.2
  | append_singleton schedule last ih =>
      by_cases before : (service.serve host rdf calls start schedule).state.state.Carded runId
      · rcases ih before with ⟨earlier, task, later, stepId, rfl, handed, first⟩
        exact ⟨earlier, task, later ++ [last], stepId, by simp, handed, first⟩
      · rcases carded with ⟨stepId, mem⟩
        rcases (serve_slot wired sends schedule last).cards with same | ⟨card, handed⟩
        · rw [same] at mem
          exact absurd ⟨stepId, mem⟩ before
        · rw [handed] at mem
          rcases List.mem_cons.mp mem with rfl | mem
          · refine ⟨schedule, last, [], stepId, rfl, ?_, before⟩
            rw [HandsOver, handed]
            rfl
          · exact absurd ⟨stepId, mem⟩ before

/--
For a run that was not asked for before, the cards follow the suspensions exactly as long as
no card is handed over.
-/
theorem cardsFollowSuspension_iff (wired : service.sopEngine = some engine)
    (sends : engine.approvalCardSender.isSome = true) (unasked : start.state.Unasked runId)
    (schedule : List ℕ) :
    service.CardsFollowSuspension host rdf calls start schedule runId ↔
      ¬ (service.serve host rdf calls start schedule).state.state.Carded runId := by
  constructor
  · intro follow carded
    rcases exists_first_card wired sends unasked schedule carded with
      ⟨earlier, task, later, stepId, shape, handed, first⟩
    have awaits := follow earlier task later stepId shape handed
    have before := serve_unasked wired sends unasked earlier first
    rcases (serve_slot wired sends earlier task).cards with same | ⟨card, state⟩
    · rw [HandsOver, same] at handed
      simp at handed
    · apply before
      apply (EngineState.suspended_congr _ runId).mp awaits.suspended
      rw [state]
      rfl
  · intro uncarded earlier task later stepId shape handed
    have stepping : (service.serve host rdf calls start (earlier ++ [task])).Stepping CardStep
        (fun _ _ => True) := (serve_stepping wired sends _).1
    have moved := stepping.exec later
    have mem :
        (service.serve host rdf calls start (earlier ++ [task])).state.state.Carded runId := by
      refine ⟨stepId, ?_⟩
      rw [handed]
      exact List.mem_cons_self
    have final := CardStep.carded_of_steps moved.2 mem
    simp only [serve, ← Pool.exec_append, List.append_assoc, List.cons_append,
      List.nil_append] at final
    rw [shape] at uncarded
    exact absurd final uncarded

end Service

namespace Sample

/-- The sample engine with a sender that always succeeds. -/
def sendingEngine : SOPEngine :=
  { engine with approvalCardSender := some fun _ _ _ _ _ _ => .ok () }

def approval : SOPDefinition := ⟨py "onboarding", [sopStep (py "approve") .humanApproval]⟩

def service : Service := ⟨some sendingEngine, true, fun _ _ => .ok (some approval)⟩

/-- The body of the callback of an approval card. -/
def clicked (decision runId stepId : String) : Json :=
  .obj [(py "action", .obj [(py "value", .obj [(py "action", .str (py decision)),
    (py "run_id", .str (py runId)), (py "step_id", .str (py stepId))])])]

/-- A workflow is begun, and its card is approved. -/
def requests : ℕ → Service.Call
  | 0 => .create approval Dict.empty (some (py "run-1"))
  | _ => .cardCallback (clicked "APPROVED" "run-1" "approve")

theorem newWorld_unasked (runId : Str) : newWorld.state.Unasked runId := by
  constructor
  · rintro ⟨ctx, ⟨⟩, -⟩
  · rintro ⟨stepId, ⟨⟩⟩

theorem card_too_early :
    ¬ service.CardsFollowSuspension steadyHost rdf requests newWorld [0, 0, 0, 0] (py "run-1") :=
  fun follow => (Service.cardsFollowSuspension_iff rfl rfl (newWorld_unasked _) _).mp follow
    ⟨py "approve", by decide⟩

/-- While the sender is awaited the run is still stored as PENDING. -/
theorem card_outruns_suspension :
    ¬ ∀ (host : Host) (rdf : RdfLib) (service : Service) (engine : SOPEngine)
      (calls : ℕ → Service.Call) (start : EngineWorld) (schedule : List ℕ) (runId : Str),
      service.sopEngine = some engine → engine.approvalCardSender.isSome = true →
      engine.stateStore = true → service.stateStore = true → start.state.Unasked runId →
      service.CardsFollowSuspension host rdf calls start schedule runId := by
  intro claim
  have follow := claim steadyHost rdf service sendingEngine requests newWorld [0, 0, 0, 0]
    (py "run-1") rfl rfl rfl rfl (newWorld_unasked _)
  have handed : service.HandsOver steadyHost rdf requests newWorld [0, 0, 0] 0 (py "run-1")
      (py "approve") := by
    unfold Service.HandsOver
    decide
  have pending : ((service.serve steadyHost rdf requests newWorld
    ([0, 0, 0] ++ [0])).state.state.stored
      (py "run-1")).map SOPRunContext.state = some .pending := by
    decide
  rcases (follow [0, 0, 0] 0 [] (py "approve") rfl handed).suspended with ⟨ctx, stored, suspended⟩
  rw [stored, Option.map_some, suspended] at pending
  cases pending

/-- The callback that arrives then is lost: it raises, and the run is suspended for good. -/
example :
    let final := service.serve steadyHost rdf requests newWorld [0, 0, 0, 0, 1, 1, 0, 0, 0]
    (final.state.state.stored (py "run-1")).map SOPRunContext.state = some .suspended ∧
      final.state.state.feedback = [] ∧
      (match final.tasks 1 with
      | .raise exc => exc.cls = .sopExecutionError
      | _ => false) = true := by
  decide

end Sample

end AgentOS
