import AgentOS.Workflow.StepEffects

/-!
# The loop of a run

The equations of an uninterrupted run: what saving a context does, and how the loop goes on
after each step.
-/

namespace AgentOS

open Python Cooperative

namespace SOPEngine

variable (host : Host) (rdf : RdfLib) (engine : SOPEngine)

/-- A state store, if there is one, can write the context. -/
def Storable (ctx : SOPRunContext) : Prop := engine.stateStore = true → ctx.toJson.encodable = true

/-- The stored context of the run is the context. -/
def StoredAs (ctx : SOPRunContext) (world : EngineWorld) : Prop :=
  engine.stateStore = true → ∃ row, world.state.runs.get? ctx.runId = some row ∧
    row.state = ctx.state ∧ row.contextJson = ctx.toJson

/-- The world in which the loop begins to execute a step. -/
def begun (index : ℕ) (ctx : SOPRunContext) (world : EngineWorld) : EngineWorld :=
  { world with state := world.state.note (.executing ctx.runId index ctx.data) }

variable {host rdf engine}

/-- A save stores the context and touches nothing else, or raises and does nothing. -/
theorem save_cases (engine : SOPEngine) (ctx : SOPRunContext) (world : EngineWorld) :
    (engine.Storable ctx ∧ ∃ saved, engine.save ctx world = (.ok (), saved) ∧
      engine.StoredAs ctx saved ∧ saved.tick = world.tick ∧
      saved.state.gate = world.state.gate ∧ saved.state.feedback = world.state.feedback) ∨
    (¬ engine.Storable ctx ∧ ∃ exc, engine.save ctx world = (.error exc, world)) := by
  unfold save
  split
  · rename_i configured
    simp only [Action.bind_apply, Timed.view_apply, ofExcept_apply]
    rcases RunTable.saveState_cases ctx world.state.runs with
      ⟨encoded, stored⟩ | ⟨foreign, exc, refused⟩
    · left
      rw [stored]
      refine ⟨fun _ => encoded, _, rfl, ?_, rfl, rfl, rfl⟩
      intro _
      exact ⟨_, Dict.get?_set_self _ _ _, rfl, rfl⟩
    · right
      rw [refused]
      refine ⟨?_, exc, rfl⟩
      intro storable
      rw [storable configured] at foreign
      cases foreign
  · rename_i absent
    exact .inl ⟨fun configured => absurd configured absent, world, rfl,
      fun configured => absurd configured absent, rfl, rfl, rfl⟩

theorem save_tick {ctx : SOPRunContext} {world saved : EngineWorld} {result : Except Exc Unit}
    (ended : engine.save ctx world = (result, saved)) : saved.tick = world.tick := by
  rcases save_cases engine ctx world with ⟨-, saved', stored, -, same, -⟩ | ⟨-, exc, refused⟩
  · cases ended.symm.trans stored
    exact same
  · cases ended.symm.trans refused
    rfl

/-- A save is noted exactly when there is a store that can write the context. -/
theorem save_noted (engine : SOPEngine) (ctx : SOPRunContext) (world : EngineWorld) :
    ((engine.stateStore = true ∧ ctx.toJson.encodable = true) ∧
      (engine.save ctx world).2.state.history = .saved ctx :: world.state.history) ∨
    (¬ (engine.stateStore = true ∧ ctx.toJson.encodable = true) ∧
      (engine.save ctx world).2.state.history = world.state.history) := by
  unfold save
  split
  · rename_i configured
    simp only [Action.bind_apply, Timed.view_apply, ofExcept_apply]
    rcases RunTable.saveState_cases ctx world.state.runs with
      ⟨encoded, stored⟩ | ⟨foreign, exc, refused⟩
    · rw [stored]
      exact .inl ⟨⟨configured, encoded⟩, rfl⟩
    · rw [refused]
      exact .inr ⟨by simp [foreign], rfl⟩
  · rename_i absent
    exact .inr ⟨fun both => absent both.1, rfl⟩

/-- A save that returns is noted. -/
theorem save_history {ctx : SOPRunContext} {world saved : EngineWorld}
    (stores : engine.stateStore = true) (returned : engine.save ctx world = (.ok (), saved)) :
    saved.state.history = .saved ctx :: world.state.history := by
  have noted := save_noted engine ctx world
  rcases save_cases engine ctx world with ⟨storable, -⟩ | ⟨-, exc, refused⟩
  · rw [returned] at noted
    exact (noted.resolve_right fun unnoted => unnoted.1 ⟨stores, storable stores⟩).2
  · cases returned.symm.trans refused

theorem stored_of_storedAs {ctx : SOPRunContext} {world : EngineWorld}
    (stores : engine.stateStore = true) (typed : ctx.wellTyped = true)
    (storedAs : engine.StoredAs ctx world) : world.state.stored ctx.runId = some ctx := by
  rcases storedAs stores with ⟨row, found, -, document⟩
  simp [EngineState.stored, found, StoredRun.context?, document, SOPRunContext.ofJson_toJson, typed]

/-- What a save that returns does. -/
theorem save_ok {ctx : SOPRunContext} {world saved : EngineWorld}
    (stores : engine.stateStore = true)
    (returned : engine.save ctx world = (.ok (), saved)) (typed : ctx.wellTyped = true) :
    saved.state.stored ctx.runId = some ctx ∧
      saved.state.history = .saved ctx :: world.state.history ∧
      saved.state.gate = world.state.gate ∧ saved.state.feedback = world.state.feedback := by
  rcases save_cases engine ctx world with
    ⟨-, saved', stored, storedAs, -, gate, feedback⟩ | ⟨-, exc, refused⟩
  · cases returned.symm.trans stored
    exact ⟨stored_of_storedAs stores typed storedAs, save_history stores returned, gate, feedback⟩
  · cases returned.symm.trans refused

/-- A created run is saved before anything else. -/
theorem createRun_cases (host : Host) (engine : SOPEngine) (sop : SOPDefinition)
    (data : Dict Str Json) (runId : Option Str) (world : EngineWorld) :
    ∃ (ctx : SOPRunContext) (tick : ℕ), ctx.state = .pending ∧ ctx.currentStepIndex = 0 ∧
      ctx.stepResults = [] ∧ ctx.wellTyped = true ∧
      engine.createRun host sop data runId world =
        (engine.save ctx >>= fun _ => pure ctx) ⟨tick, world.state⟩ := by
  unfold createRun
  rcases runId with _ | runId
  · exact ⟨_, world.tick + 1, rfl, rfl, rfl, rfl, rfl⟩
  · dsimp only
    split
    · exact ⟨_, world.tick, rfl, rfl, rfl, rfl, rfl⟩
    · exact ⟨_, world.tick + 1, rfl, rfl, rfl, rfl, rfl⟩

/-- A step that is run leaves an outcome, and what it leaves of the context and the records. -/
theorem executeStep_run (host : Host) (rdf : RdfLib) (engine : SOPEngine) (step : SOPStep)
    (ctx : SOPRunContext) (world : EngineWorld) :
    ∃ outcome ctx' middle,
      (engine.executeStep host rdf step ctx).run world = (.ok (outcome, ctx'), middle) ∧
      Stepped step ctx (outcome, ctx') ∧ recordsOf middle = recordsOf world := by
  rcases (executeStep_keeps host rdf engine step ctx).run world with
    ⟨⟨⟨outcome, ctx'⟩, ended, stepped⟩, kept⟩
  rcases ran : (engine.executeStep host rdf step ctx).run world with ⟨result, middle⟩
  rw [ran] at ended kept
  cases ended
  exact ⟨outcome, ctx', middle, rfl, stepped, kept⟩

theorem executeStep_stepped {step : SOPStep} {ctx ctx' : SOPRunContext}
    {outcome : Except Exc Json} {world middle : EngineWorld}
    (ran : (engine.executeStep host rdf step ctx).run world = (.ok (outcome, ctx'), middle)) :
    Stepped step ctx (outcome, ctx') ∧ recordsOf middle = recordsOf world := by
  rcases executeStep_run host rdf engine step ctx world with ⟨_, _, _, ran', stepped, kept⟩
  cases ran.symm.trans ran'
  exact ⟨stepped, kept⟩

theorem loadState_apply (host : Host) (runId : Json) (world : EngineWorld) :
    loadState host runId world = (RunTable.loadState host runId world.state.runs, world) := by
  simp only [loadState, Action.bind_apply, Timed.view_apply, ofExcept_apply]

/-! ### The three ways of a resume -/

theorem resume_going {ctx : SOPRunContext} (going : ctx.state ≠ .suspended) (host : Host)
    (rdf : RdfLib) (engine : SOPEngine) (sop : SOPDefinition) (decision : Str)
    (reason approverId : Json) :
    ∃ exc, engine.resume host rdf sop ctx decision reason approverId = throw exc := by
  unfold resume
  rw [if_pos going]
  exact ⟨_, rfl⟩

theorem resume_unrecorded {ctx : SOPRunContext} (suspended : ctx.state = .suspended)
    (absent : engine.feedbackDb = false) (host : Host) (rdf : RdfLib) (sop : SOPDefinition)
    (decision : Str) (reason approverId : Json) :
    engine.resume host rdf sop ctx decision reason approverId =
      engine.proceed host rdf sop (ctx.answer decision reason approverId) decision := by
  simp [resume, suspended, absent]

theorem resume_recording {ctx : SOPRunContext} (suspended : ctx.state = .suspended)
    (records : engine.feedbackDb = true) (host : Host) (rdf : RdfLib) (sop : SOPDefinition)
    (decision : Str) (reason approverId : Json) :
    engine.resume host rdf sop ctx decision reason approverId =
      Coro.sync (insertFeedback host (ctx.answer decision reason approverId) decision reason
        approverId) >>= fun _ =>
        engine.proceed host rdf sop (ctx.answer decision reason approverId) decision := by
  simp [resume, suspended, records]

/-! ### The loop -/

theorem runSteps_nil (host : Host) (rdf : RdfLib) (engine : SOPEngine) (index : ℕ)
    (ctx : SOPRunContext) (world : EngineWorld) :
    (engine.runSteps host rdf [] index ctx).run world =
      match engine.save { ctx with state := .completed } world with
      | (.ok _, saved) => (.ok { ctx with state := .completed }, saved)
      | (.error exc, saved) => (.error exc, saved) := by
  rw [runSteps, Coro.run_bind, Coro.run_sync]
  rcases engine.save { ctx with state := .completed } world with ⟨exc | ⟨⟩, saved⟩ <;> rfl

theorem runSteps_cons {step : SOPStep} {rest : List SOPStep} {index : ℕ} {ctx ctx' : SOPRunContext}
    {outcome : Except Exc Json} {world middle : EngineWorld}
    (ran : (engine.executeStep host rdf step { ctx with currentStepIndex := index }).run
      (begun index ctx world) = (.ok (outcome, ctx'), middle)) :
    (engine.runSteps host rdf (step :: rest) index ctx).run world =
      match outcome with
      | .ok result =>
          match engine.save (ctx'.logResult step result) middle with
          | (.ok _, saved) =>
              if ctx'.state = .suspended then (.ok (ctx'.logResult step result), saved)
              else (engine.runSteps host rdf rest (index + 1)
                (ctx'.logResult step result)).run saved
          | (.error exc, saved) => (.error exc, saved)
      | .error exc =>
          if exc.cls = .sopExecutionError then
            match engine.save (ctx'.fail exc.message) middle with
            | (.ok _, saved) => (.ok (ctx'.fail exc.message), saved)
            | (.error other, saved) => (.error other, saved)
          else (.error exc, middle) := by
  have first : (Coro.sync (note (.executing ctx.runId index ctx.data))).run world =
      (.ok (), begun index ctx world) := Coro.run_sync _ _
  rw [runSteps]
  dsimp only
  rw [Coro.run_bind_of_ok first, Coro.run_bind_of_ok ran]
  rcases outcome with exc | result
  · dsimp only
    split
    · rw [Coro.run_bind, Coro.run_sync]
      rcases engine.save (ctx'.fail exc.message) middle with ⟨other | ⟨⟩, saved⟩ <;> rfl
    · rfl
  · dsimp only
    rw [Coro.run_bind, Coro.run_sync]
    rcases engine.save (ctx'.logResult step result) middle with ⟨other | ⟨⟩, saved⟩
    · rfl
    · dsimp only
      have same : (ctx'.logResult step result).state = ctx'.state := rfl
      rw [same]
      split <;> rfl

/-- A loop goes on with the rest of its steps when its first step succeeded. -/
theorem runSteps_goesOn {step : SOPStep} {rest : List SOPStep} {index : ℕ}
    {ctx ctx' : SOPRunContext} {result : Json} {world middle saved : EngineWorld}
    (ran : (engine.executeStep host rdf step { ctx with currentStepIndex := index }).run
      (begun index ctx world) = (.ok (.ok result, ctx'), middle))
    (goesOn : ctx'.state ≠ .suspended)
    (stored : engine.save (ctx'.logResult step result) middle = (.ok (), saved)) :
    (engine.runSteps host rdf (step :: rest) index ctx).run world =
      (engine.runSteps host rdf rest (index + 1) (ctx'.logResult step result)).run saved := by
  rw [runSteps_cons ran]
  dsimp only
  rw [stored]
  dsimp only
  rw [if_neg goesOn]

/-- In which world a loop ends: a context is saved, and then the other steps may be executed. -/
theorem runSteps_leaves {step : SOPStep} (rest : List SOPStep) {index : ℕ}
    {ctx ctx' : SOPRunContext} {outcome : Except Exc Json} {world middle : EngineWorld}
    (ran : (engine.executeStep host rdf step { ctx with currentStepIndex := index }).run
      (begun index ctx world) = (.ok (outcome, ctx'), middle)) :
    ((engine.runSteps host rdf (step :: rest) index ctx).run world).2 = middle ∨
    (∃ kept, kept.runId = ctx'.runId ∧
      ((engine.runSteps host rdf (step :: rest) index ctx).run world).2 =
        (engine.save kept middle).2) ∨
    ∃ kept, kept.runId = ctx'.runId ∧
      ((engine.runSteps host rdf (step :: rest) index ctx).run world).2 =
        ((engine.runSteps host rdf rest (index + 1) kept).run (engine.save kept middle).2).2 := by
  rw [@runSteps_cons _ _ _ step rest _ _ _ _ _ _ ran]
  rcases outcome with exc | result
  · dsimp only
    split
    · refine .inr (.inl ⟨ctx'.fail exc.message, rfl, ?_⟩)
      rcases engine.save (ctx'.fail exc.message) middle with ⟨other | ⟨⟩, saved⟩ <;> rfl
    · exact .inl rfl
  · right
    dsimp only
    by_cases suspended : ctx'.state = .suspended
    · refine .inl ⟨ctx'.logResult step result, rfl, ?_⟩
      rcases engine.save (ctx'.logResult step result) middle with ⟨other | ⟨⟩, saved⟩
      · rfl
      · simp [suspended]
    · rcases stored : engine.save (ctx'.logResult step result) middle with ⟨other | ⟨⟩, saved⟩
      · exact .inl ⟨ctx'.logResult step result, rfl, by rw [stored]⟩
      · refine .inr ⟨ctx'.logResult step result, rfl, ?_⟩
        simp [stored, suspended]

variable (host rdf engine)

/-- How a loop returns that begins with the step. -/
inductive StepReturns (step : SOPStep) (rest : List SOPStep) (index : ℕ) (ctx : SOPRunContext)
    (world : EngineWorld) (final : SOPRunContext) (last : EngineWorld) : Prop
  | failed {exc : Exc} {ctx' : SOPRunContext} {middle : EngineWorld}
      (ran : (engine.executeStep host rdf step { ctx with currentStepIndex := index }).run
        (begun index ctx world) = (.ok (.error exc, ctx'), middle))
      (stored : engine.save (ctx'.fail exc.message) middle = (.ok (), last))
      (ended : final = ctx'.fail exc.message)
  | waits {result : Json} {ctx' : SOPRunContext} {middle : EngineWorld}
      (ran : (engine.executeStep host rdf step { ctx with currentStepIndex := index }).run
        (begun index ctx world) = (.ok (.ok result, ctx'), middle))
      (suspended : ctx'.state = .suspended)
      (stored : engine.save (ctx'.logResult step result) middle = (.ok (), last))
      (ended : final = ctx'.logResult step result)
  | goesOn {result : Json} {ctx' : SOPRunContext} {middle saved : EngineWorld}
      (ran : (engine.executeStep host rdf step { ctx with currentStepIndex := index }).run
        (begun index ctx world) = (.ok (.ok result, ctx'), middle))
      (goesOn : ctx'.state ≠ .suspended)
      (stored : engine.save (ctx'.logResult step result) middle = (.ok (), saved))
      (returned : (engine.runSteps host rdf rest (index + 1) (ctx'.logResult step result)).run
        saved = (.ok final, last))

variable {host rdf engine}

theorem stepReturns_of_returned {step : SOPStep} {rest : List SOPStep} {index : ℕ}
    {ctx final : SOPRunContext} {world last : EngineWorld}
    (returned : (engine.runSteps host rdf (step :: rest) index ctx).run world = (.ok final, last)) :
    engine.StepReturns host rdf step rest index ctx world final last := by
  rcases executeStep_run host rdf engine step { ctx with currentStepIndex := index }
    (begun index ctx world) with ⟨outcome, ctx', middle, ran, -, -⟩
  rw [@runSteps_cons _ _ _ step rest _ _ _ _ _ _ ran] at returned
  rcases outcome with exc | result
  · dsimp only at returned
    split at returned
    · rcases stored : engine.save (ctx'.fail exc.message) middle with ⟨other | ⟨⟩, saved⟩ <;>
        rw [stored] at returned <;> cases returned
      exact .failed ran stored rfl
    · cases returned
  · dsimp only at returned
    rcases stored : engine.save (ctx'.logResult step result) middle with ⟨other | ⟨⟩, saved⟩ <;>
      rw [stored] at returned
    · cases returned
    · dsimp only at returned
      split at returned
      · rename_i suspended
        cases returned
        exact .waits ran suspended stored rfl
      · rename_i goesOn
        exact .goesOn ran goesOn stored returned

end SOPEngine

end AgentOS
