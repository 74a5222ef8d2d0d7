import AgentOS.Cooperative.Stepping
import AgentOS.Workflow.Outcomes

/-!
# Restarts

A run that was stopped after one of its saves is reloaded and continued. It goes on with the
first step that has no result exactly when it was saved as SUSPENDED, or with an index that is
the number of its results: the saves after a completed step keep the index of that step.
-/

namespace AgentOS

open Python Cooperative Relation

/-- The index is that of the step that comes next, or of the last one with a result. -/
structure Placed (sop : SOPDefinition) (ctx : SOPRunContext) : Prop where
  inside : ctx.stepResults.length ≤ sop.steps.length
  index : ctx.currentStepIndex = ctx.stepResults.length ∨
    ctx.currentStepIndex + 1 = ctx.stepResults.length
  suspended : ctx.state = .suspended → ctx.currentStepIndex + 1 = ctx.stepResults.length
  typed : ctx.wellTyped = true

/-- At most one event is noted, and a context that is saved is placed and could be written. -/
def SaveStep (sop : SOPDefinition) (world world' : EngineWorld) : Prop :=
  world'.state.history = world.state.history ∨
    ∃ event, world'.state.history = event :: world.state.history ∧
      ∀ ctx, event = .saved ctx → Placed sop ctx ∧ ctx.toJson.encodable = true

/-- The context was saved between two states. -/
def SavedBetween (world world' : EngineWorld) (ctx : SOPRunContext) : Prop :=
  ∃ during, world'.state.history = during ++ world.state.history ∧ .saved ctx ∈ during

theorem placed_of_savedBetween {sop : SOPDefinition} {world world' : EngineWorld}
    {ctx : SOPRunContext} (moved : ReflTransGen (SaveStep sop) world world')
    (saved : SavedBetween world world' ctx) : Placed sop ctx ∧ ctx.toJson.encodable = true := by
  rcases saved with ⟨during, history, mem⟩
  induction moved generalizing during with
  | refl =>
      have none : during = [] := by simpa using history
      simp [none] at mem
  | tail _ step ih =>
      rcases step with same | ⟨event, noted, placed⟩
      · exact ih during (same.symm.trans history) mem
      · rw [noted] at history
        rcases during with _ | ⟨first, rest⟩
        · simp at mem
        · simp only [List.cons_append, List.cons.injEq] at history
          rcases List.mem_cons.mp mem with rfl | mem
          · exact placed ctx history.1
          · exact ih rest history.2 mem

namespace SOPEngine

variable {host : Host} {rdf : RdfLib} {engine : SOPEngine} {sop : SOPDefinition}
  {ctx : SOPRunContext} {origin : EngineWorld}

/-- The context that a call returns is placed and stored. -/
def EndsPlaced (engine : SOPEngine) (sop : SOPDefinition) (result : Except Exc SOPRunContext)
    (world : EngineWorld) : Prop :=
  ∀ ctx, result = .ok ctx → Placed sop ctx ∧ engine.StoredAs ctx world

theorem endsPlaced_ok (placed : Placed sop ctx) {world : EngineWorld}
    (stored : engine.StoredAs ctx world) : EndsPlaced engine sop (.ok ctx) world := by
  rintro _ ⟨⟩
  exact ⟨placed, stored⟩

theorem endsPlaced_error (engine : SOPEngine) (sop : SOPDefinition) (exc : Exc)
    (world : EngineWorld) : EndsPlaced engine sop (.error exc) world :=
  nofun

theorem save_saveStep (engine : SOPEngine) (placed : Placed sop ctx) (world : EngineWorld) :
    SaveStep sop world (engine.save ctx world).2 := by
  rcases save_noted engine ctx world with ⟨⟨-, encoded⟩, noted⟩ | ⟨-, same⟩
  · refine .inr ⟨.saved ctx, noted, ?_⟩
    rintro _ ⟨⟩
    exact ⟨placed, encoded⟩
  · exact .inl same

theorem save_steps (engine : SOPEngine) (placed : Placed sop ctx) (origin : EngineWorld) :
    (Coro.sync (engine.save ctx)).Steps (SaveStep sop)
      (fun result world => result = .ok () → engine.StoredAs ctx world) origin := by
  apply Coro.steps_sync
  intro world _
  refine ⟨save_saveStep engine placed world, ?_⟩
  rcases save_cases engine ctx world with ⟨-, saved, returned, stored, -⟩ | ⟨-, exc, refused⟩
  · rw [returned]
    exact fun _ => stored
  · rw [refused]
    rintro ⟨⟩

/-- A context is saved and then returned. -/
theorem saveReturn_steps (engine : SOPEngine) (placed : Placed sop ctx) (origin : EngineWorld) :
    (Coro.sync (engine.save ctx) >>= fun _ => pure ctx).Steps (SaveStep sop)
      (EndsPlaced engine sop) origin := by
  apply Coro.steps_bind (save_steps engine placed origin)
  · exact fun _ _ _ stored => endsPlaced_ok placed (stored rfl)
  · exact fun exc world _ => endsPlaced_error engine sop exc world

theorem runSteps_placed (engine : SOPEngine) (host : Host) (rdf : RdfLib) {rest : List SOPStep}
    {done : ℕ} (left : sop.steps.drop done = rest) (count : ctx.stepResults.length = done)
    (inside : done ≤ sop.steps.length) (index : ctx.currentStepIndex = done ∨
      ctx.currentStepIndex + 1 = done) (running : ctx.state = .running)
    (typed : ctx.wellTyped = true) (origin : EngineWorld) :
    (engine.runSteps host rdf rest done ctx).Steps (SaveStep sop) (EndsPlaced engine sop)
      origin := by
  induction rest generalizing done ctx origin with
  | nil =>
      refine saveReturn_steps engine ⟨?_, ?_, ?_, ?_⟩ origin
      · simpa [count] using inside
      · simpa [count] using index
      · simp
      · exact typed
  | cons step rest ih =>
      have bound : done < sop.steps.length := by
        by_contra beyond
        rw [List.drop_eq_nil_of_le (by omega)] at left
        cases left
      have left' : sop.steps.drop (done + 1) = rest := by
        rw [← List.drop_drop, left]
        rfl
      have begins : (Coro.sync (note (.executing ctx.runId done ctx.data))).Steps (SaveStep sop)
          (fun _ _ => True) origin :=
        Coro.steps_sync fun world _ => ⟨.inr ⟨_, rfl, nofun⟩, trivial⟩
      apply Coro.steps_bind begins
      · intro _ world _ _
        have executes := executeStep_keeps host rdf engine step
          { ctx with currentStepIndex := done }
        have same : ∀ world world' : EngineWorld, recordsOf world' = recordsOf world →
            SaveStep sop world world' :=
          fun _ _ kept => .inl (congrArg (fun records => records.2.2) kept)
        apply Coro.steps_bind (executes.steps same world)
        · rintro ⟨outcome, ctx'⟩ world' - ⟨_, ⟨⟩, stepped⟩
          have counted : ctx'.stepResults.length = done ∧ ctx'.currentStepIndex = done := by
            cases stepped <;> exact ⟨count, rfl⟩
          have typed' : ctx'.wellTyped = true := by cases stepped <;> exact typed
          rcases outcome with exc | result
          · dsimp only
            split
            · apply saveReturn_steps engine _ world'
              refine ⟨?_, .inl ?_, ?_, typed'⟩
              · simpa [SOPRunContext.fail, counted.1] using inside
              · simp [SOPRunContext.fail, counted]
              · simp [SOPRunContext.fail]
            · exact endsPlaced_error engine sop exc world'
          · have placed : Placed sop (ctx'.logResult step result) := by
              refine ⟨?_, .inr ?_, fun _ => ?_, typed'⟩
              · simpa [SOPRunContext.logResult, counted.1] using bound
              · simp [SOPRunContext.logResult, counted]
              · simp [SOPRunContext.logResult, counted]
            apply Coro.steps_bind (save_steps engine placed world')
            · intro _ world'' _ stored
              split
              · exact endsPlaced_ok placed (stored rfl)
              · rename_i goesOn
                apply ih left' _ bound (.inr _) _ _ world''
                · simp [SOPRunContext.logResult, counted.1]
                · simp [SOPRunContext.logResult, counted]
                · cases stepped with
                  | went _ data => exact running
                  | suspended _ data asks => exact absurd rfl goesOn
                · exact typed'
            · exact fun exc world'' _ => endsPlaced_error engine sop exc world''
        · exact fun exc world' _ => endsPlaced_error engine sop exc world'
      · exact fun exc world _ => endsPlaced_error engine sop exc world

theorem run_placed (engine : SOPEngine) (host : Host) (rdf : RdfLib)
    (count : ctx.currentStepIndex = ctx.stepResults.length)
    (inside : ctx.stepResults.length ≤ sop.steps.length) (typed : ctx.wellTyped = true)
    (origin : EngineWorld) :
    (engine.run host rdf sop ctx).Steps (SaveStep sop) (EndsPlaced engine sop) origin := by
  exact @runSteps_placed sop { ctx with state := .running } engine host rdf _ _ rfl count.symm
    (count ▸ inside) (.inl rfl) rfl typed origin

theorem resume_placed (engine : SOPEngine) (host : Host) (rdf : RdfLib) (placed : Placed sop ctx)
    (decision : Str) (reason : Option Str) (approverId : Str) (origin : EngineWorld) :
    (engine.resume host rdf sop ctx decision (.optional reason) (.str approverId)).Steps
      (SaveStep sop) (EndsPlaced engine sop) origin := by
  unfold resume
  split
  · exact endsPlaced_error engine sop _ origin
  · rename_i suspended
    have index := placed.suspended (by simpa using suspended)
    have typed : (ctx.answer decision (.optional reason) (.str approverId)).wellTyped = true := by
      cases reason <;> rfl
    have proceeds : ∀ origin, (engine.proceed host rdf sop
        (ctx.answer decision (.optional reason) (.str approverId)) decision).Steps (SaveStep sop)
          (EndsPlaced engine sop) origin := by
      intro origin
      unfold proceed
      split
      · have rejected : Placed sop { ctx.answer decision (.optional reason) (.str approverId) with
            state := .rejected } :=
          ⟨placed.inside, .inr index, by simp, typed⟩
        exact saveReturn_steps engine rejected origin
      · exact @run_placed sop { ctx.answer decision (.optional reason) (.str approverId) with
          state := .approved, currentStepIndex := ctx.currentStepIndex + 1 } engine host rdf index
          placed.inside typed origin
    dsimp only
    split
    · have recorded := @insertFeedback_keeps _ EngineState.history (fun _ _ => rfl) host
        (ctx.answer decision (.optional reason) (.str approverId)) decision (.optional reason)
        (.str approverId)
      have records : (Coro.sync (insertFeedback host (ctx.answer decision (.optional reason)
          (.str approverId)) decision (.optional reason) (.str approverId))).Steps (SaveStep sop)
            (fun _ _ => True) origin :=
        Coro.steps_sync fun world _ => ⟨.inl (recorded world), trivial⟩
      apply Coro.steps_bind records
      · exact fun _ world _ _ => proceeds world
      · exact fun exc world _ => endsPlaced_error engine sop exc world
    · exact proceeds origin

theorem createRun_placed {data : Dict Str Json} {runId : Option Str} (start : EngineWorld) :
    SaveStep sop start (engine.createRun host sop data runId start).2 ∧
      ∀ ctx middle, engine.createRun host sop data runId start = (.ok ctx, middle) →
        ctx.currentStepIndex = ctx.stepResults.length ∧
        ctx.stepResults.length ≤ sop.steps.length ∧ ctx.wellTyped = true := by
  rcases createRun_cases host engine sop data runId start with
    ⟨ctx, tick, pending, first, none, typed, created⟩
  have placed : Placed sop ctx := by
    refine ⟨by simp [none], .inl (by simp [first, none]), ?_, typed⟩
    simp [pending]
  have saves := save_saveStep engine placed ⟨tick, start.state⟩
  rw [created, Action.bind_apply]
  revert saves
  rcases engine.save ctx ⟨tick, start.state⟩ with ⟨exc | ⟨⟩, final⟩ <;> intro saves
  · exact ⟨saves, nofun⟩
  · refine ⟨saves, ?_⟩
    rintro _ _ ⟨⟩
    simp [first, none, typed]

theorem reached_placed (stores : engine.stateStore = true) {start : EngineWorld}
    {data : Dict Str Json} {runId : Option Str} {world : EngineWorld}
    (reached : engine.Reached host rdf sop start data runId ctx world) :
    Placed sop ctx ∧ engine.StoredAs ctx world := by
  induction reached with
  | @ran created ctx middle world begins returned =>
      have made := (createRun_placed start).2 _ _ begins
      have ended := (run_placed engine host rdf made.1 made.2.1 made.2.2 middle).run.2
      rw [returned] at ended
      exact ended _ rfl
  | @resumed ctx ctx' world world' decision reason approverId before decided returned placed =>
      have ended := (resume_placed engine host rdf placed.1 decision reason approverId world).run.2
      rw [returned] at ended
      exact ended _ rfl
  | @reloaded ctx ctx' world world' before loaded placed =>
      have stored := stored_of_storedAs stores placed.1.typed placed.2
      rcases loadRun_of_stored stores stored loaded with ⟨rfl, rfl⟩
      exact placed

variable (host rdf engine sop)

/--
The contexts that are saved while a run is created, run or resumed, also by a call that does
not return.
-/
inductive SavePoint (start : EngineWorld) (data : Dict Str Json) (runId : Option Str) :
    SOPRunContext → Prop
  | created {saved : SOPRunContext}
      (during : SavedBetween start (engine.createRun host sop data runId start).2 saved) :
      SavePoint start data runId saved
  | ran {created saved : SOPRunContext} {middle : EngineWorld}
      (begins : engine.createRun host sop data runId start = (.ok created, middle))
      (during : SavedBetween middle ((engine.run host rdf sop created).run middle).2 saved) :
      SavePoint start data runId saved
  | resumed {ctx saved : SOPRunContext} {world : EngineWorld} {decision : Str}
      {reason : Option Str} {approverId : Str}
      (before : engine.Reached host rdf sop start data runId ctx world)
      (during : SavedBetween world ((engine.resume host rdf sop ctx decision (.optional reason)
        (.str approverId)).run world).2 saved) :
      SavePoint start data runId saved

/-- Continued so, the run executes the steps of the definition from an index on. -/
def ContinuesAt (runId : Str) (index : ℕ) (body : Coro Exc EngineWorld SOPRunContext)
    (world : EngineWorld) : Prop :=
  ∃ during count, (body.run world).2.state.history = during ++ world.state.history ∧
    (executions runId during).map Prod.fst = List.range' index count ∧
    ∀ ctx, (body.run world).1 = .ok ctx → index < sop.steps.length → 0 < count

/--
Reloaded in a later process and continued, the run executes the steps from the first one
without a result on: by `run`, or by `resume` with an approval when it was suspended.
-/
def RestartsCleanly (saved : SOPRunContext) : Prop :=
  ∀ (world world' : EngineWorld) (ctx : SOPRunContext),
    world.state.stored saved.runId = some saved →
    engine.loadRun host saved.runId world = (.ok (some ctx), world') →
    (ctx.state ≠ .suspended →
      ContinuesAt sop saved.runId saved.stepResults.length (engine.run host rdf sop ctx) world') ∧
    (ctx.state = .suspended → ∀ reason approverId,
      ContinuesAt sop saved.runId saved.stepResults.length
        (engine.resume host rdf sop ctx (py "APPROVED") reason approverId) world')

variable {host rdf engine sop} {saved : SOPRunContext}

theorem save_during (engine : SOPEngine) (ctx : SOPRunContext) (runId : Str) (world : EngineWorld) :
    ∃ during, (engine.save ctx world).2.state.history = during ++ world.state.history ∧
      executions runId during = [] := by
  rcases save_noted engine ctx world with ⟨-, noted⟩ | ⟨-, same⟩
  · exact ⟨[.saved ctx], noted, rfl⟩
  · exact ⟨[], same, rfl⟩

/-- The loop executes its steps one after the other, and the first one in any case. -/
theorem runSteps_executions (engine : SOPEngine) (host : Host) (rdf : RdfLib)
    (rest : List SOPStep) (index : ℕ) (ctx : SOPRunContext) (world : EngineWorld) :
    ∃ during count, ((engine.runSteps host rdf rest index ctx).run world).2.state.history =
        during ++ world.state.history ∧
      (executions ctx.runId during).map Prod.fst = List.range' index count ∧
      (rest ≠ [] → 0 < count) := by
  induction rest generalizing index ctx world with
  | nil =>
      rcases save_during engine { ctx with state := .completed } ctx.runId world with
        ⟨during, history, idle⟩
      refine ⟨during, 0, ?_, by simp [idle], by simp⟩
      rw [runSteps_nil]
      revert history
      rcases engine.save { ctx with state := .completed } world with ⟨exc | ⟨⟩, final⟩ <;>
        exact fun history => history
  | cons step rest ih =>
      rcases executeStep_run host rdf engine step { ctx with currentStepIndex := index }
        (begun index ctx world) with ⟨outcome, ctx', middle, ran, stepped, kept⟩
      have history : middle.state.history =
          .executing ctx.runId index ctx.data :: world.state.history :=
        congrArg (fun records => records.2.2) kept
      have same : ctx'.runId = ctx.runId := by cases stepped <;> rfl
      have once : ∀ {final : EngineWorld}, (∃ during, final.state.history =
            during ++ middle.state.history ∧ executions ctx.runId during = []) →
          ∃ during count, final.state.history = during ++ world.state.history ∧
            (executions ctx.runId during).map Prod.fst = List.range' index count ∧
            (step :: rest ≠ [] → 0 < count) := by
        rintro final ⟨during, noted, idle⟩
        refine ⟨during ++ [.executing ctx.runId index ctx.data], 1, ?_, ?_, by simp⟩
        · rw [noted, history]
          simp
        · simp [executions_append, idle, List.range'_one]
      rcases runSteps_leaves rest ran with ended | ⟨kept, -, ended⟩ | ⟨kept, named, ended⟩ <;>
        rw [ended]
      · exact once ⟨[], rfl, rfl⟩
      · exact once (save_during engine kept ctx.runId middle)
      · rcases save_during engine kept ctx.runId middle with ⟨during, noted, idle⟩
        rcases ih (index + 1) kept (engine.save kept middle).2 with
          ⟨later, count, goesOn, indices, -⟩
        refine ⟨later ++ (during ++ [.executing ctx.runId index ctx.data]), count + 1, ?_, ?_,
          by simp⟩
        · rw [goesOn, noted, history]
          simp
        · rw [named, same] at indices
          simp [executions_append, idle, indices, List.range'_succ]

/-- A run that is continued executes the steps from its index on. -/
theorem run_continuesAt (engine : SOPEngine) (host : Host) (rdf : RdfLib) (sop : SOPDefinition)
    (ctx : SOPRunContext) (world : EngineWorld) :
    ContinuesAt sop ctx.runId ctx.currentStepIndex (engine.run host rdf sop ctx) world := by
  rcases runSteps_executions engine host rdf (sop.steps.drop ctx.currentStepIndex)
    ctx.currentStepIndex { ctx with state := .running } world with
      ⟨during, count, noted, indices, goes⟩
  refine ⟨during, count, noted, indices, ?_⟩
  intro _ _ inside
  apply goes
  simpa using inside

theorem resume_continuesAt (engine : SOPEngine) (host : Host) (rdf : RdfLib) (sop : SOPDefinition)
    (ctx : SOPRunContext) (reason approverId : Json) (world : EngineWorld) :
    ContinuesAt sop ctx.runId (ctx.currentStepIndex + 1)
      (engine.resume host rdf sop ctx (py "APPROVED") reason approverId) world := by
  have stops : ∀ {body : Coro Exc EngineWorld SOPRunContext} {exc : Exc} {final : EngineWorld},
      body.run world = (.error exc, final) → final.state.history = world.state.history →
      ContinuesAt sop ctx.runId (ctx.currentStepIndex + 1) body world := by
    intro body exc final raised same
    refine ⟨[], 0, ?_, rfl, ?_⟩
    · rw [raised]
      exact same
    · rw [raised]
      exact nofun
  have approves : ∀ world' : EngineWorld, world'.state.history = world.state.history →
      ∀ {body : Coro Exc EngineWorld SOPRunContext}, body.run world =
        (engine.proceed host rdf sop (ctx.answer (py "APPROVED") reason approverId)
          (py "APPROVED")).run world' →
      ContinuesAt sop ctx.runId (ctx.currentStepIndex + 1) body world := by
    intro world' same body goesOn
    have other : py "APPROVED" ≠ py "REJECTED" := by decide
    rw [proceed, if_neg other] at goesOn
    rcases run_continuesAt engine host rdf sop { ctx.answer (py "APPROVED") reason approverId with
        state := .approved, currentStepIndex := ctx.currentStepIndex + 1 } world' with
      ⟨during, count, noted, indices, goes⟩
    refine ⟨during, count, ?_, indices, ?_⟩
    · rw [goesOn, ← same]
      exact noted
    · rw [goesOn]
      exact goes
  by_cases suspended : ctx.state = .suspended
  · rcases wired : engine.feedbackDb with _ | _
    · apply approves world rfl
      rw [resume_unrecorded suspended wired]
    · rcases recorded : insertFeedback host (ctx.answer (py "APPROVED") reason approverId)
        (py "APPROVED") reason approverId world with ⟨exc | ⟨⟩, middle⟩
      · have kept := @insertFeedback_keeps _ EngineState.history (fun _ _ => rfl) host
          (ctx.answer (py "APPROVED") reason approverId) (py "APPROVED") reason approverId world
        rw [recorded] at kept
        refine @stops _ exc middle ?_ kept
        rw [resume_recording suspended wired]
        exact Coro.run_bind_of_error ((Coro.run_sync _ _).trans recorded)
      · apply approves middle (insertFeedback_run recorded).2.1
        rw [resume_recording suspended wired]
        exact Coro.run_bind_of_ok ((Coro.run_sync _ _).trans recorded)
  · rcases resume_going suspended host rdf engine sop (py "APPROVED") reason approverId with
      ⟨exc, raises⟩
    rw [raises]
    exact stops rfl rfl

theorem savePoint_placed (stores : engine.stateStore = true) {start : EngineWorld}
    {data : Dict Str Json} {runId : Option Str}
    (point : engine.SavePoint host rdf sop start data runId saved) :
    Placed sop saved ∧ saved.toJson.encodable = true := by
  cases point with
  | created during => exact placed_of_savedBetween (.single (createRun_placed start).1) during
  | ran begins during =>
      have made := (createRun_placed start).2 _ _ begins
      exact placed_of_savedBetween
        (run_placed engine host rdf made.1 made.2.1 made.2.2 _).run.1 during
  | resumed before during =>
      have placed := (reached_placed stores before).1
      exact placed_of_savedBetween (resume_placed engine host rdf placed _ _ _ _).run.1 during

/-- There is a world in which the saved run is loaded as it was. -/
theorem exists_loaded (stores : engine.stateStore = true) (placed : Placed sop saved)
    (encoded : saved.toJson.encodable = true) (host : Host) (start : EngineWorld) :
    ∃ world : EngineWorld, world.state.stored saved.runId = some saved ∧
      engine.loadRun host saved.runId world = (.ok (some saved), world) := by
  let row := RunTable.rowFor saved encoded Dict.empty
  have stored : (start.state.setRuns (Dict.empty.set saved.runId row)).stored saved.runId =
      some saved := by
    simp [EngineState.stored, EngineState.setRuns, row, Dict.get?_set_self,
      RunTable.context?_rowFor, placed.typed]
  refine ⟨⟨start.tick, start.state.setRuns (Dict.empty.set saved.runId row)⟩, stored, ?_⟩
  have named : encodable saved.runId = true := by
    simp only [SOPRunContext.toJson, Json.encodable, Json.encodableFields, Bool.and_eq_true]
      at encoded
    exact encoded.1.2
  simp only [loadRun, stores, if_true, loadState, Action.bind_apply, Timed.view_apply,
    ofExcept_apply, RunTable.loadState_str, named]
  exact congrArg (fun loaded => (Except.ok loaded, _)) stored

theorem range'_inj {start start' count count' : ℕ}
    (same : List.range' start count = List.range' start' count') :
    count = count' ∧ (0 < count → start = start') := by
  have lengths := congrArg List.length same
  simp only [List.length_range'] at lengths
  subst lengths
  refine ⟨rfl, fun positive => ?_⟩
  have heads := congrArg List.head? same
  simpa [List.head?_range', Nat.ne_of_gt positive] using heads

/-- A save that is not suspended restarts cleanly only with the index of the next step. -/
theorem index_of_restartsCleanly (stores : engine.stateStore = true) (placed : Placed sop saved)
    (encoded : saved.toJson.encodable = true) (goesOn : saved.state ≠ .suspended)
    (restarts : engine.RestartsCleanly host rdf sop saved) (start : EngineWorld) :
    saved.currentStepIndex = saved.stepResults.length := by
  by_contra differ
  rcases exists_loaded stores placed encoded host start with ⟨world, stored, loaded⟩
  rcases (restarts world world saved stored loaded).1 goesOn with ⟨during, count, noted, indices, -⟩
  rcases runSteps_executions engine host rdf (sop.steps.drop saved.currentStepIndex)
    saved.currentStepIndex { saved with state := .running } world with
    ⟨during', count', noted', indices', goes⟩
  have same : during' = during := List.append_cancel_right (noted'.symm.trans noted)
  subst same
  have left : sop.steps.drop saved.currentStepIndex ≠ [] := by
    have inside := placed.inside
    have index := placed.index
    simp only [ne_eq, List.drop_eq_nil_iff, not_le]
    omega
  exact differ ((range'_inj (indices'.symm.trans indices)).2 (goes left))

/--
A run restarts cleanly after a save exactly when it was saved as suspended, or with an index
that is the number of its results.
-/
theorem restartsCleanly_iff (stores : engine.stateStore = true) {start : EngineWorld}
    {data : Dict Str Json} {runId : Option Str}
    (point : engine.SavePoint host rdf sop start data runId saved) :
    engine.RestartsCleanly host rdf sop saved ↔
      saved.state = .suspended ∨ saved.currentStepIndex = saved.stepResults.length := by
  rcases savePoint_placed stores point with ⟨placed, encoded⟩
  constructor
  · intro restarts
    by_cases suspended : saved.state = .suspended
    · exact .inl suspended
    · exact .inr (index_of_restartsCleanly stores placed encoded suspended restarts start)
  · intro clean world world' ctx stored loaded
    rcases loadRun_of_stored stores stored loaded with ⟨rfl, rfl⟩
    constructor
    · intro goesOn
      rcases clean with suspended | index
      · exact absurd suspended goesOn
      · rw [← index]
        exact run_continuesAt engine host rdf sop ctx world'
    · intro suspended reason approverId
      rw [← placed.suspended suspended]
      exact resume_continuesAt engine host rdf sop ctx reason approverId world'

end SOPEngine

namespace Sample

def announcement : SOPDefinition := ⟨py "onboarding", [sopStep (py "announce") .notify]⟩

/-- The context of a save. -/
def savedContext : EngineEvent → Option SOPRunContext
  | .saved ctx => some ctx
  | .executing _ _ _ => none

/-- The save after the only step of a run. -/
theorem exists_repeating_save : ∃ saved,
    engine.SavePoint steadyHost rdf announcement newWorld Dict.empty (some (py "run-1")) saved ∧
    saved.state = .running ∧ saved.currentStepIndex = 0 ∧ saved.stepResults.length = 1 := by
  let create := engine.createRun steadyHost announcement Dict.empty (some (py "run-1"))
  let repeats (created : SOPRunContext) (middle : EngineWorld) : Bool :=
    let history := ((engine.run steadyHost rdf announcement created).run middle).2.state.history
    middle.state.history.length = 1 && history.length = 4 && history[1]?.any fun event =>
      (savedContext event).any fun saved => saved.state = .running &&
        saved.currentStepIndex = 0 && saved.stepResults.length = 1
  have saves : returnedWith repeats (create newWorld) = true := by
    decide
  rcases returnedWith_iff.mp saves with ⟨created, middle, begins, holds⟩
  rcases SOPEngine.run_continuesAt engine steadyHost rdf announcement created middle with
    ⟨during, -, noted, -⟩
  simp only [repeats, noted, Bool.and_eq_true, decide_eq_true_eq, List.length_append,
    Option.any_eq_true] at holds
  rcases holds with ⟨⟨short, four⟩, event, second, saved, stored, ⟨running, index⟩, count⟩
  rw [List.getElem?_append_left (by omega)] at second
  have inside : .saved saved ∈ during := by
    cases event with
    | saved ctx =>
        rw [savedContext, Option.some.injEq] at stored
        exact stored ▸ List.mem_of_getElem? second
    | executing runId index data => cases stored
  exact ⟨saved, .ran begins ⟨during, noted, inside⟩, running, index, count⟩

/-- The run cannot be restarted cleanly after that save. -/
theorem running_save_repeats : ∃ saved,
    engine.SavePoint steadyHost rdf announcement newWorld Dict.empty (some (py "run-1")) saved ∧
    ¬ engine.RestartsCleanly steadyHost rdf announcement saved := by
  rcases exists_repeating_save with ⟨saved, point, running, index, count⟩
  refine ⟨saved, point, ?_⟩
  rw [SOPEngine.restartsCleanly_iff rfl point]
  simp [running, index, count]

/-- The completed step is executed again. -/
theorem finished_step_repeats :
    ¬ ∀ (host : Host) (rdf : RdfLib) (engine : SOPEngine) (sop : SOPDefinition)
      (start : EngineWorld) (data : Dict Str Json) (runId : Option Str) (saved : SOPRunContext),
      engine.stateStore = true → engine.SavePoint host rdf sop start data runId saved →
      engine.RestartsCleanly host rdf sop saved := by
  intro claim
  rcases exists_repeating_save with ⟨saved, point, running, index, count⟩
  rcases SOPEngine.savePoint_placed rfl point with ⟨placed, encoded⟩
  have next := SOPEngine.index_of_restartsCleanly rfl placed encoded (by simp [running])
    (claim _ _ _ _ _ _ _ saved rfl point) newWorld
  rw [index, count] at next
  cases next

end Sample

end AgentOS
