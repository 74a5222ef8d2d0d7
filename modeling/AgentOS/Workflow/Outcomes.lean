import AgentOS.Workflow.RunFailure
import AgentOS.Workflow.StepWrites
import Mathlib.Data.List.Forall2

/-!
# Outcomes of a run

A run is created, run once and resumed any number of times. In every state that it reaches
its results are those of the first steps of the definition, one for each; its final states
mean what they say; the gate has completed one write for each `governed_write` step among
them; and the stored context is the one that was returned.
-/

namespace AgentOS

open Python Cooperative

/-- The executions of the steps of a run, with their indices and data, in order. -/
def executions (runId : Str) (history : List EngineEvent) : List (ℕ × Dict Str Json) :=
  history.reverse.filterMap fun event =>
    match event with
    | .executing other index data => if other = runId then some (index, data) else none
    | .saved _ => none

@[simp]
theorem executions_nil (runId : Str) : executions runId [] = [] := rfl

theorem executions_append (runId : Str) (newer older : List EngineEvent) :
    executions runId (newer ++ older) = executions runId older ++ executions runId newer := by
  simp [executions]

@[simp]
theorem executions_saved (runId : Str) (ctx : SOPRunContext) (history : List EngineEvent) :
    executions runId (.saved ctx :: history) = executions runId history := by
  simp [executions]

@[simp]
theorem executions_executing (runId : Str) (index : ℕ) (data : Dict Str Json)
    (history : List EngineEvent) :
    executions runId (.executing runId index data :: history) =
      executions runId history ++ [(index, data)] := by
  simp [executions]

/-- The entry of a completed step. -/
def IsEntry (step : SOPStep) (entry : Dict Str Json) : Prop :=
  ∃ result, entry = stepEntry step result

namespace SOPEngine

variable (host : Host) (rdf : RdfLib) (engine : SOPEngine) (sop : SOPDefinition)
  (start : EngineWorld)

/-- The first steps with the data on which they were executed. -/
def completions (done : ℕ) (runId : Str) (history : List EngineEvent) :
    List (SOPStep × Dict Str Json) :=
  (sop.steps.take done).zip ((executions runId history).map Prod.snd)

/--
Since the start the run has begun to execute so many steps, in the order of the definition,
and completed so many of them, each with its write.
-/
def Logged (runId : Str) (done begun : ℕ) (world : EngineWorld) : Prop :=
  ∃ during, world.state.history = during ++ start.state.history ∧
    (executions runId during).map Prod.fst = List.range begun ∧
    (∀ pair ∈ completions sop done runId during, pair.1.WritesOnce pair.2) ∧
    written world.state = ((completions sop done runId during).flatMap fun pair =>
      pair.1.writes pair.2).reverse ++ written start.state

/-- The run is in progress, with so many steps completed. -/
structure Underway (done : ℕ) (ctx : SOPRunContext) (world : EngineWorld) : Prop where
  inside : done ≤ sop.steps.length
  results : List.Forall₂ IsEntry (sop.steps.take done) ctx.stepResults
  typed : ctx.wellTyped = true
  logged : Logged sop start ctx.runId done done world

/-- What the context says is what has happened. -/
structure Honest (ctx : SOPRunContext) (world : EngineWorld) : Prop where
  inside : ctx.stepResults.length ≤ sop.steps.length
  results : List.Forall₂ IsEntry (sop.steps.take ctx.stepResults.length) ctx.stepResults
  ended : ctx.state = .completed ∨ ctx.state = .failed ∨ ctx.state = .rejected ∨
    ctx.state = .suspended
  completed : ctx.state = .completed → ctx.stepResults.length = sop.steps.length
  failed : ctx.state = .failed → ctx.errors ≠ [] ∧
    ctx.currentStepIndex = ctx.stepResults.length ∧ ctx.stepResults.length < sop.steps.length
  asked : ctx.state = .suspended ∨ ctx.state = .rejected →
    ctx.currentStepIndex + 1 = ctx.stepResults.length ∧
      ∃ step, sop.steps[ctx.currentStepIndex]? = some step ∧ step.type = .humanApproval
  logged : Logged sop start ctx.runId ctx.stepResults.length
    (if ctx.state = .failed then ctx.stepResults.length + 1 else ctx.stepResults.length) world
  stored : world.state.stored ctx.runId = some ctx
  typed : ctx.wellTyped = true

/-- The contexts that a run, which is created and run at the start, returns or reloads. -/
inductive Reached (data : Dict Str Json) (runId : Option Str) :
    SOPRunContext → EngineWorld → Prop
  | ran {created ctx : SOPRunContext} {middle world : EngineWorld}
      (begins : engine.createRun host sop data runId start = (.ok created, middle))
      (returned : (engine.run host rdf sop created).run middle = (.ok ctx, world)) :
      Reached data runId ctx world
  | resumed {ctx ctx' : SOPRunContext} {world world' : EngineWorld} {decision : Str}
      {reason : Option Str} {approverId : Str} (before : Reached data runId ctx world)
      (decided : isDecision decision = true)
      (returned : (engine.resume host rdf sop ctx decision (.optional reason)
        (.str approverId)).run world = (.ok ctx', world')) :
      Reached data runId ctx' world'
  | reloaded {ctx ctx' : SOPRunContext} {world world' : EngineWorld}
      (before : Reached data runId ctx world)
      (loaded : engine.loadRun host ctx.runId world = (.ok (some ctx'), world')) :
      Reached data runId ctx' world'

variable {host rdf engine sop start} {runId : Str} {done begun : ℕ} {world middle : EngineWorld}
  {ctx ctx' : SOPRunContext} {step : SOPStep}

theorem length_executions {during : List EngineEvent} (inside : done ≤ sop.steps.length)
    (indices : (executions runId during).map Prod.fst = List.range done) :
    (sop.steps.take done).length = ((executions runId during).map Prod.snd).length := by
  have count := congrArg List.length indices
  simp only [List.length_map, List.length_range] at count
  simp [count, inside]

theorem completions_begun {during : List EngineEvent} (inside : done ≤ sop.steps.length)
    (indices : (executions runId during).map Prod.fst = List.range done) (data : Dict Str Json) :
    completions sop done runId (.executing runId done data :: during) =
      completions sop done runId during := by
  have zipped := @List.zip_append _ _ _ [] _ [data] (length_executions inside indices)
  simpa [completions] using zipped

theorem completions_completed {during : List EngineEvent} (inside : done ≤ sop.steps.length)
    (indices : (executions runId during).map Prod.fst = List.range done) (data : Dict Str Json)
    (present : sop.steps[done]? = some step) :
    completions sop (done + 1) runId (.executing runId done data :: during) =
      completions sop done runId during ++ [(step, data)] := by
  have zipped := @List.zip_append _ _ _ [step] _ [data] (length_executions inside indices)
  simpa [completions, List.take_add_one, present] using zipped

theorem Logged.completed (logged : Logged sop start runId done done world)
    (present : sop.steps[done]? = some step) {data : Dict Str Json}
    (history : middle.state.history = .executing runId done data :: world.state.history)
    (once : step.WritesOnce data)
    (wrote : written middle.state = step.writes data ++ written world.state) :
    Logged sop start runId (done + 1) (done + 1) middle := by
  rcases logged with ⟨during, since, indices, each, writes⟩
  have inside : done ≤ sop.steps.length := by
    have bound := (List.getElem?_eq_some_iff.mp present).1
    omega
  have appended := completions_completed inside indices data present
  refine ⟨.executing runId done data :: during, ?_, ?_, ?_, ?_⟩
  · rw [history, since, List.cons_append]
  · simp [indices, List.range_succ]
  · rw [appended]
    intro pair mem
    rcases List.mem_append.mp mem with mem | mem
    · exact each pair mem
    · rw [List.mem_singleton.mp mem]
      exact once
  · have short : (step.writes data).reverse = step.writes data := by
      unfold SOPStep.WritesOnce at once
      rcases shape : step.writes data with _ | ⟨first, _ | ⟨second, rest⟩⟩
      · rfl
      · rfl
      · rw [shape] at once
        split at once <;> simp at once
    rw [wrote, writes, appended]
    simp [short]

theorem Logged.failed (logged : Logged sop start runId done done world)
    (inside : done ≤ sop.steps.length) {data : Dict Str Json}
    (history : middle.state.history = .executing runId done data :: world.state.history)
    (wrote : written middle.state = written world.state) :
    Logged sop start runId done (done + 1) middle := by
  rcases logged with ⟨during, since, indices, each, writes⟩
  have same := completions_begun inside indices data
  refine ⟨.executing runId done data :: during, ?_, ?_, ?_, ?_⟩
  · rw [history, since, List.cons_append]
  · simp [indices, List.range_succ]
  · rw [same]
    exact each
  · rw [wrote, writes, same]

/-- A save does not count. -/
theorem Logged.saved (logged : Logged sop start runId done begun world)
    (history : middle.state.history = .saved ctx :: world.state.history)
    (gate : middle.state.gate = world.state.gate) : Logged sop start runId done begun middle := by
  rcases logged with ⟨during, since, indices, each, writes⟩
  refine ⟨.saved ctx :: during, ?_, ?_, ?_, ?_⟩
  · rw [history, since, List.cons_append]
  · simpa using indices
  · simpa [completions] using each
  · have same : written middle.state = written world.state := by simp [written, gate]
    rw [same]
    simpa [completions] using writes

theorem Underway.length (underway : Underway sop start done ctx world) :
    ctx.stepResults.length = done := by
  have same := underway.results.length_eq
  have inside := underway.inside
  rw [List.length_take] at same
  omega

/-- The results after one more step. -/
theorem results_logResult (results : List.Forall₂ IsEntry (sop.steps.take done) ctx.stepResults)
    (present : sop.steps[done]? = some step) (result : Json) :
    List.Forall₂ IsEntry (sop.steps.take (done + 1)) (ctx.logResult step result).stepResults := by
  rw [List.take_add_one, present]
  apply List.rel_append results
  exact .cons ⟨result, rfl⟩ .nil

theorem honest_completed (stores : engine.stateStore = true)
    (underway : Underway sop start done ctx world) (finished : sop.steps.drop done = [])
    {final : EngineWorld}
    (saved : engine.save { ctx with state := .completed } world = (.ok (), final)) :
    Honest sop start { ctx with state := .completed } final := by
  have count := underway.length
  have inside := underway.inside
  have ended := List.drop_eq_nil_iff.mp finished
  rcases save_ok stores saved underway.typed with ⟨stored, history, gate, -⟩
  refine ⟨?_, ?_, .inl rfl, ?_, ?_, ?_, ?_, stored, underway.typed⟩
  · simpa [count] using inside
  · simpa [count] using underway.results
  · intro _
    simp only [count]
    omega
  · intro failed
    simp at failed
  · intro asked
    simp at asked
  · simpa [count] using underway.logged.saved history gate

theorem honest_failed (stores : engine.stateStore = true)
    (underway : Underway sop start done ctx world) (present : sop.steps[done]? = some step)
    {data : Dict Str Json} {message : Str} {final : EngineWorld}
    (logged : Logged sop start ctx.runId done (done + 1) middle)
    (saved : engine.save ({ ctx with currentStepIndex := done, data }.fail message) middle =
      (.ok (), final)) :
    Honest sop start ({ ctx with currentStepIndex := done, data }.fail message) final := by
  have count := underway.length
  have bound := (List.getElem?_eq_some_iff.mp present).1
  rcases save_ok stores saved underway.typed with ⟨stored, history, gate, -⟩
  refine ⟨?_, ?_, .inr (.inl rfl), ?_, ?_, ?_, ?_, stored, underway.typed⟩
  · simpa [SOPRunContext.fail, count] using underway.inside
  · simpa [SOPRunContext.fail, count] using underway.results
  · intro completed
    simp [SOPRunContext.fail] at completed
  · intro _
    simp [SOPRunContext.fail, count, bound]
  · intro asked
    simp [SOPRunContext.fail] at asked
  · simpa [SOPRunContext.fail, count] using logged.saved history gate

theorem honest_suspended (stores : engine.stateStore = true)
    (underway : Underway sop start done ctx world) (present : sop.steps[done]? = some step)
    (asks : step.type = .humanApproval) {data : Dict Str Json} {result : Json}
    {final : EngineWorld} (logged : Logged sop start ctx.runId (done + 1) (done + 1) middle)
    (saved : engine.save (({ ctx with currentStepIndex := done, data }.suspend step).logResult
      step result) middle = (.ok (), final)) :
    Honest sop start (({ ctx with currentStepIndex := done, data }.suspend step).logResult
      step result) final := by
  have count := underway.length
  have bound := (List.getElem?_eq_some_iff.mp present).1
  have results := results_logResult underway.results present result
  rcases save_ok stores saved underway.typed with ⟨stored, history, gate, -⟩
  refine ⟨?_, ?_, .inr (.inr (.inr rfl)), ?_, ?_, ?_, ?_, stored, underway.typed⟩
  · simpa [SOPRunContext.logResult, SOPRunContext.suspend, count] using bound
  · simpa [SOPRunContext.logResult, SOPRunContext.suspend, count] using results
  · intro completed
    simp [SOPRunContext.logResult, SOPRunContext.suspend] at completed
  · intro failed
    simp [SOPRunContext.logResult, SOPRunContext.suspend] at failed
  · intro _
    simp [SOPRunContext.logResult, SOPRunContext.suspend, count, present, asks]
  · simpa [SOPRunContext.logResult, SOPRunContext.suspend, count] using logged.saved history gate

/-- The loop, from the step on that comes next, ends honestly when it returns. -/
theorem runSteps_honest {gate : WriteGate} (wired : engine.writeGate = some gate)
    (stores : engine.stateStore = true) {rest : List SOPStep} {final : EngineWorld}
    (left : sop.steps.drop done = rest) (underway : Underway sop start done ctx world)
    (running : ctx.state = .running)
    (returned : (engine.runSteps host rdf rest done ctx).run world = (.ok ctx', final)) :
    Honest sop start ctx' final := by
  induction rest generalizing done ctx world with
  | nil =>
      rw [runSteps_nil] at returned
      rcases saved : engine.save { ctx with state := .completed } world with ⟨exc | ⟨⟩, after⟩ <;>
        rw [saved] at returned <;> cases returned
      exact honest_completed stores underway left saved
  | cons step rest ih =>
      have present : sop.steps[done]? = some step := by
        have first := congrArg List.head? left
        simpa using first
      have left' : sop.steps.drop (done + 1) = rest := by
        rw [← List.drop_drop, left]
        rfl
      have history : ∀ {middle}, recordsOf middle = recordsOf (begun done ctx world) →
          middle.state.history = .executing ctx.runId done ctx.data :: world.state.history :=
        fun kept => congrArg (fun records => records.2.2) kept
      rcases stepReturns_of_returned returned with ⟨ran, saved, rfl⟩ |
        ⟨ran, suspends, saved, rfl⟩ | @⟨result, _, _, last, ran, goesOn, saved, returned⟩
      case failed =>
        rcases executeStep_stepped ran with ⟨stepped, kept⟩
        have wrote := executeStep_written wired ran
        have logged := underway.logged.failed underway.inside (history kept) wrote
        cases stepped with
        | went _ data => exact honest_failed stores underway present logged saved
      case waits =>
        rcases executeStep_stepped ran with ⟨stepped, kept⟩
        have wrote := executeStep_written wired ran
        have logged := underway.logged.completed present (history kept) wrote.1 wrote.2
        cases stepped with
        | suspended _ data asks => exact honest_suspended stores underway present asks logged saved
        | went _ data => cases running.symm.trans suspends
      case goesOn =>
        rcases executeStep_stepped ran with ⟨stepped, kept⟩
        have wrote := executeStep_written wired ran
        have logged := underway.logged.completed present (history kept) wrote.1 wrote.2
        cases stepped with
        | suspended _ data asks => exact absurd rfl goesOn
        | went _ data =>
            rcases save_ok stores saved underway.typed with ⟨-, noted, gate, -⟩
            have next : Underway sop start (done + 1)
                (SOPRunContext.logResult step result { ctx with currentStepIndex := done, data })
                last :=
              ⟨(List.getElem?_eq_some_iff.mp present).1,
                results_logResult underway.results present result, underway.typed,
                logged.saved noted gate⟩
            exact ih left' next running returned

/-- A run continues honestly from where it is. -/
theorem run_honest {gate : WriteGate} (wired : engine.writeGate = some gate)
    (stores : engine.stateStore = true) {final : EngineWorld}
    (underway : Underway sop start ctx.currentStepIndex ctx world)
    (returned : (engine.run host rdf sop ctx).run world = (.ok ctx', final)) :
    Honest sop start ctx' final := by
  have running : Underway sop start ctx.currentStepIndex { ctx with state := .running } world :=
    ⟨underway.inside, underway.results, underway.typed, underway.logged⟩
  exact runSteps_honest wired stores rfl running rfl returned

theorem createRun_underway (stores : engine.stateStore = true) {data : Dict Str Json}
    {runId : Option Str}
    (created : engine.createRun host sop data runId start = (.ok ctx, middle)) :
    Underway sop start ctx.currentStepIndex ctx middle := by
  rcases createRun_cases host engine sop data runId start with
    ⟨ctx', tick, -, first, none, typed, shape⟩
  rw [shape] at created
  rcases Action.bind_eq_ok_iff.mp created with ⟨⟨⟩, saved, stored, same⟩
  cases same
  rcases save_ok stores stored typed with ⟨-, history, gate, -⟩
  rw [first]
  refine ⟨Nat.zero_le _, ?_, typed, [.saved ctx], history, ?_, ?_, ?_⟩
  · simp [none]
  · simp
  · simp [completions]
  · simp [completions, written, gate]

/-- What a decision that was recorded leaves behind. -/
theorem insertFeedback_run {decision : Str} {reason approverId : Json}
    (recorded : insertFeedback host ctx decision reason approverId world = (.ok (), middle)) :
    middle.state.runs = world.state.runs ∧ middle.state.history = world.state.history ∧
      middle.state.gate = world.state.gate := by
  have kept := @insertFeedback_keeps _
    (fun engine => (engine.runs, engine.history, engine.gate)) (fun _ _ => rfl) host ctx decision
    reason approverId world
  rw [recorded] at kept
  simpa using kept

theorem Logged.congr {world' : EngineWorld} (logged : Logged sop start runId done begun world)
    (history : world'.state.history = world.state.history)
    (gate : world'.state.gate = world.state.gate) : Logged sop start runId done begun world' := by
  rcases logged with ⟨during, since, indices, each, writes⟩
  refine ⟨during, history.trans since, indices, each, ?_⟩
  rw [← writes, written, written, gate]

theorem proceed_honest {gate : WriteGate} (wired : engine.writeGate = some gate)
    (stores : engine.stateStore = true) {final : EngineWorld} {decision : Str}
    (honest : Honest sop start ctx world) (suspended : ctx.state = .suspended)
    (reason : Option Str) (approverId : Str) (same : middle.state.history = world.state.history)
    (gated : middle.state.gate = world.state.gate)
    (returned : (engine.proceed host rdf sop (ctx.answer decision (.optional reason)
      (.str approverId)) decision).run middle = (.ok ctx', final)) :
    Honest sop start ctx' final := by
  have typed : (ctx.answer decision (.optional reason) (.str approverId)).wellTyped = true := by
    cases reason <;> rfl
  have count := (honest.asked (.inl suspended)).1
  have logged := honest.logged
  rw [if_neg (by simp [suspended])] at logged
  have logged := logged.congr same gated
  unfold proceed at returned
  split at returned
  · rw [Coro.run_bind, Coro.run_sync] at returned
    rcases saved : engine.save { ctx.answer decision (.optional reason) (.str approverId) with
      state := .rejected } middle with ⟨exc | ⟨⟩, last⟩ <;> rw [saved] at returned <;>
      cases returned
    rcases save_ok stores saved typed with ⟨stored, history, gate, -⟩
    refine ⟨honest.inside, honest.results, .inr (.inr (.inl rfl)), ?_, ?_, ?_, ?_, stored, typed⟩
    · intro completed
      simp at completed
    · intro failed
      simp at failed
    · exact fun _ => honest.asked (.inl suspended)
    · simpa [SOPRunContext.answer] using logged.saved history gate
  · refine run_honest wired stores ?_ returned
    dsimp only [SOPRunContext.answer]
    rw [count]
    exact ⟨honest.inside, honest.results, typed, logged⟩

/-- A stored context with the declared types is loaded as it is. -/
theorem loadRun_of_stored {runId : Str} {world world' : EngineWorld} {ctx' : SOPRunContext}
    (stores : engine.stateStore = true) (stored : world.state.stored runId = some ctx)
    (loaded : engine.loadRun host runId world = (.ok (some ctx'), world')) :
    ctx' = ctx ∧ world' = world := by
  simp only [loadRun, stores, if_true, loadState, Action.bind_apply, Timed.view_apply,
    ofExcept_apply, RunTable.loadState_str] at loaded
  split at loaded
  · have found : world.state.stored runId = some ctx' ∧ world = world' := by
      simpa [EngineState.stored] using loaded
    have same := stored.symm.trans found.1
    exact ⟨(Option.some.inj same).symm, found.2.symm⟩
  · simp at loaded

/-- In every state that it reaches a run is honest. -/
theorem reached_honest {gate : WriteGate} (wired : engine.writeGate = some gate)
    (stores : engine.stateStore = true) {data : Dict Str Json} {runId : Option Str}
    (reached : engine.Reached host rdf sop start data runId ctx world) :
    Honest sop start ctx world := by
  induction reached with
  | ran begins returned => exact run_honest wired stores (createRun_underway stores begins) returned
  | @resumed ctx ctx' world world' decision reason approverId before decided returned honest =>
      unfold resume at returned
      split at returned
      · cases returned
      · rename_i suspended
        have suspended : ctx.state = .suspended := by simpa using suspended
        dsimp only at returned
        split at returned
        · rcases Coro.run_bind_eq_ok_iff.mp returned with ⟨⟨⟩, middle, recorded, proceeded⟩
          rw [Coro.run_sync] at recorded
          rcases insertFeedback_run recorded with ⟨-, history, gate⟩
          exact proceed_honest wired stores honest suspended reason approverId history gate
            proceeded
        · exact proceed_honest wired stores honest suspended reason approverId rfl rfl returned
  | @reloaded ctx ctx' world world' before loaded honest =>
      rcases loadRun_of_stored stores honest.stored loaded with ⟨rfl, rfl⟩
      exact honest

end SOPEngine

namespace Sample

/-- The data are validated, approved and then written. -/
def onboarding : SOPDefinition :=
  ⟨py "onboarding", [sopStep (py "validate") .validate, sopStep (py "approve") .humanApproval,
    sopStep (py "write") .action]⟩

/-- The sample run is suspended, approved and completed. -/
theorem onboarding_honest : ∃ ctx world, ctx.state = .completed ∧
    SOPEngine.Honest onboarding newWorld ctx world := by
  let asset : Dict Str Json := Dict.ofEntries [(py "asset", .str data)]
  let create := engine.createRun steadyHost onboarding asset (some (py "run-1"))
  let approve (ctx : SOPRunContext) :=
    engine.resume steadyHost rdf onboarding ctx (py "APPROVED") (.optional none) (.str (py "boss"))
  have completes : returnedWith (fun created middle =>
      returnedWith (fun ctx world =>
        returnedWith (fun ctx' _ => ctx'.state = .completed) ((approve ctx).run world))
      ((engine.run steadyHost rdf onboarding created).run middle)) (create newWorld) = true := by
    decide +kernel
  rcases returnedWith_iff.mp completes with ⟨created, middle, begins, runs⟩
  rcases returnedWith_iff.mp runs with ⟨ctx, world, returned, resumes⟩
  rcases returnedWith_iff.mp resumes with ⟨ctx', world', resumed, completed⟩
  exact ⟨ctx', world', by simpa using completed, SOPEngine.reached_honest rfl rfl
    (.resumed (.ran begins returned) rfl resumed)⟩

end Sample

end AgentOS
