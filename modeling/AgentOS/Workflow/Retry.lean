import AgentOS.Cooperative.Stopping
import AgentOS.Workflow.Continuation

/-!
# Retrying a resume

A decision is committed before the run is carried on. When the call stops in between, the run
is still stored as SUSPENDED, and the row of the decision refuses every further one.
-/

namespace AgentOS

open Python Cooperative

namespace SOPEngine

variable {host : Host} {rdf : RdfLib} {engine : SOPEngine} {sop : SOPDefinition}
  {ctx : SOPRunContext} {decision : Str} {reason approverId : Json} {world : EngineWorld}

/-- Once there is a decision on the run no other is accepted. -/
theorem not_accepted_of_decided (records : engine.feedbackDb = true)
    (decided : FeedbackTable.rowsOf ctx.runId world.state.feedback ≠ []) :
    ¬ Accepted host engine ctx decision reason approverId world := by
  intro accepted
  rcases accepted records with ⟨recorded, inserted⟩
  exact decided (insertFeedback_recorded inserted).1

/-- The call takes the run further: a step is executed, or a context is saved. -/
def CarriesOn (host : Host) (rdf : RdfLib) (engine : SOPEngine) (sop : SOPDefinition)
    (ctx : SOPRunContext) (decision : Str) (reason approverId : Json) (world : EngineWorld) :
      Prop :=
  ((engine.resume host rdf sop ctx decision reason approverId).run world).2.state.history ≠
    world.state.history

/-- A run with a decision can no longer be carried on. -/
theorem not_carriesOn_of_decided (rdf : RdfLib) (sop : SOPDefinition) (decision : Str)
    (reason approverId : Json) (records : engine.feedbackDb = true)
    (suspended : ctx.state = .suspended)
    (decided : FeedbackTable.rowsOf ctx.runId world.state.feedback ≠ []) :
    ¬ CarriesOn host rdf engine sop ctx decision reason approverId world := by
  intro carriesOn
  have refused : ¬ Accepted host engine ctx decision reason approverId world :=
    not_accepted_of_decided records decided
  rcases resume_of_refused rdf sop suspended refused with ⟨exc, final, raised, same⟩
  apply carriesOn
  rw [raised]
  exact congrArg EngineState.history same

/-- A call that is refused stops with the databases as they were. -/
theorem stopsIn_of_refused {stopped : EngineWorld} (records : engine.feedbackDb = true)
    (suspended : ctx.state = .suspended)
    (refused : ¬ Accepted host engine ctx decision reason approverId world)
    (stops : (engine.resume host rdf sop ctx decision reason approverId).StopsIn world stopped) :
    stopped.state = world.state := by
  rcases inserted : insertFeedback host (ctx.answer decision reason approverId) decision reason
    approverId world with ⟨exc | ⟨⟩, final⟩
  · have same := insertFeedback_error inserted
    rw [resume_recording suspended records, Coro.stopsIn_sync_bind_iff, inserted] at stops
    rcases stops with rfl | rfl
    · rfl
    · exact same
  · exact absurd (fun _ => ⟨final, inserted⟩) refused

/--
Wherever the call is left after it first wrote to a database: as long as the run is stored as
SUSPENDED there, an answer with the same decision carries it on in a later process.
-/
def Retryable (host : Host) (rdf : RdfLib) (engine : SOPEngine) (sop : SOPDefinition)
    (ctx : SOPRunContext) (decision : Str) (reason approverId : Json) (world : EngineWorld) :
      Prop :=
  ∀ stopped : EngineWorld,
    (engine.resume host rdf sop ctx decision reason approverId).StopsIn world stopped →
    (stopped.state.feedback ≠ world.state.feedback ∨ stopped.state.runs ≠ world.state.runs) →
    ∀ left, stopped.state.stored ctx.runId = some left → left.state = .suspended →
    ∀ restarted : EngineWorld, restarted.state.runs = stopped.state.runs →
      restarted.state.feedback = stopped.state.feedback →
      ∃ reason' approverId',
        CarriesOn host rdf engine sop left decision reason' approverId' restarted

/-- Once the decision is recorded the call may be left before anything else is done. -/
theorem proceed_stopsIn_start (engine : SOPEngine) (host : Host) (rdf : RdfLib)
    (sop : SOPDefinition) (ctx : SOPRunContext) (decision : Str) (world : EngineWorld) :
    (engine.proceed host rdf sop ctx decision).StopsIn world world := by
  unfold proceed run
  split
  · exact .inl rfl
  · rcases sop.steps.drop (ctx.currentStepIndex + 1) with _ | ⟨step, rest⟩
    · exact .inl rfl
    · exact .inl rfl

/-- A call can be left with the decision recorded and the run as it was. -/
theorem stopsIn_recorded (rdf : RdfLib) (sop : SOPDefinition) (records : engine.feedbackDb = true)
    (suspended : ctx.state = .suspended) {recorded : EngineWorld}
    (inserted : insertFeedback host (ctx.answer decision reason approverId) decision reason
      approverId world = (.ok (), recorded)) :
    (engine.resume host rdf sop ctx decision reason approverId).StopsIn world recorded := by
  rw [resume_recording suspended records, Coro.stopsIn_sync_bind_iff, inserted]
  right
  exact proceed_stopsIn_start engine host rdf sop _ decision recorded

theorem not_retryable_of_accepted (rdf : RdfLib) (sop : SOPDefinition)
    (records : engine.feedbackDb = true) (suspended : ctx.state = .suspended)
    (stored : world.state.stored ctx.runId = some ctx)
    (accepted : Accepted host engine ctx decision reason approverId world) :
    ¬ Retryable host rdf engine sop ctx decision reason approverId world := by
  intro retryable
  rcases accepted records with ⟨recorded, inserted⟩
  rcases insertFeedback_recorded inserted with ⟨fresh, ⟨record, -, row⟩, -, -, runs, -⟩
  have decided : FeedbackTable.rowsOf ctx.runId recorded.state.feedback ≠ [] :=
    ne_of_eq_of_ne row (List.cons_ne_nil record [])
  have written : recorded.state.feedback ≠ world.state.feedback := by
    intro same
    rw [same] at decided
    exact decided fresh
  have kept : recorded.state.stored ctx.runId = some ctx := by
    rw [EngineState.stored, runs]
    exact stored
  rcases retryable recorded (stopsIn_recorded rdf sop records suspended inserted) (.inl written) ctx
    kept suspended recorded rfl rfl with ⟨reason', approverId', carriesOn⟩
  exact not_carriesOn_of_decided rdf sop decision reason' approverId' records suspended decided
    carriesOn

/-- A decision in texts is accepted exactly when it is the first and can be written. -/
theorem accepted_iff_recordable (records : engine.feedbackDb = true)
    (decided : isDecision decision = true) (plain : ctx.toJson.encodable = true)
    (reason : Option Str) (approverId : Str) (world : EngineWorld) :
    Accepted host engine ctx decision (.optional reason) (.str approverId) world ↔
      Recordable ctx reason approverId world.state.feedback := by
  rcases insertFeedback_cases host world decided reason approverId plain with
    ⟨recordable, inserted⟩ | ⟨foreign, exc, refused⟩
  · simp only [recordable, iff_true]
    exact fun _ => ⟨_, inserted⟩
  · simp only [foreign, iff_false]
    intro accepted
    rcases accepted records with ⟨recorded, inserted⟩
    rw [refused] at inserted
    cases inserted

/-- A resume can be retried exactly when its decision is refused, so that nothing is written. -/
theorem retryable_iff (host : Host) (rdf : RdfLib) (sop : SOPDefinition)
    (records : engine.feedbackDb = true) (stores : engine.stateStore = true)
    (suspended : ctx.state = .suspended) (typed : ctx.wellTyped = true)
    (storedAs : engine.StoredAs ctx world) (decided : isDecision decision = true)
    (reason : Option Str) (approverId : Str) :
    Retryable host rdf engine sop ctx decision (.optional reason) (.str approverId) world ↔
      ¬ Recordable ctx reason approverId world.state.feedback := by
  have plain : ctx.toJson.encodable = true := by
    rcases storedAs stores with ⟨row, -, -, document⟩
    exact document ▸ row.encoded
  have stored := stored_of_storedAs stores typed storedAs
  rw [← accepted_iff_recordable records decided plain]
  constructor
  · intro retryable accepted
    exact not_retryable_of_accepted rdf sop records suspended stored accepted retryable
  · intro refused stopped stops written
    have same := stopsIn_of_refused records suspended refused stops
    rw [same] at written
    simp at written

end SOPEngine

namespace Sample

theorem waitingRun_encodable : waitingRun.toJson.encodable = true := by decide

/-- The world in which the waiting run is stored. -/
def storedWorld : EngineWorld :=
  { newWorld with
    state := newWorld.state.setRuns
      (Dict.empty.set (py "run-1") (RunTable.rowFor waitingRun waitingRun_encodable Dict.empty)) }

theorem waitingRun_storedAs (engine : SOPEngine) : engine.StoredAs waitingRun storedWorld :=
  fun _ => ⟨_, Dict.get?_set_self _ _ _, rfl, rfl⟩

/-- The process stops right behind the commit of the approval. -/
theorem stopped_approval_stuck :
    ¬ SOPEngine.Retryable steadyHost rdf engine approvedWrite waitingRun
    (py "APPROVED") .null (.str (py "boss")) storedWorld := by
  have stored : storedWorld.state.stored waitingRun.runId = some waitingRun :=
    SOPEngine.stored_of_storedAs rfl rfl (waitingRun_storedAs engine)
  have accepted : SOPEngine.Accepted steadyHost engine waitingRun (py "APPROVED") .null
      (.str (py "boss")) storedWorld :=
    (SOPEngine.accepted_iff_recordable rfl (by decide) waitingRun_encodable none (py "boss")
      storedWorld).mpr ⟨rfl, rfl, by decide⟩
  exact SOPEngine.not_retryable_of_accepted rdf approvedWrite rfl rfl stored accepted

theorem foreign_reviewer_retryable : SOPEngine.Retryable steadyHost rdf engine approvedWrite
    waitingRun (py "APPROVED") .null (.str [0xD800]) storedWorld :=
  (SOPEngine.retryable_iff steadyHost rdf approvedWrite rfl rfl rfl rfl (waitingRun_storedAs engine)
    (by decide) none [0xD800]).mpr fun recordable => Bool.false_ne_true recordable.2.2

end Sample

end AgentOS
