import AgentOS.Workflow.Continuation

/-!
# A run that is decided on

Of a run its decisions change the stored row, the rows of the feedback table and the steps
that are executed for it. A `resume` of a run without a decision takes it by inserting its
decision, and a `resume` that comes later changes nothing, whatever else runs in between.
-/

namespace AgentOS

open Python Cooperative

/-- What the decisions on a run change. -/
structure RunView where
  row : Option StoredRun
  decisions : List FeedbackRecord
  /-- The indices of the steps that were executed for the run, in order. -/
  executed : List ℕ

/-- The run as it is seen in the state of the engine. -/
def EngineState.runView (runId : Str) (engine : EngineState) : RunView where
  row := engine.runs.get? runId
  decisions := FeedbackTable.rowsOf runId engine.feedback
  executed := (executions runId engine.history).map Prod.fst

/-- A decision was recorded, and the steps behind the suspended one were executed in order. -/
structure DecidedBy (ctx : SOPRunContext) (start : RunView) (record : FeedbackRecord)
    (now : RunView) : Prop where
  decisions : now.decisions = [record]
  executed : ∃ count,
    now.executed = start.executed ++ List.range' (ctx.currentStepIndex + 1) count
  rejected : record.decision = py "REJECTED" → now.executed = start.executed

namespace RunView

/-- A context that is stored for the run bears its id. -/
def Named (runId : Str) (view : RunView) : Prop :=
  ∀ ctx, view.row.bind StoredRun.context? = some ctx → ctx.runId = runId

/-- There is a decision on the run. -/
def Taken (runId : Str) (view : RunView) : Prop := view.decisions ≠ [] ∧ view.Named runId

/-- The run is stored as REJECTED. -/
def Rejected (view : RunView) : Prop := ∃ row, view.row = some row ∧ row.state = .rejected

end RunView

theorem DecidedBy.taken {ctx : SOPRunContext} {start now : RunView} {record : FeedbackRecord}
    {runId : Str} (decided : DecidedBy ctx start record now) (named : now.Named runId) :
    now.Taken runId :=
  ⟨by simp [decided.decisions], named⟩

namespace SOPEngine

def runViewOf (runId : Str) (world : EngineWorld) : RunView := world.state.runView runId

variable {host : Host} {rdf : RdfLib} {engine : SOPEngine} {sop : SOPDefinition}
  {ctx : SOPRunContext} {record : FeedbackRecord} {start : RunView} {runId : Str}

/-- The view of a run is a part of the records of the engine. -/
def viewOfRecords (runId : Str) (records : RunTable × FeedbackTable × List EngineEvent) :
    RunView where
  row := Dict.get? records.1 runId
  decisions := FeedbackTable.rowsOf runId records.2.1
  executed := (executions runId records.2.2).map Prod.fst

theorem named_of_context {row : StoredRun} {view : RunView} (found : view.row = some row)
    (document : row.contextJson = ctx.toJson) : view.Named ctx.runId := by
  intro loaded read
  rw [found, Option.bind_some, StoredRun.context?, document, SOPRunContext.ofJson_toJson] at read
  split at read
  · cases read
    rfl
  · cases read

/-- A save replaces the row, and raises when the context cannot be written. -/
theorem save_runView (stores : engine.stateStore = true) (ctx : SOPRunContext)
    (world : EngineWorld) :
    (ctx.toJson.encodable = true ∧ ∃ row, row.state = ctx.state ∧ row.contextJson = ctx.toJson ∧
      (engine.save ctx world).1 = .ok () ∧
      runViewOf ctx.runId (engine.save ctx world).2 =
        { runViewOf ctx.runId world with row := some row }) ∨
    (¬ ctx.toJson.encodable = true ∧ (∃ exc, (engine.save ctx world).1 = .error exc) ∧
      runViewOf ctx.runId (engine.save ctx world).2 = runViewOf ctx.runId world) := by
  rcases save_cases engine ctx world with
    ⟨storable, saved, returned, storedAs, -, -, feedback⟩ | ⟨foreign, exc, raised⟩
  · rcases storedAs stores with ⟨row, found, state, document⟩
    refine .inl ⟨storable stores, row, state, document, by rw [returned], ?_⟩
    rw [returned]
    simp [runViewOf, EngineState.runView, found, feedback, save_history stores returned]
  · refine .inr ⟨fun encoded => foreign fun _ => encoded, ⟨exc, by rw [raised]⟩, ?_⟩
    rw [raised]

theorem save_named (stores : engine.stateStore = true) {world : EngineWorld}
    (named : (runViewOf ctx.runId world).Named ctx.runId) :
    (runViewOf ctx.runId (engine.save ctx world).2).Named ctx.runId := by
  rcases save_runView stores ctx world with ⟨-, row, -, document, -, view⟩ | ⟨-, -, view⟩ <;>
    rw [view]
  · exact named_of_context rfl document
  · exact named

/-- A save leaves the decisions and the executed steps alone. -/
theorem save_frame (stores : engine.stateStore = true) (ctx : SOPRunContext) (world : EngineWorld) :
    (runViewOf ctx.runId (engine.save ctx world).2).decisions =
        (runViewOf ctx.runId world).decisions ∧
      (runViewOf ctx.runId (engine.save ctx world).2).executed =
        (runViewOf ctx.runId world).executed := by
  rcases save_runView stores ctx world with ⟨-, row, -, -, -, view⟩ | ⟨-, -, view⟩ <;> rw [view] <;>
    exact ⟨rfl, rfl⟩

/-! ### The winner -/

/-- The run has gone on by the record, up to the step at the index. -/
structure Progress (ctx : SOPRunContext) (start : RunView) (record : FeedbackRecord) (count : ℕ)
    (now : RunView) : Prop where
  decisions : now.decisions = [record]
  executed : now.executed = start.executed ++ List.range' (ctx.currentStepIndex + 1) count
  named : now.Named ctx.runId

/-- The law of the winner: the run was decided, and it is still found under its id. -/
def Law (ctx : SOPRunContext) (start : RunView) (record : FeedbackRecord) (now : RunView) : Prop :=
  DecidedBy ctx start record now ∧ now.Named ctx.runId

/-- A rejected run is stored as REJECTED when the winner ends. -/
def WinnerEnds {α : Type} (record : FeedbackRecord) (_ : Except Exc α) (now : RunView) : Prop :=
  record.decision = py "REJECTED" → now.Rejected

theorem Progress.law {count : ℕ} {now : RunView} (progress : Progress ctx start record count now)
    (approved : record.decision ≠ py "REJECTED") : Law ctx start record now :=
  ⟨⟨progress.decisions, ⟨count, progress.executed⟩, fun rejected => absurd rejected approved⟩,
    progress.named⟩

theorem Progress.save {count : ℕ} {saving : SOPRunContext} {world : EngineWorld}
    (stores : engine.stateStore = true) (named : saving.runId = ctx.runId)
    (progress : Progress ctx start record count (runViewOf ctx.runId world)) :
    Progress ctx start record count (runViewOf ctx.runId (engine.save saving world).2) := by
  have frame := save_frame stores saving world
  have kept := @save_named engine saving stores world
  rw [named] at frame kept
  exact ⟨frame.1.trans progress.decisions, frame.2.trans progress.executed, kept progress.named⟩

/-- A save of the winner, and what comes after it. -/
theorem tracks_save {α : Type} {count : ℕ} {saving : SOPRunContext} {now : RunView}
    {rest : Unit → Coro Exc EngineWorld α} (stores : engine.stateStore = true)
    (approved : record.decision ≠ py "REJECTED") (named : saving.runId = ctx.runId)
    (progress : Progress ctx start record count now)
    (goesOn : ∀ later, Progress ctx start record count later →
      (rest ()).Tracks (runViewOf ctx.runId) (Law ctx start record) (WinnerEnds record) later) :
    (Coro.sync (engine.save saving) >>= rest).Tracks (runViewOf ctx.runId) (Law ctx start record)
      (WinnerEnds record) now := by
  have saves : (Coro.sync (engine.save saving)).Tracks (runViewOf ctx.runId) (Law ctx start record)
      (fun _ later => Progress ctx start record count later) now := by
    apply Coro.tracks_sync
    · rintro world rfl
      exact (progress.save stores named).law approved
    · rintro world rfl
      exact progress.save stores named
  apply Coro.tracks_bind saves
  · exact fun _ later further => goesOn later further
  · exact fun _ _ _ rejected => absurd rejected approved

theorem winnerEnds_of_approved {α : Type} (approved : record.decision ≠ py "REJECTED")
    (result : Except Exc α) (now : RunView) : WinnerEnds record result now :=
  fun rejected => absurd rejected approved

/-- The loop executes the steps from its index on. -/
theorem runSteps_tracks (stores : engine.stateStore = true) (host : Host) (rdf : RdfLib)
    (approved : record.decision ≠ py "REJECTED") (steps : List SOPStep) {count : ℕ}
    {going : SOPRunContext} {now : RunView} (named : going.runId = ctx.runId)
    (progress : Progress ctx start record count now) :
    (engine.runSteps host rdf steps (ctx.currentStepIndex + 1 + count) going).Tracks
      (runViewOf ctx.runId) (Law ctx start record) (WinnerEnds record) now := by
  induction steps generalizing count going now with
  | nil =>
      have completed : ({ going with state := .completed } : SOPRunContext).runId = ctx.runId :=
        named
      unfold runSteps
      apply tracks_save stores approved completed progress
      exact fun later _ => winnerEnds_of_approved approved _ later
  | cons step rest ih =>
      let index := ctx.currentStepIndex + 1 + count
      let visiting : SOPRunContext := { going with currentStepIndex := index }
      have begins : (Coro.sync (note (.executing going.runId index going.data))).Tracks
          (runViewOf ctx.runId) (Law ctx start record)
          (fun _ later => Progress ctx start record (count + 1) later) now := by
        have moved : ∀ world : EngineWorld, runViewOf ctx.runId world = now →
            Progress ctx start record (count + 1) (runViewOf ctx.runId
              ⟨world.tick, world.state.note (.executing going.runId index going.data)⟩) := by
          rintro world rfl
          refine ⟨progress.decisions, ?_, progress.named⟩
          have before := progress.executed
          simp only [runViewOf, EngineState.runView] at before ⊢
          rw [named, EngineState.note, executions_executing, List.map_append, before,
            List.range'_concat, Nat.one_mul, ← List.append_assoc]
          rfl
        apply Coro.tracks_sync
        · exact fun world found => (moved world found).law approved
        · exact moved
      have keeps : (engine.executeStep host rdf step visiting).Keeps (runViewOf ctx.runId)
          (StepEnds step visiting) :=
        Coro.Keeps.part (viewOfRecords ctx.runId) (executeStep_keeps host rdf engine step visiting)
      unfold runSteps
      apply Coro.tracks_bind begins
      · intro _ later progress'
        apply Coro.tracks_bind_of_keeps (progress'.law approved) keeps
        · rintro ⟨outcome, left⟩ ⟨_, ⟨⟩, stepped⟩
          have same : left.runId = ctx.runId := by
            cases stepped <;> exact named
          rcases outcome with exc | result
          · dsimp only
            split
            · have failed : (left.fail exc.message).runId = ctx.runId := same
              apply tracks_save stores approved failed progress'
              exact fun later _ => winnerEnds_of_approved approved _ later
            · exact winnerEnds_of_approved approved _ later
          · have logged : (left.logResult step result).runId = ctx.runId := same
            apply tracks_save stores approved logged progress'
            intro final progress''
            split
            · exact winnerEnds_of_approved approved _ final
            · exact ih logged progress''
        · exact fun exc _ => winnerEnds_of_approved approved _ later
      · exact fun exc later _ => winnerEnds_of_approved approved _ later

/-- What follows the winning decision. -/
theorem proceed_tracks (stores : engine.stateStore = true) (host : Host) (rdf : RdfLib)
    (sop : SOPDefinition) {answered : SOPRunContext} (plain : answered.toJson.encodable = true)
    (named : answered.runId = ctx.runId) (index : answered.currentStepIndex = ctx.currentStepIndex)
    {now : RunView} (progress : Progress ctx start record 0 now) :
    (engine.proceed host rdf sop answered record.decision).Tracks (runViewOf ctx.runId)
      (Law ctx start record) (WinnerEnds record) now := by
  unfold proceed
  split
  · rename_i rejects
    let rejected : SOPRunContext := { answered with state := .rejected }
    have encoded : rejected.toJson.encodable = true :=
      (SOPRunContext.toJson_encodable_position answered .rejected _).trans plain
    have saves : (Coro.sync (engine.save rejected)).Tracks (runViewOf ctx.runId)
        (Law ctx start record) (fun _ later => later.Rejected) now := by
      apply Coro.tracks_sync
      · rintro world rfl
        have kept : Progress ctx start record 0
            (runViewOf ctx.runId (engine.save rejected world).2) := progress.save stores named
        refine ⟨⟨kept.decisions, ⟨0, kept.executed⟩, fun _ => ?_⟩, kept.named⟩
        simpa using kept.executed
      · rintro world rfl
        rcases save_runView stores rejected world with ⟨-, row, state, -, -, view⟩ | ⟨foreign, -⟩
        · rw [show ctx.runId = rejected.runId from named.symm, view]
          exact ⟨row, rfl, state⟩
        · exact absurd encoded foreign
    apply Coro.tracks_bind saves
    · exact fun _ later stored _ => stored
    · exact fun _ later stored _ => stored
  · rename_i approved
    let going : SOPRunContext := {
      answered with state := .running, currentStepIndex := answered.currentStepIndex + 1 }
    have going_named : going.runId = ctx.runId := named
    have runs := @runSteps_tracks engine ctx record start stores host rdf approved
      (sop.steps.drop (ctx.currentStepIndex + 1)) 0 going now going_named progress
    rw [← index] at runs
    exact runs

/-! ### Competing for the decision -/

/-- A call that raises. -/
def Raises {α : Type} (result : Except Exc α) : Prop := ∃ exc, result = .error exc

/-- What is left of the call wins with the decision. -/
def Wins {α : Type} (ctx : SOPRunContext) (start : RunView) (decision : Str)
    (body : Coro Exc EngineWorld α) (now : RunView) : Prop :=
  ∃ record, record.decision = decision ∧ Law ctx start record now ∧
    body.Tracks (runViewOf ctx.runId) (Law ctx start record) (WinnerEnds record) now

/-- What only hands the outcome on has won too. -/
theorem Wins.bind {α β : Type} {decision : Str} {body : Coro Exc EngineWorld α} {now : RunView}
    (wins : Wins ctx start decision body now) (result : α → β) :
    Wins ctx start decision (body >>= fun value => pure (result value)) now := by
  rcases wins with ⟨record, decides, law, tracks⟩
  refine ⟨record, decides, law, ?_⟩
  apply Coro.tracks_bind tracks
  · exact fun value now ends => ends
  · exact fun error now ends => ends

section Recording

variable {decision : Str} {reason approverId : Json}

/-- An insertion that raises changes nothing, and none is made when there is a decision. -/
theorem insertFeedback_refused (world : EngineWorld)
    (refused : ∀ value, (insertFeedback host (ctx.answer decision reason approverId) decision reason
      approverId world).1 ≠ .ok value) :
    runViewOf ctx.runId (insertFeedback host (ctx.answer decision reason approverId) decision
      reason approverId world).2 = runViewOf ctx.runId world := by
  rcases inserted : insertFeedback host (ctx.answer decision reason approverId) decision reason
    approverId world with ⟨exc | value, final⟩
  · rw [runViewOf, insertFeedback_error inserted]
    rfl
  · exact absurd (congrArg Prod.fst inserted) (refused value)

theorem insertFeedback_late {world : EngineWorld}
    (taken : (runViewOf ctx.runId world).Taken ctx.runId) (value : Unit) :
    (insertFeedback host (ctx.answer decision reason approverId) decision reason approverId
      world).1 ≠ .ok value := by
  intro returned
  rcases inserted : insertFeedback host (ctx.answer decision reason approverId) decision reason
    approverId world with ⟨result, final⟩
  rw [inserted] at returned
  cases returned
  exact taken.1 (insertFeedback_recorded inserted).1

/-- A run that has a decision is not resumed. -/
theorem resume_barred (records : engine.feedbackDb = true) (host : Host) (rdf : RdfLib)
    (sop : SOPDefinition) (ctx : SOPRunContext) (decision : Str) (reason approverId : Json) :
    (engine.resume host rdf sop ctx decision reason approverId).Barred (runViewOf ctx.runId)
      (RunView.Taken ctx.runId) Raises := by
  by_cases suspended : ctx.state = .suspended
  · rw [resume_recording suspended records]
    apply Coro.barred_sync_bind
    · exact fun world taken => insertFeedback_refused world (insertFeedback_late taken)
    · exact fun world value taken returned => absurd returned (insertFeedback_late taken value)
    · exact fun exc => ⟨exc, rfl⟩
  · rcases resume_going suspended host rdf engine sop decision reason approverId with ⟨exc, raises⟩
    rw [raises]
    exact ⟨exc, rfl⟩

/-- A call that recorded its decision has won. -/
theorem wins_of_recorded (stores : engine.stateStore = true) (host : Host) (rdf : RdfLib)
    (sop : SOPDefinition) (plain : ctx.toJson.encodable = true)
    (decided : isDecision decision = true) {world recorded : EngineWorld}
    (inserted : insertFeedback host (ctx.answer decision reason approverId) decision reason
      approverId world = (.ok (), recorded))
    (named : (runViewOf ctx.runId world).Named ctx.runId) :
    Wins ctx (runViewOf ctx.runId world) decision
      (engine.proceed host rdf sop (ctx.answer decision reason approverId) decision)
      (runViewOf ctx.runId recorded) := by
  rcases insertFeedback_recorded inserted with ⟨-, ⟨record, rfl, row⟩, why, who, runs, history⟩
  have started :
      Progress ctx (runViewOf ctx.runId world) record 0 (runViewOf ctx.runId recorded) := by
    refine ⟨row, ?_, ?_⟩
    · simp [runViewOf, EngineState.runView, history]
    · simpa [runViewOf, EngineState.runView, RunView.Named, runs] using named
  have encoded : (ctx.answer record.decision reason approverId).toJson.encodable = true :=
    answer_encodable plain (encodable_of_isDecision decided) why who
  refine ⟨record, rfl, ⟨⟨row, ⟨0, started.executed⟩, fun _ => ?_⟩, started.named⟩, ?_⟩
  · simpa using started.executed
  · exact @proceed_tracks engine ctx record _ stores host rdf sop _ encoded rfl rfl _ started

/-- The first decision on a suspended run wins it, unless it is refused. -/
theorem resume_contends (records : engine.feedbackDb = true) (stores : engine.stateStore = true)
    (host : Host) (rdf : RdfLib) (sop : SOPDefinition) (plain : ctx.toJson.encodable = true)
    (decided : isDecision decision = true) (reason approverId : Json)
    (named : start.Named ctx.runId) :
    (engine.resume host rdf sop ctx decision reason approverId).Contends (runViewOf ctx.runId) start
      (RunView.Taken ctx.runId) Raises (Wins ctx start decision) := by
  by_cases suspended : ctx.state = .suspended
  · have late := resume_barred records host rdf sop ctx decision reason approverId
    rw [resume_recording suspended records] at late ⊢
    apply Coro.contends_sync_bind_taking late
    · rintro world exc rfl raised
      exact insertFeedback_refused world (by simp [raised])
    · rintro world value rfl returned
      rcases inserted : insertFeedback host (ctx.answer decision reason approverId) decision reason
        approverId world with ⟨result, final⟩
      rw [inserted] at returned
      cases returned
      exact wins_of_recorded stores host rdf sop plain decided inserted named
    · exact fun exc => ⟨exc, rfl⟩
  · rcases resume_going suspended host rdf engine sop decision reason approverId with ⟨exc, raises⟩
    rw [raises]
    exact ⟨exc, rfl⟩

end Recording

end SOPEngine

end AgentOS
