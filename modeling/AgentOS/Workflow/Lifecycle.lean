import AgentOS.Cooperative.Lease
import AgentOS.Workflow.DecidedRun

/-!
# The life of a run

A run is created as PENDING, its steps are executed in ascending order, and after each one it is
stored. A run that is stored as SUSPENDED waits for a decision, and the first one is the only one.
A run that is stored as COMPLETED, FAILED or REJECTED is over: nothing happens to it any more.

The engine's operations move a run along its life, as long as it is created once: by the request
that names its id, or by the one for which `uuid4` draws it. The task that created the run, or that
decided on it, has the lease on it until it stores the run as waiting.
-/

namespace AgentOS

open Python Cooperative Relation

namespace RunView

/-- A decision on the run can be recorded, and the run then goes on. -/
structure Waiting (view : RunView) : Prop where
  suspended : ∃ row, view.row = some row ∧ row.state = .suspended
  undecided : view.decisions = []

/-- The steps of the run are being executed. -/
inductive Going (view : RunView) : Prop
  | fresh {row : StoredRun} (found : view.row = some row) (state : row.state = .pending)
  | running {row : StoredRun} (found : view.row = some row) (state : row.state = .running)
  | approved {row : StoredRun} {record : FeedbackRecord} (found : view.row = some row)
      (state : row.state = .suspended) (decisions : view.decisions = [record])
      (approves : record.decision ≠ py "REJECTED")

/-- The run is stored, and does not wait for a decision. -/
structure Busy (view : RunView) : Prop where
  found : view.row ≠ none
  decided : ¬ view.Waiting

/-- The run was carried out, or was given up. -/
def Over (view : RunView) : Prop :=
  ∃ row, view.row = some row ∧
    (row.state = .completed ∨ row.state = .failed ∨ row.state = .rejected)

/-- Nothing was stored under the id of the run, and nothing executed. -/
structure Unused (view : RunView) : Prop where
  absent : view.row = none
  unvisited : view.executed = []

/-- A task that comes upon the run may take it over: it waits, or its id may still be drawn. -/
def Free (draws : ℕ → Prop) (view : RunView) : Prop :=
  view.Waiting ∨ view.row = none ∧ ∃ tick, draws tick

/-- What may happen to a run, whose SOP may ask for an approval at the gate. -/
inductive Moves (gate : Option ℕ) : RunView → RunView → Prop
  | created {view : RunView} {row : StoredRun} (absent : view.row = none)
      (state : row.state = .pending) : Moves gate view { view with row := some row }
  | decided {view : RunView} {record : FeedbackRecord} (waits : view.Waiting)
      (decides : isDecision record.decision = true) :
      Moves gate view { view with decisions := [record] }
  | rejected {view : RunView} {row row' : StoredRun} {record : FeedbackRecord}
      (found : view.row = some row) (waits : row.state = .suspended)
      (decisions : view.decisions = [record]) (rejects : record.decision = py "REJECTED")
      (state : row'.state = .rejected) : Moves gate view { view with row := some row' }
  | executed {view : RunView} {index : ℕ} (going : view.Going)
      (ascends : ∀ earlier ∈ view.executed, earlier < index)
      (ahead : view.decisions = [] → ∀ last, gate = some last → index ≤ last) :
      Moves gate view { view with executed := view.executed ++ [index] }
  | stored {view : RunView} {row : StoredRun} (going : view.Going)
      (state : row.state = .running ∨ row.state = .suspended ∨ row.state = .completed ∨
        row.state = .failed) : Moves gate view { view with row := some row }

variable {gate : Option ℕ} {draws : ℕ → Prop} {view view' : RunView}

theorem Going.congr (going : view.Going) (row : view'.row = view.row)
    (decisions : view'.decisions = view.decisions) : view'.Going := by
  cases going with
  | fresh found state => exact .fresh (row.trans found) state
  | running found state => exact .running (row.trans found) state
  | approved found state decided approves =>
      exact .approved (row.trans found) state (decisions.trans decided) approves

theorem Going.not_waiting (going : view.Going) : ¬ view.Waiting := by
  rintro ⟨⟨row, found, suspended⟩, undecided⟩
  cases going with
  | fresh found' state =>
      cases found.symm.trans found'
      simp [state] at suspended
  | running found' state =>
      cases found.symm.trans found'
      simp [state] at suspended
  | approved found' state decisions =>
      rw [undecided] at decisions
      cases decisions

theorem Going.found (going : view.Going) : view.row ≠ none := by
  intro absent
  cases going with
  | fresh found | running found | approved found =>
      rw [absent] at found
      cases found

theorem Free.waiting (free : view.Free draws) (found : view.row ≠ none) : view.Waiting :=
  free.resolve_right fun absent => found absent.1

theorem Busy.not_free (busy : view.Busy) : ¬ view.Free draws :=
  fun free => busy.decided (free.waiting busy.found)

theorem Going.not_free (going : view.Going) : ¬ view.Free draws :=
  Busy.not_free ⟨going.found, going.not_waiting⟩

theorem Going.not_over (going : view.Going) : ¬ view.Over := by
  rintro ⟨row, found, ended⟩
  cases going with
  | fresh found' state | running found' state | approved found' state =>
      cases found.symm.trans found'
      simp [state] at ended

theorem Moves.not_over (moves : Moves gate view view') : ¬ view.Over := by
  cases moves with
  | created absent =>
      rintro ⟨row, found, -⟩
      rw [absent] at found
      cases found
  | decided waits =>
      rintro ⟨row, found, ended⟩
      rcases waits.suspended with ⟨row', found', suspended⟩
      cases found.symm.trans found'
      simp [suspended] at ended
  | rejected found waits =>
      rintro ⟨row', found', ended⟩
      cases found.symm.trans found'
      simp [waits] at ended
  | executed going => exact going.not_over
  | stored going => exact going.not_over

theorem eq_of_over (ended : view.Over) (moved : ReflTransGen (Moves gate) view view') :
    view' = view := by
  rcases moved.cases_head with same | ⟨next, moves, -⟩
  · exact same.symm
  · exact absurd ended moves.not_over

/-- A decision is the only one on the run, and is never taken back. -/
theorem Moves.decisions (moves : Moves gate view view') :
    view'.decisions = view.decisions ∨ view.Waiting ∧ ∃ record, view'.decisions = [record] := by
  cases moves with
  | decided waits => exact .inr ⟨waits, _, rfl⟩
  | created | rejected | executed | stored => exact .inl rfl

theorem decisions_of_moved (decided : view.decisions ≠ [])
    (moved : ReflTransGen (Moves gate) view view') : view'.decisions = view.decisions := by
  induction moved with
  | refl => rfl
  | tail _ moves ih =>
      rcases moves.decisions with same | ⟨waits, -⟩
      · exact same.trans ih
      · exact absurd (ih.symm.trans waits.undecided) decided

/-- A suspended run stays as it is until there is a decision on it. -/
theorem waits_until_decided {row : StoredRun} (found : view.row = some row)
    (suspended : row.state = .suspended) (moved : ReflTransGen (Moves gate) view view')
    (undecided : view'.decisions = []) : view' = view := by
  induction moved with
  | refl => rfl
  | @tail middle now _ moves ih =>
      rcases moves.decisions with same | ⟨-, record, decided⟩
      · rw [← ih (same.symm.trans undecided)] at found
        have waits : middle.Waiting := ⟨⟨row, found, suspended⟩, same.symm.trans undecided⟩
        cases moves with
        | created absent =>
            rw [absent] at found
            cases found
        | decided => cases undecided
        | rejected found' waits' decisions =>
            rw [undecided] at decisions
            cases decisions
        | executed going => exact absurd waits going.not_waiting
        | stored going => exact absurd waits going.not_waiting
      · rw [decided] at undecided
        cases undecided

/-- No step of the run is executed twice, and none after a later one. -/
theorem ascending_of_moved (moved : ReflTransGen (Moves gate) view view')
    (ascending : view.executed.Pairwise (· < ·)) :
    view.executed <+: view'.executed ∧ view'.executed.Pairwise (· < ·) := by
  induction moved with
  | refl => exact ⟨List.prefix_rfl, ascending⟩
  | tail _ moves ih =>
      cases moves with
      | created | decided | rejected | stored => exact ih
      | executed going ascends =>
          refine ⟨ih.1.trans (List.prefix_append _ _), ?_⟩
          refine List.pairwise_append.mpr ⟨ih.2, List.pairwise_singleton _ _, ?_⟩
          simpa using ascends

/-- A run whose steps behind the gate are executed only when it was approved. -/
inductive Guarded (last : ℕ) (view : RunView) : Prop
  | undecided (decisions : view.decisions = []) (ahead : ∀ index ∈ view.executed, index ≤ last)
  | refused {row : StoredRun} {record : FeedbackRecord} (found : view.row = some row)
      (state : row.state = .suspended ∨ row.state = .rejected)
      (decisions : view.decisions = [record])
      (rejects : record.decision = py "REJECTED") (ahead : ∀ index ∈ view.executed, index ≤ last)
  | approved {record : FeedbackRecord} (decisions : view.decisions = [record])
      (approves : record.decision = py "APPROVED")

theorem not_going_of_refused {row : StoredRun} {record : FeedbackRecord}
    (found : view.row = some row) (state : row.state = .suspended ∨ row.state = .rejected)
    (decisions : view.decisions = [record]) (rejects : record.decision = py "REJECTED") :
    ¬ view.Going := by
  intro going
  cases going with
  | fresh found' state' | running found' state' =>
      cases found.symm.trans found'
      simp [state'] at state
  | approved found' state' decisions' approves =>
      cases decisions.symm.trans decisions'
      exact approves rejects

theorem Guarded.moves {last : ℕ} (guarded : view.Guarded last)
    (moves : Moves (some last) view view') : view'.Guarded last := by
  cases guarded with
  | undecided decisions ahead =>
      cases moves with
      | created | stored => exact .undecided decisions ahead
      | @decided record waits decides =>
          rcases waits.suspended with ⟨row, found, suspended⟩
          simp only [isDecision, decide_eq_true_eq] at decides
          rcases decides with approves | rejects
          · exact .approved rfl approves
          · exact .refused found (.inl suspended) rfl rejects ahead
      | rejected found waits decisions' =>
          rw [decisions] at decisions'
          cases decisions'
      | executed going ascends before =>
          refine .undecided decisions ?_
          intro index mem
          rcases List.mem_append.mp mem with earlier | here
          · exact ahead index earlier
          · rw [List.mem_singleton.mp here]
            exact before decisions last rfl
  | refused found state decisions rejects ahead =>
      have idle := not_going_of_refused found state decisions rejects
      cases moves with
      | created absent =>
          rw [absent] at found
          cases found
      | decided waits =>
          rw [waits.undecided] at decisions
          cases decisions
      | rejected _ _ _ _ state' => exact .refused rfl (.inr state') decisions rejects ahead
      | executed going | stored going => exact absurd going idle
  | approved decisions approves =>
      cases moves with
      | decided waits =>
          rw [waits.undecided] at decisions
          cases decisions
      | created | rejected | executed | stored => exact .approved decisions approves

theorem Guarded.moved {last : ℕ} (guarded : view.Guarded last)
    (moved : ReflTransGen (Moves (some last)) view view') : view'.Guarded last := by
  induction moved with
  | refl => exact guarded
  | tail _ moves ih => exact ih.moves moves

/-- The steps before a suspended one are not executed after it. -/
structure Orderly (view : RunView) : Prop where
  ascending : view.executed.Pairwise (· < ·)
  behind : view.decisions = [] → ∀ ctx, view.row.bind StoredRun.context? = some ctx →
    ctx.state = .suspended → ∀ index ∈ view.executed, index ≤ ctx.currentStepIndex

/-- The view of a run while it lives. -/
def lifecycle (draws : ℕ → Prop) (gate : Option ℕ) : Lease RunView RunView where
  Sound := Orderly
  view := id
  Moves := Moves gate
  Free := Free draws
  Given _ _ := True

/-- The view of a run that nobody moves. -/
def untouched : Lease RunView RunView where
  Sound _ := True
  view := id
  Moves _ _ := False
  Free _ := False
  Given _ _ := True

end RunView

/-- Every run is stored under its own id, with its own state. -/
def EngineState.WellNamed (engine : EngineState) : Prop :=
  ∀ runId row ctx, engine.runs.get? runId = some row → row.context? = some ctx →
    ctx.runId = runId ∧ ctx.state = row.state

namespace SOPEngine

/-- As long as the id of the run may be drawn, it is not in use. -/
def Undrawn (draws : ℕ → Prop) (runId : Str) (world : EngineWorld) : Prop :=
  ∀ tick, world.tick ≤ tick → draws tick → (runViewOf runId world).Unused

/-- The lease on a run whose id `uuid4` draws at these ticks, while time passes. -/
def runLease (draws : ℕ → Prop) (runId : Str) (rule : Lease RunView RunView) :
    Lease EngineWorld RunView where
  Sound world := world.state.WellNamed ∧ rule.Sound (runViewOf runId world) ∧
    Undrawn draws runId world
  view world := rule.view (runViewOf runId world)
  Moves := rule.Moves
  Free := rule.Free
  Given world world' := world.tick ≤ world'.tick

/-- The lease on a run while it lives. -/
abbrev lifeLease (draws : ℕ → Prop) (gate : Option ℕ) (runId : Str) : Lease EngineWorld RunView :=
  runLease draws runId (RunView.lifecycle draws gate)

variable {host : Host} {engine : SOPEngine} {draws : ℕ → Prop} {runId : Str}
  {rule : Lease RunView RunView}

/-- The id of a run that is found is not drawn any more. -/
theorem Undrawn.of_found {world world' : EngineWorld} (undrawn : Undrawn draws runId world)
    (found : (runViewOf runId world).row ≠ none) (later : world.tick ≤ world'.tick) :
    Undrawn draws runId world' :=
  fun tick reached drawn => absurd (undrawn tick (later.trans reached) drawn).absent found

theorem runLease_view {world world' : EngineWorld}
    (same : runViewOf runId world' = runViewOf runId world) (wellNamed : world'.state.WellNamed)
    (later : world.tick ≤ world'.tick) (sound : (runLease draws runId rule).Sound world) :
    (runLease draws runId rule).Sound world' ∧
      (runLease draws runId rule).view world' = (runLease draws runId rule).view world := by
  refine ⟨⟨wellNamed, same ▸ sound.2.1, ?_⟩, congrArg rule.view same⟩
  intro tick reached drawn
  rw [same]
  exact sound.2.2 tick (later.trans reached) drawn

theorem runLease_same {world world' : EngineWorld} (same : recordsOf world' = recordsOf world)
    (later : world.tick ≤ world'.tick) (sound : (runLease draws runId rule).Sound world) :
    (runLease draws runId rule).Sound world' ∧
      (runLease draws runId rule).view world' = (runLease draws runId rule).view world := by
  have view : runViewOf runId world' = runViewOf runId world :=
    congrArg (viewOfRecords runId) same
  have runs : world'.state.runs = world.state.runs := congrArg Prod.fst same
  have wellNamed : world'.state.WellNamed := by
    rw [EngineState.WellNamed, runs]
    exact sound.1
  exact runLease_view view wellNamed later sound

theorem save_wellNamed (engine : SOPEngine) (ctx : SOPRunContext) {world : EngineWorld}
    (wellNamed : world.state.WellNamed) : (engine.save ctx world).2.state.WellNamed := by
  unfold save
  split
  · simp only [Action.bind_apply, Timed.view_apply, ofExcept_apply]
    rcases RunTable.saveState_cases ctx world.state.runs with
      ⟨encoded, stored⟩ | ⟨-, exc, refused⟩
    · rw [stored]
      intro runId row loaded found read
      change (Dict.set world.state.runs ctx.runId _).get? runId = some row at found
      by_cases same : runId = ctx.runId
      · rw [same, Dict.get?_set_self] at found
        cases found
        rw [StoredRun.context?, RunTable.rowFor, SOPRunContext.ofJson_toJson] at read
        split at read <;> cases read
        exact ⟨same.symm, rfl⟩
      · rw [Dict.get?_set_of_ne _ _ same] at found
        exact wellNamed runId row loaded found read
    · rw [refused]
      exact wellNamed
  · exact wellNamed

theorem save_others (engine : SOPEngine) {ctx : SOPRunContext} (other : ctx.runId ≠ runId)
    (world : EngineWorld) :
    runViewOf runId (engine.save ctx world).2 = runViewOf runId world := by
  unfold save
  split
  · simp only [Action.bind_apply, Timed.view_apply, ofExcept_apply]
    rcases RunTable.saveState_cases ctx world.state.runs with
      ⟨encoded, stored⟩ | ⟨-, exc, refused⟩
    · rw [stored]
      have row : (Dict.set world.state.runs ctx.runId
          (RunTable.rowFor ctx encoded world.state.runs)).get? runId =
            world.state.runs.get? runId := Dict.get?_set_of_ne _ _ (Ne.symm other)
      have steps : executions runId (.saved ctx :: world.state.history) =
          executions runId world.state.history := executions_saved runId ctx _
      simp only [runViewOf, EngineState.runView]
      exact congrArg₂ (fun row executed => RunView.mk row _ (executed.map Prod.fst)) row steps
    · rw [refused]
  · rfl

/-! ### Other runs -/

section Others

variable {rdf : RdfLib} {ctx : SOPRunContext}

theorem save_looksOn (engine : SOPEngine) (other : ctx.runId ≠ runId) :
    (Coro.sync (engine.save ctx)).LooksOn (runLease draws runId rule) fun _ => True := by
  apply Coro.looksOn_sync
  · intro world sound later
    exact runLease_view (save_others engine other world) (save_wellNamed engine ctx sound.1) later
      sound
  · exact fun _ => trivial

theorem note_looksOn (other : ctx.runId ≠ runId) (index : ℕ) (data : Dict Str Json) :
    (Coro.sync (note (.executing ctx.runId index data))).LooksOn (runLease draws runId rule)
      fun _ => True := by
  apply Coro.looksOn_sync
  · intro world sound later
    have steps : executions runId (.executing ctx.runId index data :: world.state.history) =
        executions runId world.state.history := by
      simp [executions, other]
    have same : runViewOf runId ⟨world.tick, world.state.note (.executing ctx.runId index data)⟩ =
        runViewOf runId world := by
      simp only [runViewOf, EngineState.runView]
      exact congrArg (fun executed => RunView.mk _ _ (executed.map Prod.fst)) steps
    exact runLease_view same sound.1 later sound
  · exact fun _ => trivial

theorem executeStep_looksOn (host : Host) (rdf : RdfLib) (engine : SOPEngine) (step : SOPStep)
    (ctx : SOPRunContext) :
    (engine.executeStep host rdf step ctx).LooksOn (runLease draws runId rule)
      (StepEnds step ctx) :=
  Coro.looksOn_of_keeps (fun _ _ => runLease_same) (executeStep_keeps host rdf engine step ctx)

theorem runSteps_looksOn (host : Host) (rdf : RdfLib) (engine : SOPEngine) (steps : List SOPStep)
    (index : ℕ) (other : ctx.runId ≠ runId) :
    (engine.runSteps host rdf steps index ctx).LooksOn
      (runLease draws runId rule) fun _ => True := by
  induction steps generalizing index ctx with
  | nil =>
      have completed : ({ ctx with state := .completed } : SOPRunContext).runId ≠ runId := other
      apply Coro.looksOn_bind (save_looksOn engine completed)
      · exact fun _ _ => Coro.looksOn_pure trivial
      · exact fun _ _ => trivial
  | cons step rest ih =>
      apply Coro.looksOn_bind (note_looksOn other index ctx.data)
      · intro _ _
        apply Coro.looksOn_bind (executeStep_looksOn host rdf engine step
          { ctx with currentStepIndex := index })
        · rintro ⟨outcome, ctx'⟩ ⟨_, ⟨⟩, stepped⟩
          have other' : ctx'.runId ≠ runId := by
            cases stepped <;> exact other
          rcases outcome with exc | result
          · dsimp only
            split
            · have failed : (ctx'.fail exc.message).runId ≠ runId := other'
              apply Coro.looksOn_bind (save_looksOn engine failed)
              · exact fun _ _ => Coro.looksOn_pure trivial
              · exact fun _ _ => trivial
            · exact Coro.looksOn_throw trivial
          · have logged : (ctx'.logResult step result).runId ≠ runId := other'
            apply Coro.looksOn_bind (save_looksOn engine logged)
            · intro _ _
              split
              · exact Coro.looksOn_pure trivial
              · exact ih (index + 1) logged
            · exact fun _ _ => trivial
        · exact fun _ _ => trivial
      · exact fun _ _ => trivial

theorem run_looksOn (host : Host) (rdf : RdfLib) (engine : SOPEngine) (sop : SOPDefinition)
    (other : ctx.runId ≠ runId) :
    (engine.run host rdf sop ctx).LooksOn (runLease draws runId rule) fun _ => True := by
  have running : ({ ctx with state := .running } : SOPRunContext).runId ≠ runId := other
  exact runSteps_looksOn host rdf engine _ _ running

theorem insertFeedback_appends {decision : Str} {reason approverId : Json}
    {world recorded : EngineWorld}
    (inserted : insertFeedback host ctx decision reason approverId world = (.ok (), recorded)) :
    isDecision decision = true ∧ ∃ record : FeedbackRecord,
      FeedbackTable.bindRecord host ctx.runId approverId decision reason (ctx.originalOutput host)
        (host.isoFormat (host.time world.tick)) = .ok record ∧
      recorded.state = world.state.setFeedback (world.state.feedback ++ [record]) := by
  by_cases decided : isDecision decision = true
  · rw [insertFeedback_apply host _ decided] at inserted
    rcases table : FeedbackTable.insertFeedback host ctx.runId approverId decision reason
      (ctx.originalOutput host) (host.isoFormat (host.time world.tick)) world.state.feedback with
      exc | table'
    · rw [table] at inserted
      cases inserted
    · rw [table] at inserted
      cases inserted
      rcases FeedbackTable.insertFeedback_ok table with ⟨-, record, bound, rfl⟩
      exact ⟨decided, record, bound, rfl⟩
  · have undecided : isDecision decision = false := by simpa using decided
    simp only [insertFeedback, raiseIf, undecided, if_true, Action.bind_apply,
      Action.throw_apply] at inserted
    cases inserted

theorem insertFeedback_looksOn (host : Host) (other : ctx.runId ≠ runId) (decision : Str)
    (reason approverId : Json) :
    (Coro.sync (insertFeedback host (ctx.answer decision reason approverId) decision reason
      approverId)).LooksOn (runLease draws runId rule) fun _ => True := by
  apply Coro.looksOn_sync
  · intro world sound later
    rcases inserted : insertFeedback host (ctx.answer decision reason approverId) decision reason
      approverId world with ⟨exc | ⟨⟩, final⟩
    · rw [inserted] at later
      exact runLease_same (congrArg EngineState.records (insertFeedback_error inserted)) later sound
    · rcases insertFeedback_appends inserted with ⟨-, record, bound, recorded⟩
      have named := (FeedbackTable.bindRecord_ok bound).1
      have same : runViewOf runId final = runViewOf runId world := by
        have differ : record.traceId ≠ runId := fun same => other (named.symm.trans same)
        simp only [runViewOf, EngineState.runView, recorded, EngineState.setFeedback,
          FeedbackTable.rowsOf_append, if_neg differ]
      have wellNamed : final.state.WellNamed := by
        rw [recorded]
        exact sound.1
      rw [inserted] at later
      exact runLease_view same wellNamed later sound
  · exact fun _ => trivial

theorem resume_looksOn (host : Host) (rdf : RdfLib) (engine : SOPEngine) (sop : SOPDefinition)
    (other : ctx.runId ≠ runId) (decision : Str) (reason approverId : Json) :
    (engine.resume host rdf sop ctx decision reason approverId).LooksOn (runLease draws runId rule)
      fun _ => True := by
  have answered : (ctx.answer decision reason approverId).runId ≠ runId := other
  have proceeds : (engine.proceed host rdf sop (ctx.answer decision reason approverId)
      decision).LooksOn (runLease draws runId rule) fun _ => True := by
    unfold proceed
    split
    · have rejected : ({ ctx.answer decision reason approverId with
          state := .rejected } : SOPRunContext).runId ≠ runId := other
      apply Coro.looksOn_bind (save_looksOn engine rejected)
      · exact fun _ _ => Coro.looksOn_pure trivial
      · exact fun _ _ => trivial
    · apply run_looksOn
      exact other
  unfold resume
  split
  · exact Coro.looksOn_throw trivial
  · dsimp only
    split
    · apply Coro.looksOn_bind (insertFeedback_looksOn host other decision reason approverId)
      · exact fun _ _ => proceeds
      · exact fun _ _ => trivial
    · exact proceeds

/-- The ids that `create_run` may give to a run. -/
def Creates (host : Host) (given : Option Str) (runId : Str) : Prop :=
  match given with
  | some given => if given ≠ [] then given = runId else ∃ tick, host.uuid4 tick = runId
  | none => ∃ tick, host.uuid4 tick = runId

/-- No id is given to `create_run`, so that it draws one. -/
def Unnamed (given : Option Str) : Prop := given = none ∨ given = some []

/-- A run is created by the save of a fresh context under one of these ids. -/
theorem createRun_saves (host : Host) (engine : SOPEngine) (sop : SOPDefinition)
    (data : Dict Str Json) (given : Option Str) (world : EngineWorld) :
    ∃ (ctx : SOPRunContext) (tick : ℕ), Creates host given ctx.runId ∧
      (Unnamed given → ctx.runId = host.uuid4 world.tick ∧ tick = world.tick + 1) ∧
        ctx.state = .pending ∧ ctx.currentStepIndex = 0 ∧ ctx.approvalResult = none ∧
        (engine.createRun host sop data given world).2 =
          (engine.save ctx ⟨tick, world.state⟩).2 ∧
        (engine.createRun host sop data given world).1 =
          (engine.save ctx ⟨tick, world.state⟩).1.map fun _ => ctx := by
  have returns : ∀ (ctx : SOPRunContext) (tick : ℕ),
      ((engine.save ctx >>= fun _ => pure ctx) ⟨tick, world.state⟩).2 =
          (engine.save ctx ⟨tick, world.state⟩).2 ∧
        ((engine.save ctx >>= fun _ => pure ctx) ⟨tick, world.state⟩).1 =
          (engine.save ctx ⟨tick, world.state⟩).1.map fun _ => ctx := by
    intro ctx tick
    rw [Action.bind_apply]
    rcases engine.save ctx ⟨tick, world.state⟩ with ⟨exc | value, saved⟩ <;> exact ⟨rfl, rfl⟩
  unfold createRun
  rcases given with _ | given
  · exact ⟨_, world.tick + 1, ⟨world.tick, rfl⟩, fun _ => ⟨rfl, rfl⟩, rfl, rfl, rfl, returns _ _⟩
  · by_cases empty : given = []
    · subst empty
      exact ⟨_, world.tick + 1, ⟨world.tick, rfl⟩, fun _ => ⟨rfl, rfl⟩, rfl, rfl, rfl, returns _ _⟩
    · dsimp only
      rw [if_pos empty]
      refine ⟨_, world.tick, ?_, ?_, rfl, rfl, rfl, returns _ _⟩
      · rw [Creates, if_pos empty]
      · rintro (unnamed | unnamed) <;> cases unnamed
        exact absurd rfl empty

theorem createRun_looksOn (engine : SOPEngine) (sop : SOPDefinition) (data : Dict Str Json)
    {given : Option Str} (other : ¬ Creates host given runId) :
    (Coro.sync (engine.createRun host sop data given)).LooksOn (runLease draws runId rule)
      fun result => ∀ ctx, result = .ok ctx → ctx.runId ≠ runId := by
  apply Coro.looksOn_sync
  · intro world sound later
    rcases createRun_saves host engine sop data given world with
      ⟨ctx, tick, created, -, -, -, -, world', -⟩
    have other' : ctx.runId ≠ runId := fun same => other (same ▸ created)
    have same := save_others engine other' ⟨tick, world.state⟩
    rw [world'] at later ⊢
    exact runLease_view same (save_wellNamed engine ctx sound.1) later sound
  · intro world ctx' returned
    rcases createRun_saves host engine sop data given world with
      ⟨ctx, tick, created, -, -, -, -, -, result⟩
    rw [result] at returned
    revert returned
    rcases (engine.save ctx ⟨tick, world.state⟩).1 with exc | value
    · rintro ⟨⟩
    · rintro ⟨⟩
      exact fun same => other (same ▸ created)

end Others

/-! ### Approval gates -/

/-- The step suspends the run unless it fails: it asks for an approval on all data. -/
def Asks (engine : SOPEngine) (step : SOPStep) : Prop :=
  step.type = .humanApproval ∧ ∀ data world, (engine.triggers step data world).1 = .ok true

/-- The step at the gate comes with or after the first of the steps, and asks for an approval. -/
def GateAhead (engine : SOPEngine) (gate : Option ℕ) (index : ℕ) (steps : List SOPStep) : Prop :=
  ∀ last, gate = some last →
    index ≤ last ∧ ∃ step, steps[last - index]? = some step ∧ engine.Asks step

section Gates

variable {gate : Option ℕ} {index : ℕ} {step : SOPStep} {later : List SOPStep}

theorem GateAhead.asks (ahead : engine.GateAhead gate index (step :: later))
    (here : gate = some index) : engine.Asks step := by
  rcases ahead index here with ⟨-, step', found, asks⟩
  rw [Nat.sub_self, List.getElem?_cons_zero] at found
  cases found
  exact asks

theorem GateAhead.rest (ahead : engine.GateAhead gate index (step :: later))
    (elsewhere : gate ≠ some index) : engine.GateAhead gate (index + 1) later := by
  intro last gated
  rcases ahead last gated with ⟨le, step', found, asks⟩
  have lt : index < last := by
    apply lt_of_le_of_ne le
    rintro rfl
    exact elsewhere gated
  have split : last - index = last - (index + 1) + 1 := by omega
  rw [split, List.getElem?_cons_succ] at found
  exact ⟨lt, step', found, asks⟩

/-- A step that asks suspends the run, or fails. -/
theorem executeStep_asks (host : Host) (rdf : RdfLib) (engine : SOPEngine) (step : SOPStep)
    (ctx : SOPRunContext) :
    (engine.executeStep host rdf step ctx).Keeps recordsOf fun result => ∃ outcome,
      result = .ok outcome ∧ Stepped step ctx outcome ∧
        (engine.Asks step → ∀ value, outcome.1 = .ok value → outcome.2.state = .suspended) := by
  by_cases asks : engine.Asks step
  · have triggered : (Coro.sync (engine.triggers step ctx.data)).Keeps recordsOf
        fun result => result = .ok true := by
      apply Coro.keeps_sync
      · intro world
        rcases triggers_apply engine step ctx.data world with ⟨_, _, ran⟩
        rw [ran]
        rfl
      · exact asks.2 ctx.data
    unfold executeStep
    rw [asks.1]
    apply Coro.keeps_bind triggered
    · rintro _ ⟨⟩
      rw [if_pos rfl]
      split
      · apply Coro.keeps_attempt_bind
        · apply Coro.keeps_bind (@sendCard_keeps _ EngineState.records (fun _ _ => rfl) engine
            _ _ _ _)
          · exact fun _ _ => outcome_keeps EngineState.records _
          · exact fun _ _ => trivial
        · rintro (exc | ⟨⟩) -
          · exact ⟨_, rfl, .went _ _, fun _ _ => nofun⟩
          · exact ⟨_, rfl, .suspended _ _ asks.1, fun _ _ _ => rfl⟩
      · exact ⟨_, rfl, .went _ ctx.data, fun _ _ => nofun⟩
    · rintro exc ⟨⟩
  · apply (executeStep_keeps host rdf engine step ctx).mono
    rintro result ⟨outcome, ended, stepped⟩
    exact ⟨outcome, ended, stepped, fun asks' => absurd asks' asks⟩

end Gates

/-! ### The run itself -/

section Own

variable {rdf : RdfLib} {ctx : SOPRunContext} {seen : RunView} {gate : Option ℕ}

theorem save_heeds (stores : engine.stateStore = true) (found : seen.row ≠ none)
    (moves : ∀ row : StoredRun, row.state = ctx.state →
      RunView.Moves gate seen { seen with row := some row })
    (ascending : seen.executed.Pairwise (· < ·))
    (behind : ctx.state = .suspended → ∀ index ∈ seen.executed, index ≤ ctx.currentStepIndex) :
    (Coro.sync (engine.save ctx)).Heeds (lifeLease draws gate ctx.runId)
      (fun result role now => result = .ok () → ctx.state ≠ .suspended →
        role = .holder ∧ ∃ row : StoredRun, row.state = ctx.state ∧
          now = { seen with row := some row }) .holder seen := by
  apply Coro.heeds_sync
  rintro world ⟨wellNamed, orderly, undrawn⟩ later rfl
  have wellNamed' := save_wellNamed engine ctx wellNamed
  have undrawn' := undrawn.of_found found later
  rcases save_runView stores ctx world with
    ⟨-, row, state, document, -, view⟩ | ⟨-, ⟨exc, raised⟩, view⟩
  · have moved : RunView.Moves gate (runViewOf ctx.runId world)
        (runViewOf ctx.runId (engine.save ctx world).2) := view ▸ moves row state
    have orderly' : (runViewOf ctx.runId (engine.save ctx world).2).Orderly := by
      rw [view]
      refine ⟨ascending, ?_⟩
      intro _ loaded read suspended
      rw [Option.bind_some, StoredRun.context?, document, SOPRunContext.ofJson_toJson] at read
      split at read <;> cases read
      exact behind suspended
    have stored : (runViewOf ctx.runId (engine.save ctx world).2).row ≠ none := by
      rw [view]
      exact Option.some_ne_none row
    refine ⟨⟨wellNamed', orderly', undrawn'⟩, ?_⟩
    rcases @Lease.allows_holder _ _ (lifeLease draws gate ctx.runId) _ _ (.inr moved) with
      ⟨role', allowed, waits | held⟩
    · refine ⟨role', allowed, ?_⟩
      intro _ going
      rcases (RunView.Free.waiting waits.2 stored).suspended with ⟨row', found', suspended⟩
      change (runViewOf ctx.runId (engine.save ctx world).2).row = some row' at found'
      rw [view] at found'
      cases found'
      exact absurd (state.symm.trans suspended) going
    · exact ⟨role', allowed, fun _ _ => ⟨held.1, row, state, view⟩⟩
  · have orderly' : (runViewOf ctx.runId (engine.save ctx world).2).Orderly := view ▸ orderly
    refine ⟨⟨wellNamed', orderly', undrawn'⟩, ?_⟩
    rcases @Lease.allows_holder _ _ (lifeLease draws gate ctx.runId) _ _ (.inl view) with
      ⟨role', allowed, -⟩
    refine ⟨role', allowed, ?_⟩
    intro returned
    rw [raised] at returned
    cases returned

/-- A run that is going on without a decision is not stored as waiting. -/
theorem not_suspended_of_going {world : EngineWorld} (wellNamed : world.state.WellNamed)
    (going : (runViewOf runId world).Going) (undecided : (runViewOf runId world).decisions = [])
    {loaded : SOPRunContext}
    (read : (runViewOf runId world).row.bind StoredRun.context? = some loaded) :
    loaded.state ≠ .suspended := by
  cases going with
  | fresh found state | running found state =>
      rw [found, Option.bind_some] at read
      rw [(wellNamed runId _ loaded found read).2, state]
      nofun
  | approved found state decisions =>
      rw [undecided] at decisions
      cases decisions

theorem note_heeds (data : Dict Str Json) {index : ℕ} (going : seen.Going)
    (behind : ∀ earlier ∈ seen.executed, earlier < index)
    (ahead : seen.decisions = [] → ∀ last, gate = some last → index ≤ last) :
    (Coro.sync (note (.executing runId index data))).Heeds (lifeLease draws gate runId)
      (fun _ role now => role = .holder ∧
        now = { seen with executed := seen.executed ++ [index] }) .holder seen := by
  apply Coro.heeds_sync
  rintro world ⟨wellNamed, orderly, undrawn⟩ later known
  have start : runViewOf runId world = seen := known
  subst start
  let world' : EngineWorld := ⟨world.tick, world.state.note (.executing runId index data)⟩
  have view : runViewOf runId world' =
      { runViewOf runId world with executed := (runViewOf runId world).executed ++ [index] } := by
    simp [world', runViewOf, EngineState.runView, EngineState.note]
  have moved : RunView.Moves gate (runViewOf runId world) (runViewOf runId world') :=
    view ▸ .executed going behind ahead
  have going' : (runViewOf runId world').Going := going.congr rfl rfl
  have wellNamed' : world'.state.WellNamed := wellNamed
  have orderly' : (runViewOf runId world').Orderly := by
    refine ⟨(RunView.ascending_of_moved (.single moved) orderly.ascending).2, ?_⟩
    intro undecided loaded read suspended
    exact absurd suspended (not_suspended_of_going wellNamed' going' undecided read)
  exact ⟨⟨wellNamed, orderly', undrawn.of_found going.found later⟩, .holder,
    ⟨.inr ⟨.inl rfl, moved⟩, fun _ => ⟨.inl rfl, going'.not_free⟩⟩, rfl, view⟩

theorem executeStep_heeds (host : Host) (rdf : RdfLib) (engine : SOPEngine) (step : SOPStep)
    (ctx : SOPRunContext) (going : seen.Going) :
    (engine.executeStep host rdf step ctx).Heeds (lifeLease draws gate runId)
      (fun result role now => (∃ outcome, result = .ok outcome ∧ Stepped step ctx outcome ∧
        (engine.Asks step → ∀ value, outcome.1 = .ok value → outcome.2.state = .suspended)) ∧
          role = .holder ∧ now = seen) .holder seen := by
  have heeds := @Coro.heeds_of_keeps _ _ _ _ _ (lifeLease draws gate runId) .holder
    seen _ _ _ (fun _ _ => runLease_same) (executeStep_asks host rdf engine step ctx)
    (fun _ => going.not_free)
  apply heeds.mono
  rintro result _ now ⟨ends, rfl, known⟩
  exact ⟨ends, rfl, known⟩

theorem visited_going {index : ℕ} (going : seen.Going) (ascending : seen.executed.Pairwise (· < ·))
    (behind : ∀ earlier ∈ seen.executed, earlier < index)
    (near : seen.decisions = [] → ∀ last, gate = some last → index ≤ last) :
    RunView.Going { seen with executed := seen.executed ++ [index] } ∧
      (seen.executed ++ [index]).Pairwise (· < ·) ∧
        ∀ earlier ∈ seen.executed ++ [index], earlier ≤ index := by
  refine ⟨going.congr rfl rfl,
    (RunView.ascending_of_moved (.single (.executed going behind near)) ascending).2, ?_⟩
  intro earlier mem
  rw [List.mem_append, List.mem_singleton] at mem
  rcases mem with before | rfl
  · exact (behind earlier before).le
  · exact le_rfl

/-- A step leaves the run going on, or suspended. -/
theorem stepped_context {step : SOPStep} {index : ℕ} {outcome : StepOutcome}
    (stepped : Stepped step { ctx with currentStepIndex := index } outcome)
    (state : ctx.state = .running) :
    outcome.2.runId = ctx.runId ∧ outcome.2.currentStepIndex = index ∧
      (outcome.2.state = .running ∨ outcome.2.state = .suspended) := by
  cases stepped with
  | went => exact ⟨rfl, rfl, .inl state⟩
  | suspended => exact ⟨rfl, rfl, .inr rfl⟩

theorem failed_heeds (stores : engine.stateStore = true) (exc : Exc) (going : seen.Going)
    (ascending : seen.executed.Pairwise (· < ·)) :
    (if exc.cls = .sopExecutionError then do
        Coro.sync (engine.save (ctx.fail exc.message))
        pure (ctx.fail exc.message)
      else throw exc : Coro Exc EngineWorld SOPRunContext).Heeds
        (lifeLease draws gate ctx.runId) (fun _ _ _ => True) .holder seen := by
  split
  · have saves := @save_heeds engine draws (ctx.fail exc.message) seen gate stores going.found
      (fun row failed => .stored going (.inr (.inr (.inr failed)))) ascending nofun
    apply Coro.heeds_bind saves
    · exact fun _ _ _ _ => trivial
    · exact fun _ _ _ _ => trivial
  · trivial

/-- The loop executes its steps in order, from a run that is going on. -/
theorem runSteps_heeds (stores : engine.stateStore = true) (host : Host) (rdf : RdfLib)
    (steps : List SOPStep) {index : ℕ} (state : ctx.state = .running) (going : seen.Going)
    (ascending : seen.executed.Pairwise (· < ·))
    (behind : ∀ earlier ∈ seen.executed, earlier < index)
    (ahead : seen.decisions = [] → engine.GateAhead gate index steps) :
    (engine.runSteps host rdf steps index ctx).Heeds (lifeLease draws gate ctx.runId)
      (fun _ _ _ => True) .holder seen := by
  induction steps generalizing index ctx seen with
  | nil =>
      have saves := @save_heeds engine draws { ctx with state := .completed } seen gate stores
        going.found (fun row completed => .stored going (.inr (.inr (.inl completed)))) ascending
          nofun
      apply Coro.heeds_bind saves
      · exact fun _ _ _ _ => trivial
      · exact fun _ _ _ _ => trivial
  | cons step rest ih =>
      let visiting : SOPRunContext := { ctx with currentStepIndex := index }
      have near : seen.decisions = [] → ∀ last, gate = some last → index ≤ last :=
        fun undecided last gated => (ahead undecided last gated).1
      rcases visited_going going ascending behind near with ⟨going', ascending', behind'⟩
      apply Coro.heeds_bind (note_heeds ctx.data going behind near)
      · rintro _ _ _ ⟨rfl, rfl⟩
        apply Coro.heeds_bind (executeStep_heeds host rdf engine step visiting going')
        · rintro ⟨outcome, left⟩ _ _ ⟨⟨_, ⟨⟩, stepped, asked⟩, rfl, rfl⟩
          rcases stepped_context stepped state with ⟨named, index', state'⟩
          change left.runId = ctx.runId at named
          rw [← named]
          rcases outcome with exc | result
          · exact failed_heeds stores exc going' ascending'
          · have saves := @save_heeds engine draws (left.logResult step result) _ gate stores
              going'.found (fun row logged => .stored going' (state'.imp logged.trans
                fun suspended => .inl (logged.trans suspended))) ascending'
              (fun _ earlier mem => (behind' earlier mem).trans index'.ge)
            apply Coro.heeds_bind saves
            · intro _ role now stored
              split
              · trivial
              · rename_i goesOn
                rcases stored rfl goesOn with ⟨rfl, row, rowState, rfl⟩
                have running : (left.logResult step result).state = .running :=
                  state'.resolve_right goesOn
                refine ih running (.running rfl (rowState.trans running)) ascending'
                  (fun earlier mem => Nat.lt_succ_of_le (behind' earlier mem)) ?_
                -- A step that asks would have suspended the run.
                intro undecided
                refine (ahead undecided).rest fun here => goesOn ?_
                exact asked ((ahead undecided).asks here) result rfl
            · exact fun _ _ _ _ => trivial
        · exact fun _ _ _ _ => trivial
      · exact fun _ _ _ _ => trivial

theorem run_heeds (stores : engine.stateStore = true) (host : Host) (rdf : RdfLib)
    (sop : SOPDefinition) (going : seen.Going) (ascending : seen.executed.Pairwise (· < ·))
    (behind : ∀ earlier ∈ seen.executed, earlier < ctx.currentStepIndex)
    (ahead : seen.decisions = [] → engine.GateAhead gate ctx.currentStepIndex
      (sop.steps.drop ctx.currentStepIndex)) :
    (engine.run host rdf sop ctx).Heeds (lifeLease draws gate ctx.runId)
      (fun _ _ _ => True) .holder seen := by
  have running : ({ ctx with state := .running } : SOPRunContext).state = .running := rfl
  exact runSteps_heeds stores host rdf _ running going ascending behind ahead

/-- The decision on the suspended run was recorded, and nothing else has happened since. -/
structure Claimed (ctx : SOPRunContext) (record : FeedbackRecord) (now : RunView) : Prop where
  suspended : ∃ row, now.row = some row ∧ row.state = .suspended
  decisions : now.decisions = [record]
  ascending : now.executed.Pairwise (· < ·)
  behind : ∀ index ∈ now.executed, index ≤ ctx.currentStepIndex

theorem proceed_heeds (stores : engine.stateStore = true) (host : Host) (rdf : RdfLib)
    (sop : SOPDefinition) {record : FeedbackRecord} (claimed : Claimed ctx record seen) :
    (engine.proceed host rdf sop ctx record.decision).Heeds
      (lifeLease draws gate ctx.runId) (fun _ _ _ => True) .holder seen := by
  rcases claimed.suspended with ⟨row, found, suspended⟩
  unfold proceed
  split
  · rename_i rejects
    have stored : seen.row ≠ none := by
      rw [found]
      exact Option.some_ne_none row
    have saves := @save_heeds engine draws { ctx with state := .rejected } seen gate stores stored
      (fun row' rejected => .rejected found suspended claimed.decisions rejects rejected)
      claimed.ascending nofun
    apply Coro.heeds_bind saves
    · exact fun _ _ _ _ => trivial
    · exact fun _ _ _ _ => trivial
  · rename_i approves
    have behind : ∀ earlier ∈ seen.executed, earlier < ctx.currentStepIndex + 1 :=
      fun earlier mem => Nat.lt_succ_of_le (claimed.behind earlier mem)
    exact @run_heeds engine draws { ctx with
      state := .approved, currentStepIndex := ctx.currentStepIndex + 1 } seen gate stores host rdf
      sop (.approved found suspended claimed.decisions approves) claimed.ascending behind
      fun undecided => nomatch claimed.decisions.symm.trans undecided

/-- As long as there is no decision, the run is found as the context says. -/
def Offers (gate : Option ℕ) (ctx : SOPRunContext) (seen : RunView) : Prop :=
  ctx.state = .suspended → ∀ now, ReflTransGen (RunView.Moves gate) seen now → now.decisions = [] →
    now.Waiting ∧ now.row.bind StoredRun.context? = some ctx

/-- A context that was loaded is offered from then on. -/
theorem offers_of_loaded {world : EngineWorld} (wellNamed : world.state.WellNamed)
    (read : (runViewOf runId world).row.bind StoredRun.context? = some ctx) :
    Offers gate ctx (runViewOf runId world) := by
  intro suspended now moved undecided
  rcases Option.bind_eq_some_iff.mp read with ⟨row, found, document⟩
  have state : row.state = .suspended :=
    (wellNamed runId row ctx found document).2.symm.trans suspended
  have same := RunView.waits_until_decided found state moved undecided
  subst same
  exact ⟨⟨⟨row, found, state⟩, undecided⟩, read⟩

theorem insertFeedback_heeds (host : Host) {decision : Str} {reason approverId : Json}
    (suspended : ctx.state = .suspended) (offers : Offers gate ctx seen) :
    (Coro.sync (insertFeedback host (ctx.answer decision reason approverId) decision reason
      approverId)).Heeds (lifeLease draws gate ctx.runId)
      (fun result role now => result = .ok () → role = .holder ∧ ∃ record,
        record.decision = decision ∧ Claimed ctx record now) .onlooker seen := by
  apply Coro.heeds_sync
  rintro world ⟨wellNamed, orderly, undrawn⟩ later known
  rcases inserted : insertFeedback host (ctx.answer decision reason approverId) decision reason
    approverId world with ⟨exc | ⟨⟩, final⟩
  · rw [inserted] at later
    have same := @runLease_same draws ctx.runId (RunView.lifecycle draws gate) world final
      (congrArg EngineState.records (insertFeedback_error inserted)) later
      ⟨wellNamed, orderly, undrawn⟩
    refine ⟨same.1, .onlooker, ?_, nofun⟩
    rw [same.2]
    exact Lease.allows_refl nofun
  · rcases insertFeedback_recorded inserted with
      ⟨undecided, ⟨record, decides, row⟩, -, -, runs, history⟩
    rcases offers suspended _ known undecided with ⟨waits, read⟩
    have decisions : FeedbackTable.rowsOf ctx.runId final.state.feedback = [record] := row
    have view : runViewOf ctx.runId final =
        { runViewOf ctx.runId world with decisions := [record] } := by
      simp [runViewOf, EngineState.runView, decisions, runs, history]
    have moved : RunView.Moves gate (runViewOf ctx.runId world) (runViewOf ctx.runId final) :=
      view ▸ .decided waits (decides ▸ (insertFeedback_appends inserted).1)
    have decided : (runViewOf ctx.runId final).decisions ≠ [] := by simp [view]
    have wellNamed' : final.state.WellNamed := by
      rw [EngineState.WellNamed, runs]
      exact wellNamed
    have orderly' : (runViewOf ctx.runId final).Orderly :=
      ⟨view ▸ orderly.ascending, fun undecided' => absurd undecided' decided⟩
    rcases waits.suspended with ⟨row, found, -⟩
    have stored : (runViewOf ctx.runId world).row ≠ none := by
      intro absent
      cases found.symm.trans absent
    have kept : (runViewOf ctx.runId final).row ≠ none := by
      rw [view]
      exact stored
    have undrawn' := undrawn.of_found stored (inserted ▸ later)
    refine ⟨⟨wellNamed', orderly', undrawn'⟩, .holder,
      ⟨.inr ⟨.inr (.inl waits), moved⟩, fun _ => ?_⟩, fun _ => ?_⟩
    · exact ⟨.inr (.inl waits), fun free => decided (free.waiting kept).undecided⟩
    · refine ⟨rfl, record, decides, ?_⟩
      change Claimed ctx record (runViewOf ctx.runId final)
      rw [view]
      exact ⟨waits.suspended, rfl, orderly.ascending, orderly.behind undecided ctx read suspended⟩

/-- A decision is made on the run that is waiting, or not at all. -/
theorem resume_heeds (records : engine.feedbackDb = true) (stores : engine.stateStore = true)
    (host : Host) (rdf : RdfLib) (sop : SOPDefinition) (decision : Str) (reason approverId : Json)
    (offers : Offers gate ctx seen) :
    (engine.resume host rdf sop ctx decision reason approverId).Heeds
      (lifeLease draws gate ctx.runId) (fun _ _ _ => True) .onlooker seen := by
  by_cases suspended : ctx.state = .suspended
  · rw [resume_recording suspended records]
    apply Coro.heeds_bind (insertFeedback_heeds host suspended offers)
    · intro _ role now recorded
      rcases recorded rfl with ⟨rfl, record, rfl, claimed⟩
      have claimed' : Claimed (ctx.answer record.decision reason approverId) record now :=
        ⟨claimed.suspended, claimed.decisions, claimed.ascending, claimed.behind⟩
      exact proceed_heeds stores host rdf sop claimed'
    · exact fun _ _ _ _ => trivial
  · rcases resume_going suspended host rdf engine sop decision reason approverId with ⟨exc, raises⟩
    rw [raises]
    trivial

theorem eq_of_map_ok {α : Type} {outcome : Except Exc α} {ctx ctx' : SOPRunContext}
    (returned : (outcome.map fun _ => ctx) = .ok ctx') : ctx' = ctx := by
  rcases outcome with exc | value
  · cases returned
  · exact (Except.ok.inj returned).symm

/-- What the creation of a run leaves behind for the task that created it. -/
def CreatedRun (runId : Str) (result : Except Exc SOPRunContext) (role : Lease.Role)
    (now : RunView) : Prop :=
  ∀ ctx, result = .ok ctx → ctx.runId ≠ runId ∧ role = .onlooker ∨
    ctx.runId = runId ∧ ctx.currentStepIndex = 0 ∧ role = .holder ∧ now.Going ∧ now.executed = []

/-- A task that may create the run has the lease on it when it has done so. -/
theorem save_created (stores : engine.stateStore = true) {role : Lease.Role} {world : EngineWorld}
    (wellNamed : world.state.WellNamed) (spent : ∀ tick, world.tick ≤ tick → ¬ draws tick)
    (pending : ctx.state = .pending) (first : ctx.currentStepIndex = 0)
    (unused : (runViewOf ctx.runId world).Unused)
    (may : role = .holder ∨ (runViewOf ctx.runId world).Free draws) :
    (lifeLease draws gate ctx.runId).Sound (engine.save ctx world).2 ∧ ∃ role',
      (lifeLease draws gate ctx.runId).Allows role role' (runViewOf ctx.runId world)
        (runViewOf ctx.runId (engine.save ctx world).2) ∧
      CreatedRun ctx.runId ((engine.save ctx world).1.map fun _ => ctx) role'
        (runViewOf ctx.runId (engine.save ctx world).2) := by
  have executed : (runViewOf ctx.runId (engine.save ctx world).2).executed = [] :=
    (save_frame stores ctx world).2.trans unused.unvisited
  have orderly : (runViewOf ctx.runId (engine.save ctx world).2).Orderly :=
    ⟨by simp [executed], by simp [executed]⟩
  have undrawn : Undrawn draws ctx.runId (engine.save ctx world).2 := by
    intro tick reached drawn
    have same : (engine.save ctx world).2.tick = world.tick := save_tick rfl
    rw [same] at reached
    exact absurd drawn (spent tick reached)
  refine ⟨⟨save_wellNamed engine ctx wellNamed, orderly, undrawn⟩, ?_⟩
  rcases save_runView stores ctx world with
    ⟨-, row, state, -, -, view⟩ | ⟨-, ⟨exc, raised⟩, view⟩
  · have moved : RunView.Moves gate (runViewOf ctx.runId world)
        (runViewOf ctx.runId (engine.save ctx world).2) :=
      view ▸ .created unused.absent (state.trans pending)
    have going : (runViewOf ctx.runId (engine.save ctx world).2).Going :=
      .fresh (by rw [view]) (state.trans pending)
    refine ⟨.holder, ⟨.inr ⟨may, moved⟩, fun _ => ⟨may, going.not_free⟩⟩, ?_⟩
    intro ctx' returned
    cases eq_of_map_ok returned
    exact .inr ⟨rfl, first, rfl, going, executed⟩
  · refine ⟨.onlooker, ⟨.inl view, nofun⟩, ?_⟩
    rw [raised]
    nofun

/-- A run is created under the id that is asked for. -/
theorem createRun_heeds (stores : engine.stateStore = true) (host : Host) (sop : SOPDefinition)
    (data : Dict Str Json) (named : runId ≠ []) (unused : seen.Unused)
    (undrawn : ∀ tick, ¬ draws tick) :
    (Coro.sync (engine.createRun host sop data (some runId))).Heeds (lifeLease draws gate runId)
      (CreatedRun runId) .holder seen := by
  apply Coro.heeds_sync
  rintro world ⟨wellNamed, -, -⟩ - known
  rcases createRun_saves host engine sop data (some runId) world with
    ⟨ctx, tick, created, -, pending, first, -, world', result⟩
  rw [Creates, if_pos named] at created
  subst created
  have start : runViewOf ctx.runId ⟨tick, world.state⟩ = seen := known
  subst start
  rw [world', result]
  exact save_created stores wellNamed (fun tick _ => undrawn tick) pending first unused (.inl rfl)

/-- A run is created under an id that is drawn, which may be the one in question, but only once. -/
theorem createRun_draws (stores : engine.stateStore = true) (sop : SOPDefinition)
    (data : Dict Str Json) {given : Option Str} (unnamed : Unnamed given)
    (drawn : ∀ tick, host.uuid4 tick = runId → draws tick)
    (once : ∀ tick tick', draws tick → draws tick' → tick = tick') :
    (Coro.sync (engine.createRun host sop data given)).Heeds (lifeLease draws gate runId)
      (CreatedRun runId) .onlooker seen := by
  apply Coro.heeds_sync
  rintro world ⟨wellNamed, orderly, undrawn⟩ later known
  rcases createRun_saves host engine sop data given world with
    ⟨ctx, tick, -, draw, pending, first, -, world', result⟩
  rcases draw unnamed with ⟨id, rfl⟩
  rw [world'] at later
  rw [world', result]
  by_cases mine : ctx.runId = runId
  · subst mine
    have here : draws world.tick := drawn world.tick id.symm
    have unused : (runViewOf ctx.runId world).Unused := undrawn world.tick le_rfl here
    have spent : ∀ tick, world.tick + 1 ≤ tick → ¬ draws tick := by
      intro tick passed again
      have same := once world.tick tick here again
      omega
    exact save_created stores wellNamed spent pending first unused
      (.inr (.inr ⟨unused.absent, world.tick, here⟩))
  · have same := save_others engine mine ⟨world.tick + 1, world.state⟩
    have kept := @runLease_view draws runId (RunView.lifecycle draws gate) world _ same
      (save_wellNamed engine ctx wellNamed) later ⟨wellNamed, orderly, undrawn⟩
    refine ⟨kept.1, .onlooker, ?_, ?_⟩
    · rw [kept.2]
      exact Lease.allows_refl nofun
    · intro ctx' returned
      cases eq_of_map_ok returned
      exact .inl ⟨mine, rfl⟩

end Own

end SOPEngine

end AgentOS
