import AgentOS.Service.EngineUse
import AgentOS.Workflow.Decisions
import AgentOS.Workflow.Lifecycle

/-!
# The audit trail

The context of a run bears the decision on it, and the feedback database has a row for every
decision. The two are written one after the other, while other calls go on. Whatever the order,
a stored run never bears a decision that is not on record, and a run is only stored as rejected
behind a decision that rejects it, so that the dashboard never counts fewer rejections than runs.
-/

namespace AgentOS

open Python Cooperative Relation

variable {host : Host}

/-- The row shows the decision that the context bears, its reviewer and its reason. -/
structure Attests (host : Host) (ctx : SOPRunContext) (decision : Str) (record : FeedbackRecord) :
    Prop where
  trace : record.traceId = ctx.runId
  decides : record.decision = decision
  who : bindText host 2 ctx.approverId = .ok (some record.reviewer)
  why : bindText host 4 ctx.approvalReason = .ok record.reason

/-- The contexts belong to one run and say the same of a decision. -/
structure SOPRunContext.SameAnswer (ctx ctx' : SOPRunContext) : Prop where
  runId : ctx.runId = ctx'.runId
  result : ctx.approvalResult = ctx'.approvalResult
  reason : ctx.approvalReason = ctx'.approvalReason
  approver : ctx.approverId = ctx'.approverId

/-- What the context says of a decision is on record. -/
structure OnRecord (host : Host) (feedback : FeedbackTable) (ctx : SOPRunContext) : Prop where
  decided : ∀ decision, ctx.approvalResult = some decision →
    ∃ record ∈ feedback, Attests host ctx decision record
  rejected : ctx.state = .rejected → ctx.approvalResult = some (py "REJECTED")

/-- Every stored run was written from a context whose decision is on record. -/
def EngineState.Audited (host : Host) (engine : EngineState) : Prop :=
  ∀ runId row, engine.runs.get? runId = some row → ∃ ctx : SOPRunContext, ctx.runId = runId ∧
    row.state = ctx.state ∧ row.contextJson = ctx.toJson ∧ OnRecord host engine.feedback ctx

/-- No record is lost, and the stored runs stay on record. -/
structure AuditStep (host : Host) (world world' : EngineWorld) : Prop where
  grows : world.state.feedback ⊆ world'.state.feedback
  audited : world.state.Audited host → world'.state.Audited host

/-- The decision on every run that is stored as rejected is on record. -/
def EngineState.RejectionsRecorded (engine : EngineState) : Prop :=
  ∀ runId row, engine.runs.get? runId = some row → row.state = .rejected →
    ∃ record ∈ engine.feedback, record.traceId = runId ∧ record.decision = py "REJECTED"

/-- No record is lost, and the rejected runs stay on record. -/
structure RejectionStep (world world' : EngineWorld) : Prop where
  grows : world.state.feedback ⊆ world'.state.feedback
  recorded : world.state.RejectionsRecorded → world'.state.RejectionsRecorded

theorem onRecord_of_undecided {feedback : FeedbackTable} {ctx : SOPRunContext}
    (undecided : ctx.approvalResult = none) (open' : ctx.state ≠ .rejected) :
    OnRecord host feedback ctx where
  decided := by
    intro decision decides
    rw [undecided] at decides
    cases decides
  rejected := fun rejected => absurd rejected open'

namespace OnRecord

variable {feedback feedback' : FeedbackTable} {ctx ctx' : SOPRunContext}

theorem grows (recorded : OnRecord host feedback ctx) (more : feedback ⊆ feedback') :
    OnRecord host feedback' ctx where
  decided := by
    intro decision decides
    rcases recorded.decided decision decides with ⟨record, mem, attests⟩
    exact ⟨record, more mem, attests⟩
  rejected := recorded.rejected

/-- A context that bears the same answer and is not rejected. -/
theorem of_same (recorded : OnRecord host feedback ctx) (answer : ctx'.SameAnswer ctx)
    (open' : ctx'.state ≠ .rejected) : OnRecord host feedback ctx' where
  decided := by
    intro decision decides
    rw [answer.result] at decides
    rcases recorded.decided decision decides with ⟨record, mem, trace, decided, who, why⟩
    exact ⟨record, mem, trace.trans answer.runId.symm, decided, answer.approver ▸ who,
      answer.reason ▸ why⟩
  rejected := fun rejected => absurd rejected open'

/-- The answered context bears the decision that the row shows. -/
theorem of_attests {decision : Str} {reason approverId : Json} {record : FeedbackRecord}
    {state : SOPRunState} (mem : record ∈ feedback)
    (attests : Attests host (ctx.answer decision reason approverId) decision record)
    (rejects : state = .rejected → decision = py "REJECTED") :
    OnRecord host feedback { ctx.answer decision reason approverId with state } where
  decided := by
    rintro _ ⟨⟩
    exact ⟨record, mem, attests.trace, attests.decides, attests.who, attests.why⟩
  rejected := fun rejected => congrArg some (rejects rejected)

end OnRecord

namespace AuditStep

theorem of_same {world world' : EngineWorld} (runs : world'.state.runs = world.state.runs)
    (feedback : world'.state.feedback = world.state.feedback) : AuditStep host world world' where
  grows := by rw [feedback]; exact fun _ mem => mem
  audited := by
    intro audited
    rw [EngineState.Audited, runs, feedback]
    exact audited

theorem of_steps {world world' : EngineWorld}
    (moved : ReflTransGen (AuditStep host) world world') : AuditStep host world world' := by
  induction moved with
  | refl => exact .of_same rfl rfl
  | tail _ step ih => exact ⟨fun _ mem => step.grows (ih.grows mem), fun audited =>
      step.audited (ih.audited audited)⟩

end AuditStep

/-- A save leaves the decisions alone, and stores at most the row of its context. -/
theorem SOPEngine.save_found (engine : SOPEngine) (ctx : SOPRunContext) (world : EngineWorld) :
    (engine.save ctx world).2.state.feedback = world.state.feedback ∧
      ∀ runId row, (engine.save ctx world).2.state.runs.get? runId = some row →
        world.state.runs.get? runId = some row ∨
          ctx.runId = runId ∧ row.state = ctx.state ∧ row.contextJson = ctx.toJson := by
  unfold SOPEngine.save
  split
  · simp only [Action.bind_apply, Timed.view_apply, ofExcept_apply]
    rcases RunTable.saveState_cases ctx world.state.runs with
      ⟨encoded, stored⟩ | ⟨-, exc, refused⟩
    · rw [stored]
      refine ⟨rfl, ?_⟩
      intro runId row found
      change (Dict.set world.state.runs ctx.runId _).get? runId = some row at found
      by_cases same : runId = ctx.runId
      · rw [same, Dict.get?_set_self] at found
        cases found
        exact .inr ⟨same.symm, rfl, rfl⟩
      · rw [Dict.get?_set_of_ne _ _ same] at found
        exact .inl found
    · rw [refused]
      exact ⟨rfl, fun _ _ found => .inl found⟩
  · exact ⟨rfl, fun _ _ found => .inl found⟩

theorem auditStep_save (engine : SOPEngine) {ctx : SOPRunContext} {world : EngineWorld} (tick : ℕ)
    (recorded : OnRecord host world.state.feedback ctx) :
    AuditStep host world (engine.save ctx ⟨tick, world.state⟩).2 := by
  rcases engine.save_found ctx ⟨tick, world.state⟩ with ⟨feedback, rows⟩
  refine ⟨by rw [feedback]; exact fun _ mem => mem, ?_⟩
  intro audited runId row found
  rw [feedback]
  rcases rows runId row found with old | ⟨named, state, document⟩
  · exact audited runId row old
  · exact ⟨ctx, named, state, document, recorded⟩

theorem EngineState.Audited.loaded {engine : EngineState} (audited : engine.Audited host)
    {runId : Json} {ctx : SOPRunContext}
    (loaded : RunTable.loadState host runId engine.runs = .ok (some ctx)) :
    OnRecord host engine.feedback ctx := by
  rcases bound : bindText host 1 runId with exc | _ | key
  · simp [RunTable.loadState, bound, bind, Except.bind] at loaded
  · simp [RunTable.loadState, bound, bind, Except.bind, pure, Except.pure] at loaded
  · simp only [RunTable.loadState, bound, bind, Except.bind, pure, Except.pure,
      Except.ok.injEq, Option.bind_eq_some_iff] at loaded
    rcases loaded with ⟨row, found, read⟩
    rcases audited key row found with ⟨written, -, -, document, recorded⟩
    rw [StoredRun.context?, document, SOPRunContext.ofJson_toJson] at read
    split at read <;> cases read
    exact recorded

/-- Whatever run is loaded, the decision that it bears is on record. -/
def EngineState.Answerable (host : Host) (engine : EngineState) : Prop :=
  ∀ runId ctx decision, RunTable.loadState host runId engine.runs = .ok (some ctx) →
    ctx.approvalResult = some decision →
      ∃ record ∈ engine.feedback, Attests host ctx decision record

namespace SOPEngine

variable {rdf : RdfLib} {engine : SOPEngine} {ctx : SOPRunContext}

def auditView (engine : EngineState) : RunTable × FeedbackTable := (engine.runs, engine.feedback)

/--
A relation along which an engine moves, and the contexts that it may store on its way: they stay
so, a new one is, one that goes on with the same answer is, and so is one whose decision was
recorded.
-/
structure Stores (host : Host) (engine : SOPEngine) (step : EngineWorld → EngineWorld → Prop)
    (kept : EngineWorld → SOPRunContext → Prop) : Prop where
  idle : ∀ world world' : EngineWorld, auditView world'.state = auditView world.state →
    step world world'
  saves : ∀ (ctx : SOPRunContext) (world : EngineWorld) (tick : ℕ), kept world ctx →
    step world (engine.save ctx ⟨tick, world.state⟩).2
  lasts : ∀ (ctx : SOPRunContext) (world world' : EngineWorld), kept world ctx →
    ReflTransGen step world world' → kept world' ctx
  begins : ∀ (ctx : SOPRunContext) (world : EngineWorld), ctx.approvalResult = none →
    ctx.state ≠ .rejected → kept world ctx
  goesOn : ∀ (ctx ctx' : SOPRunContext) (world : EngineWorld), kept world ctx →
    ctx'.SameAnswer ctx → ctx'.state ≠ .rejected → kept world ctx'
  inserts : ∀ (ctx : SOPRunContext) (decision : Str) (reason approverId : Json)
    (world : EngineWorld), step world (insertFeedback host ctx decision reason approverId world).2
  answers : ∀ (ctx : SOPRunContext) (decision : Str) (reason approverId : Json)
    (world recorded : EngineWorld) (state : SOPRunState),
    insertFeedback host (ctx.answer decision reason approverId) decision reason approverId world =
      (.ok (), recorded) → (state = .rejected → decision = py "REJECTED") →
    kept recorded { ctx.answer decision reason approverId with state }

/-- A step of a run leaves the answer alone. -/
theorem sameAnswer_of_stepped {sopStep : SOPStep} {outcome : StepOutcome}
    (stepped : Stepped sopStep ctx outcome) : outcome.2.SameAnswer ctx := by
  cases stepped with
  | went | suspended => exact ⟨rfl, rfl, rfl, rfl⟩

section Stores

variable {step : EngineWorld → EngineWorld → Prop} {kept : EngineWorld → SOPRunContext → Prop}
  (stores : Stores host engine step kept)

include stores

theorem Stores.of_keeps {α : Type} {ends : Except Exc α → Prop} {body : Coro Exc EngineWorld α}
    (keeps : body.Keeps (fun world => auditView world.state) ends) (origin : EngineWorld) :
    body.Steps step (fun result _ => ends result) origin :=
  keeps.steps stores.idle origin

theorem Stores.save_steps {origin : EngineWorld} (held : kept origin ctx) :
    (Coro.sync (engine.save ctx)).Steps step (fun _ _ => True) origin := by
  apply Coro.steps_sync
  intro world since
  exact ⟨stores.saves ctx world world.tick (stores.lasts ctx origin world held since), trivial⟩

/-- The loop stores contexts that may be stored. -/
theorem Stores.runSteps_steps (rdf : RdfLib) (steps : List SOPStep) (index : ℕ)
    {origin : EngineWorld} (held : kept origin ctx) (open' : ctx.state ≠ .rejected) :
    (engine.runSteps host rdf steps index ctx).Steps step (fun _ _ => True) origin := by
  induction steps generalizing index ctx origin with
  | nil =>
      have completed : kept origin { ctx with state := .completed } :=
        stores.goesOn ctx _ origin held ⟨rfl, rfl, rfl, rfl⟩ nofun
      apply Coro.steps_bind (stores.save_steps completed)
      · exact fun _ _ _ _ => trivial
      · exact fun _ _ _ => trivial
  | cons sopStep rest ih =>
      have noted : (Coro.sync (note (.executing ctx.runId index ctx.data))).Steps step
          (fun _ _ => True) origin :=
        stores.of_keeps (Coro.keeps_sync (fun _ => rfl) fun _ => trivial) origin
      apply Coro.steps_bind noted
      · intro _ world since _
        have begun : kept world { ctx with currentStepIndex := index } :=
          stores.goesOn ctx _ world (stores.lasts ctx origin world held since)
            ⟨rfl, rfl, rfl, rfl⟩ open'
        have executes := @executeStep_keeps_view _ auditView sopStep (fun _ _ => rfl)
          (fun _ _ _ => rfl) host rdf engine { ctx with currentStepIndex := index }
        apply Coro.steps_bind (stores.of_keeps executes world)
        · rintro ⟨outcome, ctx'⟩ world' since ⟨_, ⟨⟩, stepped⟩
          have open'' : ctx'.state ≠ .rejected := by
            cases stepped with
            | went => exact open'
            | suspended => exact nofun
          have held' : kept world' ctx' :=
            stores.goesOn _ ctx' world' (stores.lasts _ world world' begun since)
              (sameAnswer_of_stepped stepped) open''
          rcases outcome with exc | result
          · dsimp only
            split
            · have failed : kept world' (ctx'.fail exc.message) :=
                stores.goesOn ctx' _ world' held' ⟨rfl, rfl, rfl, rfl⟩ nofun
              apply Coro.steps_bind (stores.save_steps failed)
              · exact fun _ _ _ _ => trivial
              · exact fun _ _ _ => trivial
            · trivial
          · have logged : kept world' (ctx'.logResult sopStep result) :=
              stores.goesOn ctx' _ world' held' ⟨rfl, rfl, rfl, rfl⟩ open''
            apply Coro.steps_bind (stores.save_steps logged)
            · intro _ world'' since' _
              split
              · trivial
              · exact ih (index + 1) (stores.lasts _ world' world'' logged since') open''
            · exact fun _ _ _ => trivial
        · exact fun _ _ _ => trivial
      · exact fun _ _ _ => trivial

theorem Stores.run_steps (rdf : RdfLib) (sop : SOPDefinition) {origin : EngineWorld}
    (held : kept origin { ctx with state := .running }) :
    (engine.run host rdf sop ctx).Steps step (fun _ _ => True) origin :=
  stores.runSteps_steps rdf _ _ held (by simp)

/-- A decision is recorded before anything is stored that bears it. -/
theorem Stores.resume_steps (records : engine.feedbackDb = true) (rdf : RdfLib)
    (sop : SOPDefinition) (decision : Str) (reason approverId : Json) (origin : EngineWorld) :
    (engine.resume host rdf sop ctx decision reason approverId).Steps step (fun _ _ => True)
      origin := by
  unfold resume
  split
  · trivial
  dsimp only
  have inserted : (Coro.sync (insertFeedback host (ctx.answer decision reason approverId) decision
      reason approverId)).Steps step (fun result world => result = .ok () →
        ∀ state, (state = .rejected → decision = py "REJECTED") →
          kept world { ctx.answer decision reason approverId with state }) origin := by
    apply Coro.steps_sync
    intro world _
    refine ⟨stores.inserts _ decision reason approverId world, ?_⟩
    intro recorded state rejects
    apply stores.answers ctx decision reason approverId world _ state _ rejects
    rw [← recorded]
  apply Coro.steps_bind inserted
  · intro _ world _ answered
    unfold proceed
    split
    · rename_i rejects
      apply Coro.steps_bind (stores.save_steps (answered rfl .rejected fun _ => rejects))
      · exact fun _ _ _ _ => trivial
      · exact fun _ _ _ => trivial
    · apply stores.run_steps rdf sop
      exact stores.goesOn _ _ world (answered rfl .running nofun) ⟨rfl, rfl, rfl, rfl⟩ nofun
  · exact fun _ _ _ => trivial

theorem Stores.createRun_steps (sop : SOPDefinition) (data : Dict Str Json) (runId : Option Str)
    (origin : EngineWorld) :
    (Coro.sync (engine.createRun host sop data runId)).Steps step
      (fun result world => ∀ ctx, result = .ok ctx → kept world ctx) origin := by
  apply Coro.steps_sync
  intro world _
  rcases createRun_saves host engine sop data runId world with
    ⟨ctx, tick, -, -, pending, -, undecided, saved, returned⟩
  have fresh : ∀ world, kept world ctx :=
    fun world => stores.begins ctx world undecided (by simp [pending])
  rw [saved]
  refine ⟨stores.saves ctx world tick (fresh world), ?_⟩
  intro ctx' result
  rw [returned] at result
  revert result
  rcases (engine.save ctx ⟨tick, world.state⟩).1 with exc | value
  · rintro ⟨⟩
  · rintro ⟨⟩
    exact fresh _

/-- The calls of an engine that records its decisions move along the relation. -/
theorem Stores.movesBy (records : engine.feedbackDb = true) (rdf : RdfLib) :
    engine.MovesBy host rdf step where
  idle := by
    intro world world' same
    simp only [recordsOf, EngineState.records, Prod.mk.injEq] at same
    exact stores.idle world world' (Prod.ext same.1 same.2.1)
  begins := by
    intro sop data runId origin
    apply Coro.steps_bind (stores.createRun_steps sop data runId origin)
    · intro ctx world _ held
      apply stores.run_steps rdf sop
      exact stores.goesOn ctx _ world (held ctx rfl) ⟨rfl, rfl, rfl, rfl⟩ nofun
    · exact fun _ _ _ => trivial
  resumes := fun sop _ decision reason approverId origin =>
    stores.resume_steps records rdf sop decision reason approverId origin

end Stores

/-- The row of a decision shows what the answered context bears. -/
theorem attests_of_bindRecord {decision output timestamp : Str} {reason approverId : Json}
    {record : FeedbackRecord}
    (bound : FeedbackTable.bindRecord host ctx.runId approverId decision reason output timestamp =
      .ok record) : Attests host (ctx.answer decision reason approverId) decision record := by
  rcases FeedbackTable.bindRecord_ok bound with ⟨trace, decides, -, -⟩
  simp only [FeedbackTable.bindRecord, bind, Except.bind, pure, Except.pure] at bound
  repeat' split at bound
  all_goals cases bound
  exact ⟨trace, decides, ‹bindText host 2 approverId = _›, ‹bindText host 4 reason = _›⟩

/-- Recording a decision changes nothing, or adds a row. -/
theorem insertFeedback_grows (host : Host) (ctx : SOPRunContext) (decision : Str)
    (reason approverId : Json) (world : EngineWorld) :
    (insertFeedback host ctx decision reason approverId world).2.state.runs = world.state.runs ∧
      world.state.feedback ⊆
        (insertFeedback host ctx decision reason approverId world).2.state.feedback := by
  rcases inserted : insertFeedback host ctx decision reason approverId world with
    ⟨exc | ⟨⟩, recorded⟩
  · have same := insertFeedback_error inserted
    rw [same]
    exact ⟨rfl, fun _ mem => mem⟩
  · rcases insertFeedback_appends inserted with ⟨-, record, -, state⟩
    rw [state]
    exact ⟨rfl, fun _ mem => List.mem_append_left _ mem⟩

theorem audits_stores (host : Host) (engine : SOPEngine) :
    Stores host engine (AuditStep host) fun world ctx =>
      OnRecord host world.state.feedback ctx where
  idle := by
    intro world world' same
    simp only [auditView, Prod.mk.injEq] at same
    exact .of_same same.1 same.2
  saves := fun ctx world tick recorded => auditStep_save engine tick recorded
  lasts := fun ctx world world' recorded moved => recorded.grows (AuditStep.of_steps moved).grows
  begins := fun ctx world undecided open' => onRecord_of_undecided undecided open'
  goesOn := fun ctx ctx' world recorded same open' => recorded.of_same same open'
  inserts := by
    intro ctx decision reason approverId world
    rcases insertFeedback_grows host ctx decision reason approverId world with ⟨runs, more⟩
    refine ⟨more, ?_⟩
    intro audited runId row found
    rw [runs] at found
    rcases audited runId row found with ⟨written, named, state, document, recorded⟩
    exact ⟨written, named, state, document, recorded.grows more⟩
  answers := by
    intro ctx decision reason approverId world recorded state inserted rejects
    rcases insertFeedback_appends inserted with ⟨-, record, bound, shape⟩
    rw [shape]
    exact .of_attests (List.mem_append_right _ List.mem_cons_self) (attests_of_bindRecord bound)
      rejects

theorem rejectionStep_of_steps {world world' : EngineWorld}
    (moved : ReflTransGen RejectionStep world world') : RejectionStep world world' := by
  induction moved with
  | refl => exact ⟨fun _ mem => mem, id⟩
  | tail _ step ih => exact ⟨fun _ mem => step.grows (ih.grows mem), fun recorded =>
      step.recorded (ih.recorded recorded)⟩

/-- Only a rejected context has to have its decision on record. -/
theorem rejections_stores (host : Host) (engine : SOPEngine) :
    Stores host engine RejectionStep fun world ctx => ctx.state = .rejected →
      ∃ record ∈ world.state.feedback, record.traceId = ctx.runId ∧
        record.decision = py "REJECTED" where
  idle := by
    intro world world' same
    simp only [auditView, Prod.mk.injEq] at same
    refine ⟨by rw [same.2]; exact fun _ mem => mem, ?_⟩
    intro recorded
    rwa [EngineState.RejectionsRecorded, same.1, same.2]
  saves := by
    intro ctx world tick held
    rcases engine.save_found ctx ⟨tick, world.state⟩ with ⟨feedback, rows⟩
    refine ⟨by rw [feedback]; exact fun _ mem => mem, ?_⟩
    intro recorded runId row found rejected
    rw [feedback]
    rcases rows runId row found with old | ⟨rfl, state, -⟩
    · exact recorded runId row old rejected
    · exact held (state.symm.trans rejected)
  lasts := by
    intro ctx world world' held moved rejected
    rcases held rejected with ⟨record, mem, named, decides⟩
    exact ⟨record, (rejectionStep_of_steps moved).grows mem, named, decides⟩
  begins := fun _ _ _ open' rejected => absurd rejected open'
  goesOn := fun _ _ _ _ _ open' rejected => absurd rejected open'
  inserts := by
    intro ctx decision reason approverId world
    rcases insertFeedback_grows host ctx decision reason approverId world with ⟨runs, more⟩
    refine ⟨more, ?_⟩
    intro recorded runId row found rejected
    rw [runs] at found
    rcases recorded runId row found rejected with ⟨record, mem, named, decides⟩
    exact ⟨record, more mem, named, decides⟩
  answers := by
    intro ctx decision reason approverId world recorded state inserted rejects rejected
    rcases insertFeedback_appends inserted with ⟨-, record, bound, shape⟩
    rcases FeedbackTable.bindRecord_ok bound with ⟨named, decides, -, -⟩
    rw [shape]
    exact ⟨record, List.mem_append_right _ List.mem_cons_self, named,
      decides.trans (rejects rejected)⟩

end SOPEngine

/-- A context that is run says nothing of a decision that is not on record. -/
def Service.Call.Truthful (host : Host) (feedback : FeedbackTable) : Service.Call → Prop
  | .run _ ctx => OnRecord host feedback ctx
  | _ => True

namespace FeedbackTable

/-- `count_by_decision`. -/
def countByDecision (host : Host) (decision : Str) (table : FeedbackTable) : Except Exc ℕ := do
  let decision ← host.encode decision
  return (table.filter fun record => record.decision = decision).length

end FeedbackTable

/-- When every rejection is on record, no fewer are counted than there are rejected runs. -/
theorem EngineState.RejectionsRecorded.count_le {engine : EngineState}
    (recorded : engine.RejectionsRecorded) :
    (engine.runs.entries.filter fun entry => entry.2.state.value = py "REJECTED").length ≤
      (engine.feedback.filter fun record => record.decision = py "REJECTED").length := by
  let rejected := engine.runs.entries.filter fun entry => entry.2.state.value = py "REJECTED"
  let decided := engine.feedback.filter fun record => record.decision = py "REJECTED"
  have distinct : (rejected.map Prod.fst).Nodup :=
    engine.runs.nodup.sublist (List.filter_sublist.map _)
  have traced : rejected.map Prod.fst ⊆ decided.map FeedbackRecord.traceId := by
    intro runId mem
    rcases List.mem_map.mp mem with ⟨⟨runId, row⟩, listed, rfl⟩
    rcases List.mem_filter.mp listed with ⟨stored, state⟩
    have rejects : row.state = .rejected := by
      rcases shape : row.state <;> simp [shape, SOPRunState.value] at state <;> first
        | rfl
        | exact absurd state (by decide)
    rcases recorded runId row (Dict.get?_of_mem stored) rejects with ⟨record, kept, named, decides⟩
    exact List.mem_map.mpr ⟨record, List.mem_filter.mpr ⟨kept, decide_eq_true decides⟩, named⟩
  have fewer := (distinct.subperm traced).length_le
  rwa [List.length_map, List.length_map] at fewer

/-- A context that the request runs says nothing of a decision that is not on record. -/
def ServiceRequest.Truthful (host : Host) (feedback : FeedbackTable) : ServiceRequest → Prop
  | .workflow call => call.Truthful host feedback
  | _ => True

/-- What `get_overview` returns. -/
structure Overview where
  totalSpendUsd : ℚ
  totalIntercepts : ℕ
  successfulWorkflows : ℕ

/-- `get_overview`, with `round(spend, 4)` given. -/
def getOverview {ν : Type} (host : Host) (round : ℚ → ℚ) (state : ServiceState ν) :
    Except Exc Overview := do
  let intercepts ← state.engine.feedback.countByDecision host (py "REJECTED")
  let successfulRuns ← state.engine.runs.countByState host (py "COMPLETED")
  return ⟨round state.fuse.spendUsd, intercepts, successfulRuns⟩

namespace ServiceBootstrap

variable {ν : Type} {rdf : RdfLib} {loads : Str → Except Exc Json} {boot : ServiceBootstrap ν}

theorem serve_audits (rdf : RdfLib) (loads : Str → Except Exc Json) (boot : ServiceBootstrap ν)
    {requests : ℕ → ServiceRequest} {start : ServiceWorld ν} (earlier later : List ℕ)
    (truthful : ∀ i, (requests i).Truthful host start.state.engine.feedback) :
    AuditStep host ((boot.serve host rdf loads requests start earlier).part ServiceState.engine)
      ((boot.serve host rdf loads requests start (earlier ++ later)).part
        ServiceState.engine) := by
  have stores := SOPEngine.audits_stores host boot.sopEngine
  apply AuditStep.of_steps
  apply serve_steps_later (stores.movesBy rfl rdf)
  intro i sop ctx runs
  have recorded := truthful i
  rw [runs] at recorded
  exact stores.run_steps rdf sop (recorded.of_same ⟨rfl, rfl, rfl, rfl⟩ nofun)

theorem serve_rejections (host : Host) (rdf : RdfLib) (loads : Str → Except Exc Json)
    (boot : ServiceBootstrap ν) (requests : ℕ → ServiceRequest) (start : ServiceWorld ν)
    (schedule : List ℕ) :
    RejectionStep (start.part ServiceState.engine)
      ((boot.serve host rdf loads requests start schedule).part ServiceState.engine) := by
  have stores := SOPEngine.rejections_stores host boot.sopEngine
  apply SOPEngine.rejectionStep_of_steps
  apply serve_steps (stores.movesBy rfl rdf)
  intro i sop ctx _
  apply stores.run_steps rdf sop
  intro rejected
  cases rejected

/--
Whatever the service works on and in whatever order: when a stored run bears a decision, the
feedback database has a row for it with the same reviewer and the same reason, and no row is
ever lost.
-/
theorem decisions_on_record (requests : ℕ → ServiceRequest) {start : ServiceWorld ν}
    (earlier later : List ℕ) (audited : start.state.engine.Audited host)
    (truthful : ∀ i, (requests i).Truthful host start.state.engine.feedback) :
    (boot.serve host rdf loads requests start earlier).state.engine.Audited host ∧
      (boot.serve host rdf loads requests start earlier).state.engine.Answerable host ∧
      (boot.serve host rdf loads requests start earlier).state.engine.feedback ⊆
        (boot.serve host rdf loads requests start (earlier ++ later)).state.engine.feedback := by
  have reached := (serve_audits rdf loads boot [] earlier truthful).audited audited
  refine ⟨reached, ?_, (serve_audits rdf loads boot earlier later truthful).grows⟩
  intro runId ctx decision loaded decides
  exact (EngineState.Audited.loaded reached loaded).decided decision decides

/-- The dashboard never shows fewer interceptions than there are rejected runs. -/
theorem rejections_counted (round : ℚ → ℚ) (requests : ℕ → ServiceRequest)
    {start : ServiceWorld ν} (schedule : List ℕ)
    (recorded : start.state.engine.RejectionsRecorded) :
    ∃ overview rejected,
      getOverview host round (boot.serve host rdf loads requests start schedule).state =
        .ok overview ∧
      RunTable.countByState host (py "REJECTED")
        (boot.serve host rdf loads requests start schedule).state.engine.runs = .ok rejected ∧
      rejected ≤ overview.totalIntercepts := by
  have reached := (serve_rejections host rdf loads boot requests start schedule).recorded recorded
  exact ⟨_, _, rfl, rfl, reached.count_le⟩

end ServiceBootstrap

namespace Sample

/-- A workflow is begun and rejected, by a request and by a click. -/
def decisionRequests : ℕ → ServiceRequest
  | 0 => .workflow (.create approvedWrite Dict.empty (some (py "run-1")))
  | 1 => .workflow (.resumeRequest (py "run-1") (.obj [(py "decision", .str (py "REJECTED"))]))
  | _ => .workflow (.cardCallback forgedClick)

theorem started_audited (database : Database) (feedback : FeedbackTable) :
    (ServiceBootstrap.started database Dict.empty feedback :
      ServiceWorld Unit).state.engine.Audited steadyHost := by
  intro runId row found
  cases found

theorem started_rejectionsRecorded (database : Database) (feedback : FeedbackTable) :
    (ServiceBootstrap.started database Dict.empty feedback :
      ServiceWorld Unit).state.engine.RejectionsRecorded := by
  intro runId row found
  cases found

theorem decisionRequests_truthful (feedback : FeedbackTable) (i : ℕ) :
    (decisionRequests i).Truthful steadyHost feedback := by
  rcases i with _ | _ | i <;> trivial

def decidedEngine (schedule : List ℕ) : EngineState :=
  (bootstrap.serve steadyHost rdf loadsNothing decisionRequests
    (ServiceBootstrap.started [] Dict.empty []) schedule).state.engine

/-- The row of the rejection is still there after the click that comes too late. -/
theorem rejection_on_record :
    (decidedEngine [0, 0, 0, 0, 0, 1, 1, 2, 1]).feedback ≠ [] ∧
    (decidedEngine [0, 0, 0, 0, 0, 1, 1, 2, 1]).Audited steadyHost ∧
    (decidedEngine [0, 0, 0, 0, 0, 1, 1, 2, 1]).Answerable steadyHost ∧
    (decidedEngine [0, 0, 0, 0, 0, 1, 1, 2, 1]).feedback ⊆
      (decidedEngine ([0, 0, 0, 0, 0, 1, 1, 2, 1] ++ [1, 1, 2])).feedback :=
  ⟨by decide +kernel, ServiceBootstrap.decisions_on_record decisionRequests _ _
    (started_audited [] []) (decisionRequests_truthful [])⟩

theorem rejection_counted :
    ∃ overview rejected,
      getOverview steadyHost id (bootstrap.serve steadyHost rdf loadsNothing decisionRequests
        (ServiceBootstrap.started [] Dict.empty []) [0, 0, 0, 0, 0, 1, 1, 2, 1, 1, 1, 2]).state =
        .ok overview ∧
      RunTable.countByState steadyHost (py "REJECTED") (bootstrap.serve steadyHost rdf loadsNothing
        decisionRequests (ServiceBootstrap.started [] Dict.empty [])
          [0, 0, 0, 0, 0, 1, 1, 2, 1, 1, 1, 2]).state.engine.runs = .ok rejected ∧
      rejected ≤ overview.totalIntercepts :=
  ServiceBootstrap.rejections_counted id decisionRequests _ (started_rejectionsRecorded [] [])

end Sample

end AgentOS
