import AgentOS.Service.Service
import AgentOS.Workflow.DecidedRun
import AgentOS.Workflow.Retry

/-!
# One decision for a suspended run

Card callbacks and requests of the API decide on one run, in any interleaving of their atomic
steps. At most one of them records its decision and goes on with the run; the others raise or
reply with an error, and change nothing.
-/

namespace AgentOS

open Python Cooperative

namespace Service

variable (host : Host) (rdf : RdfLib) (service : Service)

/-- The call is a decision on the run: a callback of a card, or a request of the API. -/
def Call.DecidesOn (runId decision : Str) : Call → Prop
  | .cardCallback body => ∃ callback,
      FeishuAdapter.parseCardCallback body = .ok (some callback) ∧
        bindText host 1 callback.runId = .ok (some runId) ∧ callback.decision = decision
  | .resumeRequest requested body =>
      requested = runId ∧ getField body "decision" (.str []) = .ok (.str decision) ∧
        isDecision decision = true
  | _ => False

/-- The outcome of a call that was refused: it raised, or it was answered with an error. -/
def Refused : Except Exc (SOPRunContext ⊕ Json) → Prop
  | .error _ => True
  | .ok (.inr reply) => ∃ reason, reply = statusReply "error" reason
  | .ok (.inl _) => False

/-- The run as it is seen after a part of the schedule. -/
def viewAfter (calls : ℕ → Call) (start : EngineWorld) (runId : Str) (schedule : List ℕ) :
    RunView :=
  (service.serve host rdf calls start schedule).state.state.runView runId

section Schedule

variable (refused : Except Exc (SOPRunContext ⊕ Json) → Prop) (calls : ℕ → Call)
  (start : EngineWorld) (ctx : SOPRunContext)

/-- Nothing happens to the run, and the calls that have ended were refused. -/
structure Undecided (schedule : List ℕ) : Prop where
  unchanged : ∀ earlier, earlier <+: schedule →
    service.viewAfter host rdf calls start ctx.runId earlier = start.state.runView ctx.runId
  ended : ∀ task, ((service.serve host rdf calls start schedule).tasks task).Ended refused

/-- What is left of a call after the schedule, when it is run to its end. -/
def leftOf (schedule : List ℕ) (task : ℕ) : Except Exc (SOPRunContext ⊕ Json) × EngineWorld :=
  ((service.serve host rdf calls start schedule).tasks task).run
    (service.serve host rdf calls start schedule).state

/-- The winner decides on the run in one slot of the schedule, and is the only one to change it. -/
structure DecidedIn (before : List ℕ) (winner : ℕ) (after : List ℕ) (record : FeedbackRecord) :
    Prop where
  decides : (calls winner).DecidesOn host ctx.runId record.decision
  unchanged : ∀ earlier, earlier <+: before →
    service.viewAfter host rdf calls start ctx.runId earlier = start.state.runView ctx.runId
  decided : ∀ earlier, earlier <+: after → DecidedBy ctx (start.state.runView ctx.runId) record
    (service.viewAfter host rdf calls start ctx.runId (before ++ winner :: earlier))
  othersKeep : ∀ earlier task later, after = earlier ++ task :: later → task ≠ winner →
    service.viewAfter host rdf calls start ctx.runId (before ++ winner :: (earlier ++ [task])) =
      service.viewAfter host rdf calls start ctx.runId (before ++ winner :: earlier)
  othersRefused : ∀ task, task ≠ winner →
    refused (service.leftOf host rdf calls start (before ++ winner :: after) task).1
  rejected : record.decision = py "REJECTED" →
    ((service.leftOf host rdf calls start (before ++ winner :: after) winner).2.state.runView
      ctx.runId).Rejected

/--
At most one of the calls decides on the run, and all others are refused; on a run with a
decision on record none does.
-/
def DecidedOnce (schedule : List ℕ) : Prop :=
  service.Undecided host rdf refused calls start ctx schedule ∨
    (start.state.runView ctx.runId).decisions = [] ∧
      ∃ before winner after record, schedule = before ++ winner :: after ∧
        service.DecidedIn host rdf refused calls start ctx before winner after record

end Schedule

open SOPEngine

variable {host rdf service} {engine : SOPEngine} {ctx : SOPRunContext} {start : RunView}
  {decision : Str} {reason approverId : Json} {reply : SOPRunContext → Json}

/-- The outcome of a handler that was refused. -/
def RefusedReply : Except Exc Json → Prop
  | .error _ => True
  | .ok reply => ∃ reason, reply = statusReply "error" reason

/-! ### The handlers -/

/-- The definition is loaded, and the run is resumed if there is one. -/
theorem settle_barred (records : engine.feedbackDb = true) (host : Host) (rdf : RdfLib)
    (source : ℕ → Except Exc (Option SOPDefinition)) {undefined : Coro Exc EngineWorld Json}
    (refuses : undefined.Barred (runViewOf ctx.runId) (RunView.Taken ctx.runId) RefusedReply) :
    (do
      let defined ← Coro.sync (Timed.outcome source)
      match defined with
      | none => undefined
      | some sop => do
          let ctx ← engine.resume host rdf sop ctx decision reason approverId
          pure (reply ctx)).Barred (runViewOf ctx.runId)
            (RunView.Taken ctx.runId) RefusedReply := by
  apply Coro.barred_sync_bind
  · exact fun _ _ => rfl
  · rintro world (_ | sop) taken -
    · exact refuses
    · apply Coro.barred_bind (resume_barred records host rdf sop ctx decision reason approverId)
      · rintro _ ⟨exc, ⟨⟩⟩
      · exact fun _ _ => trivial
  · exact fun _ => trivial

theorem settle_contends (records : engine.feedbackDb = true) (saves : engine.stateStore = true)
    (host : Host) (rdf : RdfLib) (plain : ctx.toJson.encodable = true)
    (decided : isDecision decision = true) (named : start.Named ctx.runId)
    (source : ℕ → Except Exc (Option SOPDefinition)) {undefined : Coro Exc EngineWorld Json}
    (refuses : undefined.Contends (runViewOf ctx.runId) start (RunView.Taken ctx.runId)
      RefusedReply (Wins ctx start decision)) :
    (do
      let defined ← Coro.sync (Timed.outcome source)
      match defined with
      | none => undefined
      | some sop => do
          let ctx ← engine.resume host rdf sop ctx decision reason approverId
          pure (reply ctx)).Contends (runViewOf ctx.runId) start (RunView.Taken ctx.runId)
        RefusedReply (Wins ctx start decision) := by
  have resumes : ∀ sop, (do
      let ctx ← engine.resume host rdf sop ctx decision reason approverId
      pure (reply ctx)).Contends (runViewOf ctx.runId) start (RunView.Taken ctx.runId)
        RefusedReply (Wins ctx start decision) := by
    intro sop
    apply Coro.contends_bind
      (resume_contends records saves host rdf sop plain decided reason approverId named)
    · rintro _ ⟨exc, ⟨⟩⟩
    · exact fun _ _ => trivial
    · exact fun _ _ wins => wins.bind _
  apply Coro.contends_sync_bind
  · exact fun _ => rfl
  · rintro world (_ | sop) taken -
    · exact refuses.barred
    · exact (resumes sop).barred
  · rintro world (_ | sop) first -
    · exact refuses
    · exact resumes sop
  · exact fun _ => trivial

/-- A key that is bound to the id of the run finds what is stored for it. -/
theorem loadState_bound {key : Json} {runId : Str} (bound : bindText host 1 key = .ok (some runId))
    (world : EngineWorld) :
    loadState host key world =
      (.ok ((runViewOf runId world).row.bind StoredRun.context?), world) := by
  rw [loadState_apply, RunTable.loadState, bound]
  rfl

/-- The run is loaded, and what follows deals with what was found. -/
theorem load_contends {key : Json} (bound : bindText host 1 key = .ok (some ctx.runId))
    (found : ∀ loaded, start.row.bind StoredRun.context? = some loaded → loaded = ctx)
    {rest : Option SOPRunContext → Coro Exc EngineWorld Json}
    (missing : (rest none).Contends (runViewOf ctx.runId) start (RunView.Taken ctx.runId)
      RefusedReply (Wins ctx start decision))
    (late : ∀ loaded, loaded.runId = ctx.runId →
      (rest (some loaded)).Barred (runViewOf ctx.runId) (RunView.Taken ctx.runId) RefusedReply)
    (early : (rest (some ctx)).Contends (runViewOf ctx.runId) start (RunView.Taken ctx.runId)
      RefusedReply (Wins ctx start decision)) :
    (Coro.sync (loadState host key) >>= rest).Contends (runViewOf ctx.runId) start
      (RunView.Taken ctx.runId) RefusedReply (Wins ctx start decision) := by
  have loads : ∀ world value, (loadState host key world).1 = .ok value →
      value = (runViewOf ctx.runId world).row.bind StoredRun.context? := by
    intro world value returned
    rw [loadState_bound bound] at returned
    exact (Except.ok.inj returned).symm
  apply Coro.contends_sync_bind
  · intro world
    rw [loadState_bound bound]
  · rintro world (_ | loaded) taken returned
    · exact missing.barred
    · exact late loaded (taken.2 loaded (loads world _ returned).symm)
  · rintro world (_ | loaded) rfl returned
    · exact missing
    · rw [found loaded (loads world _ returned).symm]
      exact early
  · exact fun _ => trivial

/-- What holds of the stored run when the calls begin. -/
structure Awaiting (ctx : SOPRunContext) (start : RunView) : Prop where
  plain : ctx.toJson.encodable = true
  named : start.Named ctx.runId
  found : ∀ loaded, start.row.bind StoredRun.context? = some loaded → loaded = ctx

theorem awaiting_of_storedAs (saves : engine.stateStore = true) {world : EngineWorld}
    (storedAs : engine.StoredAs ctx world) : Awaiting ctx (runViewOf ctx.runId world) := by
  rcases storedAs saves with ⟨row, found, -, document⟩
  refine ⟨document ▸ row.encoded, named_of_context found document, ?_⟩
  intro loaded read
  rw [show (runViewOf ctx.runId world).row = some row from found, Option.bind_some,
    StoredRun.context?, document, SOPRunContext.ofJson_toJson] at read
  split at read
  · cases read
    rfl
  · cases read

theorem handleCardCallback_contends (wired : service.sopEngine = some engine)
    (stores : service.stateStore = true) (records : engine.feedbackDb = true)
    (saves : engine.stateStore = true) (rdf : RdfLib) (awaiting : Awaiting ctx start) {body : Json}
    {callback : CardCallback} (parsed : FeishuAdapter.parseCardCallback body = .ok (some callback))
    (bound : bindText host 1 callback.runId = .ok (some ctx.runId)) :
    (service.handleCardCallback host rdf body).Contends (runViewOf ctx.runId) start
      (RunView.Taken ctx.runId) RefusedReply (Wins ctx start callback.decision) := by
  unfold handleCardCallback
  rw [parsed, wired, stores]
  apply load_contends bound awaiting.found
  · exact ⟨_, rfl⟩
  · intro loaded named
    rw [← named]
    exact settle_barred records host rdf _ ⟨_, rfl⟩
  · exact settle_contends records saves host rdf awaiting.plain callback.decided awaiting.named _
      ⟨_, rfl⟩

theorem resumeAs_contends (records : engine.feedbackDb = true) (saves : engine.stateStore = true)
    (rdf : RdfLib) (awaiting : Awaiting ctx start) (decided : isDecision decision = true)
    (reason approverId : Json) :
    (service.resumeAs host rdf engine ctx.runId decision reason approverId).Contends
      (runViewOf ctx.runId) start (RunView.Taken ctx.runId) RefusedReply
      (Wins ctx start decision) := by
  have encoded : (Json.optional (some ctx.runId)).encodable = true :=
    ((SOPRunContext.toJson_encodable_iff ctx).mp awaiting.plain).1
  have key : bindText host 1 (.str ctx.runId) = .ok (some ctx.runId) :=
    FeedbackTable.bindText_optional_eq_ok_iff.mpr ⟨encoded, rfl⟩
  unfold resumeAs
  apply load_contends key awaiting.found
  · trivial
  · intro loaded named
    rw [← named]
    exact settle_barred records host rdf _ trivial
  · exact settle_contends records saves host rdf awaiting.plain decided awaiting.named _ trivial

theorem resumeSop_contends (wired : service.sopEngine = some engine)
    (stores : service.stateStore = true) (records : engine.feedbackDb = true)
    (saves : engine.stateStore = true) (rdf : RdfLib) (awaiting : Awaiting ctx start) {body : Json}
    (asked : getField body "decision" (.str []) = .ok (.str decision))
    (decided : isDecision decision = true) :
    (service.resumeSop host rdf ctx.runId body).Contends (runViewOf ctx.runId) start
      (RunView.Taken ctx.runId) RefusedReply (Wins ctx start decision) := by
  unfold resumeSop
  rw [wired, stores, asked]
  change (if isDecision decision then _ else _ : Coro Exc EngineWorld Json).Contends _ _ _ _ _
  rw [if_pos decided]
  rcases getField body "reason" .null with exc | reason
  · trivial
  rcases getField body "approver_id" (.str (py "api-user")) with exc | approverId
  · trivial
  · exact resumeAs_contends records saves rdf awaiting decided reason approverId

/-- What is left of the call has won with its own decision. -/
def Won (host : Host) (ctx : SOPRunContext) (start : RunView) (call : Call)
    (body : Coro Exc EngineWorld (SOPRunContext ⊕ Json)) (now : RunView) : Prop :=
  ∃ decision, call.DecidesOn host ctx.runId decision ∧ Wins ctx start decision body now

/-- Every call that decides on the run competes for it. -/
theorem task_contends (wired : service.sopEngine = some engine) (stores : service.stateStore = true)
    (records : engine.feedbackDb = true) (saves : engine.stateStore = true) (rdf : RdfLib)
    (awaiting : Awaiting ctx start) {call : Call}
    (decides : call.DecidesOn host ctx.runId decision) :
    (service.task host rdf call).Contends (runViewOf ctx.runId) start (RunView.Taken ctx.runId)
      Refused (Won host ctx start call) := by
  have replies : ∀ {body : Coro Exc EngineWorld Json},
      body.Contends (runViewOf ctx.runId) start (RunView.Taken ctx.runId) RefusedReply
        (Wins ctx start decision) →
      (body >>= fun reply => pure (Sum.inr reply)).Contends (runViewOf ctx.runId) start
        (RunView.Taken ctx.runId) Refused (Won host ctx start call) := by
    intro body contends
    apply Coro.contends_bind contends
    · exact fun reply refused => refused
    · exact fun _ _ => trivial
    · exact fun _ _ wins => ⟨decision, decides, wins.bind _⟩
  cases call with
  | create sop data runId => exact decides.elim
  | run sop ctx => exact decides.elim
  | cardCallback body =>
      rcases decides with ⟨callback, parsed, bound, rfl⟩
      exact replies
        (handleCardCallback_contends wired stores records saves rdf awaiting parsed bound)
  | resumeRequest requested body =>
      rcases decides with ⟨rfl, asked, decided⟩
      exact replies (resumeSop_contends wired stores records saves rdf awaiting asked decided)

/-! ### Any interleaving -/

/-- What is left of a call goes on by the record. -/
def GoesBy (ctx : SOPRunContext) (start : RunView) (record : FeedbackRecord)
    (body : Coro Exc EngineWorld (SOPRunContext ⊕ Json)) (now : RunView) : Prop :=
  Law ctx start record now ∧
    body.Tracks (runViewOf ctx.runId) (Law ctx start record) (WinnerEnds record) now

section Interleaving

variable {calls : ℕ → Call} {world : EngineWorld}

theorem goesBy_lasting {record : FeedbackRecord} (effect : EngineWorld → EngineWorld)
    (next : EngineWorld → Coro Exc EngineWorld (SOPRunContext ⊕ Json)) (state : EngineWorld)
    (goes : GoesBy ctx start record (.act effect next) (runViewOf ctx.runId state)) :
    GoesBy ctx start record (next state) (runViewOf ctx.runId (effect state)) :=
  ⟨(goes.2 state rfl).1, (goes.2 state rfl).2⟩

theorem won_iff {call : Call} {body : Coro Exc EngineWorld (SOPRunContext ⊕ Json)} {now : RunView} :
    Won host ctx start call body now ↔ ∃ record : FeedbackRecord,
      call.DecidesOn host ctx.runId record.decision ∧ GoesBy ctx start record body now := by
  constructor
  · rintro ⟨_, decides, record, rfl, law, tracks⟩
    exact ⟨record, decides, law, tracks⟩
  · rintro ⟨record, decides, law, tracks⟩
    exact ⟨_, decides, record, rfl, law, tracks⟩

/-- After a call has won, it goes on by its record and the others change nothing. -/
theorem decidedIn_of_won {before after : List ℕ} {winner : ℕ}
    (waits : ∀ earlier, earlier <+: before →
      service.viewAfter host rdf calls world ctx.runId earlier = world.state.runView ctx.runId)
    (standing : Pool.Standing (runViewOf ctx.runId) (runViewOf ctx.runId world)
      (RunView.Taken ctx.runId) Refused
      (fun task => Won host ctx (runViewOf ctx.runId world) (calls task))
      (service.serve host rdf calls world (before ++ [winner])) (some winner)) :
    ∃ record, service.DecidedIn host rdf Refused calls world ctx before winner after record := by
  rcases won_iff.mp standing.1 with ⟨record, decides, goes⟩
  let owns (_ : ℕ) := GoesBy ctx (runViewOf ctx.runId world) record
  have lasting : ∀ (task : ℕ) effect next state, owns task (.act effect next)
      (runViewOf ctx.runId state) → owns task (next state) (runViewOf ctx.runId (effect state)) :=
    fun _ => goesBy_lasting
  have takes : ∀ (task : ℕ) body now, owns task body now → now.Taken ctx.runId :=
    fun _ _ _ goes => goes.1.1.taken goes.1.2
  have owned : Pool.Standing (runViewOf ctx.runId) (runViewOf ctx.runId world)
      (RunView.Taken ctx.runId) Refused owns
      (service.serve host rdf calls world (before ++ [winner])) (some winner) :=
    ⟨goes, standing.2⟩
  have later := Pool.exec_owned lasting takes owned
  have joined : ∀ earlier,
      (service.serve host rdf calls world (before ++ [winner])).exec earlier =
        service.serve host rdf calls world (before ++ winner :: earlier) := by
    intro earlier
    rw [serve, serve, ← Pool.exec_append, List.append_assoc]
    rfl
  refine ⟨record, decides, waits, ?_, ?_, ?_, ?_⟩
  · intro earlier _
    have reached := (later earlier).1.1.1.1
    rw [joined] at reached
    exact reached
  · intro earlier task rest shape other
    have kept := (later after).2 earlier task rest shape (by simpa using other)
    rw [joined, joined] at kept
    exact kept
  · intro task other
    have final := (later after).1
    rw [joined] at final
    exact ((final.2 task other).run (takes winner _ _ final.1)).1
  · intro rejects
    have final := (later after).1.1.2
    rw [joined] at final
    exact final.run rejects

/--
However card callbacks and requests for a stored run are interleaved, at most one of them
decides on it, and none if a decision on the run is on record already.
-/
theorem decidedOnce (wired : service.sopEngine = some engine) (stores : service.stateStore = true)
    (records : engine.feedbackDb = true) (saves : engine.stateStore = true) (rdf : RdfLib)
    (storedAs : engine.StoredAs ctx world)
    (decides : ∀ task, ∃ decision, (calls task).DecidesOn host ctx.runId decision)
    (schedule : List ℕ) :
    service.DecidedOnce host rdf Refused calls world ctx schedule := by
  have awaiting := awaiting_of_storedAs saves storedAs
  have contends : ∀ task, (service.task host rdf (calls task)).Contends (runViewOf ctx.runId)
      (runViewOf ctx.runId world) (RunView.Taken ctx.runId) Refused
      (Won host ctx (runViewOf ctx.runId world) (calls task)) := by
    intro task
    rcases decides task with ⟨decision, decides⟩
    exact task_contends wired stores records saves rdf awaiting decides
  by_cases fresh : (runViewOf ctx.runId world).decisions = []
  · have lasting : ∀ (task : ℕ) effect next state,
        Won host ctx (runViewOf ctx.runId world) (calls task) (.act effect next)
          (runViewOf ctx.runId state) →
        Won host ctx (runViewOf ctx.runId world) (calls task) (next state)
          (runViewOf ctx.runId (effect state)) := by
      intro task effect next state won
      rcases won_iff.mp won with ⟨record, decides, goes⟩
      exact won_iff.mpr ⟨record, decides, goesBy_lasting effect next state goes⟩
    have takes : ∀ (task : ℕ) body now,
        Won host ctx (runViewOf ctx.runId world) (calls task) body now → now.Taken ctx.runId := by
      intro task body now won
      rcases won_iff.mp won with ⟨record, -, goes⟩
      exact goes.1.1.taken goes.1.2
    rcases @Pool.exec_contends _ _ _ _ _ _ _ _ _ _ _ lasting takes
      ⟨world, fun task => service.task host rdf (calls task)⟩ rfl contends schedule with
      idle | ⟨before, winner, after, rfl, idle, standing⟩
    · left
      refine ⟨fun earlier part => (idle earlier part).1, fun task => ?_⟩
      exact ((idle schedule List.prefix_rfl).2 task).barred.ended
    · refine .inr ⟨fresh, ?_⟩
      rcases @decidedIn_of_won host rdf service ctx calls world before after winner
        (fun earlier part => (idle earlier part).1) standing with ⟨record, decided⟩
      exact ⟨before, winner, after, record, rfl, decided⟩
  · left
    have late := @Pool.exec_barred _ _ _ _ _ _ _ _ _
      ⟨world, fun task => service.task host rdf (calls task)⟩ ⟨fresh, awaiting.named⟩
      (fun task => (contends task).barred)
    refine ⟨fun earlier _ => (late earlier).1, fun task => ?_⟩
    exact ((late schedule).2 task).ended

end Interleaving

end Service

namespace Sample

/-- A service that finds the definition of the waiting run. -/
def decidingService : Service := ⟨some engine, true, fun _ _ => .ok (some approvedWrite)⟩

/-- The definition of the waiting run was removed. -/
def forgetfulService : Service := ⟨some engine, true, fun _ _ => .ok none⟩

/-- A click on APPROVED that competes with requests to reject the run. -/
def rivals : ℕ → Service.Call
  | 0 => .cardCallback (.obj [(py "action", .obj [(py "value", .obj [
      (py "action", .str (py "APPROVED")), (py "run_id", .str (py "run-1"))])])])
  | _ => .resumeRequest (py "run-1") (.obj [(py "decision", .str (py "REJECTED"))])

theorem rivals_decide (task : ℕ) :
    ∃ decision, (rivals task).DecidesOn steadyHost waitingRun.runId decision := by
  rcases task with _ | task
  · exact ⟨py "APPROVED", _, rfl, rfl, rfl⟩
  · exact ⟨py "REJECTED", rfl, rfl, rfl⟩

theorem rivals_decidedOnce : decidingService.DecidedOnce steadyHost rdf Service.Refused rivals
    storedWorld waitingRun [0, 1, 1, 0, 1, 0, 0, 1] :=
  Service.decidedOnce rfl rfl rfl rfl rdf (waitingRun_storedAs engine) rivals_decide _

/-- Both have loaded the suspended run when the request records its decision first. -/
example : (decidingService.viewAfter steadyHost rdf rivals storedWorld (py "run-1")
    [0, 1, 1, 0, 1, 0, 0, 1]).decisions.map FeedbackRecord.decision = [py "REJECTED"] := by
  decide

/-- A click on a run whose definition is gone is answered, and does not raise. -/
theorem lost_definition_answered :
    ¬ ∀ (host : Host) (rdf : RdfLib) (service : Service) (engine : SOPEngine) (ctx : SOPRunContext)
      (calls : ℕ → Service.Call) (world : EngineWorld) (schedule : List ℕ),
      service.sopEngine = some engine → service.stateStore = true → engine.feedbackDb = true →
      engine.stateStore = true → ctx.state = .suspended → engine.StoredAs ctx world →
      (∀ task, ∃ decision, (calls task).DecidesOn host ctx.runId decision) →
      service.DecidedOnce host rdf SOPEngine.Raises calls world ctx schedule := by
  intro claim
  have once := claim steadyHost rdf forgetfulService engine waitingRun rivals storedWorld [0, 0]
    rfl rfl rfl rfl rfl (waitingRun_storedAs engine) rivals_decide
  rcases once with undecided | ⟨-, before, winner, after, record, shape, decided⟩
  · rcases undecided.ended 0 with ⟨exc, raised⟩
    cases raised
  · have row := (decided.decided after List.prefix_rfl).decisions
    rw [← shape] at row
    cases row

end Sample

end AgentOS
