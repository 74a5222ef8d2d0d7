import AgentOS.Service.AuditTrail
import AgentOS.Workflow.Lifecycle

/-!
# Runs in the service

Whatever the service is asked for at the same time, every run moves along its own life: the
requests that are not about a run leave it alone, of those that are about it at most one at a time
moves it, and a run that is over stays as it is.
-/

namespace AgentOS

open Python Cooperative Relation

namespace SOPEngine

/-- What a handler finds under a key may be decided on, also later. -/
structure Admits (host : Host) (rdf : RdfLib) (engine : SOPEngine) (draws : ℕ → Prop) (runId : Str)
    (rule : Lease RunView RunView) (key : Json) (admits : SOPRunContext → RunView → Prop) :
    Prop where
  loaded : ∀ world ctx, (runLease draws runId rule).Sound world →
    (loadState host key world).1 = .ok (some ctx) →
      admits ctx ((runLease draws runId rule).view world)
  lasts : ∀ ctx seen now, admits ctx seen → ReflTransGen rule.Moves seen now → admits ctx now
  resumes : ∀ ctx seen sop decision reason approverId, admits ctx seen →
    (engine.resume host rdf sop ctx decision reason approverId).Heeds (runLease draws runId rule)
      (fun _ _ _ => True) .onlooker seen

variable {host : Host} {rdf : RdfLib} {engine : SOPEngine} {draws : ℕ → Prop} {runId : Str}
  {rule : Lease RunView RunView} {key : Json} {admits : SOPRunContext → RunView → Prop}
  {gate : Option ℕ}

/-- A run that is found has the id that it is looked up under. -/
theorem named_of_loaded {world : EngineWorld} {ctx : SOPRunContext}
    (wellNamed : world.state.WellNamed) (loaded : (loadState host key world).1 = .ok (some ctx)) :
    bindText host 1 key = .ok (some ctx.runId) ∧
      (runViewOf ctx.runId world).row.bind StoredRun.context? = some ctx := by
  rw [loadState_apply] at loaded
  rcases bound : bindText host 1 key with exc | _ | named
  · simp [RunTable.loadState, bound, bind, Except.bind] at loaded
  · simp [RunTable.loadState, bound, bind, Except.bind, pure, Except.pure] at loaded
  · simp only [RunTable.loadState, bound, bind, Except.bind, pure, Except.pure,
      Except.ok.injEq] at loaded
    rcases Option.bind_eq_some_iff.mp loaded with ⟨row, found, read⟩
    rcases wellNamed named row ctx found read with ⟨rfl, -⟩
    exact ⟨rfl, loaded⟩

theorem admits_others (host : Host) (rdf : RdfLib) (engine : SOPEngine)
    (other : bindText host 1 key ≠ .ok (some runId)) :
    Admits host rdf engine draws runId rule key fun ctx _ => ctx.runId ≠ runId where
  loaded := by
    rintro world ctx sound loaded rfl
    exact other (named_of_loaded sound.1 loaded).1
  lasts := fun _ _ _ other _ => other
  resumes := fun ctx seen sop decision reason approverId other =>
    (resume_looksOn host rdf engine sop other decision reason approverId).heeds seen

/-- Decisions on any run, the one in question among them. -/
theorem admits_any (records : engine.feedbackDb = true) (stores : engine.stateStore = true)
    (host : Host) (rdf : RdfLib) (runId : Str) (key : Json) :
    Admits host rdf engine draws runId (RunView.lifecycle draws gate) key
      fun ctx seen => ctx.runId = runId → Offers gate ctx seen where
  loaded := by
    rintro world ctx sound loaded rfl
    exact offers_of_loaded sound.1 (named_of_loaded sound.1 loaded).2
  lasts := by
    intro ctx seen now offers moved same suspended later moved'
    exact offers same suspended later (moved.trans moved')
  resumes := by
    intro ctx seen sop decision reason approverId offers
    by_cases same : ctx.runId = runId
    · subst same
      exact resume_heeds records stores host rdf sop decision reason approverId (offers rfl)
    · exact (resume_looksOn host rdf engine sop same decision reason approverId).heeds seen

theorem Admits.loadState_heeds (admission : Admits host rdf engine draws runId rule key admits)
    (seen : RunView) :
    (Coro.sync (loadState host key)).Heeds (runLease draws runId rule) (fun result role now =>
      role = .onlooker ∧ ∀ ctx, result = .ok (some ctx) → admits ctx now) .onlooker seen := by
  apply Coro.heeds_sync
  intro world sound _ _
  have same : (loadState host key world).2 = world := by rw [loadState_apply]
  rw [same]
  exact ⟨sound, .onlooker, Lease.allows_refl nofun, rfl,
    fun ctx loaded => admission.loaded world ctx sound loaded⟩

/-- The definition is read again, while the run that was found may go on. -/
theorem Admits.loadSopDefinition_heeds
    (admission : Admits host rdf engine draws runId rule key admits)
    (service : Service) {ctx : SOPRunContext} {seen : RunView} (admitted : admits ctx seen) :
    (Coro.sync (Timed.outcome (service.loadSopDefinition ctx.sopId)) :
      Coro Exc EngineWorld (Option SOPDefinition)).Heeds (runLease draws runId rule)
      (fun _ role now => role = .onlooker ∧ admits ctx now) .onlooker seen := by
  apply Coro.heeds_sync
  intro world sound later known
  have kept := @runLease_same draws runId rule world
    (Timed.outcome (service.loadSopDefinition ctx.sopId) world).2 rfl later sound
  exact ⟨kept.1, .onlooker, Lease.allows_refl nofun, rfl,
    admission.lasts ctx seen _ admitted known⟩

end SOPEngine

namespace Service

open SOPEngine

variable {host : Host} {rdf : RdfLib} {service : Service} {engine : SOPEngine}
  {draws : ℕ → Prop} {runId : Str} {rule : Lease RunView RunView}
  {admits : SOPRunContext → RunView → Prop} {gate : Option ℕ}

theorem handleCardCallback_heeds (wired : service.sopEngine = some engine) {body : Json}
    (admission : ∀ callback, FeishuAdapter.parseCardCallback body = .ok (some callback) →
      Admits host rdf engine draws runId rule callback.runId admits) (seen : RunView) :
    (service.handleCardCallback host rdf body).Heeds (runLease draws runId rule) (fun _ _ _ => True)
      .onlooker seen := by
  unfold handleCardCallback
  rw [wired]
  split
  · trivial
  · trivial
  · rename_i callback parsed
    split
    · rename_i same _
      cases same
      apply Coro.heeds_bind ((admission callback parsed).loadState_heeds seen)
      · rintro (_ | ctx) _ now ⟨rfl, found⟩
        · trivial
        · apply Coro.heeds_bind
            ((admission callback parsed).loadSopDefinition_heeds service (found ctx rfl))
          · rintro (_ | sop) _ later ⟨rfl, admitted⟩
            · trivial
            · apply Coro.heeds_bind
                ((admission callback parsed).resumes ctx later sop _ _ _ admitted)
              · exact fun _ _ _ _ => trivial
              · exact fun _ _ _ _ => trivial
          · exact fun _ _ _ _ => trivial
      · exact fun _ _ _ _ => trivial
    · trivial

theorem resumeAs_heeds {requested : Str}
    (admission : Admits host rdf engine draws runId rule (.str requested) admits) (decision : Str)
    (reason approverId : Json) (seen : RunView) :
    (service.resumeAs host rdf engine requested decision reason approverId).Heeds
      (runLease draws runId rule) (fun _ _ _ => True) .onlooker seen := by
  apply Coro.heeds_bind (admission.loadState_heeds seen)
  · rintro (_ | ctx) _ now ⟨rfl, found⟩
    · trivial
    · apply Coro.heeds_bind (admission.loadSopDefinition_heeds service (found ctx rfl))
      · rintro (_ | sop) _ later ⟨rfl, admitted⟩
        · trivial
        · apply Coro.heeds_bind (admission.resumes ctx later sop _ _ _ admitted)
          · exact fun _ _ _ _ => trivial
          · exact fun _ _ _ _ => trivial
      · exact fun _ _ _ _ => trivial
  · exact fun _ _ _ _ => trivial

theorem resumeSop_heeds (wired : service.sopEngine = some engine) {requested : Str} (body : Json)
    (admission : Admits host rdf engine draws runId rule (.str requested) admits) (seen : RunView) :
    (service.resumeSop host rdf requested body).Heeds (runLease draws runId rule)
      (fun _ _ _ => True) .onlooker seen := by
  unfold resumeSop
  rw [wired]
  split
  · rename_i same _
    cases same
    rcases getField body "decision" (.str []) with exc | decision
    · trivial
    · rw [Coro.done_ok_bind]
      split
      · split
        · rcases getField body "reason" .null with exc | reason
          · trivial
          · rcases getField body "approver_id" (.str (py "api-user")) with exc | approverId
            · trivial
            · exact resumeAs_heeds admission _ reason approverId seen
        · trivial
      · trivial
  · trivial

/-- The call may store the run without having found it. -/
def Call.Founds (host : Host) (runId : Str) : Call → Prop
  | .create _ _ given => SOPEngine.Creates host given runId
  | .run _ ctx => ctx.runId = runId
  | _ => False

/-- The call decides on the run, if there is such a run. -/
def Call.Addresses (host : Host) (runId : Str) : Call → Prop
  | .cardCallback body => ∃ callback,
      FeishuAdapter.parseCardCallback body = .ok (some callback) ∧
        bindText host 1 callback.runId = .ok (some runId)
  | .resumeRequest requested _ => bindText host 1 (.str requested) = .ok (some runId)
  | _ => False

/-- What a call does to a run, as its decisions are admitted, if it is known how it founds it. -/
theorem task_heeds (wired : service.sopEngine = some engine) {call : Call} {seen : RunView}
    (founds : call.Founds host runId → (service.task host rdf call).Heeds
      (runLease draws runId rule) (fun _ _ _ => True) .onlooker seen)
    (admission : ∀ key, (∀ named, bindText host 1 key = .ok (some named) →
      named = runId → call.Addresses host runId) →
        Admits host rdf engine draws runId rule key admits) :
    (service.task host rdf call).Heeds (runLease draws runId rule) (fun _ _ _ => True) .onlooker
      seen := by
  by_cases founding : call.Founds host runId
  · exact founds founding
  cases call with
  | create sop data given =>
      simp only [task, onEngine, wired]
      have looks : (do
          let ctx ← Coro.sync (engine.createRun host sop data given)
          let ctx ← engine.run host rdf sop ctx
          pure (Sum.inl ctx) : Coro Exc EngineWorld (SOPRunContext ⊕ Json)).LooksOn
            (runLease draws runId rule) fun _ => True := by
        apply Coro.looksOn_bind (createRun_looksOn engine sop data founding)
        · intro ctx other
          apply Coro.looksOn_bind (run_looksOn host rdf engine sop (other ctx rfl))
          · exact fun _ _ => Coro.looksOn_pure trivial
          · exact fun _ _ => trivial
        · exact fun _ _ => trivial
      exact looks.heeds seen
  | run sop ctx =>
      simp only [task, onEngine, wired]
      apply Coro.heeds_bind ((run_looksOn host rdf engine sop founding).heeds seen)
      · exact fun _ _ _ _ => trivial
      · exact fun _ _ _ _ => trivial
  | cardCallback body =>
      have admitted : ∀ callback, FeishuAdapter.parseCardCallback body = .ok (some callback) →
          Admits host rdf engine draws runId rule callback.runId admits := by
        intro callback parsed
        apply admission
        rintro named bound rfl
        exact ⟨callback, parsed, bound⟩
      apply Coro.heeds_bind (handleCardCallback_heeds wired admitted seen)
      · exact fun _ _ _ _ => trivial
      · exact fun _ _ _ _ => trivial
  | resumeRequest requested body =>
      have admitted : Admits host rdf engine draws runId rule (.str requested) admits := by
        apply admission
        rintro named bound rfl
        exact bound
      apply Coro.heeds_bind (resumeSop_heeds wired body admitted seen)
      · exact fun _ _ _ _ => trivial
      · exact fun _ _ _ _ => trivial

/-- The call with which the run begins, of an SOP that asks for an approval at the gate. -/
inductive Call.Begins (engine : SOPEngine) (gate : Option ℕ) (runId : Str) (start : RunView) :
    Call → Prop
  | creates {sop : SOPDefinition} (data : Dict Str Json) (named : runId ≠ [])
      (unused : start.Unused) (asks : engine.GateAhead gate 0 sop.steps) :
      Begins engine gate runId start (.create sop data (some runId))
  | runs {sop : SOPDefinition} {ctx : SOPRunContext} (named : ctx.runId = runId)
      (going : start.Going) (behind : ∀ earlier ∈ start.executed, earlier < ctx.currentStepIndex)
      (asks : start.decisions = [] → engine.GateAhead gate ctx.currentStepIndex
        (sop.steps.drop ctx.currentStepIndex)) :
      Begins engine gate runId start (.run sop ctx)

theorem Call.Begins.not_waiting {start : RunView} {call : Call}
    (begins : call.Begins engine gate runId start) : ¬ start.Waiting := by
  cases begins with
  | creates data named unused =>
      rintro ⟨⟨row, found, -⟩, -⟩
      rw [unused.absent] at found
      cases found
  | runs named going => exact going.not_waiting

/-- A run that was created is run by the task that created it. -/
theorem created_heeds (stores : engine.stateStore = true) (host : Host) (rdf : RdfLib)
    {sop : SOPDefinition} (asks : engine.GateAhead gate 0 sop.steps) {ctx : SOPRunContext}
    {role : Lease.Role} {now : RunView} (created : CreatedRun runId (.ok ctx) role now) :
    (engine.run host rdf sop ctx).Heeds (lifeLease draws gate runId) (fun _ _ _ => True) role
      now := by
  rcases created ctx rfl with ⟨other, rfl⟩ | ⟨rfl, first, rfl, going, executed⟩
  · exact (run_looksOn host rdf engine sop other).heeds now
  · have ahead : engine.GateAhead gate ctx.currentStepIndex
        (sop.steps.drop ctx.currentStepIndex) := by
      rwa [first, List.drop_zero]
    exact run_heeds stores host rdf sop going (by simp [executed]) (by simp [executed])
      fun _ => ahead

/-- The call that begins the run holds it from the start. -/
theorem begins_heeds (wired : service.sopEngine = some engine) (stores : engine.stateStore = true)
    (host : Host) (rdf : RdfLib) {start : RunView} {call : Call}
    (begins : call.Begins engine gate runId start) (undrawn : ∀ tick, ¬ draws tick)
    (ascending : start.executed.Pairwise (· < ·)) :
    (service.task host rdf call).Heeds (lifeLease draws gate runId) (fun _ _ _ => True)
      .holder start := by
  cases begins with
  | @creates sop data named unused asks =>
      simp only [task, onEngine, wired]
      apply Coro.heeds_bind (createRun_heeds stores host sop data named unused undrawn)
      · intro ctx role now created
        apply Coro.heeds_bind (created_heeds stores host rdf asks created)
        · exact fun _ _ _ _ => trivial
        · exact fun _ _ _ _ => trivial
      · exact fun _ _ _ _ => trivial
  | @runs sop ctx named going behind asks =>
      subst named
      simp only [task, onEngine, wired]
      apply Coro.heeds_bind (run_heeds stores host rdf sop going ascending behind asks)
      · exact fun _ _ _ _ => trivial
      · exact fun _ _ _ _ => trivial

/-- A call that draws the id of its run may begin the one in question. -/
theorem draws_heeds (wired : service.sopEngine = some engine) (stores : engine.stateStore = true)
    (rdf : RdfLib) {sop : SOPDefinition} (data : Dict Str Json) {given : Option Str}
    (unnamed : Unnamed given) (asks : engine.GateAhead gate 0 sop.steps)
    (drawn : ∀ tick, host.uuid4 tick = runId → draws tick)
    (once : ∀ tick tick', draws tick → draws tick' → tick = tick') (seen : RunView) :
    (service.task host rdf (.create sop data given)).Heeds (lifeLease draws gate runId)
      (fun _ _ _ => True) .onlooker seen := by
  simp only [task, onEngine, wired]
  apply Coro.heeds_bind (createRun_draws stores sop data unnamed drawn once)
  · intro ctx role now created
    apply Coro.heeds_bind (created_heeds stores host rdf asks created)
    · exact fun _ _ _ _ => trivial
    · exact fun _ _ _ _ => trivial
  · exact fun _ _ _ _ => trivial

end Service

namespace Gateway

open SOPEngine

variable {ν α : Type} {host : Host} {rdf : RdfLib} {loads : Str → Except Exc Json}
  {gateway : Gateway ν} {engine : SOPEngine} {draws : ℕ → Prop} {runId : Str}
  {rule : Lease RunView RunView} {admits : SOPRunContext → RunView → Prop}

def runLease (ν : Type) (draws : ℕ → Prop) (runId : Str) (rule : Lease RunView RunView) :
    Lease (ServiceWorld ν) RunView :=
  (SOPEngine.runLease draws runId rule).within (Timed.part ServiceState.engine)

theorem atEngine_heeds {body : Coro Exc EngineWorld α} {ends : Except Exc α → Lease.Role →
    RunView → Prop} {role : Lease.Role} {seen : RunView}
    (heeds : body.Heeds (SOPEngine.runLease draws runId rule) ends role seen) :
    (atEngine body).Heeds (runLease ν draws runId rule) ends role seen :=
  heeds.zoom fun _ _ => rfl

theorem looksOn_of_keeps {kept : Except Exc α → Prop} {body : Coro Exc (ServiceWorld ν) α}
    (keeps : body.Keeps (fun world => recordsOf (world.part ServiceState.engine)) kept) :
    body.LooksOn (runLease ν draws runId rule) kept :=
  Coro.looksOn_of_keeps (fun _ _ => SOPEngine.runLease_same) keeps

theorem atKernel_looksOn (body : Coro Exc (KernelWorld ν) α) :
    (atKernel body).LooksOn (runLease ν draws runId rule) fun _ => True := by
  apply looksOn_of_keeps
  apply Coro.keeps_zoom
  · exact fun _ _ => rfl
  · exact fun _ => trivial

theorem noteCall_keeps_records (call : ServiceCall) :
    (noteCall call : Coro Exc (ServiceWorld ν) Unit).Keeps
    (fun world => recordsOf (world.part ServiceState.engine)) fun _ => True :=
  Coro.keeps_sync (fun _ => rfl) fun _ => trivial

theorem noteCall_heeds {key : Json} (admission : Admits host rdf engine draws runId rule key admits)
    (call : ServiceCall) {ctx : SOPRunContext} {seen : RunView} (admitted : admits ctx seen) :
    (noteCall call : Coro Exc (ServiceWorld ν) Unit).Heeds (runLease ν draws runId rule)
      (fun _ role now => role = .onlooker ∧ admits ctx now) .onlooker seen := by
  have heeds := @Coro.heeds_of_keeps _ _ _ _ _ (runLease ν draws runId rule) .onlooker seen _ _ _
    (fun _ _ => SOPEngine.runLease_same) (noteCall_keeps_records call) fun holds => nomatch holds
  apply heeds.mono
  rintro result _ now ⟨-, rfl, known⟩
  exact ⟨rfl, admission.lasts ctx seen now admitted known⟩

theorem handleCardCallback_heeds (wired : gateway.service.sopEngine = some engine) {body : Json}
    (admission : ∀ callback, FeishuAdapter.parseCardCallback body = .ok (some callback) →
      Admits host rdf engine draws runId rule callback.runId admits) (seen : RunView) :
    (gateway.handleCardCallback host rdf body).Heeds (runLease ν draws runId rule)
      (fun _ _ _ => True) .onlooker seen := by
  unfold handleCardCallback
  rw [wired]
  split
  · trivial
  · trivial
  · rename_i callback parsed
    split
    · rename_i same _
      cases same
      have admission := admission callback parsed
      apply Coro.heeds_bind (atEngine_heeds (admission.loadState_heeds seen))
      · rintro (_ | ctx) _ now ⟨rfl, found⟩
        · trivial
        · apply Coro.heeds_bind (atEngine_heeds
            (admission.loadSopDefinition_heeds gateway.service (found ctx rfl)))
          · rintro (_ | sop) _ later ⟨rfl, admitted⟩
            · trivial
            · apply Coro.heeds_bind (noteCall_heeds admission _ admitted)
              · rintro _ _ final ⟨rfl, admitted'⟩
                apply Coro.heeds_bind
                  (atEngine_heeds (admission.resumes ctx final sop _ _ _ admitted'))
                · exact fun _ _ _ _ => trivial
                · exact fun _ _ _ _ => trivial
              · exact fun _ _ _ _ => trivial
          · exact fun _ _ _ _ => trivial
      · exact fun _ _ _ _ => trivial
    · trivial

theorem handleEvent_looksOn (gateway : Gateway ν) (body : Json) :
    (gateway.handleEvent host rdf loads body).LooksOn
      (runLease ν draws runId rule) fun _ => True := by
  unfold handleEvent
  rcases FeishuAdapter.parseEvent loads body with exc | _ | message
  · exact Coro.looksOn_throw trivial
  · exact Coro.looksOn_pure trivial
  · rw [Coro.done_ok_bind]
    dsimp only
    split
    · apply Coro.looksOn_bind (looksOn_of_keeps (noteCall_keeps_records _))
      · intro _ _
        apply Coro.looksOn_bind (atKernel_looksOn _)
        · exact fun _ _ => Coro.looksOn_pure trivial
        · exact fun _ _ => trivial
      · exact fun _ _ => trivial
    · exact Coro.looksOn_throw trivial

/-- The body of the request is the callback of a card for the run. -/
def Addresses (host : Host) (loads : Str → Except Exc Json) (runId : Str)
    (request : WebhookRequest) : Prop :=
  ∃ body callback, loads request.rawBody = .ok body ∧
    FeishuAdapter.parseCardCallback body = .ok (some callback) ∧
      bindText host 1 callback.runId = .ok (some runId)

theorem feishuWebhook_heeds (wired : gateway.service.sopEngine = some engine)
    (request : WebhookRequest)
    (admission : ∀ key, (∀ named, bindText host 1 key = .ok (some named) → named = runId →
      Addresses host loads runId request) → Admits host rdf engine draws runId rule key admits)
    (seen : RunView) :
    (gateway.feishuWebhook host rdf loads request).Heeds (runLease ν draws runId rule)
      (fun _ _ _ => True) .onlooker seen := by
  unfold feishuWebhook
  split
  · rcases loaded : loads request.rawBody with exc | body
    · trivial
    · change (Coro.done (FeishuAdapter.verifyChallenge body) >>= fun challenge => _ :
        Coro Exc (ServiceWorld ν) Json).Heeds _ _ _ _
      rcases FeishuAdapter.verifyChallenge body with exc | _ | reply
      · trivial
      · change (if hasAction body then _ else _ : Coro Exc (ServiceWorld ν) Json).Heeds _ _ _ _
        split
        · apply handleCardCallback_heeds wired
          intro callback parsed
          apply admission
          rintro named bound rfl
          exact ⟨body, callback, loaded, parsed, bound⟩
        · exact (handleEvent_looksOn gateway body).heeds seen
      · trivial
  · trivial

end Gateway

namespace ServiceRequest

/-- The request may store the run without having found it. -/
def Founds (host : Host) (runId : Str) : ServiceRequest → Prop
  | .workflow call => call.Founds host runId
  | _ => False

/-- The request decides on the run, if there is such a run. -/
def Addresses (host : Host) (loads : Str → Except Exc Json) (runId : Str) : ServiceRequest → Prop
  | .webhook request => Gateway.Addresses host loads runId request
  | .message _ => False
  | .workflow call => call.Addresses host runId

end ServiceRequest

namespace ServiceBootstrap

open SOPEngine

variable {ν : Type} {host : Host} {rdf : RdfLib} {loads : Str → Except Exc Json}
  {boot : ServiceBootstrap ν} {draws : ℕ → Prop} {runId : Str} {rule : Lease RunView RunView}
  {gate : Option ℕ} {admits : SOPRunContext → RunView → Prop}

/-- What a request does to a run, as its decisions are admitted, if it is known how it founds it. -/
theorem task_heeds {request : ServiceRequest} {seen : RunView}
    (founds : ∀ call, request = .workflow call → call.Founds host runId →
      (boot.service.task host rdf call).Heeds (SOPEngine.runLease draws runId rule)
        (fun _ _ _ => True) .onlooker seen)
    (admission : ∀ key, (∀ named, bindText host 1 key = .ok (some named) →
      named = runId → request.Addresses host loads runId) →
        Admits host rdf boot.sopEngine draws runId rule key admits) :
    (boot.task host rdf loads request).Heeds (Gateway.runLease ν draws runId rule)
      (fun _ _ _ => True) .onlooker seen := by
  have ends : ∀ {α : Type} {body : Coro Exc (ServiceWorld ν) α} (result : α → ServiceAnswer),
      body.Heeds (Gateway.runLease ν draws runId rule) (fun _ _ _ => True) .onlooker seen →
      (body >>= fun value => pure (result value)).Heeds (Gateway.runLease ν draws runId rule)
        (fun _ _ _ => True) .onlooker seen := by
    intro α body result heeds
    apply Coro.heeds_bind heeds
    · exact fun _ _ _ _ => trivial
    · exact fun _ _ _ _ => trivial
  cases request with
  | webhook request =>
      have wired : boot.gateway.service.sopEngine = some boot.sopEngine := rfl
      exact ends .reply (Gateway.feishuWebhook_heeds wired request admission seen)
  | message message => exact ends .response ((Gateway.atKernel_looksOn _).heeds seen)
  | workflow call =>
      have wired : boot.service.sopEngine = some boot.sopEngine := rfl
      exact ends .outcome
        (Gateway.atEngine_heeds (Service.task_heeds wired (founds call rfl) admission))

/--
At most one of the requests begins the run: the one that is given its id, or the one for which the
id is drawn, as it is at most once. No other request stores the run without having found it.
-/
inductive BegunOnce (host : Host) (boot : ServiceBootstrap ν) (gate : Option ℕ) (runId : Str)
    (start : RunView) (requests : ℕ → ServiceRequest) : Prop
  | given (founder : Option ℕ)
      (begins : ∀ i, founder = some i → ∃ call, requests i = .workflow call ∧
        call.Begins boot.sopEngine gate runId start)
      (apart : ∀ i, founder ≠ some i → ¬ (requests i).Founds host runId)
  | drawn (unused : start.Unused)
      (once : ∀ tick tick', host.uuid4 tick = runId → host.uuid4 tick' = runId → tick = tick')
      (creates : ∀ i, (requests i).Founds host runId → ∃ sop data given,
        requests i = .workflow (.create sop data given) ∧ Unnamed given ∧
          boot.sopEngine.GateAhead gate 0 sop.steps)

/-- The lease is with the request that begins the run, or with none before its id is drawn. -/
theorem start_leased {requests : ℕ → ServiceRequest} {start : ServiceWorld ν}
    (wellNamed : start.state.engine.WellNamed)
    (orderly : (start.state.engine.runView runId).Orderly)
    (begun : BegunOnce host boot gate runId (start.state.engine.runView runId) requests) :
    ∃ draws holder, (⟨start, fun i => boot.task host rdf loads (requests i)⟩ :
      Pool ℕ Exc (ServiceWorld ν) ServiceAnswer).Leased
        (Gateway.runLease ν draws runId (RunView.lifecycle draws gate)) (fun _ _ _ => True)
          holder := by
  cases begun with
  | given founder begins apart =>
      refine ⟨fun _ => False, founder, ⟨wellNamed, orderly, fun _ _ => False.elim⟩, ?_, ?_⟩
      · rintro held (waits | ⟨-, tick, never⟩)
        · rcases founder with _ | i
          · exact held rfl
          · rcases begins i rfl with ⟨call, -, begins⟩
            exact begins.not_waiting waits
        · exact never
      · intro i
        refine ⟨start.state.engine.runView runId, Lease.knows_refl _ _, ?_⟩
        by_cases mine : founder = some i
        · rcases begins i mine with ⟨call, same, begins⟩
          rw [mine, Pool.roleOf_self]
          dsimp only
          rw [same]
          have wired : boot.service.sopEngine = some boot.sopEngine := rfl
          apply Coro.heeds_bind (Gateway.atEngine_heeds
            (Service.begins_heeds wired rfl host rdf begins (fun _ => id) orderly.ascending))
          · exact fun _ _ _ _ => trivial
          · exact fun _ _ _ _ => trivial
        · rw [Pool.roleOf_of_ne mine]
          refine task_heeds ?_ fun key _ => admits_any rfl rfl host rdf runId key
          intro call same founds
          refine absurd ?_ (apart i mine)
          rw [same]
          exact founds
  | drawn unused once creates =>
      refine ⟨fun tick => host.uuid4 tick = runId, none,
        ⟨wellNamed, orderly, fun _ _ _ => unused⟩, fun held => absurd rfl held, ?_⟩
      intro i
      refine ⟨start.state.engine.runView runId, Lease.knows_refl _ _, ?_⟩
      rw [Pool.roleOf_none]
      refine task_heeds ?_ fun key _ => admits_any rfl rfl host rdf runId key
      intro call same founds
      have founding : (requests i).Founds host runId := by
        rw [same]
        exact founds
      rcases creates i founding with ⟨sop, data, given, shape, unnamed, asks⟩
      cases same.symm.trans shape
      exact Service.draws_heeds rfl rfl rdf data unnamed asks (fun _ => id) once _

theorem serve_paced (requests : ℕ → ServiceRequest) (start : ServiceWorld ν) :
    (⟨start, fun i => boot.task host rdf loads (requests i)⟩ :
      Pool ℕ Exc (ServiceWorld ν) ServiceAnswer).Paced (Gateway.runLease ν draws runId rule) :=
  fun slots i => tick_le_of_slot requests start slots i

theorem serve_leased {requests : ℕ → ServiceRequest} {start : ServiceWorld ν}
    (wellNamed : start.state.engine.WellNamed)
    (orderly : (start.state.engine.runView runId).Orderly)
    (begun : BegunOnce host boot gate runId (start.state.engine.runView runId) requests)
    (schedule : List ℕ) :
    ∃ draws holder,
      (Pool.exec ⟨start, fun i => boot.task host rdf loads (requests i)⟩ schedule).Leased
        (Gateway.runLease ν draws runId (RunView.lifecycle draws gate)) (fun _ _ _ => True)
          holder := by
  rcases @start_leased _ host rdf loads boot runId gate requests start wellNamed orderly begun with
    ⟨draws, founder, leased⟩
  rcases leased.exec (serve_paced requests start) schedule with ⟨holder, leased', -⟩
  exact ⟨draws, holder, leased'⟩

/-- Whatever is asked for and in whatever order, a run moves along its life. -/
theorem serve_moves {requests : ℕ → ServiceRequest} {start : ServiceWorld ν}
    (wellNamed : start.state.engine.WellNamed)
    (orderly : (start.state.engine.runView runId).Orderly)
    (begun : BegunOnce host boot gate runId (start.state.engine.runView runId) requests)
    (earlier later : List ℕ) :
    ReflTransGen (RunView.Moves gate)
      ((boot.serve host rdf loads requests start earlier).state.engine.runView runId)
      ((boot.serve host rdf loads requests start
        (earlier ++ later)).state.engine.runView runId) := by
  rcases @serve_leased _ host rdf loads boot runId gate requests start wellNamed orderly begun
    earlier with ⟨draws, holder, leased⟩
  rcases leased.exec ((serve_paced requests start).exec earlier) later with ⟨-, -, moved⟩
  rw [serve_append]
  exact moved

variable {requests : ℕ → ServiceRequest} {start : ServiceWorld ν}

/--
Whatever webhook requests, messages and workflows the service works on, in whatever order, what
happens to a run is a part of its life. As long as the run is busy, it happens by one request only.
-/
theorem run_lives (wellNamed : start.state.engine.WellNamed)
    (orderly : (start.state.engine.runView runId).Orderly)
    (begun : BegunOnce host boot gate runId (start.state.engine.runView runId) requests)
    (earlier later : List ℕ) :
    ReflTransGen (RunView.Moves gate)
        ((boot.serve host rdf loads requests start earlier).state.engine.runView runId)
        ((boot.serve host rdf loads requests start (earlier ++ later)).state.engine.runView runId) ∧
      ((boot.serve host rdf loads requests start earlier).state.engine.runView runId).Orderly ∧
      ∃ holder : Option ℕ, ∀ slots i, holder ≠ some i →
        (∀ before, before <+: slots → ((boot.serve host rdf loads requests start
          (earlier ++ before)).state.engine.runView runId).Busy) →
        (boot.serve host rdf loads requests start (earlier ++ (slots ++ [i]))).state.engine.runView
            runId =
          (boot.serve host rdf loads requests start (earlier ++ slots)).state.engine.runView
            runId := by
  rcases @serve_leased _ host rdf loads boot runId gate requests start wellNamed orderly begun
    earlier with ⟨draws, holder, leased⟩
  refine ⟨serve_moves wellNamed orderly begun earlier later, leased.sound.2.1, holder, ?_⟩
  intro slots i other busy
  rw [serve_append, serve_append, Pool.exec_concat]
  apply leased.others_wait ((serve_paced requests start).exec earlier) slots _ other
  intro before reached
  have taken : ¬ RunView.Free draws _ := (busy before reached).not_free
  rw [serve_append] at taken
  exact taken

/-- A run that is over stays as it is, and so does the decision on a run. -/
theorem over_for_good (wellNamed : start.state.engine.WellNamed)
    (orderly : (start.state.engine.runView runId).Orderly)
    (begun : BegunOnce host boot gate runId (start.state.engine.runView runId) requests)
    (earlier later : List ℕ) :
    (((boot.serve host rdf loads requests start earlier).state.engine.runView runId).Over →
      (boot.serve host rdf loads requests start (earlier ++ later)).state.engine.runView runId =
        (boot.serve host rdf loads requests start earlier).state.engine.runView runId) ∧
    (((boot.serve host rdf loads requests start
        earlier).state.engine.runView runId).decisions ≠ [] →
      ((boot.serve host rdf loads requests start (earlier ++ later)).state.engine.runView
          runId).decisions =
        ((boot.serve host rdf loads requests start earlier).state.engine.runView
            runId).decisions) := by
  have moved := @serve_moves _ host rdf loads boot runId gate requests start wellNamed orderly begun
    earlier later
  exact ⟨fun ended => RunView.eq_of_over ended moved,
    fun decided => RunView.decisions_of_moved decided moved⟩

/-- No step of a run is executed twice, nor after a later one. -/
theorem steps_ascend (wellNamed : start.state.engine.WellNamed)
    (orderly : (start.state.engine.runView runId).Orderly)
    (begun : BegunOnce host boot gate runId (start.state.engine.runView runId) requests)
    (schedule : List ℕ) :
    ((boot.serve host rdf loads requests start schedule).state.engine.runView
      runId).executed.Pairwise (· < ·) := by
  rcases @serve_leased _ host rdf loads boot runId gate requests start wellNamed orderly begun
    schedule with ⟨draws, holder, leased⟩
  exact leased.sound.2.1.ascending

/-- Behind a step that asks for an approval, nothing of a run is executed without one on record. -/
theorem approved_behind_gate {last : ℕ} (wellNamed : start.state.engine.WellNamed)
    (orderly : (start.state.engine.runView runId).Orderly)
    (begun : BegunOnce host boot (some last) runId (start.state.engine.runView runId) requests)
    (undecided : (start.state.engine.runView runId).decisions = [])
    (ahead : ∀ index ∈ (start.state.engine.runView runId).executed, index ≤ last)
    (schedule : List ℕ) :
    ∀ index ∈ ((boot.serve host rdf loads requests start schedule).state.engine.runView
        runId).executed, last < index →
      ∃ record : FeedbackRecord, record.decision = py "APPROVED" ∧
        ((boot.serve host rdf loads requests start schedule).state.engine.runView
          runId).decisions = [record] := by
  intro index executed behind
  have moved := @serve_moves _ host rdf loads boot runId (some last) requests start wellNamed
    orderly begun [] schedule
  have guarded : ((boot.serve host rdf loads requests start schedule).state.engine.runView
      runId).Guarded last := (RunView.Guarded.undecided undecided ahead).moved moved
  cases guarded with
  | undecided _ ahead' => exact absurd (ahead' index executed) (by omega)
  | refused _ _ _ _ ahead' => exact absurd (ahead' index executed) (by omega)
  | @approved record decisions approves => exact ⟨record, approves, decisions⟩

/-- Requests that are about other runs leave a run alone, whatever they do in which order. -/
theorem others_untouched (wellNamed : start.state.engine.WellNamed)
    (apart : ∀ i, ¬ (requests i).Founds host runId)
    (elsewhere : ∀ i, ¬ (requests i).Addresses host loads runId) (schedule : List ℕ) :
    (boot.serve host rdf loads requests start schedule).state.engine.runView runId =
      start.state.engine.runView runId := by
  have leased : (⟨start, fun i => boot.task host rdf loads (requests i)⟩ :
      Pool ℕ Exc (ServiceWorld ν) ServiceAnswer).Leased
        (Gateway.runLease ν (fun _ => False) runId RunView.untouched) (fun _ _ _ => True) none := by
    refine ⟨⟨wellNamed, trivial, fun _ _ => False.elim⟩, fun held => absurd rfl held, fun i => ?_⟩
    refine ⟨start.state.engine.runView runId, Lease.knows_refl _ _, ?_⟩
    rw [Pool.roleOf_none]
    apply task_heeds
    · intro call same founds
      refine absurd ?_ (apart i)
      rw [same]
      exact founds
    · intro key addressed
      apply admits_others
      exact fun bound => elsewhere i (addressed runId bound rfl)
  rcases leased.exec (serve_paced requests start) schedule with ⟨-, -, moved⟩
  rcases moved.cases_head with same | ⟨_, moves, _⟩
  · exact same.symm
  · exact moves.elim

end ServiceBootstrap

namespace Sample

theorem started_wellNamed (database : Database) (feedback : FeedbackTable) :
    (ServiceBootstrap.started database Dict.empty feedback :
      ServiceWorld Unit).state.engine.WellNamed := by
  intro runId row ctx found
  cases found

theorem started_orderly (database : Database) (feedback : FeedbackTable) (runId : Str) :
    ((ServiceBootstrap.started database Dict.empty feedback :
      ServiceWorld Unit).state.engine.runView runId).Orderly :=
  ⟨List.Pairwise.nil, fun _ _ read => nomatch read⟩

theorem approvedWrite_asks : bootstrap.sopEngine.GateAhead (some 0) 0 approvedWrite.steps := by
  rintro last ⟨⟩
  exact ⟨le_rfl, _, rfl, rfl, fun _ _ => rfl⟩

theorem decisionRequests_begun (database : Database) (feedback : FeedbackTable) :
    ServiceBootstrap.BegunOnce steadyHost bootstrap (some 0) (py "run-1")
      ((ServiceBootstrap.started database Dict.empty feedback :
        ServiceWorld Unit).state.engine.runView (py "run-1")) decisionRequests := by
  refine .given (some 0) ?_ ?_
  · rintro _ ⟨⟩
    exact ⟨_, rfl, .creates Dict.empty (by simp [py]) ⟨rfl, rfl⟩ approvedWrite_asks⟩
  · intro i other
    rcases i with _ | _ | i
    · exact absurd rfl other
    · exact id
    · exact id

def rejectedView (schedule : List ℕ) : RunView :=
  (bootstrap.serve steadyHost rdf loadsNothing decisionRequests
    (ServiceBootstrap.started [] Dict.empty []) schedule).state.engine.runView (py "run-1")

/-- The click that comes after the rejection changes nothing. -/
theorem rejection_for_good :
    rejectedView ([0, 0, 0, 0, 0, 1, 1, 2, 1, 1] ++ [2, 2, 2]) =
        rejectedView [0, 0, 0, 0, 0, 1, 1, 2, 1, 1] ∧
      (rejectedView ([0, 0, 0, 0, 0, 1, 1, 2, 1, 1] ++ [2, 2, 2])).decisions =
        (rejectedView [0, 0, 0, 0, 0, 1, 1, 2, 1, 1]).decisions := by
  have state : (rejectedView [0, 0, 0, 0, 0, 1, 1, 2, 1, 1]).row.map StoredRun.state =
      some .rejected := by
    decide +kernel
  have decided : ((rejectedView [0, 0, 0, 0, 0, 1, 1, 2, 1, 1]).decisions.map
      FeedbackRecord.decision) = [py "REJECTED"] := by
    decide +kernel
  rcases Option.map_eq_some_iff.mp state with ⟨row, found, rejected⟩
  have final := @ServiceBootstrap.over_for_good _ steadyHost rdf loadsNothing bootstrap (py "run-1")
    (some 0) decisionRequests _ (started_wellNamed [] []) (started_orderly [] [] _)
    (decisionRequests_begun [] []) [0, 0, 0, 0, 0, 1, 1, 2, 1, 1] [2, 2, 2]
  refine ⟨final.1 ⟨row, found, .inr (.inr rejected)⟩, final.2 ?_⟩
  intro undecided
  rw [rejectedView, undecided] at decided
  cases decided

theorem rejection_steps :
    (rejectedView [0, 0, 0, 0, 0, 1, 1, 2, 1, 1, 1, 2]).executed.Pairwise (· < ·) :=
  ServiceBootstrap.steps_ascend (started_wellNamed [] []) (started_orderly [] [] _)
    (decisionRequests_begun [] []) _

/-- The sample service, where the definition that is read again has both steps. -/
def rereading : ServiceBootstrap Unit :=
  { bootstrap with loadSopDefinition := fun _ _ => .ok (some approvedWrite) }

/-- A workflow is begun and approved by a click, which comes twice. -/
def approvalRequests : ℕ → ServiceRequest
  | 0 => .workflow (.create approvedWrite Dict.empty (some (py "run-1")))
  | _ => .workflow (.cardCallback (.obj [(py "action", .obj [(py "value", .obj [
      (py "action", .str (py "APPROVED")), (py "run_id", .str (py "run-1"))])])]))

theorem approvalRequests_begun :
    ServiceBootstrap.BegunOnce steadyHost rereading (some 0) (py "run-1")
      ((ServiceBootstrap.started [] Dict.empty [] :
        ServiceWorld Unit).state.engine.runView (py "run-1")) approvalRequests := by
  refine .given (some 0) ?_ ?_
  · rintro _ ⟨⟩
    exact ⟨_, rfl, .creates Dict.empty (by simp [py]) ⟨rfl, rfl⟩ approvedWrite_asks⟩
  · intro i other
    rcases i with _ | i
    · exact absurd rfl other
    · exact id

def approvedView (schedule : List ℕ) : RunView :=
  (rereading.serve steadyHost rdf loadsNothing approvalRequests
    (ServiceBootstrap.started [] Dict.empty []) schedule).state.engine.runView (py "run-1")

/-- The second step was executed, and one of the two clicks is on record. -/
theorem approval_behind_gate :
    1 ∈ (approvedView [0, 0, 0, 0, 0, 1, 1, 2, 1, 1, 1, 1, 1, 1, 2, 2, 2]).executed ∧
      ∃ record : FeedbackRecord, record.decision = py "APPROVED" ∧
        (approvedView [0, 0, 0, 0, 0, 1, 1, 2, 1, 1, 1, 1, 1, 1, 2, 2, 2]).decisions =
          [record] := by
  have executed :
      1 ∈ (approvedView [0, 0, 0, 0, 0, 1, 1, 2, 1, 1, 1, 1, 1, 1, 2, 2, 2]).executed := by
    decide +kernel
  refine ⟨executed, ServiceBootstrap.approved_behind_gate (started_wellNamed [] [])
    (started_orderly [] [] _) approvalRequests_begun rfl ?_ _ 1 executed Nat.one_pos⟩
  exact fun _ visited => nomatch visited

/-- A host that draws a longer id at every tick. -/
def drawingHost : Host :=
  { steadyHost with uuid4 := fun tick => py "run-1" ++ List.replicate tick 0x31 }

/-- Two workflows are begun without an id, and the one whose id is drawn first is approved. -/
def drawnRequests : ℕ → ServiceRequest
  | 0 | 1 => .workflow (.create approvedWrite Dict.empty none)
  | _ => .workflow (.resumeRequest (py "run-1") (.obj [(py "decision", .str (py "APPROVED"))]))

theorem drawnRequests_begun :
    ServiceBootstrap.BegunOnce drawingHost rereading (some 0) (py "run-1")
      ((ServiceBootstrap.started [] Dict.empty [] :
        ServiceWorld Unit).state.engine.runView (py "run-1")) drawnRequests := by
  refine .drawn ⟨rfl, rfl⟩ ?_ ?_
  · have first : ∀ tick, drawingHost.uuid4 tick = py "run-1" → tick = 0 := by
      intro tick drawn
      have length := congrArg List.length drawn
      simpa [drawingHost] using length
    intro tick tick' drawn drawn'
    rw [first tick drawn, first tick' drawn']
  · intro i founds
    rcases i with _ | _ | i
    · exact ⟨_, _, _, rfl, .inl rfl, approvedWrite_asks⟩
    · exact ⟨_, _, _, rfl, .inl rfl, approvedWrite_asks⟩
    · exact founds.elim

def drawnView (schedule : List ℕ) : RunView :=
  (rereading.serve drawingHost rdf loadsNothing drawnRequests
    (ServiceBootstrap.started [] Dict.empty []) schedule).state.engine.runView (py "run-1")

/-- The second request creates the run, and what the first one does goes on elsewhere. -/
theorem drawn_run_lives :
    (drawnView [1, 0, 0, 1]).row.map StoredRun.state = some .pending ∧
    (drawnView [1, 0, 0, 1, 1, 0, 1, 0, 1, 2, 2, 2, 2, 2]).executed = [0, 1] ∧
    ReflTransGen (RunView.Moves (some 0)) (drawnView [1, 0, 0, 1])
        (drawnView ([1, 0, 0, 1] ++ [1, 0, 1, 0, 1, 2, 2, 2, 2, 2])) ∧
      (drawnView [1, 0, 0, 1]).Orderly ∧
      ∃ holder : Option ℕ, ∀ slots i, holder ≠ some i →
        (∀ before, before <+: slots → (drawnView ([1, 0, 0, 1] ++ before)).Busy) →
        drawnView ([1, 0, 0, 1] ++ (slots ++ [i])) = drawnView ([1, 0, 0, 1] ++ slots) :=
  ⟨by decide +kernel, by decide +kernel,
    ServiceBootstrap.run_lives (started_wellNamed [] []) (started_orderly [] [] _)
      drawnRequests_begun _ _⟩

/-- A run that waits while another one is begun and rejected. -/
def strangerRequests : ℕ → ServiceRequest
  | 0 => .workflow (.create approvedWrite Dict.empty (some (py "run-2")))
  | _ => .workflow (.resumeRequest (py "run-2") (.obj [(py "decision", .str (py "REJECTED"))]))

theorem stored_wellNamed : (ServiceBootstrap.started [] storedWorld.state.runs [] :
    ServiceWorld Unit).state.engine.WellNamed := by
  intro runId row ctx found read
  change (Dict.set Dict.empty (py "run-1") _).get? runId = some row at found
  by_cases same : runId = py "run-1"
  · rw [same, Dict.get?_set_self] at found
    cases found
    rw [StoredRun.context?, RunTable.rowFor, SOPRunContext.ofJson_toJson] at read
    split at read <;> cases read
    exact ⟨same.symm, rfl⟩
  · rw [Dict.get?_set_of_ne _ _ same] at found
    cases found

theorem stranger_untouched :
    (bootstrap.serve steadyHost rdf loadsNothing strangerRequests (ServiceBootstrap.started []
      storedWorld.state.runs []) [0, 0, 0, 0, 0, 1, 1, 1, 1, 1]).state.engine.runView (py "run-1") =
    (ServiceBootstrap.started [] storedWorld.state.runs [] :
      ServiceWorld Unit).state.engine.runView (py "run-1") := by
  apply ServiceBootstrap.others_untouched stored_wellNamed
  · intro i founds
    rcases i with _ | i
    · have created : SOPEngine.Creates steadyHost (some (py "run-2")) (py "run-1") := founds
      rw [SOPEngine.Creates, if_pos (by decide)] at created
      revert created
      decide
    · exact founds
  · intro i addressed
    rcases i with _ | i
    · exact addressed
    · have same : some (py "run-2") = some (py "run-1") := Except.ok.inj addressed
      revert same
      decide

end Sample

end AgentOS
