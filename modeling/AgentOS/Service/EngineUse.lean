import AgentOS.Service.Deployment
import AgentOS.Service.Unsigned

/-!
# How the service uses its engine

The routes of the service change the records of the engine only by its own calls, which begin
and resume runs. A relation along which these calls move the engine, whatever happens between
their steps, is one along which the whole service moves it, in any order of requests.
-/

namespace AgentOS

open Python Cooperative Relation

namespace SOPEngine

/-- The calls that begin and resume runs move along a relation that looks at the records only. -/
structure MovesBy (host : Host) (rdf : RdfLib) (engine : SOPEngine)
    (step : EngineWorld → EngineWorld → Prop) : Prop where
  idle : ∀ world world', recordsOf world' = recordsOf world → step world world'
  begins : ∀ sop data runId origin,
    (Coro.sync (engine.createRun host sop data runId) >>= engine.run host rdf sop).Steps step
      (fun _ _ => True) origin
  resumes : ∀ sop ctx decision reason approverId origin,
    (engine.resume host rdf sop ctx decision reason approverId).Steps step (fun _ _ => True) origin

variable {host : Host} {rdf : RdfLib} {engine : SOPEngine}
  {step : EngineWorld → EngineWorld → Prop}

theorem MovesBy.of_keeps (moves : engine.MovesBy host rdf step) {α : Type}
    {kept : Except Exc α → Prop} {body : Coro Exc EngineWorld α} (keeps : body.Keeps recordsOf kept)
    (origin : EngineWorld) : body.Steps step (fun result _ => kept result) origin :=
  keeps.steps moves.idle origin

theorem MovesBy.loadState_moves (moves : engine.MovesBy host rdf step) (key : Json)
    (origin : EngineWorld) :
    (Coro.sync (loadState host key)).Steps step (fun _ _ => True) origin := by
  have keeps : (loadState host key).Keeps recordsOf := by
    intro world
    rw [loadState_apply]
  exact moves.of_keeps (Coro.keeps_sync keeps fun _ => trivial) origin

/-- What follows a coroutine only puts its value into another form. -/
theorem steps_map {α β : Type} {body : Coro Exc EngineWorld α} {origin : EngineWorld}
    (convert : α → β) (steps : body.Steps step (fun _ _ => True) origin) :
    (body >>= fun value => pure (convert value)).Steps step (fun _ _ => True) origin := by
  apply Coro.steps_bind steps
  · exact fun _ _ _ _ => trivial
  · exact fun _ _ _ => trivial

end SOPEngine

namespace Service

variable {host : Host} {rdf : RdfLib} {service : Service} {engine : SOPEngine}
  {step : EngineWorld → EngineWorld → Prop}

theorem loadSopDefinition_moves (moves : engine.MovesBy host rdf step) (service : Service)
    (sopId : Str) (origin : EngineWorld) :
    (Coro.sync (Timed.outcome (service.loadSopDefinition sopId)) :
      Coro Exc EngineWorld (Option SOPDefinition)).Steps step (fun _ _ => True) origin :=
  moves.of_keeps (Coro.keeps_sync (fun _ => rfl) fun _ => trivial) origin

theorem lookUp_moves (moves : engine.MovesBy host rdf step)
    (wired : service.sopEngine = some engine) (body : Json) (origin : EngineWorld) :
    (service.lookUp host body).Steps step
      (fun result _ => ∀ found, result = .ok (.inr found) → found.engine = engine) origin := by
  have answers : ∀ (reply : Json) (world : EngineWorld),
      (pure (.inl reply) : Coro Exc EngineWorld (Json ⊕ Found)).Steps step
        (fun result _ => ∀ found, result = .ok (.inr found) → found.engine = engine) world := by
    intro reply world found returned
    cases returned
  have raises : ∀ (exc : Exc) (world : EngineWorld),
      (throw exc : Coro Exc EngineWorld (Json ⊕ Found)).Steps step
        (fun result _ => ∀ found, result = .ok (.inr found) → found.engine = engine) world := by
    intro exc world found returned
    cases returned
  unfold lookUp
  rw [wired]
  split
  · exact raises _ origin
  · exact answers _ origin
  · split
    · rename_i same _
      cases same
      apply Coro.steps_bind (moves.loadState_moves _ origin)
      · rintro (_ | ctx) world - -
        · exact answers _ world
        · apply Coro.steps_bind (loadSopDefinition_moves moves service _ world)
          · rintro (_ | sop) world' - -
            · exact answers _ world'
            · rintro _ ⟨⟩
              rfl
          · exact fun exc world _ => raises exc world
      · exact fun exc world _ => raises exc world
    · exact answers _ origin

theorem found_moves (moves : engine.MovesBy host rdf step) {found : Found}
    (same : found.engine = engine) (origin : EngineWorld) :
    (found.resume host rdf).Steps step (fun _ _ => True) origin := by
  subst same
  exact SOPEngine.steps_map _ (moves.resumes _ _ _ _ _ origin)

theorem handleCardCallback_moves (moves : engine.MovesBy host rdf step)
    (wired : service.sopEngine = some engine) (body : Json) (origin : EngineWorld) :
    (service.handleCardCallback host rdf body).Steps step (fun _ _ => True) origin := by
  rw [handleCardCallback_eq]
  apply Coro.steps_bind (lookUp_moves moves wired body origin)
  · rintro (reply | found) world - same
    · trivial
    · exact found_moves moves (same found rfl) world
  · exact fun _ _ _ => trivial

theorem resumeAs_moves (moves : engine.MovesBy host rdf step) (runId decision : Str)
    (reason approverId : Json) (origin : EngineWorld) :
    (service.resumeAs host rdf engine runId decision reason approverId).Steps step
      (fun _ _ => True) origin := by
  apply Coro.steps_bind (moves.loadState_moves _ origin)
  · rintro (_ | ctx) world - -
    · trivial
    · apply Coro.steps_bind (loadSopDefinition_moves moves service _ world)
      · rintro (_ | sop) world' - -
        · trivial
        · exact SOPEngine.steps_map _ (moves.resumes _ _ _ _ _ world')
      · exact fun _ _ _ => trivial
  · exact fun _ _ _ => trivial

theorem resumeSop_moves (moves : engine.MovesBy host rdf step)
    (wired : service.sopEngine = some engine) (runId : Str) (body : Json) (origin : EngineWorld) :
    (service.resumeSop host rdf runId body).Steps step (fun _ _ => True) origin := by
  have field : ∀ (key : String) (default : Json) (world : EngineWorld),
      (Coro.done (getField body key default) : Coro Exc EngineWorld Json).Steps step
        (fun _ _ => True) world :=
    fun _ _ _ => Coro.steps_done trivial
  unfold resumeSop
  rw [wired]
  split
  · rename_i same _
    cases same
    apply Coro.steps_bind (field _ _ origin)
    · intro decision world _ _
      split
      · split
        · apply Coro.steps_bind (field _ _ world)
          · intro reason world' _ _
            apply Coro.steps_bind (field _ _ world')
            · exact fun _ world'' _ _ => resumeAs_moves moves _ _ _ _ world''
            · exact fun _ _ _ => trivial
          · exact fun _ _ _ => trivial
        · trivial
      · trivial
    · exact fun _ _ _ => trivial
  · trivial

/-- A call moves the engine along the relation if the contexts that are run from outside do. -/
theorem task_moves (moves : engine.MovesBy host rdf step) (wired : service.sopEngine = some engine)
    {call : Call} {origin : EngineWorld} (runs : ∀ sop ctx, call = .run sop ctx →
      (engine.run host rdf sop ctx).Steps step (fun _ _ => True) origin) :
    (service.task host rdf call).Steps step (fun _ _ => True) origin := by
  cases call with
  | create sop data runId =>
      simp only [task, onEngine, wired]
      rw [← Coro.bind_assoc]
      exact SOPEngine.steps_map _ (moves.begins sop data runId origin)
  | run sop ctx =>
      simp only [task, onEngine, wired]
      exact SOPEngine.steps_map _ (runs sop ctx rfl)
  | cardCallback body =>
      exact SOPEngine.steps_map _ (handleCardCallback_moves moves wired body origin)
  | resumeRequest runId body =>
      exact SOPEngine.steps_map _ (resumeSop_moves moves wired runId body origin)

end Service

namespace Gateway

variable {ν α : Type} {host : Host} {rdf : RdfLib} {loads : Str → Except Exc Json}
  {gateway : Gateway ν} {engine : SOPEngine} {step : EngineWorld → EngineWorld → Prop}

def EngineStep (ν : Type) (step : EngineWorld → EngineWorld → Prop)
    (world world' : ServiceWorld ν) : Prop :=
  step (world.part ServiceState.engine) (world'.part ServiceState.engine)

theorem atEngine_steps {body : Coro Exc EngineWorld α} {ends : Except Exc α → Prop}
    {origin : ServiceWorld ν}
    (steps : body.Steps step (fun result _ => ends result) (origin.part ServiceState.engine)) :
    (atEngine body).Steps (EngineStep ν step) (fun result _ => ends result) origin :=
  Coro.Steps.zoom (Timed.part ServiceState.engine) (Timed.setPart ServiceState.setEngine)
    (fun _ _ => rfl) (fun _ _ step => step) (fun _ _ step => step) steps

theorem steps_of_keeps (moves : engine.MovesBy host rdf step) {ends : Except Exc α → Prop}
    {body : Coro Exc (ServiceWorld ν) α}
    (keeps : body.Keeps (fun world => SOPEngine.recordsOf (world.part ServiceState.engine)) ends)
    (origin : ServiceWorld ν) : body.Steps (EngineStep ν step) (fun _ _ => True) origin :=
  (keeps.steps (fun _ _ same => moves.idle _ _ same) origin).mono fun _ _ _ => trivial

theorem atKernel_moves (moves : engine.MovesBy host rdf step) (body : Coro Exc (KernelWorld ν) α)
    (origin : ServiceWorld ν) :
    (atKernel body).Steps (EngineStep ν step) (fun _ _ => True) origin := by
  apply steps_of_keeps moves
  apply Coro.keeps_zoom
  · exact fun _ _ => rfl
  · exact fun _ => trivial

theorem noteCall_moves (moves : engine.MovesBy host rdf step) (call : ServiceCall)
    (origin : ServiceWorld ν) :
    (noteCall call : Coro Exc (ServiceWorld ν) Unit).Steps (EngineStep ν step) (fun _ _ => True)
      origin := by
  have keeps : (noteCall call : Coro Exc (ServiceWorld ν) Unit).Keeps
      (fun world => SOPEngine.recordsOf (world.part ServiceState.engine)) fun _ => True :=
    Coro.keeps_sync (fun _ => rfl) fun _ => trivial
  exact steps_of_keeps moves keeps origin

theorem handleCardCallback_moves (moves : engine.MovesBy host rdf step)
    (wired : gateway.service.sopEngine = some engine) (body : Json) (origin : ServiceWorld ν) :
    (gateway.handleCardCallback host rdf body).Steps (EngineStep ν step) (fun _ _ => True)
      origin := by
  rw [handleCardCallback_eq]
  apply Coro.steps_bind (atEngine_steps (Service.lookUp_moves moves wired body _))
  · rintro (reply | found) world - same
    · trivial
    · apply Coro.steps_bind (noteCall_moves moves _ world)
      · exact fun _ _ _ _ => atEngine_steps (Service.found_moves moves (same found rfl) _)
      · exact fun _ _ _ => trivial
  · exact fun _ _ _ => trivial

theorem handleEvent_moves (moves : engine.MovesBy host rdf step) (gateway : Gateway ν) (body : Json)
    (origin : ServiceWorld ν) :
    (gateway.handleEvent host rdf loads body).Steps (EngineStep ν step) (fun _ _ => True)
      origin := by
  have parsed : (Coro.done (FeishuAdapter.parseEvent loads body) :
      Coro Exc (ServiceWorld ν) (Option FeishuAdapter.EventMessage)).Steps (EngineStep ν step)
        (fun _ _ => True) origin := Coro.steps_done trivial
  apply Coro.steps_bind parsed
  · rintro (_ | message) world - -
    · trivial
    · dsimp only
      split
      · apply Coro.steps_bind (noteCall_moves moves _ world)
        · intro _ world' _ _
          apply Coro.steps_bind (atKernel_moves moves _ world')
          · exact fun _ _ _ _ => trivial
          · exact fun _ _ _ => trivial
        · exact fun _ _ _ => trivial
      · trivial
  · exact fun _ _ _ => trivial

theorem feishuWebhook_moves (moves : engine.MovesBy host rdf step)
    (wired : gateway.service.sopEngine = some engine) (request : WebhookRequest)
    (origin : ServiceWorld ν) :
    (gateway.feishuWebhook host rdf loads request).Steps (EngineStep ν step) (fun _ _ => True)
      origin := by
  have done : ∀ {α : Type} (result : Except Exc α) (world : ServiceWorld ν),
      (Coro.done result : Coro Exc (ServiceWorld ν) α).Steps (EngineStep ν step) (fun _ _ => True)
        world :=
    fun _ _ => Coro.steps_done trivial
  unfold feishuWebhook
  split
  · apply Coro.steps_bind (done _ origin)
    · intro body world _ _
      apply Coro.steps_bind (done _ world)
      · rintro (_ | reply) world' - -
        · dsimp only
          split
          · exact handleCardCallback_moves moves wired body world'
          · exact handleEvent_moves moves gateway body world'
        · trivial
      · exact fun _ _ _ => trivial
    · exact fun _ _ _ => trivial
  · trivial

end Gateway

namespace ServiceBootstrap

variable {ν : Type} {host : Host} {rdf : RdfLib} {loads : Str → Except Exc Json}
  {boot : ServiceBootstrap ν} {step : EngineWorld → EngineWorld → Prop}

theorem task_steps (moves : boot.sopEngine.MovesBy host rdf step) {request : ServiceRequest}
    {origin : ServiceWorld ν} (runs : ∀ sop ctx, request = .workflow (.run sop ctx) →
      (boot.sopEngine.run host rdf sop ctx).Steps step (fun _ _ => True)
        (origin.part ServiceState.engine)) :
    (boot.task host rdf loads request).Steps (Gateway.EngineStep ν step) (fun _ _ => True)
      origin := by
  have ends : ∀ {α : Type} {body : Coro Exc (ServiceWorld ν) α} (result : α → ServiceAnswer),
      body.Steps (Gateway.EngineStep ν step) (fun _ _ => True) origin →
      (body >>= fun value => pure (result value)).Steps (Gateway.EngineStep ν step)
        (fun _ _ => True) origin := by
    intro α body result steps
    apply Coro.steps_bind steps
    · exact fun _ _ _ _ => trivial
    · exact fun _ _ _ => trivial
  have wired : boot.service.sopEngine = some boot.sopEngine := rfl
  cases request with
  | webhook request => exact ends .reply (Gateway.feishuWebhook_moves moves wired request origin)
  | message message => exact ends .response (Gateway.atKernel_moves moves _ origin)
  | workflow call =>
      apply ends .outcome
      apply Gateway.atEngine_steps
      apply Service.task_moves moves wired
      rintro sop ctx rfl
      exact runs sop ctx rfl

theorem serve_append (requests : ℕ → ServiceRequest) (start : ServiceWorld ν)
    (earlier later : List ℕ) :
    boot.serve host rdf loads requests start (earlier ++ later) =
      ((Pool.exec ⟨start, fun i => boot.task host rdf loads (requests i)⟩ earlier).exec
        later).state := by
  rw [serve, Pool.exec_append]

/-- Whatever is asked for and in whatever order, the engine moves along the relation. -/
theorem serve_steps_later (moves : boot.sopEngine.MovesBy host rdf step)
    {requests : ℕ → ServiceRequest} {start : ServiceWorld ν}
    (runs : ∀ i sop ctx, requests i = .workflow (.run sop ctx) →
      (boot.sopEngine.run host rdf sop ctx).Steps step (fun _ _ => True)
        (start.part ServiceState.engine)) (earlier later : List ℕ) :
    ReflTransGen step
      ((boot.serve host rdf loads requests start earlier).part ServiceState.engine)
      ((boot.serve host rdf loads requests start (earlier ++ later)).part
        ServiceState.engine) := by
  have stepping : Pool.Stepping (Gateway.EngineStep ν step) (fun _ _ => True)
      ⟨start, fun i => boot.task host rdf loads (requests i)⟩ :=
    Pool.stepping_of_tasks fun i => task_steps moves (runs i)
  rw [serve_append]
  exact ((stepping.exec earlier).1.exec later).2.lift (Timed.part ServiceState.engine)
    fun _ _ step => step

theorem serve_steps (moves : boot.sopEngine.MovesBy host rdf step) {requests : ℕ → ServiceRequest}
    {start : ServiceWorld ν} (runs : ∀ i sop ctx, requests i = .workflow (.run sop ctx) →
      (boot.sopEngine.run host rdf sop ctx).Steps step (fun _ _ => True)
        (start.part ServiceState.engine)) (schedule : List ℕ) :
    ReflTransGen step (start.part ServiceState.engine)
      ((boot.serve host rdf loads requests start schedule).part ServiceState.engine) :=
  serve_steps_later moves runs [] schedule

end ServiceBootstrap

end AgentOS
