import AgentOS.Adapters.FeishuAdapter
import AgentOS.Workflow.SopEngine

/-!
# Service

The handlers of the service that resume a suspended run: the callback of an approval card
and the request of the API. Each loads the run, then the definition of its SOP, and then
calls the engine.
-/

namespace AgentOS

open Python Cooperative

/-- What the handlers use of `ServiceBootstrap`, which is wired by the time of a request. -/
structure Service where
  sopEngine : Option SOPEngine
  /-- Whether there is a `state_store`; the engine has the same one. -/
  stateStore : Bool
  /-- `_load_sop_definition` reads the SOP file again. -/
  loadSopDefinition : Str → ℕ → Except Exc (Option SOPDefinition)

/-- `{"status": "error", "reason": ...}` and its like. -/
def statusReply (status : String) (reason : Str) : Json :=
  .obj [(py "status", .str (py status)), (py "reason", .str reason)]

/-- `HTTPException(status_code=..., detail=...)`. -/
def httpException (statusCode : ℕ) (detail : Str) : Exc :=
  .builtin "HTTPException" (strNat statusCode ++ py ": " ++ detail)

namespace Service

variable (host : Host) (rdf : RdfLib) (service : Service)

/-- `_handle_card_callback`: the step that the callback names is not looked at. -/
def handleCardCallback (body : Json) : Coro Exc EngineWorld Json :=
  match FeishuAdapter.parseCardCallback body with
  | .error exc => throw exc
  | .ok none => pure (statusReply "ignored" (py "not an approval callback"))
  | .ok (some callback) =>
      match service.sopEngine, service.stateStore with
      | some engine, true => do
          let loaded ← Coro.sync (SOPEngine.loadState host callback.runId)
          match loaded with
          | none =>
              pure (statusReply "error"
                (py "SOP run " ++ host.strValue callback.runId ++
                  py " not found (may have expired)"))
          | some ctx => do
              let defined ← Coro.sync (Timed.outcome (service.loadSopDefinition ctx.sopId))
              match defined with
              | none =>
                  pure (statusReply "error" (py "SOP definition " ++ ctx.sopId ++ py " not found"))
              | some sop => do
                  let _ ← engine.resume host rdf sop ctx callback.decision callback.reason
                    callback.reviewer
                  pure (.obj [(py "status", .str (py "ok")), (py "run_id", callback.runId),
                    (py "decision", .str callback.decision)])
      | _, _ => pure (statusReply "error" (py "SOP engine not available"))

/-- `resume_sop` for the decision of the request. -/
def resumeAs (engine : SOPEngine) (runId : Str) (decision : Str) (reason approverId : Json) :
    Coro Exc EngineWorld Json := do
  let loaded ← Coro.sync (SOPEngine.loadState host (.str runId))
  match loaded with
  | none => throw (httpException 404 (py "SOP run " ++ runId ++ py " not found"))
  | some ctx => do
      let defined ← Coro.sync (Timed.outcome (service.loadSopDefinition ctx.sopId))
      match defined with
      | none => throw (httpException 404 (py "SOP definition " ++ ctx.sopId ++ py " not found"))
      | some sop => do
          let ctx ← engine.resume host rdf sop ctx decision reason approverId
          pure (.obj [(py "status", .str (py "ok")), (py "run_id", .str runId),
            (py "sop_state", .str ctx.state.value), (py "decision", .str decision)])

/-- `resume_sop`. -/
def resumeSop (runId : Str) (body : Json) : Coro Exc EngineWorld Json :=
  match service.sopEngine, service.stateStore with
  | some engine, true => do
      let decision ← Coro.done (getField body "decision" (.str []))
      match decision with
      | .str decision =>
          if isDecision decision then do
            let reason ← Coro.done (getField body "reason" .null)
            let approverId ← Coro.done (getField body "approver_id" (.str (py "api-user")))
            service.resumeAs host rdf engine runId decision reason approverId
          else throw (httpException 400 (py "decision must be APPROVED or REJECTED"))
      | _ => throw (httpException 400 (py "decision must be APPROVED or REJECTED"))
  | _, _ => throw (httpException 503 (py "SOP engine not available"))

/-- A call that the service runs: a workflow that is begun or continued, or a request. -/
inductive Call where
  | create (sop : SOPDefinition) (data : Dict Str Json) (runId : Option Str)
  | run (sop : SOPDefinition) (ctx : SOPRunContext)
  | cardCallback (body : Json)
  | resumeRequest (runId : Str) (body : Json)

/-- A method of the engine, which may be missing. -/
def onEngine {α : Type} (name : String) (body : SOPEngine → Coro Exc EngineWorld α) :
    Coro Exc EngineWorld α :=
  match service.sopEngine with
  | some engine => body engine
  | none => throw (.builtin "AttributeError"
      (py "'NoneType' object has no attribute '" ++ py name ++ py "'"))

/-- What a call does; a workflow that is created is run at once. -/
def task : Call → Coro Exc EngineWorld (SOPRunContext ⊕ Json)
  | .create sop data runId =>
      service.onEngine "create_run" fun engine => do
        let ctx ← Coro.sync (engine.createRun host sop data runId)
        let ctx ← engine.run host rdf sop ctx
        pure (.inl ctx)
  | .run sop ctx =>
      service.onEngine "run" fun engine => do
        let ctx ← engine.run host rdf sop ctx
        pure (.inl ctx)
  | .cardCallback body => do
      let reply ← service.handleCardCallback host rdf body
      pure (.inr reply)
  | .resumeRequest runId body => do
      let reply ← service.resumeSop host rdf runId body
      pure (.inr reply)

/-- The service after the calls have run in the order of the schedule. -/
def serve (calls : ℕ → Call) (start : EngineWorld) (schedule : List ℕ) :
    Pool ℕ Exc EngineWorld (SOPRunContext ⊕ Json) :=
  Pool.exec ⟨start, fun i => service.task host rdf (calls i)⟩ schedule

end Service

end AgentOS
