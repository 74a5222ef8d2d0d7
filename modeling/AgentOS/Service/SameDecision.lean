import AgentOS.Cooperative.Mirrors
import AgentOS.Service.OneDecision
import AgentOS.Service.Unsigned

/-!
# One decision by two doors

A decision comes as the callback of a card or as a request of the API. Where both name the same
run, decision, reason and person, the service does the same for the one as for the other, step by
step, so that in no interleaving anything but the answer tells them apart.
-/

namespace AgentOS

open Python Cooperative

namespace Service

variable {host : Host} {rdf : RdfLib} {service : Service}

/-- The request makes the decision of the callback. -/
structure Restates (callback : CardCallback) (runId : Str) (request : Json) : Prop where
  run : callback.runId = .str runId
  decision : getField request "decision" (.str []) = .ok (.str callback.decision)
  reason : getField request "reason" .null = .ok callback.reason
  approver : getField request "approver_id" (.str (py "api-user")) = .ok callback.reviewer

/-- The answer to a card, and the answer to a request that makes the same decision. -/
inductive AnsweredAlike (host : Host) (runId decision : Str) :
    Except Exc Json → Except Exc Json → Prop where
  | raised (exc : Exc) : AnsweredAlike host runId decision (.error exc) (.error exc)
  | unavailable :
      AnsweredAlike host runId decision
        (.ok (statusReply "error" (py "SOP engine not available")))
        (.error (httpException 503 (py "SOP engine not available")))
  | unknownRun :
      AnsweredAlike host runId decision
        (.ok (statusReply "error"
          (py "SOP run " ++ host.strValue (.str runId) ++ py " not found (may have expired)")))
        (.error (httpException 404 (py "SOP run " ++ runId ++ py " not found")))
  | unknownSop (sopId : Str) :
      AnsweredAlike host runId decision
        (.ok (statusReply "error" (py "SOP definition " ++ sopId ++ py " not found")))
        (.error (httpException 404 (py "SOP definition " ++ sopId ++ py " not found")))
  | resumed (state : SOPRunState) :
      AnsweredAlike host runId decision
        (.ok (.obj [(py "status", .str (py "ok")), (py "run_id", .str runId),
          (py "decision", .str decision)]))
        (.ok (.obj [(py "status", .str (py "ok")), (py "run_id", .str runId),
          (py "sop_state", .str state.value), (py "decision", .str decision)]))

theorem resumeSop_mirrors {body request : Json} {runId : Str} {callback : CardCallback}
    (parsed : FeishuAdapter.parseCardCallback body = .ok (some callback))
    (restates : Restates callback runId request) :
    (service.handleCardCallback host rdf body).Mirrors (AnsweredAlike host runId callback.decision)
      (service.resumeSop host rdf runId request) := by
  unfold handleCardCallback resumeSop
  rw [parsed]
  rcases service.sopEngine with _ | engine
  · exact Coro.mirrors_done AnsweredAlike.unavailable
  rcases service.stateStore with _ | _
  · exact Coro.mirrors_done AnsweredAlike.unavailable
  dsimp only
  rw [restates.decision, Coro.done_ok_bind]
  dsimp only
  rw [if_pos callback.decided, restates.reason, Coro.done_ok_bind, restates.approver,
    Coro.done_ok_bind, restates.run]
  unfold resumeAs
  refine Coro.mirrors_bind_left .raised fun loaded => ?_
  rcases loaded with _ | ctx
  · exact Coro.mirrors_done AnsweredAlike.unknownRun
  refine Coro.mirrors_bind_left .raised fun defined => ?_
  rcases defined with _ | sop
  · exact Coro.mirrors_done (AnsweredAlike.unknownSop ctx.sopId)
  refine Coro.mirrors_bind_left .raised fun ended => ?_
  exact Coro.mirrors_done (AnsweredAlike.resumed ended.state)

/-- The callback of another card, with another step, but for the same run and decision. -/
theorem handleCardCallback_mirrors {body body' : Json} {callback : CardCallback} {stepId : Json}
    (parsed : FeishuAdapter.parseCardCallback body = .ok (some callback))
    (parsed' : FeishuAdapter.parseCardCallback body' = .ok (some { callback with stepId })) :
    (service.handleCardCallback host rdf body).Mirrors Eq
      (service.handleCardCallback host rdf body') := by
  have same : service.handleCardCallback host rdf body' =
      service.handleCardCallback host rdf body := by
    unfold handleCardCallback
    rw [parsed, parsed']
  rw [same]
  exact Coro.mirrors_self (fun _ => rfl) _

/-- The second call makes the decision that the first one makes. -/
inductive Restated : Call → Call → Prop where
  | same (call : Call) : Restated call call
  | byStep {body body' : Json} {callback : CardCallback} {stepId : Json}
      (parsed : FeishuAdapter.parseCardCallback body = .ok (some callback))
      (parsed' : FeishuAdapter.parseCardCallback body' = .ok (some { callback with stepId })) :
      Restated (.cardCallback body) (.cardCallback body')
  | byRequest {body : Json} {callback : CardCallback} {runId : Str} {request : Json}
      (parsed : FeishuAdapter.parseCardCallback body = .ok (some callback))
      (restates : Restates callback runId request) :
      Restated (.cardCallback body) (.resumeRequest runId request)

/-- The answers to two calls of which the second makes the decision of the first. -/
inductive EndedAlike (host : Host) :
    Except Exc (SOPRunContext ⊕ Json) → Except Exc (SOPRunContext ⊕ Json) → Prop where
  | same (result : Except Exc (SOPRunContext ⊕ Json)) : EndedAlike host result result
  | answered {runId decision : Str} {answer answer' : Except Exc Json}
      (alike : AnsweredAlike host runId decision answer answer') :
      EndedAlike host (answer.map .inr) (answer'.map .inr)

theorem Restated.mirrors {call call' : Call} (restated : Restated call call') :
    (service.task host rdf call).Mirrors (EndedAlike host) (service.task host rdf call') := by
  cases restated with
  | same call => exact Coro.mirrors_self .same _
  | byStep parsed parsed' =>
      refine (handleCardCallback_mirrors parsed parsed').map ?_
      rintro result _ rfl
      exact .same _
  | byRequest parsed restates =>
      refine (resumeSop_mirrors parsed restates).map ?_
      intro answer answer' alike
      exact .answered alike

/--
Any callbacks of cards may be replaced by requests of the API for the same decisions, in every
interleaving with whatever else is served: the runs, the records, the graph and all the rest are
the same, and a call that has ended has ended in the same way or with the matching answer.
-/
theorem serve_restated {calls calls' : ℕ → Call} (restated : ∀ i, Restated (calls i) (calls' i))
    (start : EngineWorld) (schedule : List ℕ) :
    (service.serve host rdf calls start schedule).state =
        (service.serve host rdf calls' start schedule).state ∧
      ∀ i result, (service.serve host rdf calls start schedule).tasks i = .done result →
        ∃ result', (service.serve host rdf calls' start schedule).tasks i = .done result' ∧
          EndedAlike host result result' := by
  have started : Pool.Mirrored (fun _ => True) (fun _ => EndedAlike host)
      ⟨start, fun i => service.task host rdf (calls i)⟩
      ⟨start, fun i => service.task host rdf (calls' i)⟩ :=
    ⟨rfl, fun i _ => (restated i).mirrors⟩
  have mirrored := @Pool.exec_mirrors _ _ _ _ _ _ _ _ _ _ started schedule fun _ _ => trivial
  refine ⟨mirrored.state, ?_⟩
  intro i result ended
  have mirrors := mirrored.tasks i trivial
  rw [show (Pool.exec _ schedule).tasks i = .done result from ended] at mirrors
  exact mirrors.ended

end Service

namespace Sample

/-- The click of the rivals is made by a request. -/
def restatedRivals : ℕ → Service.Call
  | 0 => .resumeRequest (py "run-1") (.obj [(py "decision", .str (py "APPROVED")),
      (py "reason", .str []), (py "approver_id", .str (py "unknown"))])
  | _ => .resumeRequest (py "run-1") (.obj [(py "decision", .str (py "REJECTED"))])

theorem rivals_restated (i : ℕ) : Service.Restated (rivals i) (restatedRivals i) := by
  rcases i with _ | i
  · have parsed : FeishuAdapter.parseCardCallback forgedClick = .ok (some forgedCallback) := rfl
    exact .byRequest parsed ⟨rfl, rfl, rfl, rfl⟩
  · exact .same _

theorem rivals_served_alike :
    (decidingService.serve steadyHost rdf rivals storedWorld [0, 1, 1, 0, 1, 0, 0, 1]).state =
        (decidingService.serve steadyHost rdf restatedRivals storedWorld
          [0, 1, 1, 0, 1, 0, 0, 1]).state ∧
      ∀ i result, (decidingService.serve steadyHost rdf rivals storedWorld
          [0, 1, 1, 0, 1, 0, 0, 1]).tasks i = .done result →
        ∃ result', (decidingService.serve steadyHost rdf restatedRivals storedWorld
            [0, 1, 1, 0, 1, 0, 0, 1]).tasks i = .done result' ∧
          Service.EndedAlike steadyHost result result' :=
  Service.serve_restated rivals_restated storedWorld _

end Sample

end AgentOS
