import AgentOS.Service.Service
import AgentOS.Workflow.SopRun

/-!
# Look-ups of a callback

The callback of a card is looked up before the engine is called: its run in the store, and the
definition of its SOP among the files. What comes before the call changes nothing, and so all
that a callback does is done by the call.
-/

namespace AgentOS

open Python Cooperative

namespace Service

variable {host : Host} {rdf : RdfLib} {service : Service}

/-- What a callback has found when the engine is called. -/
structure Found where
  callback : CardCallback
  engine : SOPEngine
  ctx : SOPRunContext
  sop : SOPDefinition

/-- `_handle_card_callback` up to the call of the engine: a reply, or all that it is called with. -/
def lookUp (host : Host) (service : Service) (body : Json) : Coro Exc EngineWorld (Json ⊕ Found) :=
  match FeishuAdapter.parseCardCallback body with
  | .error exc => throw exc
  | .ok none => pure (.inl (statusReply "ignored" (py "not an approval callback")))
  | .ok (some callback) =>
      match service.sopEngine, service.stateStore with
      | some engine, true => do
          let loaded ← Coro.sync (SOPEngine.loadState host callback.runId)
          match loaded with
          | none =>
              pure (.inl (statusReply "error"
                (py "SOP run " ++ host.strValue callback.runId ++
                  py " not found (may have expired)")))
          | some ctx => do
              let defined ← Coro.sync (Timed.outcome (service.loadSopDefinition ctx.sopId))
              match defined with
              | none =>
                  pure (.inl (statusReply "error"
                    (py "SOP definition " ++ ctx.sopId ++ py " not found")))
              | some sop => pure (.inr ⟨callback, engine, ctx, sop⟩)
      | _, _ => pure (.inl (statusReply "error" (py "SOP engine not available")))

/-- `_handle_card_callback` from the call of the engine on. -/
def Found.resume (host : Host) (rdf : RdfLib) (found : Found) : Coro Exc EngineWorld Json := do
  let _ ← found.engine.resume host rdf found.sop found.ctx found.callback.decision
    found.callback.reason found.callback.reviewer
  pure (.obj [(py "status", .str (py "ok")), (py "run_id", found.callback.runId),
    (py "decision", .str found.callback.decision)])

theorem handleCardCallback_eq (body : Json) :
    service.handleCardCallback host rdf body =
      service.lookUp host body >>= Sum.elim pure (Found.resume host rdf) := by
  unfold handleCardCallback lookUp
  rcases FeishuAdapter.parseCardCallback body with exc | _ | callback
  · rfl
  · rfl
  rcases service.sopEngine with _ | engine
  · rfl
  rcases service.stateStore with _ | _
  · rfl
  dsimp only
  rw [Coro.bind_assoc]
  congr 1
  funext loaded
  rcases loaded with _ | ctx
  · rfl
  dsimp only
  rw [Coro.bind_assoc]
  congr 1
  funext defined
  rcases defined with _ | sop <;> rfl

/-- The callback names a run that is found, as the definition of its SOP is. -/
structure LeadsTo (host : Host) (service : Service) (body : Json) (found : Found)
    (world : EngineWorld) : Prop where
  parsed : FeishuAdapter.parseCardCallback body = .ok (some found.callback)
  wired : service.sopEngine = some found.engine
  stores : service.stateStore = true
  loaded : RunTable.loadState host found.callback.runId world.state.runs = .ok (some found.ctx)
  defined : service.loadSopDefinition found.ctx.sopId world.tick = .ok (some found.sop)

/-- The look-ups end the callback: one of them raises, or it is answered without the engine. -/
inductive EndsHere : Except Exc (Json ⊕ Found) → Prop where
  | raised (exc : Exc) : EndsHere (.error exc)
  | ignored (reason : Str) : EndsHere (.ok (.inl (statusReply "ignored" reason)))
  | failed (reason : Str) : EndsHere (.ok (.inl (statusReply "error" reason)))

theorem run_loadState (host : Host) (key : Json) (world : EngineWorld) :
    (Coro.sync (SOPEngine.loadState host key)).run world =
      (RunTable.loadState host key world.state.runs, world) := by
  rw [Coro.run_sync, SOPEngine.loadState_apply]

theorem run_loadSopDefinition (service : Service) (sopId : Str) (world : EngineWorld) :
    (Coro.sync (Timed.outcome (service.loadSopDefinition sopId)) :
      Coro Exc EngineWorld (Option SOPDefinition)).run world =
      (service.loadSopDefinition sopId world.tick, ⟨world.tick + 1, world.state⟩) :=
  Coro.run_sync _ _

theorem LeadsTo.lookUp {body : Json} {found : Found} {world : EngineWorld}
    (leads : service.LeadsTo host body found world) :
    (service.lookUp host body).run world =
      (.ok (.inr found), ⟨world.tick + 1, world.state⟩) := by
  have loads := run_loadState host found.callback.runId world
  have defines := run_loadSopDefinition service found.ctx.sopId world
  rw [leads.loaded] at loads
  rw [leads.defined] at defines
  rw [Service.lookUp, leads.parsed, leads.wired, leads.stores]
  dsimp only
  rw [Coro.run_bind_of_ok loads]
  exact Coro.run_bind_of_ok defines

/-- A callback that leads to no call of the engine ends in the look-ups and changes nothing. -/
theorem lookUp_cases (host : Host) (service : Service) (body : Json) (world : EngineWorld) :
    (∃ found, service.LeadsTo host body found world) ∨
      ∃ result tick, EndsHere result ∧
        (service.lookUp host body).run world = (result, ⟨tick, world.state⟩) := by
  unfold Service.lookUp
  rcases parsed : FeishuAdapter.parseCardCallback body with exc | _ | callback
  · exact .inr ⟨.error exc, world.tick, .raised exc, rfl⟩
  · exact .inr ⟨_, world.tick, .ignored _, rfl⟩
  rcases wired : service.sopEngine with _ | engine
  · exact .inr ⟨_, world.tick, .failed _, rfl⟩
  rcases stores : service.stateStore with _ | _
  · exact .inr ⟨_, world.tick, .failed _, rfl⟩
  dsimp only
  have loads := run_loadState host callback.runId world
  rcases loaded : RunTable.loadState host callback.runId world.state.runs with exc | _ | ctx <;>
    rw [loaded] at loads
  · exact .inr ⟨.error exc, world.tick, .raised exc, Coro.run_bind_of_error loads⟩
  · exact .inr ⟨_, world.tick, .failed _, Coro.run_bind_of_ok loads⟩
  have defines := run_loadSopDefinition service ctx.sopId world
  rw [Coro.run_bind_of_ok loads]
  rcases defined : service.loadSopDefinition ctx.sopId world.tick with exc | _ | sop <;>
    rw [defined] at defines
  · exact .inr ⟨.error exc, world.tick + 1, .raised exc, Coro.run_bind_of_error defines⟩
  · exact .inr ⟨_, world.tick + 1, .failed _, Coro.run_bind_of_ok defines⟩
  · exact .inl ⟨⟨callback, engine, ctx, sop⟩, parsed, wired, stores, loaded, defined⟩

/-- What is found is found once. -/
theorem LeadsTo.unique {body : Json} {found other : Found} {world : EngineWorld}
    (leads : service.LeadsTo host body found world)
    (others : service.LeadsTo host body other world) : other = found := by
  have same := congrArg Prod.fst (leads.lookUp.symm.trans others.lookUp)
  cases same
  rfl

theorem EndsHere.not_leadsTo {body : Json} {world after : EngineWorld}
    {result : Except Exc (Json ⊕ Found)} (ends : EndsHere result)
    (looked : (service.lookUp host body).run world = (result, after)) (found : Found) :
    ¬ service.LeadsTo host body found world := by
  intro leads
  have same := congrArg Prod.fst (looked.symm.trans leads.lookUp)
  subst same
  cases ends

/-- What a callback does when its run and the definition are found, and else. -/
theorem handleCardCallback_run (host : Host) (rdf : RdfLib) (service : Service) (body : Json)
    (world : EngineWorld) :
    (service.handleCardCallback host rdf body).run world =
      match (service.lookUp host body).run world with
      | (.ok (.inl reply), after) => (.ok reply, after)
      | (.ok (.inr found), after) => (found.resume host rdf).run after
      | (.error exc, after) => (.error exc, after) := by
  rw [handleCardCallback_eq, Coro.run_bind]
  rcases (service.lookUp host body).run world with ⟨exc | reply | found, after⟩ <;> rfl

end Service

end AgentOS
