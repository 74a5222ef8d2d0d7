import AgentOS.Cooperative.Credit
import AgentOS.Cooperative.Stepping

/-!
# Tasks that use a component

A component of a larger state is used through its operations. `Through` says that a task touches
the component by its operations only, whatever else it does to the rest of the state. What holds
of all operations of the component then holds of the task: it moves the component along the steps
of the operations, and it covers what they spend.
-/

namespace Cooperative

open Relation

namespace Coro

variable {ε σ τ υ α β : Type}

/-- A class of coroutines, with results of any type. -/
abbrev Kind (ε σ : Type) := ∀ α : Type, Coro ε σ α → Prop

/-- The task consists of operations on the component and of steps that are idle for it. -/
inductive Through (get : τ → σ) (put : σ → τ → τ) (idle : τ → τ → Prop) (operation : Kind ε σ) :
    ∀ {α : Type}, Coro ε τ α → Prop where
  | done {α : Type} (result : Except ε α) : Through get put idle operation (done result)
  | sync {α : Type} {body : Action ε τ α} (idles : ∀ state, idle state (body state).2) :
      Through get put idle operation (sync body)
  | zoom {α : Type} {body : Coro ε σ α} (operates : operation α body) :
      Through get put idle operation (body.zoom get put)
  | bind {α β : Type} {first : Coro ε τ α} {rest : α → Coro ε τ β}
      (firstThrough : Through get put idle operation first)
      (restThrough : ∀ value, Through get put idle operation (rest value)) :
      Through get put idle operation (first >>= rest)
  | tryCatch {α : Type} {body : Coro ε τ α} {handler : ε → Coro ε τ α}
      (bodyThrough : Through get put idle operation body)
      (handlerThrough : ∀ error, Through get put idle operation (handler error)) :
      Through get put idle operation (tryCatch body handler)
  | attempt {α : Type} {body : Coro ε τ α} (bodyThrough : Through get put idle operation body) :
      Through get put idle operation body.attempt

theorem followsFrom_attempt {step : σ → σ → Prop} {body : Coro ε σ α} {origin : σ}
    (follows : body.FollowsFrom step origin) : body.attempt.FollowsFrom step origin := by
  induction body generalizing origin with
  | ret value => trivial
  | raise error => trivial
  | act effect next ih =>
      intro state moved
      exact ⟨(follows state moved).1, ih state (follows state moved).2⟩

section Zoom

variable {get : τ → σ} {put : σ → τ → τ}

theorem zoom_done (result : Except ε α) :
    (done result : Coro ε σ α).zoom get put = done result := by
  cases result <;> rfl

theorem zoom_sync (body : Action ε σ α) :
    (sync body).zoom get put = sync (body.zoom get put) :=
  congrArg (act _) (funext fun _ => zoom_done _)

theorem zoom_tryCatch (body : Coro ε σ α) (handler : ε → Coro ε σ α) :
    (tryCatch body handler).zoom get put =
      tryCatch (body.zoom get put) fun error => (handler error).zoom get put := by
  induction body with
  | ret value => rfl
  | raise error => rfl
  | act effect next ih => exact congrArg (act _) (funext fun state => ih (get state))

theorem zoom_attempt (body : Coro ε σ α) :
    body.attempt.zoom get put = (body.zoom get put).attempt := by
  induction body with
  | ret value => rfl
  | raise error => rfl
  | act effect next ih => exact congrArg (act _) (funext fun state => ih (get state))

theorem zoom_zoom {outer : υ → τ} {putOuter : τ → υ → υ} (body : Coro ε σ α) :
    (body.zoom get put).zoom outer putOuter =
      body.zoom (fun whole => get (outer whole))
        fun part whole => putOuter (put part (outer whole)) whole := by
  induction body with
  | ret value => rfl
  | raise error => rfl
  | act effect next ih => exact congrArg (act _) (funext fun state => ih (get (outer state)))

end Zoom

/-- A task on a part of the state moves the whole along a relation that its steps lift to. -/
theorem Steps.zoom (get : τ → σ) (put : σ → τ → τ) {step : σ → σ → Prop}
    {step' : τ → τ → Prop} {ends : Except ε α → σ → Prop}
    (getPut : ∀ part whole, get (put part whole) = part)
    (seen : ∀ whole whole', step' whole whole' → step (get whole) (get whole'))
    (lifts : ∀ whole part, step (get whole) part → step' whole (put part whole))
    {body : Coro ε σ α} {origin : τ} (steps : body.Steps step ends (get origin)) :
    (body.zoom get put).Steps step' (fun result whole => ends result (get whole)) origin := by
  induction body generalizing origin with
  | ret value => exact steps
  | raise error => exact steps
  | act effect next ih =>
      intro whole since
      have taken := steps (get whole) (since.lift get seen)
      refine ⟨lifts whole _ taken.1, ih (get whole) ?_⟩
      rw [getPut]
      exact taken.2

variable {get : τ → σ} {put : σ → τ → τ} {idle : τ → τ → Prop} {operation : Kind ε σ}

namespace Through

theorem pure (value : α) : (Pure.pure value : Coro ε τ α).Through get put idle operation :=
  .done (.ok value)

theorem throw (error : ε) : (throw error : Coro ε τ α).Through get put idle operation :=
  .done (.error error)

/-- A task on a part of the state uses the component of that part. -/
theorem within (outer : υ → τ) (putOuter : τ → υ → υ) {idle' : υ → υ → Prop}
    (idles : ∀ whole part, idle (outer whole) part → idle' whole (putOuter part whole))
    {body : Coro ε τ α} (through : body.Through get put idle operation) :
    (body.zoom outer putOuter).Through (fun whole => get (outer whole))
      (fun part whole => putOuter (put part (outer whole)) whole) idle' operation := by
  induction through with
  | done result =>
      rw [zoom_done]
      exact .done result
  | sync quiet =>
      rw [zoom_sync]
      exact .sync fun state => idles state _ (quiet (outer state))
  | zoom operates =>
      rw [zoom_zoom]
      exact .zoom operates
  | bind _ _ firstIh restIh =>
      rw [zoom_bind]
      exact .bind firstIh restIh
  | tryCatch _ _ bodyIh handlerIh =>
      rw [zoom_tryCatch]
      exact .tryCatch bodyIh handlerIh
  | attempt _ bodyIh =>
      rw [zoom_attempt]
      exact .attempt bodyIh

/-- The component moves along the steps that its operations follow. -/
theorem follows {step : σ → σ → Prop} (getPut : ∀ part whole, get (put part whole) = part)
    (putPut : ∀ part part' whole, put part (put part' whole) = put part whole)
    (putGet : ∀ whole, put (get whole) whole = whole)
    (idles : ∀ state state', idle state state' → ReflTransGen step (get state) (get state'))
    (operations : ∀ {β : Type} (body : Coro ε σ β), operation β body → body.Follows step)
    {body : Coro ε τ α} (through : body.Through get put idle operation) :
    body.Follows fun state state' => ReflTransGen step (get state) (get state') := by
  induction through with
  | done result => exact fun origin => followsFrom_done result origin
  | sync quiet => exact follows_sync fun state => .single (idles _ _ (quiet state))
  | zoom operates =>
      intro origin
      apply followsFrom_zoom getPut putPut putGet (fun _ _ moved => moved)
      · intro state part taken
        rw [getPut]
        exact .single taken
      · exact operations _ operates _
  | bind _ _ firstIh restIh => exact follows_bind firstIh restIh
  | tryCatch _ _ bodyIh handlerIh => exact follows_tryCatch bodyIh handlerIh
  | attempt _ bodyIh => exact fun origin => followsFrom_attempt (bodyIh origin)

/-- The task covers what the operations of the component spend. -/
theorem covers {earned spent : σ → ℕ} (getPut : ∀ part whole, get (put part whole) = part)
    (idles : ∀ state state', idle state state' →
      earned (get state') = earned (get state) ∧ spent (get state') = spent (get state))
    (operations : ∀ {β : Type} (body : Coro ε σ β), operation β body →
      body.Covers earned spent (fun _ => 0) 0)
    {body : Coro ε τ α} (through : body.Through get put idle operation) :
    body.Covers (fun state => earned (get state)) (fun state => spent (get state))
      (fun _ => 0) 0 := by
  induction through with
  | done result => exact covers_done le_rfl
  | sync quiet =>
      apply covers_sync
      intro state
      have same := idles _ _ (quiet state)
      omega
  | zoom operates => exact (operations _ operates).zoom getPut
  | bind _ _ firstIh restIh => exact covers_bind firstIh restIh fun _ => le_rfl
  | tryCatch _ _ bodyIh handlerIh => exact covers_tryCatch bodyIh (fun _ => le_rfl) handlerIh
  | attempt _ bodyIh => exact covers_attempt bodyIh fun _ => le_rfl

end Through

end Coro

namespace Pool

variable {ι ε σ α : Type} [DecidableEq ι] {step : σ → σ → Prop} {ends : ι → Except ε α → σ → Prop}

/-- As for `Stepping`, where each task has an end of its own. -/
theorem exec_steps {pool : Pool ι ε σ α}
    (steps : ∀ task, (pool.tasks task).Steps step (ends task) pool.state) (schedule : List ι) :
    ReflTransGen step pool.state (pool.exec schedule).state ∧
      ∀ task, ∃ origin, ReflTransGen step origin (pool.exec schedule).state ∧
        ((pool.exec schedule).tasks task).Steps step (ends task) origin := by
  refine exec_induction
    (motive := fun reached => ReflTransGen step pool.state reached.state ∧
      ∀ task, ∃ origin, ReflTransGen step origin reached.state ∧
        (reached.tasks task).Steps step (ends task) origin)
    ?_ schedule ⟨.refl, fun task => ⟨_, .refl, steps task⟩⟩
  rintro reached task ⟨moved, known⟩
  rcases advance_cases reached task with same | ⟨effect, next, shape, state, own, others⟩
  · rw [same]
    exact ⟨moved, known⟩
  · rcases known task with ⟨origin, since, steps⟩
    rw [shape] at steps
    have taken := steps reached.state since
    rw [← state] at taken
    refine ⟨moved.tail taken.1, ?_⟩
    intro other
    by_cases here : other = task
    · rw [here, own]
      exact ⟨_, .refl, taken.2⟩
    · rw [others other here]
      rcases known other with ⟨origin', since', steps'⟩
      exact ⟨origin', since'.tail taken.1, steps'⟩

/-- A task that has ended has ended as is allowed, for a state that lies in the past. -/
theorem exec_ended {pool : Pool ι ε σ α}
    (steps : ∀ task, (pool.tasks task).Steps step (ends task) pool.state) (schedule : List ι)
    {task : ι} {result : Except ε α} (ended : (pool.exec schedule).tasks task = .done result) :
    ∃ state, ReflTransGen step state (pool.exec schedule).state ∧ ends task result state := by
  rcases (exec_steps steps schedule).2 task with ⟨origin, since, last⟩
  rw [ended] at last
  refine ⟨origin, since, ?_⟩
  cases result <;> exact last

end Pool

end Cooperative
