import AgentOS.Cooperative.Pool

/-!
# Two runs

A block respects a relation between states when from related states it gives the same
result and leaves related states. `Pool.execAt` runs tasks on a timed schedule, whose slots
say when a task takes its step; `Pool.execAt_without` compares such a run with the one
without the slots of a task that is finished: when every other task respects the relation,
all of them end in the same way.
-/

namespace Cooperative

/-- From related states the block gives one result and leaves related states. -/
def Action.Respects {ε σ α : Type} (related : σ → σ → Prop) (body : Action ε σ α) : Prop :=
  ∀ state state', related state state' →
    (body state).1 = (body state').1 ∧ related (body state).2 (body state').2

namespace Action

variable {ε σ α β : Type} {related : σ → σ → Prop}

theorem respects_pure (value : α) : (pure value : Action ε σ α).Respects related :=
  fun _ _ same => ⟨rfl, same⟩

theorem respects_throw (error : ε) : (throw error : Action ε σ α).Respects related :=
  fun _ _ same => ⟨rfl, same⟩

theorem respects_bind {first : Action ε σ α} {rest : α → Action ε σ β}
    (firstRespects : first.Respects related)
    (restRespects : ∀ value, (rest value).Respects related) :
    (first >>= rest).Respects related := by
  intro state state' same
  have step := firstRespects state state' same
  rw [bind_apply, bind_apply]
  revert step
  rcases first state with ⟨error | value, middle⟩ <;>
    rcases first state' with ⟨error' | value', middle'⟩ <;> rintro ⟨result, kept⟩ <;> cases result
  · exact ⟨rfl, kept⟩
  · exact restRespects value middle middle' kept

theorem respects_tryCatch {body : Action ε σ α} {handler : ε → Action ε σ α}
    (bodyRespects : body.Respects related)
    (handlerRespects : ∀ error, (handler error).Respects related) :
    (tryCatch body handler).Respects related := by
  intro state state' same
  have step := bodyRespects state state' same
  rw [tryCatch_apply, tryCatch_apply]
  revert step
  rcases body state with ⟨error | value, middle⟩ <;>
    rcases body state' with ⟨error' | value', middle'⟩ <;> rintro ⟨result, kept⟩ <;> cases result
  · exact handlerRespects error middle middle' kept
  · exact ⟨rfl, kept⟩

end Action

namespace Coro

variable {ε σ α β : Type} {related : σ → σ → Prop}

/-- From related states every step leaves related states and chooses the same continuation. -/
def Respects (related : σ → σ → Prop) : Coro ε σ α → Prop
  | ret _ => True
  | raise _ => True
  | act effect next =>
      ∀ state state', related state state' →
        related (effect state) (effect state') ∧ next state = next state' ∧
          (next state).Respects related

theorem respects_done (result : Except ε α) : (done result : Coro ε σ α).Respects related := by
  cases result <;> trivial

theorem respects_sync {body : Action ε σ α} (respects : body.Respects related) :
    (sync body).Respects related := by
  intro state state' same
  have step := respects state state' same
  exact ⟨step.2, congrArg done step.1, respects_done _⟩

theorem respects_bind {first : Coro ε σ α} {rest : α → Coro ε σ β}
    (firstRespects : first.Respects related)
    (restRespects : ∀ value, (rest value).Respects related) :
    (first >>= rest).Respects related := by
  induction first with
  | ret value => exact restRespects value
  | raise error => trivial
  | act effect next ih =>
      intro state state' same
      have step := firstRespects state state' same
      exact ⟨step.1, congrArg (Coro.bind rest) step.2.1, ih state step.2.2⟩

theorem respects_tryCatch {body : Coro ε σ α} {handler : ε → Coro ε σ α}
    (bodyRespects : body.Respects related)
    (handlerRespects : ∀ error, (handler error).Respects related) :
    (tryCatch body handler).Respects related := by
  induction body with
  | ret value => trivial
  | raise error => exact handlerRespects error
  | act effect next ih =>
      intro state state' same
      have step := bodyRespects state state' same
      exact ⟨step.1, congrArg (Coro.handle handler) step.2.1, ih state step.2.2⟩

/-- The coroutine has no step left. -/
def Finished : Coro ε σ α → Prop
  | act _ _ => False
  | _ => True

end Coro

namespace Pool

variable {ι κ ε σ α : Type} [DecidableEq ι] (enter : κ → σ → σ)

/-- A slot of a timed schedule: the time comes, and the task takes its next step. -/
def advanceAt (pool : Pool ι ε σ α) (slot : ι × κ) : Pool ι ε σ α :=
  advance ⟨enter slot.2 pool.state, pool.tasks⟩ slot.1

/-- The execution of a timed schedule. -/
def execAt (pool : Pool ι ε σ α) (schedule : List (ι × κ)) : Pool ι ε σ α :=
  schedule.foldl (advanceAt enter) pool

/-- Every slot of the schedule comes in a state that is ready for its time. -/
def InOrder (ready : κ → σ → Prop) : Pool ι ε σ α → List (ι × κ) → Prop
  | _, [] => True
  | pool, slot :: rest =>
      ready slot.2 pool.state ∧ InOrder ready (pool.advanceAt enter slot) rest

instance InOrder.decidable {ready : κ → σ → Prop} [∀ time state, Decidable (ready time state)] :
    (pool : Pool ι ε σ α) → (schedule : List (ι × κ)) →
      Decidable (pool.InOrder enter ready schedule)
  | _, [] => isTrue trivial
  | pool, slot :: rest =>
      @instDecidableAnd _ _ _ (InOrder.decidable (pool.advanceAt enter slot) rest)

variable {enter}

theorem execAt_append (pool : Pool ι ε σ α) (schedule later : List (ι × κ)) :
    pool.execAt enter (schedule ++ later) = (pool.execAt enter schedule).execAt enter later :=
  List.foldl_append

theorem InOrder.append {ready : κ → σ → Prop} {pool : Pool ι ε σ α}
    {schedule later : List (ι × κ)} (inOrder : pool.InOrder enter ready (schedule ++ later)) :
    (pool.execAt enter schedule).InOrder enter ready later := by
  induction schedule generalizing pool with
  | nil => exact inOrder
  | cons slot rest ih => exact ih inOrder.2

/-- A task that is not scheduled stays where it is. -/
theorem execAt_tasks_of_absent {pool : Pool ι ε σ α} {schedule : List (ι × κ)} {task : ι}
    (absent : ∀ slot ∈ schedule, slot.1 ≠ task) :
    (pool.execAt enter schedule).tasks task = pool.tasks task := by
  induction schedule generalizing pool with
  | nil => rfl
  | cons slot rest ih =>
      have differ := absent slot List.mem_cons_self
      have later : ∀ other ∈ rest, other.1 ≠ task := fun other mem =>
        absent other (List.mem_cons_of_mem _ mem)
      have moved := @ih (pool.advanceAt enter slot) later
      refine moved.trans ?_
      rcases advance_cases ⟨enter slot.2 pool.state, pool.tasks⟩ slot.1 with
        same | ⟨_, _, _, _, _, others⟩
      · exact congrFun (congrArg Pool.tasks same) task
      · exact others task differ.symm

/-- A task that respects a relation still does so later on. -/
theorem execAt_respects {related : σ → σ → Prop} (same : ∀ state, related state state)
    {pool : Pool ι ε σ α} (respects : ∀ task, (pool.tasks task).Respects related)
    (schedule : List (ι × κ)) (task : ι) :
    ((pool.execAt enter schedule).tasks task).Respects related := by
  induction schedule generalizing pool with
  | nil => exact respects task
  | cons slot rest ih =>
      refine @ih (pool.advanceAt enter slot) ?_
      intro other
      rcases advance_cases ⟨enter slot.2 pool.state, pool.tasks⟩ slot.1 with
        idle | ⟨effect, next, shape, _, own, others⟩
      · have kept : pool.advanceAt enter slot = ⟨enter slot.2 pool.state, pool.tasks⟩ := idle
        rw [kept]
        exact respects other
      · by_cases taken : other = slot.1
        · have before : pool.tasks slot.1 = .act effect next := shape
          have safe := respects slot.1
          rw [before] at safe
          have after : (pool.advanceAt enter slot).tasks other = next (enter slot.2 pool.state) :=
            taken ▸ own
          rw [after]
          exact (safe _ _ (same _)).2.2
        · have kept : (pool.advanceAt enter slot).tasks other = pool.tasks other :=
            others other taken
          rw [kept]
          exact respects other

/-- One step of a task that respects the relation, in two pools that are in step. -/
theorem advance_inStep {inStep : σ → σ → Prop} {pool pool' : Pool ι ε σ α} {gone task : ι}
    (differ : task ≠ gone) (states : inStep pool.state pool'.state)
    (tasks : ∀ task, task ≠ gone → pool.tasks task = pool'.tasks task)
    (respects : ∀ task, task ≠ gone → (pool.tasks task).Respects inStep) :
    inStep (pool.advance task).state (pool'.advance task).state ∧
      (pool.advance task).tasks gone = pool.tasks gone ∧
      (∀ other, other ≠ gone → (pool.advance task).tasks other = (pool'.advance task).tasks other) ∧
      ∀ other, other ≠ gone → ((pool.advance task).tasks other).Respects inStep := by
  have own := tasks task differ
  have safe := respects task differ
  unfold advance
  rw [← own]
  rcases shape : pool.tasks task with value | error | ⟨effect, next⟩
  · exact ⟨states, rfl, tasks, respects⟩
  · exact ⟨states, rfl, tasks, respects⟩
  · rw [shape] at safe
    have step := safe _ _ states
    refine ⟨step.1, Function.update_of_ne differ.symm _ _, ?_, ?_⟩
    · intro other otherDiffer
      by_cases same : other = task
      · subst same
        simpa using step.2.1
      · simpa [same] using tasks other otherDiffer
    · intro other otherDiffer
      by_cases same : other = task
      · subst same
        simpa using step.2.2
      · simpa [same] using respects other otherDiffer

/--
A run with the slots of a finished task, and the same run without them: the other tasks end
in the same way. Between the slots the states are loosely related, and the time of a slot
brings them in step.
-/
theorem execAt_without {ready : κ → σ → Prop} {loose inStep : σ → σ → Prop}
    (meets : ∀ time state state', ready time state → loose state state' →
      inStep (enter time state) (enter time state'))
    (parts : ∀ state state', inStep state state' → loose state state')
    (passes : ∀ time state state', ready time state → loose state state' →
      loose (enter time state) state')
    {pool pool' : Pool ι ε σ α} {gone : ι} (states : loose pool.state pool'.state)
    (finished : (pool.tasks gone).Finished)
    (tasks : ∀ task, task ≠ gone → pool.tasks task = pool'.tasks task)
    (respects : ∀ task, task ≠ gone → (pool.tasks task).Respects inStep)
    {schedule : List (ι × κ)} (inOrder : pool.InOrder enter ready schedule) :
    ∀ task, task ≠ gone → (pool.execAt enter schedule).tasks task =
      (pool'.execAt enter (schedule.filter fun slot => slot.1 ≠ gone)).tasks task := by
  induction schedule generalizing pool pool' with
  | nil => exact tasks
  | cons slot rest ih =>
      rcases slot with ⟨task, time⟩
      by_cases same : task = gone
      · subst same
        have idle : pool.advanceAt enter (task, time) = ⟨enter time pool.state, pool.tasks⟩ := by
          rcases advance_cases ⟨enter time pool.state, pool.tasks⟩ task with
            same | ⟨_, _, shape, _⟩
          · exact same
          · have stuck : (pool.tasks task).Finished := finished
            rw [show pool.tasks task = _ from shape] at stuck
            exact stuck.elim
        have shorter : ((task, time) :: rest).filter (fun slot => slot.1 ≠ task) =
            rest.filter fun slot => slot.1 ≠ task := by
          simp
        have later := inOrder.2
        rw [idle] at later
        rw [shorter]
        change ∀ other, other ≠ task →
          ((pool.advanceAt enter (task, time)).execAt enter rest).tasks other = _
        rw [idle]
        exact ih (passes time _ _ inOrder.1 states) finished tasks respects later
      · have kept : ((task, time) :: rest).filter (fun slot => slot.1 ≠ gone) =
            (task, time) :: rest.filter fun slot => slot.1 ≠ gone := by
          simp [same]
        have met := meets time _ _ inOrder.1 states
        rcases @advance_inStep _ _ _ _ _ _ ⟨enter time pool.state, pool.tasks⟩
          ⟨enter time pool'.state, pool'.tasks⟩ _ _ same met tasks respects with
          ⟨states', still, tasks', respects'⟩
        have waits : ((pool.advanceAt enter (task, time)).tasks gone).Finished := by
          change ((advance ⟨enter time pool.state, pool.tasks⟩ task).tasks gone).Finished
          rw [still]
          exact finished
        rw [kept]
        exact ih (parts _ _ states') waits tasks' respects' inOrder.2

end Pool

end Cooperative
