import AgentOS.Cooperative.EventLog
import AgentOS.Cooperative.Pool

/-!
# Ownership of a part of the state

Tasks that run interleaved may compete for a part of the state, its `view`: the first one
to mark it as taken owns it, and the others must leave it alone from then on. `Keeps` says
that a coroutine never changes the view, `Tracks` is the proof rule for the task that owns
it, and `Contends` is what a competing task has to satisfy. `Pool.exec_contends` says that
whatever the interleaving, at most one task ever changes the view.
-/

namespace Cooperative

namespace Coro

variable {ε σ τ α β κ : Type}

/-- Turns the outcome into a value, so that a run of it never raises. -/
def attempt : Coro ε σ α → Coro ε σ (Except ε α)
  | ret value => ret (.ok value)
  | raise error => ret (.error error)
  | act effect next => act effect fun state => (next state).attempt

theorem run_attempt (body : Coro ε σ α) (state : σ) :
    body.attempt.run state = (.ok (body.run state).1, (body.run state).2) := by
  induction body generalizing state with
  | ret value => rfl
  | raise error => rfl
  | act effect next ih => exact ih state (effect state)

/-! ### Leaving the view alone -/

/-- No step changes the view, in whatever state it is taken, and all outcomes are allowed. -/
def Keeps (view : σ → κ) (ends : Except ε α → Prop) : Coro ε σ α → Prop
  | ret value => ends (.ok value)
  | raise error => ends (.error error)
  | act effect next =>
      ∀ state, view (effect state) = view state ∧ (next state).Keeps view ends

section Keeps

variable {view : σ → κ} {ends : Except ε α → Prop} {later : Except ε β → Prop}

theorem keeps_done {result : Except ε α} (allowed : ends result) :
    (done result : Coro ε σ α).Keeps view ends := by
  cases result <;> exact allowed

theorem keeps_sync {body : Action ε σ α} (keeps : body.Keeps view)
    (allowed : ∀ state, ends (body state).1) : (sync body).Keeps view ends :=
  fun state => ⟨keeps state, keeps_done (allowed state)⟩

theorem Keeps.mono {ends' : Except ε α → Prop} {body : Coro ε σ α}
    (keeps : body.Keeps view ends) (weaker : ∀ result, ends result → ends' result) :
    body.Keeps view ends' := by
  induction body with
  | ret value => exact weaker _ keeps
  | raise error => exact weaker _ keeps
  | act effect next ih => exact fun state => ⟨(keeps state).1, ih state (keeps state).2⟩

theorem keeps_bind {first : Coro ε σ α} {rest : α → Coro ε σ β} (keeps : first.Keeps view ends)
    (goesOn : ∀ value, ends (.ok value) → (rest value).Keeps view later)
    (stops : ∀ error, ends (.error error) → later (.error error)) :
    (first >>= rest).Keeps view later := by
  induction first with
  | ret value => exact goesOn value keeps
  | raise error => exact stops error keeps
  | act effect next ih => exact fun state => ⟨(keeps state).1, ih state (keeps state).2⟩

theorem keeps_tryCatch {body : Coro ε σ α} {handler : ε → Coro ε σ α}
    {final : Except ε α → Prop} (keeps : body.Keeps view ends)
    (returns : ∀ value, ends (.ok value) → final (.ok value))
    (handles : ∀ error, ends (.error error) → (handler error).Keeps view final) :
    (tryCatch body handler).Keeps view final := by
  induction body with
  | ret value => exact returns value keeps
  | raise error => exact handles error keeps
  | act effect next ih => exact fun state => ⟨(keeps state).1, ih state (keeps state).2⟩

/-- Whatever the outcome of the first part, the rest deals with it. -/
theorem keeps_attempt_bind {body : Coro ε σ α} {rest : Except ε α → Coro ε σ β}
    (keeps : body.Keeps view ends)
    (goesOn : ∀ result, ends result → (rest result).Keeps view later) :
    (body.attempt >>= rest).Keeps view later := by
  induction body with
  | ret value => exact goesOn _ keeps
  | raise error => exact goesOn _ keeps
  | act effect next ih => exact fun state => ⟨(keeps state).1, ih state (keeps state).2⟩

/-- What keeps a view keeps every part of it. -/
theorem Keeps.part {κ' : Type} (part : κ → κ') {body : Coro ε σ α} (keeps : body.Keeps view ends) :
    body.Keeps (fun state => part (view state)) ends := by
  induction body with
  | ret value => exact keeps
  | raise error => exact keeps
  | act effect next ih =>
      exact fun state => ⟨congrArg part (keeps state).1, ih state (keeps state).2⟩

/-- A coroutine over one component keeps every view that does not look at the component. -/
theorem keeps_zoom {get : τ → σ} {put : σ → τ → τ} {view : τ → κ}
    (stable : ∀ part whole, view (put part whole) = view whole) {body : Coro ε σ α}
    (allowed : ∀ result, ends result) : (body.zoom get put).Keeps view ends := by
  induction body with
  | ret value => exact allowed _
  | raise error => exact allowed _
  | act effect next ih => exact fun state => ⟨stable _ _, ih _⟩

/-- What is kept of a component is kept of the whole. -/
theorem Keeps.zoom {get : τ → σ} {put : σ → τ → τ}
    (getPut : ∀ part whole, get (put part whole) = part) {body : Coro ε σ α}
    (keeps : body.Keeps view ends) :
    (body.zoom get put).Keeps (fun whole => view (get whole)) ends := by
  induction body with
  | ret value => exact keeps
  | raise error => exact keeps
  | act effect next ih =>
      intro whole
      refine ⟨?_, ih _ (keeps (get whole)).2⟩
      simpa [getPut] using (keeps (get whole)).1

theorem Keeps.run {body : Coro ε σ α} (keeps : body.Keeps view ends) (state : σ) :
    ends (body.run state).1 ∧ view (body.run state).2 = view state := by
  induction body generalizing state with
  | ret value => exact ⟨keeps, rfl⟩
  | raise error => exact ⟨keeps, rfl⟩
  | act effect next ih =>
      have moved := ih state (keeps state).2 (effect state)
      exact ⟨moved.1, moved.2.trans (keeps state).1⟩

end Keeps

/-! ### Owning the view -/

/--
Each step that finds the view as the step before left it leads to a lawful view, and the
coroutine ends only in the way that is allowed for the view it leaves behind.
-/
def Tracks (view : σ → κ) (law : κ → Prop) (ends : Except ε α → κ → Prop) :
    Coro ε σ α → κ → Prop
  | ret value, now => ends (.ok value) now
  | raise error, now => ends (.error error) now
  | act effect next, now =>
      ∀ state, view state = now →
        law (view (effect state)) ∧ (next state).Tracks view law ends (view (effect state))

section Tracks

variable {view : σ → κ} {law : κ → Prop} {ends : Except ε α → κ → Prop}
  {later : Except ε β → κ → Prop} {now : κ}

theorem tracks_done {result : Except ε α} (allowed : ends result now) :
    (done result : Coro ε σ α).Tracks view law ends now := by
  cases result <;> exact allowed

theorem tracks_sync {body : Action ε σ α}
    (lawful : ∀ state, view state = now → law (view (body state).2))
    (allowed : ∀ state, view state = now → ends (body state).1 (view (body state).2)) :
    (sync body).Tracks view law ends now :=
  fun state found => ⟨lawful state found, tracks_done (allowed state found)⟩

theorem Tracks.mono {law' : κ → Prop} {ends' : Except ε α → κ → Prop} {body : Coro ε σ α}
    (tracks : body.Tracks view law ends now) (laws : ∀ now, law now → law' now)
    (weaker : ∀ result now, ends result now → ends' result now) :
    body.Tracks view law' ends' now := by
  induction body generalizing now with
  | ret value => exact weaker _ _ tracks
  | raise error => exact weaker _ _ tracks
  | act effect next ih =>
      intro state found
      exact ⟨laws _ (tracks state found).1, ih state (tracks state found).2⟩

theorem tracks_bind {first : Coro ε σ α} {rest : α → Coro ε σ β}
    (tracks : first.Tracks view law ends now)
    (goesOn : ∀ value now, ends (.ok value) now → (rest value).Tracks view law later now)
    (stops : ∀ error now, ends (.error error) now → later (.error error) now) :
    (first >>= rest).Tracks view law later now := by
  induction first generalizing now with
  | ret value => exact goesOn value now tracks
  | raise error => exact stops error now tracks
  | act effect next ih =>
      intro state found
      exact ⟨(tracks state found).1, ih state (tracks state found).2⟩

/-- A part that leaves the view alone may come first. -/
theorem tracks_bind_of_keeps {kept : Except ε α → Prop} {first : Coro ε σ α}
    {rest : α → Coro ε σ β} (lawful : law now) (keeps : first.Keeps view kept)
    (goesOn : ∀ value, kept (.ok value) → (rest value).Tracks view law later now)
    (stops : ∀ error, kept (.error error) → later (.error error) now) :
    (first >>= rest).Tracks view law later now := by
  induction first with
  | ret value => exact goesOn value keeps
  | raise error => exact stops error keeps
  | act effect next ih =>
      intro state found
      have same := (keeps state).1.trans found
      refine ⟨same ▸ lawful, ?_⟩
      change ((next state).bind rest).Tracks view law later (view (effect state))
      rw [same]
      exact ih state (keeps state).2

theorem Tracks.run {body : Coro ε σ α} {state : σ}
    (tracks : body.Tracks view law ends (view state)) :
    ends (body.run state).1 (view (body.run state).2) := by
  induction body generalizing state with
  | ret value => exact tracks
  | raise error => exact tracks
  | act effect next ih => exact ih state (tracks state rfl).2

/-- The law that held at first holds at the end of a run. -/
theorem Tracks.run_law {body : Coro ε σ α} {state : σ} (lawful : law (view state))
    (tracks : body.Tracks view law ends (view state)) : law (view (body.run state).2) := by
  induction body generalizing state with
  | ret value => exact lawful
  | raise error => exact lawful
  | act effect next ih => exact ih state (tracks state rfl).1 (tracks state rfl).2

end Tracks

/-! ### Stopping early -/

/-- The state in which a task is stopped after a number of its steps. -/
def runFor : ℕ → Coro ε σ α → σ → σ
  | steps + 1, act effect next, state => runFor steps (next state) (effect state)
  | _, _, state => state

@[simp]
theorem runFor_zero (body : Coro ε σ α) (state : σ) : runFor 0 body state = state := by
  cases body <;> rfl

theorem Tracks.runFor {view : σ → κ} {law : κ → Prop} {ends : Except ε α → κ → Prop} (steps : ℕ)
    {body : Coro ε σ α} {state : σ} (lawful : law (view state))
    (tracks : body.Tracks view law ends (view state)) : law (view (runFor steps body state)) := by
  induction steps generalizing body state with
  | zero => rwa [runFor_zero]
  | succ steps ih =>
      rcases body with value | error | ⟨effect, next⟩
      · exact lawful
      · exact lawful
      · exact ih (tracks state rfl).1 (tracks state rfl).2

/-! ### Competing for the view -/

/-- The task has not ended, or it ended as is allowed. -/
def Ended (allowed : Except ε α → Prop) : Coro ε σ α → Prop
  | ret value => allowed (.ok value)
  | raise error => allowed (.error error)
  | act _ _ => True

/-- Once the view is taken, no step changes it, and the task ends as one that was refused. -/
def Barred (view : σ → κ) (taken : κ → Prop) (refused : Except ε α → Prop) : Coro ε σ α → Prop
  | ret value => refused (.ok value)
  | raise error => refused (.error error)
  | act effect next =>
      ∀ state, taken (view state) →
        view (effect state) = view state ∧ (next state).Barred view taken refused

/--
A task that competes: while the view is still the one at the start it leaves it alone or
takes it, and when it finds the view taken it is barred.
-/
def Contends (view : σ → κ) (start : κ) (taken : κ → Prop) (refused : Except ε α → Prop)
    (owns : Coro ε σ α → κ → Prop) : Coro ε σ α → Prop
  | ret value => refused (.ok value)
  | raise error => refused (.error error)
  | act effect next =>
      ∀ state,
        (taken (view state) →
          view (effect state) = view state ∧ (next state).Barred view taken refused) ∧
        (view state = start →
          (view (effect state) = start ∧
            (next state).Contends view start taken refused owns) ∨
          owns (next state) (view (effect state)))

section Contends

variable {view : σ → κ} {start : κ} {taken : κ → Prop} {refused : Except ε α → Prop}
  {owns : Coro ε σ α → κ → Prop}

theorem Contends.barred {body : Coro ε σ α}
    (contends : body.Contends view start taken refused owns) :
    body.Barred view taken refused := by
  rcases body with value | error | ⟨effect, next⟩
  · exact contends
  · exact contends
  · exact fun state late => (contends state).1 late

theorem Barred.ended {body : Coro ε σ α} (barred : body.Barred view taken refused) :
    body.Ended refused := by
  cases body with
  | ret value => exact barred
  | raise error => exact barred
  | act effect next => trivial

/-- A synchronous block that changes nothing when the view is taken, and then bars the task. -/
theorem barred_sync_bind {body : Action ε σ β} {rest : β → Coro ε σ α}
    (keeps : ∀ state, taken (view state) → view (body state).2 = view state)
    (goesOn : ∀ state value, taken (view state) → (body state).1 = .ok value →
      (rest value).Barred view taken refused)
    (stops : ∀ error, refused (.error error)) :
    (sync body >>= rest).Barred view taken refused := by
  intro state late
  refine ⟨keeps state late, ?_⟩
  change ((done (body state).1).bind rest).Barred view taken refused
  rcases ended : (body state).1 with error | value
  · exact stops error
  · exact goesOn state value late ended

/-- A synchronous block that only reads while nobody has taken the view. -/
theorem contends_sync_bind {body : Action ε σ β} {rest : β → Coro ε σ α}
    (keeps : ∀ state, view (body state).2 = view state)
    (late : ∀ state value, taken (view state) → (body state).1 = .ok value →
      (rest value).Barred view taken refused)
    (early : ∀ state value, view state = start → (body state).1 = .ok value →
      (rest value).Contends view start taken refused owns)
    (stops : ∀ error, refused (.error error)) :
    (sync body >>= rest).Contends view start taken refused owns := by
  intro state
  constructor
  · intro taken
    refine ⟨keeps state, ?_⟩
    change ((done (body state).1).bind rest).Barred view _ refused
    rcases ended : (body state).1 with error | value
    · exact stops error
    · exact late state value taken ended
  · intro first
    left
    refine ⟨(keeps state).trans first, ?_⟩
    change ((done (body state).1).bind rest).Contends view start _ refused owns
    rcases ended : (body state).1 with error | value
    · exact stops error
    · exact early state value first ended

/-- A synchronous block that takes the view unless it raises. -/
theorem contends_sync_bind_taking {body : Action ε σ β} {rest : β → Coro ε σ α}
    (late : (sync body >>= rest).Barred view taken refused)
    (refuses : ∀ state error, view state = start → (body state).1 = .error error →
      view (body state).2 = start)
    (takes : ∀ state value, view state = start → (body state).1 = .ok value →
      owns (rest value) (view (body state).2))
    (stops : ∀ error, refused (.error error)) :
    (sync body >>= rest).Contends view start taken refused owns := by
  intro state
  refine ⟨late state, ?_⟩
  intro first
  change view (body state).2 = start ∧
      ((done (body state).1).bind rest).Contends view start taken refused owns ∨
    owns ((done (body state).1).bind rest) (view (body state).2)
  rcases ended : (body state).1 with error | value
  · exact .inl ⟨refuses state error first ended, stops error⟩
  · exact .inr (takes state value first ended)

/-- A task that is barred stays so with what comes after its parts that were let pass. -/
theorem barred_bind {refused' : Except ε β → Prop} {first : Coro ε σ α} {rest : α → Coro ε σ β}
    (barred : first.Barred view taken refused)
    (returns : ∀ value, refused (.ok value) → (rest value).Barred view taken refused')
    (stops : ∀ error, refused (.error error) → refused' (.error error)) :
    (first >>= rest).Barred view taken refused' := by
  induction first with
  | ret value => exact returns value barred
  | raise error => exact stops error barred
  | act effect next ih =>
      intro state late
      exact ⟨(barred state late).1, ih state (barred state late).2⟩

theorem contends_bind {refused' : Except ε β → Prop} {owns' : Coro ε σ β → κ → Prop}
    {first : Coro ε σ α} {rest : α → Coro ε σ β}
    (contends : first.Contends view start taken refused owns)
    (returns : ∀ value, refused (.ok value) →
      (rest value).Contends view start taken refused' owns')
    (stops : ∀ error, refused (.error error) → refused' (.error error))
    (owned : ∀ body now, owns body now → owns' (body >>= rest) now) :
    (first >>= rest).Contends view start taken refused' owns' := by
  induction first with
  | ret value => exact returns value contends
  | raise error => exact stops error contends
  | act effect next ih =>
      intro state
      constructor
      · intro late
        have step := (contends state).1 late
        refine ⟨step.1, barred_bind step.2 ?_ stops⟩
        exact fun value passed => (returns value passed).barred
      · intro first
        rcases (contends state).2 first with ⟨kept, further⟩ | taken
        · exact .inl ⟨kept, ih state further⟩
        · exact .inr (owned _ _ taken)

/-- What is left of a barred task runs to a refusal and changes nothing. -/
theorem Barred.run {body : Coro ε σ α} {state : σ} (barred : body.Barred view taken refused)
    (late : taken (view state)) :
    refused (body.run state).1 ∧ view (body.run state).2 = view state := by
  induction body generalizing state with
  | ret value => exact ⟨barred, rfl⟩
  | raise error => exact ⟨barred, rfl⟩
  | act effect next ih =>
      have step := barred state late
      have rest := ih state step.2 (step.1 ▸ late : taken (view (effect state)))
      exact ⟨rest.1, rest.2.trans step.1⟩

end Contends

end Coro

namespace Pool

variable {ι ε σ α κ : Type} [DecidableEq ι] {view : σ → κ} {start : κ} {taken : κ → Prop}
  {refused : Except ε α → Prop} {owns : ι → Coro ε σ α → κ → Prop}

/-- Who owns the view: nobody yet, or one task while all others are barred. -/
def Standing (view : σ → κ) (start : κ) (taken : κ → Prop) (refused : Except ε α → Prop)
    (owns : ι → Coro ε σ α → κ → Prop) (pool : Pool ι ε σ α) : Option ι → Prop
  | none =>
      view pool.state = start ∧
        ∀ task, (pool.tasks task).Contends view start taken refused (owns task)
  | some owner =>
      owns owner (pool.tasks owner) (view pool.state) ∧
        ∀ task, task ≠ owner → (pool.tasks task).Barred view taken refused

/-- The tasks other than the owner changed nothing on the way. -/
def OthersKeep (view : σ → κ) (pool : Pool ι ε σ α) (schedule : List ι) (owner : Option ι) :
    Prop :=
  ∀ earlier task later, schedule = earlier ++ task :: later → some task ≠ owner →
    view (pool.exec (earlier ++ [task])).state = view (pool.exec earlier).state

theorem othersKeep_concat {pool : Pool ι ε σ α} {schedule : List ι} {owner : Option ι} {last : ι}
    (kept : OthersKeep view pool schedule owner)
    (keeps : some last ≠ owner →
      view ((pool.exec schedule).advance last).state = view (pool.exec schedule).state) :
    OthersKeep view pool (schedule ++ [last]) owner := by
  intro earlier task later shape other
  rcases concat_eq_append_cons_iff.mp shape with ⟨rfl, rfl, rfl⟩ | ⟨before, rfl, rfl⟩
  · rw [exec_concat]
    exact keeps other
  · exact kept earlier task before rfl other

/-- A barred task leaves a view that was taken as it is. -/
theorem advance_barred {pool : Pool ι ε σ α} {task : ι} (late : taken (view pool.state))
    (barred : (pool.tasks task).Barred view taken refused) :
    view (pool.advance task).state = view pool.state ∧
      ((pool.advance task).tasks task).Barred view taken refused := by
  rcases advance_cases pool task with same | ⟨effect, next, shape, state, own, -⟩
  · rw [same]
    exact ⟨rfl, barred⟩
  · rw [shape] at barred
    rw [state, own]
    exact barred pool.state late

/-- Once the view is taken and all tasks are barred it never changes. -/
theorem exec_barred {pool : Pool ι ε σ α} (late : taken (view pool.state))
    (barred : ∀ task, (pool.tasks task).Barred view taken refused) (schedule : List ι) :
    view (pool.exec schedule).state = view pool.state ∧
      ∀ task, ((pool.exec schedule).tasks task).Barred view taken refused := by
  refine exec_induction (motive := fun reached => view reached.state = view pool.state ∧
    ∀ task, (reached.tasks task).Barred view taken refused) ?_ schedule ⟨rfl, barred⟩
  rintro reached task ⟨same, barred⟩
  have moved := advance_barred (same ▸ late) (barred task)
  refine ⟨moved.1.trans same, ?_⟩
  intro other
  by_cases here : other = task
  · rw [here]
    exact moved.2
  · rcases advance_cases reached task with still | ⟨_, _, -, -, -, others⟩
    · rw [still]
      exact barred other
    · rw [others other here]
      exact barred other

/-- One step of one task, and who owns the view after it. -/
theorem standing_advance
    (lasting : ∀ task effect next state, owns task (.act effect next) (view state) →
      owns task (next state) (view (effect state)))
    (takes : ∀ task body now, owns task body now → taken now) {pool : Pool ι ε σ α}
    {owner : Option ι}
    (task : ι) (standing : Standing view start taken refused owns pool owner) :
    ∃ owner', Standing view start taken refused owns (pool.advance task) owner' ∧
      (owner = owner' ∨ owner = none ∧ owner' = some task) ∧
      (some task ≠ owner' → view (pool.advance task).state = view pool.state) := by
  rcases advance_cases pool task with same | ⟨effect, next, shape, state, own, others⟩
  · rw [same]
    exact ⟨owner, standing, .inl rfl, fun _ => rfl⟩
  · rcases owner with _ | owner
    · rcases standing with ⟨first, contend⟩
      have step := contend task
      rw [shape] at step
      rcases (step pool.state).2 first with ⟨kept, contends⟩ | taken
      · refine ⟨none, ⟨state ▸ kept, ?_⟩, .inl rfl, ?_⟩
        · intro other
          by_cases here : other = task
          · rw [here, own]
            exact contends
          · rw [others other here]
            exact contend other
        · intro _
          rw [state, kept, first]
      · refine ⟨some task, ⟨?_, ?_⟩, .inr ⟨rfl, rfl⟩, fun other => absurd rfl other⟩
        · rw [own, state]
          exact taken
        · intro other differ
          rw [others other differ]
          exact (contend other).barred
    · rcases standing with ⟨owned, barred⟩
      refine ⟨some owner, ?_, .inl rfl, ?_⟩
      · by_cases here : owner = task
        · subst here
          rw [shape] at owned
          refine ⟨?_, ?_⟩
          · rw [own, state]
            exact lasting owner effect next pool.state owned
          · intro other differ
            rw [others other differ]
            exact barred other differ
        · have moved := advance_barred (takes _ _ _ owned) (barred task (Ne.symm here))
          refine ⟨?_, ?_⟩
          · rw [others owner here, moved.1]
            exact owned
          · intro other differ
            by_cases same : other = task
            · rw [same]
              exact moved.2
            · rw [others other same]
              exact barred other differ
      · intro differ
        have other : task ≠ owner := fun same => differ (congrArg some same)
        exact (advance_barred (takes _ _ _ owned) (barred task other)).1

/-- Whatever happens after a task has taken the view, it owns it, and the others change nothing. -/
theorem exec_owned
    (lasting : ∀ task effect next state, owns task (.act effect next) (view state) →
      owns task (next state) (view (effect state)))
    (takes : ∀ task body now, owns task body now → taken now) {pool : Pool ι ε σ α} {owner : ι}
    (standing : Standing view start taken refused owns pool (some owner)) (schedule : List ι) :
    Standing view start taken refused owns (pool.exec schedule) (some owner) ∧
      OthersKeep view pool schedule (some owner) := by
  induction schedule using List.reverseRecOn with
  | nil => exact ⟨standing, by intro earlier task later shape; simp at shape⟩
  | append_singleton schedule last ih =>
      rcases standing_advance lasting takes last ih.1 with ⟨owner', moved, same, keeps⟩
      rcases same with rfl | ⟨⟨⟩, -⟩
      exact ⟨exec_concat pool schedule last ▸ moved, othersKeep_concat ih.2 keeps⟩

/--
In every interleaving of competing tasks nobody ever takes the view, or one task takes it in
one slot of the schedule, before which the view is the one at the start.
-/
theorem exec_contends
    (lasting : ∀ task effect next state, owns task (.act effect next) (view state) →
      owns task (next state) (view (effect state)))
    (takes : ∀ task body now, owns task body now → taken now) {pool : Pool ι ε σ α}
    (first : view pool.state = start)
    (contend : ∀ task, (pool.tasks task).Contends view start taken refused (owns task))
    (schedule : List ι) :
    (∀ earlier, earlier <+: schedule →
      Standing view start taken refused owns (pool.exec earlier) none) ∨
    ∃ before owner after, schedule = before ++ owner :: after ∧
      (∀ earlier, earlier <+: before →
        Standing view start taken refused owns (pool.exec earlier) none) ∧
      Standing view start taken refused owns (pool.exec (before ++ [owner])) (some owner) := by
  induction schedule using List.reverseRecOn with
  | nil =>
      left
      intro earlier none
      rw [List.prefix_nil.mp none]
      exact ⟨first, contend⟩
  | append_singleton schedule last ih =>
      rcases ih with idle | ⟨before, owner, after, rfl, idle, standing⟩
      · rcases standing_advance lasting takes last (idle schedule List.prefix_rfl) with
          ⟨owner', moved, same, -⟩
        rw [← exec_concat] at moved
        rcases same with rfl | ⟨-, rfl⟩
        · left
          intro earlier part
          rcases List.prefix_concat_iff.mp part with rfl | part
          · exact moved
          · exact idle earlier part
        · exact .inr ⟨schedule, last, [], rfl, idle, moved⟩
      · exact .inr ⟨before, owner, after ++ [last], by simp, idle, standing⟩

end Pool

end Cooperative
