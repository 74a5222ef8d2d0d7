import AgentOS.Cooperative.Ownership

/-!
# A view under a lease

One task at a time has the lease on a view of the shared state and moves it, along the moves that
the lease allows. The others only look on: they find the view where such moves have led it. When
the view is free, the first task that moves it may keep the lease, and it gives the lease back by
leaving a free view behind. All this is claimed in sound states only, and keeps them sound. It may
rest on what is given of every step beforehand, for instance that time passes.
-/

namespace Cooperative

open Relation

structure Lease (σ κ : Type) where
  Sound : σ → Prop
  view : σ → κ
  Moves : κ → κ → Prop
  Free : κ → Prop
  Given : σ → σ → Prop

namespace Lease

variable {σ τ κ : Type} (lease : Lease σ κ)

inductive Role where
  | holder
  | onlooker

/-- What a task knows of the view at its next step. -/
def Knows : Role → κ → κ → Prop
  | .holder, seen, now => now = seen
  | .onlooker, seen, now => ReflTransGen lease.Moves seen now

/-- What a step in a role may do to the view, and which role the task has afterwards. -/
structure Allows (role role' : Role) (before after : κ) : Prop where
  moves : after = before ∨ (role = .holder ∨ lease.Free before) ∧ lease.Moves before after
  holds : role' = .holder → (role = .holder ∨ lease.Free before) ∧ ¬ lease.Free after

/-- The lease on a view of a part. -/
def within (get : τ → σ) : Lease τ κ where
  Sound whole := lease.Sound (get whole)
  view whole := lease.view (get whole)
  Moves := lease.Moves
  Free := lease.Free
  Given whole whole' := lease.Given (get whole) (get whole')

variable {lease} {role role' : Role} {seen before after now : κ}

theorem knows_refl (role : Role) (seen : κ) : lease.Knows role seen seen := by
  cases role with
  | holder => exact rfl
  | onlooker => exact .refl

theorem Knows.trans (first : lease.Knows role seen before) (second : lease.Knows role before now) :
    lease.Knows role seen now := by
  cases role with
  | holder => exact Eq.trans second first
  | onlooker => exact ReflTransGen.trans first second

theorem Knows.moved (known : lease.Knows role seen now) : ReflTransGen lease.Moves seen now := by
  cases role with
  | holder => exact known ▸ .refl
  | onlooker => exact known

/-- A step that leaves the view alone keeps the role. -/
theorem allows_refl (taken : role = .holder → ¬ lease.Free now) :
    lease.Allows role role now now where
  moves := .inl rfl
  holds := fun holds => ⟨.inl holds, taken holds⟩

/-- The holder moves the view, and keeps the lease unless the view is free then. -/
theorem allows_holder (moves : after = before ∨ lease.Moves before after) :
    ∃ role', lease.Allows .holder role' before after ∧
      (role' = .onlooker ∧ lease.Free after ∨ role' = .holder ∧ ¬ lease.Free after) := by
  have moves' : after = before ∨
      (Role.holder = .holder ∨ lease.Free before) ∧ lease.Moves before after :=
    moves.imp id fun moved => ⟨.inl rfl, moved⟩
  by_cases free : lease.Free after
  · exact ⟨.onlooker, ⟨moves', nofun⟩, .inl ⟨rfl, free⟩⟩
  · exact ⟨.holder, ⟨moves', fun _ => ⟨.inl rfl, free⟩⟩, .inr ⟨rfl, free⟩⟩

theorem Allows.moved (allows : lease.Allows role role' before after) :
    ReflTransGen lease.Moves before after := by
  rcases allows.moves with same | ⟨-, moves⟩
  · exact same ▸ .refl
  · exact .single moves

/-- Only the holder moves a view that is not free. -/
theorem Allows.kept (allows : lease.Allows .onlooker role' before after)
    (taken : ¬ lease.Free before) : after = before ∧ role' = .onlooker := by
  constructor
  · rcases allows.moves with same | ⟨holds | free, -⟩
    · exact same
    · cases holds
    · exact absurd free taken
  · cases role' with
    | holder =>
        rcases (allows.holds rfl).1 with holds | free
        · cases holds
        · exact absurd free taken
    | onlooker => rfl

end Lease

namespace Coro

variable {ε σ τ α β κ κ' : Type} (lease : Lease σ κ)

/-- Each step is one that the lease allows, and the end is allowed for the role and the view. -/
def Heeds (ends : Except ε α → Lease.Role → κ → Prop) :
    Coro ε σ α → Lease.Role → κ → Prop
  | ret value, role, seen => ends (.ok value) role seen
  | raise error, role, seen => ends (.error error) role seen
  | act effect next, role, seen =>
      ∀ state, lease.Sound state → lease.Given state (effect state) →
        lease.Knows role seen (lease.view state) → lease.Sound (effect state) ∧ ∃ role',
          lease.Allows role role' (lease.view state) (lease.view (effect state)) ∧
            (next state).Heeds ends role' (lease.view (effect state))

variable {lease} {role : Lease.Role} {seen : κ} {ends : Except ε α → Lease.Role → κ → Prop}
  {later : Except ε β → Lease.Role → κ → Prop}

theorem heeds_done {result : Except ε α} (allowed : ends result role seen) :
    (done result : Coro ε σ α).Heeds lease ends role seen := by
  cases result <;> exact allowed

theorem heeds_sync {body : Action ε σ α}
    (allows : ∀ state, lease.Sound state → lease.Given state (body state).2 →
      lease.Knows role seen (lease.view state) → lease.Sound (body state).2 ∧ ∃ role',
        lease.Allows role role' (lease.view state) (lease.view (body state).2) ∧
          ends (body state).1 role' (lease.view (body state).2)) :
    (sync body).Heeds lease ends role seen := by
  intro state sound given known
  rcases allows state sound given known with ⟨sound', role', allowed, ended⟩
  exact ⟨sound', role', allowed, heeds_done ended⟩

theorem Heeds.mono {ends' : Except ε α → Lease.Role → κ → Prop} {body : Coro ε σ α}
    (heeds : body.Heeds lease ends role seen)
    (weaker : ∀ result role seen, ends result role seen → ends' result role seen) :
    body.Heeds lease ends' role seen := by
  induction body generalizing role seen with
  | ret value => exact weaker _ _ _ heeds
  | raise error => exact weaker _ _ _ heeds
  | act effect next ih =>
      intro state sound given known
      rcases heeds state sound given known with ⟨sound', role', allowed, further⟩
      exact ⟨sound', role', allowed, ih state further⟩

theorem heeds_bind {first : Coro ε σ α} {rest : α → Coro ε σ β}
    (heeds : first.Heeds lease ends role seen)
    (goesOn : ∀ value role seen, ends (.ok value) role seen →
      (rest value).Heeds lease later role seen)
    (stops : ∀ error role seen, ends (.error error) role seen → later (.error error) role seen) :
    (first >>= rest).Heeds lease later role seen := by
  induction first generalizing role seen with
  | ret value => exact goesOn value role seen heeds
  | raise error => exact stops error role seen heeds
  | act effect next ih =>
      intro state sound given known
      rcases heeds state sound given known with ⟨sound', role', allowed, further⟩
      exact ⟨sound', role', allowed, ih state further⟩

/-- What leaves alone all that the lease looks at, in either role. -/
theorem heeds_of_keeps {whole : σ → κ'} {kept : Except ε α → Prop} {body : Coro ε σ α}
    (same : ∀ state state', whole state' = whole state → lease.Given state state' →
      lease.Sound state → lease.Sound state' ∧ lease.view state' = lease.view state)
    (keeps : body.Keeps whole kept) (taken : role = .holder → ¬ lease.Free seen) :
    body.Heeds lease (fun result role' now => kept result ∧ role' = role ∧
      lease.Knows role seen now) role seen := by
  have follows : ∀ now, lease.Knows role seen now → body.Heeds lease (fun result role' now =>
      kept result ∧ role' = role ∧ lease.Knows role seen now) role now := by
    induction body with
    | ret value => exact fun now known => ⟨keeps, rfl, known⟩
    | raise error => exact fun now known => ⟨keeps, rfl, known⟩
    | act effect next ih =>
        intro now known state sound given found
        rcases same state (effect state) (keeps state).1 given sound with ⟨sound', view⟩
        refine ⟨sound', role, ?_, ?_⟩
        · rw [view]
          apply Lease.allows_refl
          intro holds
          subst holds
          exact found ▸ known ▸ taken rfl
        · rw [view]
          exact ih state (keeps state).2 _ (known.trans found)
  exact follows seen (Lease.knows_refl role seen)

/-- What heeds the lease on a part heeds it on the whole. -/
theorem Heeds.zoom {get : τ → σ} {put : σ → τ → τ}
    (getPut : ∀ part whole, get (put part whole) = part) {body : Coro ε σ α}
    (heeds : body.Heeds lease ends role seen) :
    (body.zoom get put).Heeds (lease.within get) ends role seen := by
  induction body generalizing role seen with
  | ret value => exact heeds
  | raise error => exact heeds
  | act effect next ih =>
      intro whole sound given known
      have part : get (put (effect (get whole)) whole) = effect (get whole) := getPut _ _
      have given' : lease.Given (get whole) (effect (get whole)) := part ▸ given
      rcases heeds (get whole) sound given' known with ⟨sound', role', allowed, further⟩
      have view : (lease.within get).view (put (effect (get whole)) whole) =
          lease.view (effect (get whole)) := congrArg lease.view part
      have allowed' : (lease.within get).Allows role role' ((lease.within get).view whole)
          (lease.view (effect (get whole))) := ⟨allowed.moves, allowed.holds⟩
      refine ⟨(congrArg lease.Sound part).mpr sound', role', ?_, ?_⟩
      · rwa [← view] at allowed'
      · change ((next (get whole)).zoom get put).Heeds _ ends role'
          ((lease.within get).view (put (effect (get whole)) whole))
        rw [view]
        exact ih (get whole) further

/-! ### Looking on -/

/-- In sound states no step moves the view, and the lease is never taken. -/
def LooksOn (lease : Lease σ κ) (kept : Except ε α → Prop) (body : Coro ε σ α) : Prop :=
  ∀ seen, body.Heeds lease (fun result role _ => kept result ∧ role = .onlooker) .onlooker seen

section LooksOn

variable {kept : Except ε α → Prop} {further : Except ε β → Prop}

theorem looksOn_pure {value : α} (allowed : kept (.ok value)) :
    (pure value : Coro ε σ α).LooksOn lease kept :=
  fun _ => ⟨allowed, rfl⟩

theorem looksOn_throw {error : ε} (allowed : kept (.error error)) :
    (throw error : Coro ε σ α).LooksOn lease kept :=
  fun _ => ⟨allowed, rfl⟩

theorem looksOn_sync {body : Action ε σ α}
    (same : ∀ state, lease.Sound state → lease.Given state (body state).2 →
      lease.Sound (body state).2 ∧ lease.view (body state).2 = lease.view state)
    (allowed : ∀ state, kept (body state).1) : (sync body).LooksOn lease kept := by
  intro seen
  apply heeds_sync
  intro state sound given _
  refine ⟨(same state sound given).1, .onlooker, ?_, allowed state, rfl⟩
  rw [(same state sound given).2]
  exact Lease.allows_refl nofun

/-- What looks on heeds the lease, and knows how the view may have moved. -/
theorem LooksOn.heeds {body : Coro ε σ α} (looks : body.LooksOn lease kept) (seen : κ) :
    body.Heeds lease (fun _ _ _ => True) .onlooker seen :=
  (looks seen).mono fun _ _ _ _ => trivial

theorem looksOn_bind {first : Coro ε σ α} {rest : α → Coro ε σ β}
    (looks : first.LooksOn lease kept)
    (goesOn : ∀ value, kept (.ok value) → (rest value).LooksOn lease further)
    (stops : ∀ error, kept (.error error) → further (.error error)) :
    (first >>= rest).LooksOn lease further := by
  intro seen
  apply heeds_bind (looks seen)
  · rintro value _ now ⟨allowed, rfl⟩
    exact goesOn value allowed now
  · rintro error _ now ⟨allowed, rfl⟩
    exact ⟨stops error allowed, rfl⟩

theorem looksOn_of_keeps {whole : σ → κ'} {body : Coro ε σ α}
    (same : ∀ state state', whole state' = whole state → lease.Given state state' →
      lease.Sound state → lease.Sound state' ∧ lease.view state' = lease.view state)
    (keeps : body.Keeps whole kept) : body.LooksOn lease kept := by
  intro seen
  have heeds := @heeds_of_keeps _ _ _ _ _ lease .onlooker seen _ _ _ same keeps
    fun holds => nomatch holds
  exact heeds.mono fun result role now ends => ⟨ends.1, ends.2.1⟩

theorem LooksOn.zoom {get : τ → σ} {put : σ → τ → τ}
    (getPut : ∀ part whole, get (put part whole) = part) {body : Coro ε σ α}
    (looks : body.LooksOn lease kept) : (body.zoom get put).LooksOn (lease.within get) kept :=
  fun seen => (looks seen).zoom getPut

end LooksOn

end Coro

namespace Pool

variable {ι ε σ α κ : Type} [DecidableEq ι] {lease : Lease σ κ}
  {ends : Except ε α → Lease.Role → κ → Prop}

/-- The role of a task when the lease is with the holder. -/
def roleOf (holder : Option ι) (task : ι) : Lease.Role :=
  if holder = some task then .holder else .onlooker

@[simp]
theorem roleOf_self (task : ι) : roleOf (some task) task = .holder := if_pos rfl

@[simp]
theorem roleOf_none (task : ι) : roleOf none task = .onlooker := if_neg nofun

theorem roleOf_of_ne {holder : Option ι} {task : ι} (other : holder ≠ some task) :
    roleOf holder task = .onlooker := if_neg other

/-- All tasks heed the lease in their roles, and a view that is held is not free. -/
structure Leased (lease : Lease σ κ) (ends : Except ε α → Lease.Role → κ → Prop)
    (pool : Pool ι ε σ α) (holder : Option ι) : Prop where
  sound : lease.Sound pool.state
  taken : holder ≠ none → ¬ lease.Free (lease.view pool.state)
  heeds : ∀ task, ∃ seen, lease.Knows (roleOf holder task) seen (lease.view pool.state) ∧
    (pool.tasks task).Heeds lease ends (roleOf holder task) seen

/-- Every slot of a schedule is a step that is as given. -/
def Paced (lease : Lease σ κ) (pool : Pool ι ε σ α) : Prop :=
  ∀ slots task, lease.Given (pool.exec slots).state ((pool.exec slots).advance task).state

theorem Paced.exec {pool : Pool ι ε σ α} (paced : pool.Paced lease) (slots : List ι) :
    (pool.exec slots).Paced lease := by
  intro later task
  rw [← exec_append]
  exact paced (slots ++ later) task

/-- When another task has the lease, or none has it on a taken view, the view stays as it is. -/
theorem Leased.waits {pool : Pool ι ε σ α} {holder : Option ι}
    (leased : pool.Leased lease ends holder) {task : ι}
    (given : lease.Given pool.state (pool.advance task).state) (other : holder ≠ some task)
    (taken : ¬ lease.Free (lease.view pool.state)) :
    (pool.advance task).Leased lease ends holder ∧
      lease.view (pool.advance task).state = lease.view pool.state := by
  rcases advance_cases pool task with same | ⟨effect, next, shape, state, own, others⟩
  · rw [same]
    exact ⟨leased, rfl⟩
  rcases leased.heeds task with ⟨seen, known, heeds⟩
  rw [shape, roleOf_of_ne other] at heeds
  rw [roleOf_of_ne other] at known
  rcases heeds pool.state leased.sound (state ▸ given) known with
    ⟨sound', role', allowed, further⟩
  rw [← state] at sound' allowed further
  rcases allowed.kept taken with ⟨kept, rfl⟩
  refine ⟨⟨sound', fun _ => kept ▸ taken, ?_⟩, kept⟩
  intro third
  by_cases here : third = task
  · rw [here, roleOf_of_ne other]
    exact ⟨_, Lease.knows_refl _ _, own ▸ further⟩
  · rw [others third here, kept]
    exact leased.heeds third

/-- A slot of the schedule moves the view as the lease allows, and may pass the lease on. -/
theorem Leased.advance {pool : Pool ι ε σ α} {holder : Option ι}
    (leased : pool.Leased lease ends holder) {task : ι}
    (given : lease.Given pool.state (pool.advance task).state) :
    ∃ holder', (pool.advance task).Leased lease ends holder' ∧
      (holder' = holder ∨ holder' = none ∨ holder' = some task) ∧
      ReflTransGen lease.Moves (lease.view pool.state) (lease.view (pool.advance task).state) := by
  by_cases held : ∃ other, other ≠ task ∧ holder = some other
  · -- Another task has the lease.
    rcases held with ⟨other, differ, rfl⟩
    rcases leased.waits given (fun same => differ (Option.some.inj same)) (leased.taken nofun) with
      ⟨leased', kept⟩
    exact ⟨some other, leased', .inl rfl, kept ▸ .refl⟩
  rcases advance_cases pool task with same | ⟨effect, next, shape, state, own, others⟩
  · rw [same]
    exact ⟨holder, leased, .inl rfl, .refl⟩
  -- The task may move the view, and all others look on.
  rcases leased.heeds task with ⟨seen, known, heeds⟩
  rw [shape] at heeds
  rcases heeds pool.state leased.sound (state ▸ given) known with
    ⟨sound', role', allowed, further⟩
  rw [← state] at sound' allowed further
  have mine : ∃ seen, lease.Knows role' seen (lease.view (pool.advance task).state) ∧
      ((pool.advance task).tasks task).Heeds lease ends role' seen :=
    ⟨_, Lease.knows_refl role' _, own ▸ further⟩
  have onlooking : ∀ other, other ≠ task → ∃ seen,
      lease.Knows .onlooker seen (lease.view (pool.advance task).state) ∧
        ((pool.advance task).tasks other).Heeds lease ends .onlooker seen := by
    intro other differ
    rcases leased.heeds other with ⟨seen', known', heeds'⟩
    rw [roleOf_of_ne fun same => held ⟨other, differ, same⟩] at known' heeds'
    rw [others other differ]
    exact ⟨seen', ReflTransGen.trans known' allowed.moved, heeds'⟩
  cases role' with
  | holder =>
      refine ⟨some task, ⟨sound', fun _ => (allowed.holds rfl).2, ?_⟩, .inr (.inr rfl),
        allowed.moved⟩
      intro other
      by_cases here : other = task
      · rw [here, roleOf_self]
        exact mine
      · rw [roleOf_of_ne fun same => here (Option.some.inj same).symm]
        exact onlooking other here
  | onlooker =>
      refine ⟨none, ⟨sound', fun held => absurd rfl held, ?_⟩, .inr (.inl rfl), allowed.moved⟩
      intro other
      rw [roleOf_none]
      by_cases here : other = task
      · exact here ▸ mine
      · exact onlooking other here

/-- Whatever the schedule, the view moves along the lease. -/
theorem Leased.exec {pool : Pool ι ε σ α} {holder : Option ι}
    (leased : pool.Leased lease ends holder) (paced : pool.Paced lease) (schedule : List ι) :
    ∃ holder', (pool.exec schedule).Leased lease ends holder' ∧
      ReflTransGen lease.Moves (lease.view pool.state) (lease.view (pool.exec schedule).state) := by
  induction schedule generalizing pool holder with
  | nil => exact ⟨holder, leased, .refl⟩
  | cons task rest ih =>
      rcases leased.advance (paced [] task) with ⟨passed, leased', -, moved⟩
      rcases ih leased' (paced.exec [task]) with ⟨final, leased'', reached⟩
      exact ⟨final, leased'', moved.trans reached⟩

/-- As long as the view is taken, one task at most has the lease on it. -/
theorem Leased.exclusive {pool : Pool ι ε σ α} {holder : Option ι}
    (leased : pool.Leased lease ends holder) (paced : pool.Paced lease) (schedule : List ι)
    (taken : ∀ slots, slots <+: schedule → ¬ lease.Free (lease.view (pool.exec slots).state)) :
    ∃ holder', (holder' = holder ∨ holder' = none) ∧
      (pool.exec schedule).Leased lease ends holder' := by
  induction schedule generalizing pool holder with
  | nil => exact ⟨holder, .inl rfl, leased⟩
  | cons task rest ih =>
      have further : ∀ slots, slots <+: rest →
          ¬ lease.Free (lease.view ((pool.advance task).exec slots).state) :=
        fun slots before => taken (task :: slots) (List.cons_prefix_cons.mpr ⟨rfl, before⟩)
      have passed : ∃ holder', (holder' = holder ∨ holder' = none) ∧
          (pool.advance task).Leased lease ends holder' := by
        by_cases mine : holder = some task
        · rcases leased.advance (paced [] task) with ⟨holder', leased', kept | gone | mine', -⟩
          · exact ⟨holder', .inl kept, leased'⟩
          · exact ⟨holder', .inr gone, leased'⟩
          · exact ⟨holder', .inl (mine'.trans mine.symm), leased'⟩
        · have waits := leased.waits (paced [] task) mine (taken [] List.nil_prefix)
          exact ⟨holder, .inl rfl, waits.1⟩
      rcases passed with ⟨middle, kept, leased'⟩
      rcases ih leased' (paced.exec [task]) further with ⟨final, kept', leased''⟩
      refine ⟨final, ?_, leased''⟩
      rcases kept' with rfl | gone
      · exact kept
      · exact .inr gone

/-- The others leave the view alone, as long as it is taken. -/
theorem Leased.others_wait {pool : Pool ι ε σ α} {holder : Option ι}
    (leased : pool.Leased lease ends holder) (paced : pool.Paced lease) (schedule : List ι)
    (taken : ∀ slots, slots <+: schedule → ¬ lease.Free (lease.view (pool.exec slots).state))
    {task : ι} (other : holder ≠ some task) :
    lease.view ((pool.exec schedule).advance task).state =
      lease.view (pool.exec schedule).state := by
  rcases leased.exclusive paced schedule taken with ⟨holder', kept, leased'⟩
  have other' : holder' ≠ some task := by
    rcases kept with rfl | rfl
    · exact other
    · exact nofun
  exact (leased'.waits (paced schedule task) other' (taken schedule List.prefix_rfl)).2

end Pool

end Cooperative
