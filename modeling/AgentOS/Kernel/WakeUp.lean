import AgentOS.Cooperative.Ownership
import AgentOS.Kernel.Kernel

/-!
# What a call of the kernel touches

`wake_up` reaches the gate only while it processes the message. The hooks around that and
the `except` clauses touch the breaker, the fuse and the counter of sessions, so that the
gate after the call is the gate that processing the message left.
-/

namespace AgentOS

open Python Cooperative

namespace AgentOSKernel

variable {ν : Type} {host : Host} {rdf : RdfLib} {kernel : AgentOSKernel ν}

/-! ### Frames -/

section Keeps

variable {α κ : Type} {view : KernelState ν → κ}

theorem keeps_atBreaker
    (stable : ∀ breaker (state : KernelState ν), view (state.setBreaker breaker) = view state)
    (body : Action Exc (Timed (BreakerState ν)) α) :
    (atBreaker body).Keeps fun world => view world.state :=
  fun _ => stable _ _

theorem keeps_atFuse
    (stable : ∀ fuse (state : KernelState ν), view (state.setFuse fuse) = view state)
    (body : Action Exc FuseState α) :
    (atFuse body : Action Exc (KernelWorld ν) α).Keeps fun world => view world.state :=
  fun _ => stable _ _

theorem keeps_enforcePolicy (host : Host) (policy : AutonomyPolicy) (message : ChannelMessage) :
    (enforcePolicy host policy message : Action Exc (KernelWorld ν) Unit).Keeps
      fun world => view world.state := by
  apply Action.keeps_bind
  · apply Action.keeps_bind (Timed.keeps_draw _)
    exact fun _ => keeps_raiseIf _ _
  · intro _
    dsimp only
    split
    · exact keeps_ofExcept _
    · exact Action.keeps_pure _

/-- The hooks keep what the question to the breaker keeps. -/
theorem keeps_preDispatch_of (view : KernelState ν → κ) (host : Host) (kernel : AgentOSKernel ν)
    (message : ChannelMessage)
    (asked : (atBreaker (kernel.circuitBreaker.isOpen host (strip message.text))).Keeps
      fun world => view world.state) :
    (kernel.preDispatch host message).Keeps fun world => view world.state := by
  apply Action.keeps_bind (keeps_ofExcept _)
  intro _
  apply Action.keeps_bind asked
  intro tripped
  apply Action.keeps_bind (keeps_raiseIf _ _)
  intro _
  rcases kernel.autonomyPolicy with _ | policy
  · exact Action.keeps_pure _
  · exact keeps_enforcePolicy host policy message

theorem keeps_preDispatch (view : KernelState ν → κ) (host : Host) (kernel : AgentOSKernel ν)
    (stable : ∀ breaker (state : KernelState ν), view (state.setBreaker breaker) = view state)
    (message : ChannelMessage) :
    (kernel.preDispatch host message).Keeps fun world => view world.state :=
  keeps_preDispatch_of view host kernel message (keeps_atBreaker stable _)

theorem keeps_billMessage (view : KernelState ν → κ) (host : Host) (kernel : AgentOSKernel ν)
    (stable : ∀ fuse (state : KernelState ν), view (state.setFuse fuse) = view state)
    (message : ChannelMessage) :
    (kernel.billMessage host message).Keeps fun world => view world.state := by
  unfold billMessage
  split
  · apply Action.keeps_bind (Timed.keeps_draw _)
    intro timestamp
    apply Action.keeps_bind (keeps_atFuse stable _)
    exact fun _ => Action.keeps_pure _
  · exact Action.keeps_pure _

/-- How an exception becomes a reply: with a status of its own, or as a failure. -/
theorem replyException_cases (host : Host) (kernel : AgentOSKernel ν) (message : ChannelMessage)
    (sessionId : ℕ) (exc : Exc) :
    (∃ status start, status ≠ .ok ∧ status ≠ .error ∧
      kernel.replyException host message sessionId exc =
        pure (reply message sessionId status start exc)) ∨
    ∃ start, kernel.replyException host message sessionId exc =
      kernel.replyFailure host message sessionId start exc := by
  unfold replyException
  split
  · exact .inl ⟨.blocked, _, by decide, by decide, rfl⟩
  · exact .inl ⟨.tripped, _, by decide, by decide, rfl⟩
  · exact .inl ⟨.intercepted, _, by decide, by decide, rfl⟩
  · exact .inl ⟨.exhausted, _, by decide, by decide, rfl⟩
  · split
    · exact .inr ⟨_, rfl⟩
    · exact .inr ⟨_, rfl⟩

/-- The reply to an exception keeps what the record of a failure keeps. -/
theorem keeps_replyException_of (view : KernelState ν → κ) (host : Host)
    (kernel : AgentOSKernel ν) (message : ChannelMessage)
    (recorded : ∀ errorType, (atBreaker (kernel.circuitBreaker.recordFailure host
      (strip message.text) (strip message.text) errorType)).Keeps fun world => view world.state)
    (sessionId : ℕ) (exc : Exc) :
    (kernel.replyException host message sessionId exc).Keeps fun world => view world.state := by
  rcases replyException_cases host kernel message sessionId exc with
    ⟨status, start, _, _, shape⟩ | ⟨start, shape⟩ <;> rw [shape]
  · exact Action.keeps_pure _
  · apply Action.keeps_bind (recorded _)
    exact fun _ => Action.keeps_pure _

theorem keeps_replyException (view : KernelState ν → κ) (host : Host) (kernel : AgentOSKernel ν)
    (stable : ∀ breaker (state : KernelState ν), view (state.setBreaker breaker) = view state)
    (message : ChannelMessage) (sessionId : ℕ) (exc : Exc) :
    (kernel.replyException host message sessionId exc).Keeps fun world => view world.state :=
  keeps_replyException_of view host kernel message (fun _ => keeps_atBreaker stable _) sessionId exc

theorem keeps_processMessage (view : KernelState ν → κ) (host : Host) (rdf : RdfLib)
    (kernel : AgentOSKernel ν)
    (stable : ∀ gate (state : KernelState ν), view (state.setGate gate) = view state)
    (message : ChannelMessage) :
    (kernel.processMessage host rdf message).Keeps (fun world => view world.state)
      fun _ => True := by
  unfold processMessage
  split
  · split
    · exact Coro.keeps_done trivial
    · trivial
  · trivial
  · split
    · apply Coro.keeps_bind
      · apply Coro.keeps_zoom
        · exact fun _ _ => stable _ _
        · exact fun _ => trivial
      · exact fun _ _ => trivial
      · exact fun _ _ => trivial
    · trivial
  all_goals trivial

/-- The `try` block keeps what the question to the breaker keeps. -/
theorem keeps_dispatch_of (view : KernelState ν → κ) (host : Host) (rdf : RdfLib)
    (kernel : AgentOSKernel ν) (message : ChannelMessage)
    (asked : (atBreaker (kernel.circuitBreaker.isOpen host (strip message.text))).Keeps
      fun world => view world.state)
    (gates : ∀ gate (state : KernelState ν), view (state.setGate gate) = view state)
    (fuses : ∀ fuse (state : KernelState ν), view (state.setFuse fuse) = view state)
    (sessionId : ℕ) :
    (kernel.dispatch host rdf message sessionId).Keeps (fun world => view world.state)
      fun _ => True := by
  have sync : ∀ {α : Type} {body : Action Exc (KernelWorld ν) α},
      (body.Keeps fun world => view world.state) →
      (Coro.sync body).Keeps (fun world => view world.state) fun _ => True :=
    fun keeps => Coro.keeps_sync keeps fun _ => trivial
  have hooks := keeps_preDispatch_of view host kernel message asked
  have billed := keeps_billMessage view host kernel fuses message
  refine Coro.keeps_bind (sync hooks) ?_ fun _ _ => trivial
  intro _ _
  refine Coro.keeps_bind (keeps_processMessage view host rdf kernel gates message) ?_
    fun _ _ => trivial
  intro _ _
  exact Coro.keeps_bind (sync billed) (fun _ _ => trivial) fun _ _ => trivial

end Keeps

theorem atGate_run {α : Type} (body : Coro Exc GateWorld α) (world : KernelWorld ν) :
    (atGate body).run world =
      ((body.run (world.part KernelState.gate)).1,
        Timed.setPart KernelState.setGate (body.run (world.part KernelState.gate)).2 world) := by
  unfold atGate
  apply Coro.run_zoom <;> intros <;> rfl

/-! ### The hooks before the message -/

/-- The firewall, the breaker and the policy let the message through. -/
structure Admitted (host : Host) (kernel : AgentOSKernel ν) (message : ChannelMessage)
    (world : KernelWorld ν) : Prop where
  scanned : ∃ report, kernel.firewall.scan (strip message.text) (py "user_prompt") = .ok report
  closed : kernel.circuitBreaker.opensAt (host.time world.tick) (strip message.text)
    world.state.breaker = false
  permitted : ∀ policy, kernel.autonomyPolicy = some policy →
    host.time (kernel.circuitBreaker.lookedUp host (strip message.text)
        (world.part KernelState.breaker)).tick - policy.sessionStart ≤ policy.maxDurationSeconds ∧
      (looksLikeCommand (strip message.text) →
        policy.checkCommand host (strip message.text) = .ok ())

/-- The world in which an admitted message is processed. -/
def hooksWorld (host : Host) (kernel : AgentOSKernel ν) (message : ChannelMessage)
    (world : KernelWorld ν) : KernelWorld ν :=
  let looked := Timed.setPart KernelState.setBreaker
    (kernel.circuitBreaker.lookedUp host (strip message.text) (world.part KernelState.breaker))
    world
  if kernel.autonomyPolicy.isSome then ⟨looked.tick + 1, looked.state⟩ else looked

theorem hooksWorld_state (host : Host) (kernel : AgentOSKernel ν) (message : ChannelMessage)
    (world : KernelWorld ν) :
    (hooksWorld host kernel message world).state.gate = world.state.gate ∧
      (hooksWorld host kernel message world).state.fuse = world.state.fuse := by
  unfold hooksWorld
  dsimp only
  split <;> exact ⟨rfl, rfl⟩

theorem enforcePolicy_eq_ok_iff {policy : AutonomyPolicy} {message : ChannelMessage}
    {world ready : KernelWorld ν} :
    enforcePolicy host policy message world = (.ok (), ready) ↔
      host.time world.tick - policy.sessionStart ≤ policy.maxDurationSeconds ∧
        (looksLikeCommand (strip message.text) →
          policy.checkCommand host (strip message.text) = .ok ()) ∧
        ready = ⟨world.tick + 1, world.state⟩ := by
  simp only [enforcePolicy, AutonomyPolicy.checkSessionAlive, Action.bind_eq_ok_iff,
    Host.readTime_apply, Prod.mk.injEq, Except.ok.injEq, raiseIf_eq_ok_iff, ↓existsAndEq,
    true_and, and_assoc, exists_and_left, exists_const, not_lt]
  apply and_congr_right
  intro _
  split
  · rename_i command
    simp [command, eq_comm]
  · rename_i command
    simp [command, eq_comm]

/-- The question to the breaker, asked from the kernel. -/
theorem isOpen_apply (host : Host) (kernel : AgentOSKernel ν) (text : Str)
    (world : KernelWorld ν) :
    atBreaker (kernel.circuitBreaker.isOpen host text) world =
      (.ok (kernel.circuitBreaker.opensAt (host.time world.tick) text world.state.breaker),
        Timed.setPart KernelState.setBreaker
          (kernel.circuitBreaker.lookedUp host text (world.part KernelState.breaker)) world) := by
  simp only [atBreaker, Action.zoom, CircuitBreaker.isOpen_apply]
  rfl

theorem preDispatch_eq_ok_iff {message : ChannelMessage} {world ready : KernelWorld ν} :
    kernel.preDispatch host message world = (.ok (), ready) ↔
      Admitted host kernel message world ∧ ready = hooksWorld host kernel message world := by
  unfold preDispatch hooksWorld
  simp only [Action.bind_eq_ok_iff, ofExcept_apply, Prod.mk.injEq, isOpen_apply, Except.ok.injEq,
    raiseIf_eq_ok_iff, ↓existsAndEq, true_and, and_assoc, exists_and_left, exists_const]
  rcases configured : kernel.autonomyPolicy with _ | policy
  · constructor
    · rintro ⟨report, scanned, closed, returned⟩
      cases returned
      refine ⟨⟨⟨report, scanned⟩, by simpa using closed, ?_⟩, rfl⟩
      rw [configured]
      rintro _ ⟨⟩
    · rintro ⟨⟨⟨report, scanned⟩, closed, -⟩, rfl⟩
      exact ⟨report, scanned, by simp [closed], rfl⟩
  · dsimp only
    rw [enforcePolicy_eq_ok_iff]
    constructor
    · rintro ⟨report, scanned, closed, alive, command, rfl⟩
      refine ⟨⟨⟨report, scanned⟩, by simpa using closed, ?_⟩, rfl⟩
      rw [configured]
      rintro _ ⟨⟩
      exact ⟨alive, command⟩
    · rintro ⟨⟨⟨report, scanned⟩, closed, permitted⟩, rfl⟩
      have allowed := permitted policy configured
      exact ⟨report, scanned, by simp [closed], allowed.1, allowed.2, rfl⟩

/-- The world in which the hooks start. -/
def entered (world : KernelWorld ν) : KernelWorld ν :=
  { world with state := { world.state with sessionCount := world.state.sessionCount + 1 } }

theorem wakeUp_run (host : Host) (rdf : RdfLib) (kernel : AgentOSKernel ν)
    (message : ChannelMessage) (world : KernelWorld ν) :
    (kernel.wakeUp host rdf message).run world =
      match (kernel.dispatch host rdf message (world.state.sessionCount + 1)).run
        (entered world) with
      | (.ok response, final) => (.ok response, final)
      | (.error exc, final) =>
          kernel.replyException host message (world.state.sessionCount + 1) exc final := by
  have first : (Coro.sync nextSession).run world =
      (.ok (world.state.sessionCount + 1), entered world) := Coro.run_sync _ _
  rw [wakeUp, Coro.run_bind_of_ok first, Coro.run_tryCatch]
  rcases (kernel.dispatch host rdf message (world.state.sessionCount + 1)).run (entered world)
    with ⟨exc | response, final⟩
  · dsimp only
    rw [Coro.run_sync]
  · rfl

theorem dispatch_run_of_refused {message : ChannelMessage} {sessionId : ℕ} {exc : Exc}
    {world final : KernelWorld ν}
    (refused : kernel.preDispatch host message world = (.error exc, final)) :
    (kernel.dispatch host rdf message sessionId).run world = (.error exc, final) := by
  have first : (Coro.sync (kernel.preDispatch host message)).run world = (.error exc, final) := by
    rw [Coro.run_sync, refused]
  rw [dispatch, Coro.run_bind_of_error first]

theorem dispatch_run_of_admitted {message : ChannelMessage} {sessionId : ℕ}
    {world ready : KernelWorld ν}
    (admitted : kernel.preDispatch host message world = (.ok (), ready)) :
    (kernel.dispatch host rdf message sessionId).run world =
      match (kernel.processMessage host rdf message).run ready with
      | (.error exc, final) => (.error exc, final)
      | (.ok text, middle) =>
          match kernel.billMessage host message middle with
          | (.error exc, final) => (.error exc, final)
          | (.ok _, final) =>
              (.ok ⟨text, message.channel, sessionId, .ok, none⟩, final) := by
  have first : (Coro.sync (kernel.preDispatch host message)).run world = (.ok (), ready) := by
    rw [Coro.run_sync, admitted]
  rw [dispatch, Coro.run_bind_of_ok first, Coro.run_bind]
  rcases (kernel.processMessage host rdf message).run ready with ⟨exc | text, middle⟩
  · rfl
  · dsimp only
    rw [Coro.run_bind, Coro.run_sync]
    rcases kernel.billMessage host message middle with ⟨exc | _, final⟩ <;> rfl

/-- An exception never becomes a reply that says `ok`. -/
theorem replyException_status {message : ChannelMessage} {sessionId : ℕ} {exc : Exc}
    {response : ChannelResponse} {world final : KernelWorld ν}
    (replied : kernel.replyException host message sessionId exc world = (.ok response, final)) :
    response.status ≠ .ok := by
  rcases replyException_cases host kernel message sessionId exc with
    ⟨status, start, notOk, _, shape⟩ | ⟨start, shape⟩ <;> rw [shape] at replied
  · cases replied
    exact notOk
  · rcases Action.bind_eq_ok_iff.mp replied with ⟨_, _, _, last⟩
    cases last
    simp [reply]

/-- The reply says `ok` exactly when nothing was raised. -/
theorem wakeUp_ok_iff {message : ChannelMessage} {response : ChannelResponse}
    {world final : KernelWorld ν} :
    (kernel.wakeUp host rdf message).run world = (.ok response, final) ∧ response.status = .ok ↔
      (kernel.dispatch host rdf message (world.state.sessionCount + 1)).run (entered world) =
        (.ok response, final) := by
  rw [wakeUp_run]
  constructor
  · rintro ⟨returned, status⟩
    rcases dispatched : (kernel.dispatch host rdf message (world.state.sessionCount + 1)).run
      (entered world) with ⟨exc | _, middle⟩ <;> rw [dispatched] at returned
    · exact absurd status (replyException_status returned)
    · exact returned
  · intro dispatched
    rw [dispatched]
    refine ⟨rfl, ?_⟩
    rw [dispatch, Coro.run_bind_eq_ok_iff] at dispatched
    rcases dispatched with ⟨_, _, _, later⟩
    rw [Coro.run_bind_eq_ok_iff] at later
    rcases later with ⟨_, _, _, later⟩
    rw [Coro.run_bind_eq_ok_iff] at later
    rcases later with ⟨_, _, _, last⟩
    cases last
    rfl

theorem wakeUp_gate_of_refused (rdf : RdfLib) {message : ChannelMessage} {exc : Exc}
    {world final : KernelWorld ν}
    (refused : kernel.preDispatch host message (entered world) = (.error exc, final)) :
    ((kernel.wakeUp host rdf message).run world).2.state.gate = world.state.gate := by
  have hooks := keeps_preDispatch KernelState.gate host kernel (fun _ _ => rfl) message
    (entered world)
  have replies := keeps_replyException KernelState.gate host kernel (fun _ _ => rfl)
    message (world.state.sessionCount + 1) exc final
  rw [refused] at hooks
  rw [wakeUp_run, dispatch_run_of_refused refused]
  exact replies.trans hooks

/-- The gate after the call is the one that processing the message left. -/
theorem wakeUp_gate_of_admitted (rdf : RdfLib) {message : ChannelMessage}
    {world ready : KernelWorld ν}
    (admitted : kernel.preDispatch host message (entered world) = (.ok (), ready)) :
    ((kernel.wakeUp host rdf message).run world).2.state.gate =
      ((kernel.processMessage host rdf message).run ready).2.state.gate := by
  have replies := fun exc => keeps_replyException KernelState.gate host kernel
    (fun _ _ => rfl) message (world.state.sessionCount + 1) exc
  rw [wakeUp_run, dispatch_run_of_admitted admitted]
  rcases (kernel.processMessage host rdf message).run ready with ⟨exc | text, middle⟩
  · exact replies exc middle
  · have billed := keeps_billMessage KernelState.gate host kernel (fun _ _ => rfl)
      message middle
    dsimp only
    rcases charged : kernel.billMessage host message middle with ⟨exc | _, final⟩ <;>
      rw [charged] at billed
    · exact (replies exc final).trans billed
    · exact billed

end AgentOSKernel

end AgentOS
