import AgentOS.Governance.GateStep
import AgentOS.Kernel.WakeUp

/-!
# The steps of the kernel

Everything that a call of `wake_up` can do to the kernel is one of the transitions of
`KernelStep`: a step of the gate, a question to the breaker or a failure recorded by it,
always for a stripped text, or something that touches neither the gate nor the breaker.
-/

namespace AgentOS

open Python Cooperative

namespace AgentOSKernel

variable {ν : Type} (host : Host) (rdf : RdfLib) (kernel : AgentOSKernel ν)

/-- The gate of the kernel; a kernel without one never calls it. -/
def gateOf : WriteGate := kernel.writeGate.getD ⟨⟨Dict.empty⟩, none, [], 0, none⟩

/-- One transition of a kernel. -/
inductive KernelStep : KernelWorld ν → KernelWorld ν → Prop where
  | gate (world : KernelWorld ν) (part : GateWorld)
      (step : WriteGate.GateStep host rdf kernel.gateOf True (world.part KernelState.gate) part) :
      KernelStep world (Timed.setPart KernelState.setGate part world)
  | check (world : KernelWorld ν) (text : Str) :
      KernelStep world (Timed.setPart KernelState.setBreaker
        (kernel.circuitBreaker.lookedUp host text (world.part KernelState.breaker)) world)
  | fail (world : KernelWorld ν) {text errorType : Str} {signature : RequestSignature ν}
      (built : kernel.circuitBreaker.buildSignature host text = .ok signature) :
      KernelStep world (Timed.setPart KernelState.setBreaker
        (kernel.circuitBreaker.recordedWorld host text signature errorType
          (world.part KernelState.breaker)) world)
  | other (world world' : KernelWorld ν)
      (ticks : world'.tick = world.tick ∨ world'.tick = world.tick + 1)
      (gate : world'.state.gate = world.state.gate)
      (breaker : world'.state.breaker = world.state.breaker) : KernelStep world world'

variable {host rdf kernel}

/-- Reading the clock any number of times is a run of the gate. -/
theorem reads_gate {gate : WriteGate} {world world' : GateWorld} (ticks : world.tick ≤ world'.tick)
    (same : world'.state = world.state) :
    Relation.ReflTransGen (WriteGate.GateStep host rdf gate True) world world' := by
  rcases Nat.exists_eq_add_of_le ticks with ⟨readings, shape⟩
  have target : world' = ⟨world.tick + readings, world.state⟩ := by
    rw [← shape, ← same]
  rw [target]
  clear target shape same ticks
  induction readings with
  | zero => exact .refl
  | succ readings ih => exact ih.tail (.read _)

theorem lookedUp_tick (breaker : CircuitBreaker Str ν) (text : Str)
    (world : Timed (BreakerState ν)) :
    world.tick ≤ (breaker.lookedUp host text world).tick := by
  unfold CircuitBreaker.lookedUp
  split
  · exact le_rfl
  split
  · exact le_rfl
  · exact Nat.le_succ _

theorem recordedWorld_tick (breaker : CircuitBreaker Str ν) (text errorType : Str)
    (signature : RequestSignature ν) (world : Timed (BreakerState ν)) :
    world.tick ≤ (breaker.recordedWorld host text signature errorType world).tick := by
  dsimp only [CircuitBreaker.recordedWorld]
  split <;> exact Nat.le_add_right _ _

/-- Seen from the gate, a step of the kernel is a run of the gate. -/
theorem KernelStep.onGate {world world' : KernelWorld ν}
    (step : KernelStep host rdf kernel world world') :
    Relation.ReflTransGen (WriteGate.GateStep host rdf kernel.gateOf True)
      (world.part KernelState.gate) (world'.part KernelState.gate) := by
  cases step with
  | gate part step => exact .single step
  | check text =>
      exact reads_gate (lookedUp_tick _ _ (world.part KernelState.breaker)) rfl
  | fail built =>
      exact reads_gate (recordedWorld_tick _ _ _ _ (world.part KernelState.breaker)) rfl
  | other _ ticks gate breaker =>
      apply reads_gate _ gate
      change world.tick ≤ world'.tick
      omega

/-! ### The code follows the steps -/

theorem ofExcept_follows {α : Type} (result : Except Exc α) :
    (ofExcept result : Action Exc (KernelWorld ν) α).Follows (KernelStep host rdf kernel) := by
  intro world
  rw [ofExcept_apply]

theorem raiseIf_follows (refused : Prop) [Decidable refused] (exc : Exc) :
    (raiseIf refused exc : Action Exc (KernelWorld ν) Unit).Follows
      (KernelStep host rdf kernel) := by
  intro world
  rw [raiseIf_apply]

theorem checkSessionAlive_follows (policy : AutonomyPolicy) :
    (policy.checkSessionAlive host : Action Exc (KernelWorld ν) Unit).Follows
      (KernelStep host rdf kernel) := by
  apply Action.follows_bind
  · exact fun world => .single (.other world _ (.inr rfl) rfl rfl)
  · exact fun _ => raiseIf_follows _ _

theorem isOpen_follows (text : Str) :
    (atBreaker (kernel.circuitBreaker.isOpen host text)).Follows
      (KernelStep host rdf kernel) := by
  intro world
  rw [isOpen_apply]
  exact .single (.check world text)

theorem recordFailure_follows (text errorType : Str) :
    (atBreaker (kernel.circuitBreaker.recordFailure host text text errorType)).Follows
      (KernelStep host rdf kernel) := by
  intro world
  rw [atBreaker, Action.zoom]
  rcases kernel.circuitBreaker.recordFailure_apply host text text errorType
    (world.part KernelState.breaker) with ⟨signature, opened, built, ran⟩ | ⟨exc, _, ran⟩
  · rw [ran]
    exact .single (.fail world built)
  · rw [ran]
    exact .refl

theorem preDispatch_follows (message : ChannelMessage) :
    (kernel.preDispatch host message).Follows (KernelStep host rdf kernel) := by
  apply Action.follows_bind (ofExcept_follows _)
  intro _
  apply Action.follows_bind (isOpen_follows _)
  intro _
  apply Action.follows_bind (raiseIf_follows _ _)
  intro _
  rcases kernel.autonomyPolicy with _ | policy
  · exact Action.follows_pure _
  · apply Action.follows_bind (checkSessionAlive_follows policy)
    intro _
    dsimp only
    split
    · exact ofExcept_follows _
    · exact Action.follows_pure _

theorem atGate_follows {gate : WriteGate} (wired : kernel.writeGate = some gate) {α : Type}
    {body : Coro Exc GateWorld α} (follows : body.Follows (WriteGate.GateStep host rdf gate True)) :
    (atGate body : Coro Exc (KernelWorld ν) α).Follows (KernelStep host rdf kernel) := by
  have same : kernel.gateOf = gate := by simp [gateOf, wired]
  intro origin
  unfold atGate
  apply Coro.followsFrom_zoom
  · exact fun _ _ => rfl
  · exact fun _ _ _ => rfl
  · exact fun _ => rfl
  · exact fun _ _ step => step.onGate
  · exact fun world part step => .gate world part step
  · rw [same]
    exact follows _

theorem processMessage_follows (message : ChannelMessage) :
    (kernel.processMessage host rdf message).Follows (KernelStep host rdf kernel) := by
  unfold processMessage
  split
  · split
    · exact fun origin => Coro.followsFrom_done _ origin
    · exact Coro.follows_pure _
  · exact Coro.follows_pure _
  · split
    · rename_i gate wired
      apply Coro.follows_bind
      · exact atGate_follows wired (WriteGate.executeGovernedWrite_follows _ _ _ _)
      · exact fun _ => Coro.follows_pure _
    · exact Coro.follows_pure _
  all_goals exact Coro.follows_pure _

theorem billMessage_follows (message : ChannelMessage) :
    (kernel.billMessage host message).Follows (KernelStep host rdf kernel) := by
  unfold billMessage
  split
  · apply Action.follows_bind
    · exact fun world => .single (.other world _ (.inr rfl) rfl rfl)
    · intro timestamp
      apply Action.follows_bind
      · exact fun world => .single (.other world _ (.inl rfl) rfl rfl)
      · exact fun _ => Action.follows_pure _
  · exact Action.follows_pure _

theorem replyException_follows (message : ChannelMessage) (sessionId : ℕ) (exc : Exc) :
    (kernel.replyException host message sessionId exc).Follows (KernelStep host rdf kernel) := by
  rcases replyException_cases host kernel message sessionId exc with
    ⟨status, start, _, _, shape⟩ | ⟨start, shape⟩ <;> rw [shape]
  · exact Action.follows_pure _
  · apply Action.follows_bind (recordFailure_follows _ _)
    exact fun _ => Action.follows_pure _

/-- Every call of the kernel moves it along its steps. -/
theorem wakeUp_follows (message : ChannelMessage) :
    (kernel.wakeUp host rdf message).Follows (KernelStep host rdf kernel) := by
  apply Coro.follows_bind
  · exact Coro.follows_sync fun world => .single (.other world _ (.inl rfl) rfl rfl)
  · intro sessionId
    apply Coro.follows_tryCatch
    · apply Coro.follows_bind (Coro.follows_sync (preDispatch_follows message))
      intro _
      apply Coro.follows_bind (processMessage_follows message)
      intro _
      apply Coro.follows_bind (Coro.follows_sync (billMessage_follows message))
      exact fun _ => Coro.follows_pure _
    · exact fun exc => Coro.follows_sync (replyException_follows message sessionId exc)

end AgentOSKernel

end AgentOS
