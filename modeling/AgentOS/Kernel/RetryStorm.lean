import AgentOS.Cooperative.Ownership
import AgentOS.Kernel.KernelStep
import AgentOS.Kernel.Routing
import AgentOS.Security.FailureWindow

/-!
# Retry storms

The kernel asks the breaker about the stripped text of a message and records failures for
the same text, with the text as the only parameter. However the calls overlap, a text
passes the breaker only while fewer failures of it lie in the window than the threshold,
and calls with other texts leave alone everything that the answer depends on.
-/

namespace AgentOS

open Python Cooperative

namespace AgentOSKernel

variable {ν : Type} (host : Host) (rdf : RdfLib) (kernel : AgentOSKernel ν)

/--
The kernel after calls of `wake_up` that may overlap: the schedule names, one after another,
the call that runs up to its next await.
-/
def afterCalls (messages : ℕ → ChannelMessage) (start : KernelWorld ν) (schedule : List ℕ) :
    KernelWorld ν :=
  (Pool.exec ⟨start, fun i => kernel.wakeUp host rdf (messages i)⟩ schedule).state

/-- The breaker check of a message with the stripped text lets it through. -/
def PassesBreaker (text : Str) (world : KernelWorld ν) : Prop :=
  (atBreaker (kernel.circuitBreaker.isOpen host text) world).1 = .ok false

/-- The failures of the text in the window that ends now. -/
def recentFailures (text : Str) (world : KernelWorld ν) : ℕ :=
  world.state.breaker.recordedSince text
    (host.time world.tick - kernel.circuitBreaker.windowSeconds)

/-- Everything in the breaker that belongs to the text. -/
def aboutText (text : Str) (state : KernelState ν) :
    Option (List (FailureRecord ν)) × Option ℚ × List (Str × ℚ) :=
  (state.breaker.failures.get? text, state.breaker.openCircuits.get? text,
    state.breaker.recorded.filter fun failure => failure.1 = text)

variable {host rdf kernel} {messages : ℕ → ChannelMessage} {start : KernelWorld ν}

theorem passesBreaker_iff {text : Str} {world : KernelWorld ν} :
    PassesBreaker host kernel text world ↔
      kernel.circuitBreaker.opensAt (host.time world.tick) text world.state.breaker = false := by
  rw [PassesBreaker, isOpen_apply, Except.ok.injEq]

/-- What the breaker knows about a text survives every step of the kernel. -/
theorem windowKept_of_step (steady : Monotone host.time)
    (positive : 1 ≤ kernel.circuitBreaker.failureThreshold) {text : Str}
    {world world' : KernelWorld ν} (step : KernelStep host rdf kernel world world')
    (kept : kernel.circuitBreaker.WindowKept host text text (world.part KernelState.breaker)) :
    kernel.circuitBreaker.WindowKept host text text (world'.part KernelState.breaker) := by
  cases step with
  | gate part step => exact kept.later steady step.tick_le rfl rfl fun _ => rfl
  | check other => exact kept.lookedUp steady positive other
  | @fail other errorType signature built =>
      by_cases same : text = other
      · subst same
        exact kept.recorded steady built errorType
      · have apart := CircuitBreaker.recordedWorld_other host kernel.circuitBreaker same signature
          errorType (world.part KernelState.breaker)
        exact kept.later steady apart.1 apart.2.1 apart.2.2.1 apart.2.2.2
  | other _ ticks gate breaker =>
      have later : (world.part KernelState.breaker).tick ≤
          (world'.part KernelState.breaker).tick := by
        change world.tick ≤ world'.tick
        omega
      have same : (world'.part KernelState.breaker).state =
          (world.part KernelState.breaker).state := breaker
      apply kept.later steady later
      · rw [same]
      · rw [same]
      · intro time
        rw [same]

theorem afterCalls_windowKept (steady : Monotone host.time)
    (positive : 1 ≤ kernel.circuitBreaker.failureThreshold)
    (fresh : start.state.breaker = BreakerState.initial) (messages : ℕ → ChannelMessage)
    (schedule : List ℕ) (text : Str) :
    kernel.circuitBreaker.WindowKept host text text
      ((kernel.afterCalls host rdf messages start schedule).part KernelState.breaker) := by
  have moved := Pool.exec_follows ⟨start, fun i => kernel.wakeUp host rdf (messages i)⟩
    (fun i => wakeUp_follows (messages i)) schedule
  have initial := CircuitBreaker.windowKept_initial host kernel.circuitBreaker positive text text
    start.tick
  rw [← fresh] at initial
  exact @Action.holds_of_steps _ _ (fun world : KernelWorld ν =>
    kernel.circuitBreaker.WindowKept host text text (world.part KernelState.breaker)) _ _
    (fun _ _ step => windowKept_of_step steady positive step) moved initial

/-! ### Other texts -/

theorem isOpen_keeps (host : Host) (kernel : AgentOSKernel ν) {text other : Str}
    (differ : other ≠ text) :
    (atBreaker (kernel.circuitBreaker.isOpen host other)).Keeps
      fun world => aboutText text world.state := by
  intro world
  rw [isOpen_apply]
  simp only [aboutText, Timed.setPart, KernelState.setBreaker, CircuitBreaker.lookedUp]
  split
  · rfl
  split
  · rfl
  split
  · simp only [BreakerState.reset, Dict.get?_erase, if_neg (Ne.symm differ)]
    rfl
  · rfl

theorem recordFailure_keeps (host : Host) (kernel : AgentOSKernel ν) {text other : Str}
    (differ : other ≠ text) (errorType : Str) :
    (atBreaker (kernel.circuitBreaker.recordFailure host other other errorType)).Keeps
      fun world => aboutText text world.state := by
  intro world
  rw [atBreaker, Action.zoom]
  rcases kernel.circuitBreaker.recordFailure_apply host other other errorType
    (world.part KernelState.breaker) with ⟨signature, opened, _, ran⟩ | ⟨exc, _, ran⟩ <;>
    rw [ran]
  · have failures : (kernel.circuitBreaker.storedState host other signature errorType
        (world.part KernelState.breaker)).failures.get? text =
          world.state.breaker.failures.get? text := by
      simp only [CircuitBreaker.storedState, BreakerState.store]
      split
      · exact (Dict.get?_erase _ _ _).trans (if_neg (Ne.symm differ))
      · exact Dict.get?_set_of_ne _ _ (Ne.symm differ)
    have recorded : (kernel.circuitBreaker.storedState host other signature errorType
        (world.part KernelState.breaker)).recorded.filter (fun failure => failure.1 = text) =
          world.state.breaker.recorded.filter fun failure => failure.1 = text := by
      simp only [CircuitBreaker.storedState, BreakerState.store]
      exact List.filter_cons_of_neg (by simpa using differ)
    dsimp only [CircuitBreaker.recordedWorld]
    split
    · simp only [aboutText, Timed.setPart, KernelState.setBreaker, BreakerState.openCircuit,
        failures, recorded, Dict.get?_set_of_ne _ _ (Ne.symm differ)]
      rfl
    · simp only [aboutText, Timed.setPart, KernelState.setBreaker, failures, recorded]
      rfl
  · rfl

/-- A call with another text leaves alone everything about the text, however it is interleaved. -/
theorem wakeUp_keeps (host : Host) (rdf : RdfLib) (kernel : AgentOSKernel ν)
    {message : ChannelMessage} {text : Str} (differ : strip message.text ≠ text) :
    (kernel.wakeUp host rdf message).Keeps
      (fun world => aboutText text world.state) fun _ => True := by
  have sync : ∀ {α : Type} {body : Action Exc (KernelWorld ν) α},
      (body.Keeps fun world => aboutText text world.state) →
      (Coro.sync body).Keeps (fun world => aboutText text world.state) fun _ => True :=
    fun keeps => Coro.keeps_sync keeps fun _ => trivial
  have replied := keeps_replyException_of (aboutText text) host kernel message
    (recordFailure_keeps host kernel differ)
  have counted : (nextSession : Action Exc (KernelWorld ν) ℕ).Keeps
      fun world => aboutText text world.state := fun _ => rfl
  refine Coro.keeps_bind (sync counted) ?_ fun _ _ => trivial
  intro sessionId _
  have dispatched := keeps_dispatch_of (aboutText text) host rdf kernel message
    (isOpen_keeps host kernel differ) (fun _ _ => rfl) (fun _ _ => rfl) sessionId
  exact Coro.keeps_tryCatch dispatched (fun _ _ => trivial) fun exc _ =>
    sync (replied sessionId exc)

/--
In every interleaving of calls on a new kernel: a text passes the breaker only while fewer
failures of it lie in the window than the threshold, and no call with another text changes
what the breaker knows about it.
-/
theorem retries_bounded (steady : Monotone host.time)
    (positive : 1 ≤ kernel.circuitBreaker.failureThreshold)
    (fresh : start.state.breaker = BreakerState.initial) (messages : ℕ → ChannelMessage)
    (schedule : List ℕ) (text : Str) :
    (PassesBreaker host kernel text (kernel.afterCalls host rdf messages start schedule) →
      recentFailures host kernel text (kernel.afterCalls host rdf messages start schedule) <
        kernel.circuitBreaker.failureThreshold) ∧
    ∀ message, strip message.text ≠ text →
      (kernel.wakeUp host rdf message).Keeps
        (fun world => aboutText text world.state) fun _ => True := by
  refine ⟨?_, fun message differ => wakeUp_keeps host rdf kernel differ⟩
  intro passes
  have kept : kernel.circuitBreaker.WindowKept host text text
      ((kernel.afterCalls host rdf messages start schedule).part KernelState.breaker) :=
    afterCalls_windowKept steady positive fresh messages schedule text
  exact kept.few positive (passesBreaker_iff.mp passes)

end AgentOSKernel

namespace Sample

/-- Two overlapping calls with a forged nonce. -/
def refusedWorld : KernelWorld Unit :=
  kernel.afterCalls steadyHost rdf (fun _ => forgedMessage) validatedWorld [0, 1, 0, 1, 0, 1, 0, 1]

/-- Both refused writes were recorded as failures, and the same text may be sent once more. -/
theorem sample_retries_bounded :
    AgentOSKernel.recentFailures steadyHost kernel (strip forgedMessage.text) refusedWorld = 2 ∧
    AgentOSKernel.PassesBreaker steadyHost kernel (strip forgedMessage.text) refusedWorld ∧
    (AgentOSKernel.PassesBreaker steadyHost kernel (strip forgedMessage.text) refusedWorld →
      AgentOSKernel.recentFailures steadyHost kernel (strip forgedMessage.text) refusedWorld <
        kernel.circuitBreaker.failureThreshold) ∧
    ∀ other, strip other.text ≠ strip forgedMessage.text →
      (kernel.wakeUp steadyHost rdf other).Keeps
        (fun world => AgentOSKernel.aboutText (strip forgedMessage.text) world.state)
        fun _ => True :=
  ⟨by decide +kernel, AgentOSKernel.passesBreaker_iff.mpr (by decide +kernel),
    AgentOSKernel.retries_bounded (fun _ _ _ => le_rfl) (by decide) rfl (fun _ => forgedMessage)
      [0, 1, 0, 1, 0, 1, 0, 1] (strip forgedMessage.text)⟩

end Sample

end AgentOS
