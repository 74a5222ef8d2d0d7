import AgentOS.Kernel.Refusal

/-!
# The budget cap

A tripped fuse stays tripped, but no hook looks at it before a message is processed: only
the firewall, the breaker and the policy keep a message from being processed, whether or
not the budget is exhausted.
-/

namespace AgentOS

open Python Cooperative

namespace AgentOSKernel

variable {ν : Type} (host : Host) (rdf : RdfLib) (kernel : AgentOSKernel ν)

/-- The hooks let the message through, so that `_process_message` is called. -/
def ReachesProcessing (message : ChannelMessage) (world : KernelWorld ν) : Prop :=
  (kernel.preDispatch host message (entered world)).1 = .ok ()

/-- The message is refused before it is processed. -/
structure HardCapped (message : ChannelMessage) (world : KernelWorld ν) : Prop where
  unprocessed : ¬ ReachesProcessing host kernel message world
  refused : ∀ response final, (kernel.wakeUp host rdf message).run world = (.ok response, final) →
    response.status ≠ .ok

variable {host rdf kernel} {message : ChannelMessage}

theorem reachesProcessing_iff {world : KernelWorld ν} :
    ReachesProcessing host kernel message world ↔
      Admitted host kernel message (entered world) := by
  unfold ReachesProcessing
  constructor
  · intro passed
    rcases hooks : kernel.preDispatch host message (entered world) with ⟨exc | ⟨⟩, ready⟩
    · rw [hooks] at passed
      cases passed
    · exact (preDispatch_eq_ok_iff.mp hooks).1
  · intro admitted
    rw [preDispatch_eq_ok_iff.mpr ⟨admitted, rfl⟩]

theorem hardCapped_iff {world : KernelWorld ν} :
    HardCapped host rdf kernel message world ↔
      ¬ Admitted host kernel message (entered world) := by
  constructor
  · intro capped admitted
    exact capped.unprocessed (reachesProcessing_iff.mpr admitted)
  · intro refused
    refine ⟨fun reached => refused (reachesProcessing_iff.mp reached), ?_⟩
    intro response final returned ok
    have dispatched := wakeUp_ok_iff.mp ⟨returned, ok⟩
    rcases hooks : kernel.preDispatch host message (entered world) with ⟨exc | ⟨⟩, ready⟩
    · rw [dispatch_run_of_refused hooks] at dispatched
      cases dispatched
    · exact refused (preDispatch_eq_ok_iff.mp hooks).1

/-! ### A tripped fuse stays tripped -/

theorem billMessage_fuse (host : Host) (kernel : AgentOSKernel ν) (message : ChannelMessage)
    {world : KernelWorld ν} (tripped : world.state.fuse.tripped = true) :
    (kernel.billMessage host message world).2.state.fuse = world.state.fuse := by
  unfold billMessage
  split
  · simp [Action.bind_apply, atFuse, Action.zoom, BillingFuse.recordUsage, tripped,
      KernelState.setFuse]
  · rfl

theorem wakeUp_tripped (host : Host) (rdf : RdfLib) (kernel : AgentOSKernel ν)
    (message : ChannelMessage) {world : KernelWorld ν}
    (tripped : world.state.fuse.tripped = true) :
    ((kernel.wakeUp host rdf message).run world).2.state.fuse = world.state.fuse := by
  have replies := fun exc => keeps_replyException KernelState.fuse host kernel (fun _ _ => rfl)
    message (world.state.sessionCount + 1) exc
  have hooks := keeps_preDispatch KernelState.fuse host kernel (fun _ _ => rfl) message
    (entered world)
  rw [wakeUp_run]
  rcases passed : kernel.preDispatch host message (entered world) with ⟨exc | ⟨⟩, ready⟩ <;>
    rw [passed] at hooks
  · rw [dispatch_run_of_refused passed]
    exact (replies exc ready).trans hooks
  · have processed := ((keeps_processMessage KernelState.fuse host rdf kernel (fun _ _ => rfl)
      message).run ready).2
    rw [dispatch_run_of_admitted passed]
    rcases ran : (kernel.processMessage host rdf message).run ready with ⟨exc | text, middle⟩ <;>
      rw [ran] at processed
    · exact (replies exc middle).trans (processed.trans hooks)
    · have same : middle.state.fuse = world.state.fuse := processed.trans hooks
      have billed := billMessage_fuse host kernel message (same ▸ tripped)
      dsimp only
      rcases charged : kernel.billMessage host message middle with ⟨exc | _, final⟩ <;>
        rw [charged] at billed
      · exact (replies exc final).trans (billed.trans same)
      · exact billed.trans same

theorem afterMessages_tripped (host : Host) (rdf : RdfLib) (kernel : AgentOSKernel ν)
    (messages : List ChannelMessage) {world : KernelWorld ν}
    (tripped : world.state.fuse.tripped = true) :
    (kernel.afterMessages host rdf messages world).state.fuse.tripped = true := by
  induction messages generalizing world with
  | nil => exact tripped
  | cons message rest ih =>
      apply ih
      rw [wakeUp_tripped host rdf kernel message tripped]
      exact tripped

/--
Once the fuse is tripped it stays tripped over any messages, and a later message is refused
unprocessed exactly when the firewall, the breaker or the policy refuses it.
-/
theorem hardCapped_afterMessages (later : List ChannelMessage) (world : KernelWorld ν)
    (tripped : world.state.fuse.tripped = true) (message : ChannelMessage) :
    (kernel.afterMessages host rdf later world).state.fuse.tripped = true ∧
      (HardCapped host rdf kernel message (kernel.afterMessages host rdf later world) ↔
        ¬ Admitted host kernel message
          (entered (kernel.afterMessages host rdf later world))) :=
  ⟨afterMessages_tripped host rdf kernel later tripped, hardCapped_iff⟩

end AgentOSKernel

namespace Sample

/-- The kernel after 60 questions, which together exceed the budget. -/
def exhaustedWorld : KernelWorld Unit :=
  kernel.afterMessages steadyHost rdf
    (List.replicate 60 { message data with text := py "validate" }) validatedWorld

def greeting : ChannelMessage := { message data with text := py "hello" }

theorem exhausted_world_tripped : exhaustedWorld.state.fuse.tripped = true := by decide +kernel

/-- The exhausted kernel, after one more greeting. -/
theorem exhausted_hardCapped :
    (kernel.afterMessages steadyHost rdf [greeting] exhaustedWorld).state.fuse.tripped = true ∧
      (AgentOSKernel.HardCapped steadyHost rdf kernel greeting
          (kernel.afterMessages steadyHost rdf [greeting] exhaustedWorld) ↔
        ¬ AgentOSKernel.Admitted steadyHost kernel greeting (AgentOSKernel.entered
          (kernel.afterMessages steadyHost rdf [greeting] exhaustedWorld))) :=
  AgentOSKernel.hardCapped_afterMessages [greeting] exhaustedWorld exhausted_world_tripped greeting

/-- After the budget is exhausted a greeting is still processed. -/
theorem exhausted_kernel_answers :
    ¬ ∀ (host : Host) (rdf : RdfLib) (kernel : AgentOSKernel Unit)
      (later : List ChannelMessage) (world : KernelWorld Unit) (message : ChannelMessage),
      world.state.fuse.tripped = true →
      AgentOSKernel.HardCapped host rdf kernel message
        (kernel.afterMessages host rdf later world) := by
  intro claim
  have capped := claim steadyHost rdf kernel [greeting] exhaustedWorld greeting
    exhausted_world_tripped
  have reached : (kernel.preDispatch steadyHost greeting (AgentOSKernel.entered
      (kernel.afterMessages steadyHost rdf [greeting] exhaustedWorld))).1 = .ok () := by
    decide +kernel
  exact capped.unprocessed reached

end Sample

end AgentOS
