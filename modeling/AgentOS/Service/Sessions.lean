import AgentOS.Cooperative.Tickets
import AgentOS.Service.Deployment
import AgentOS.Service.Unsigned

/-!
# Session numbers

The kernel counts the messages that wake it up, and the reply to a message bears the number of
its session. The messages of the webhook and those of the adapters are counted together, so that
no two replies bear the same number, whatever else the service works on.
-/

namespace AgentOS

open Python Cooperative

namespace AgentOSKernel

variable {ν : Type} {host : Host} {rdf : RdfLib} {kernel : AgentOSKernel ν}

/-- The session that a reply of the kernel bears. -/
def sessionNamed : Except Exc ChannelResponse → Option ℕ
  | .ok response => some response.sessionId
  | .error _ => none

/-- The result names no other session. -/
def Bears (sessionId : ℕ) (result : Except Exc ChannelResponse) : Prop :=
  ∀ number, sessionNamed result = some number → some sessionId = some number

theorem bears_error (sessionId : ℕ) (exc : Exc) : Bears sessionId (.error exc) := fun _ => nofun

theorem replyException_bears (message : ChannelMessage) (sessionId : ℕ) (exc : Exc)
    (world : KernelWorld ν) :
    Bears sessionId (kernel.replyException host message sessionId exc world).1 := by
  rcases replyException_cases host kernel message sessionId exc with
    ⟨status, start, _, _, shape⟩ | ⟨start, shape⟩ <;> rw [shape]
  · exact fun _ names => names
  · rw [replyFailure, Action.bind_apply]
    rcases atBreaker (kernel.circuitBreaker.recordFailure host (strip message.text)
      (strip message.text) exc.cls.name) world with ⟨raised | opened, final⟩
    · exact bears_error sessionId raised
    · exact fun _ names => names

/-- A message that wakes the kernel up is answered with the number that it took. -/
theorem wakeUp_draws (message : ChannelMessage) (held : Option ℕ) :
    (kernel.wakeUp host rdf message).Draws (fun world => world.state.sessionCount) sessionNamed
      held := by
  apply Coro.draws_next_bind fun _ => ⟨rfl, rfl⟩
  intro sessionId
  have sync : ∀ {α : Type} {body : Action Exc (KernelWorld ν) α},
      (body.Keeps fun world => world.state.sessionCount) →
      (Coro.sync body).Keeps (fun world => world.state.sessionCount) fun _ => True :=
    fun keeps => Coro.keeps_sync keeps fun _ => trivial
  have hooks := sync
    (keeps_preDispatch KernelState.sessionCount host kernel (fun _ _ => rfl) message)
  have processed := keeps_processMessage KernelState.sessionCount host rdf kernel (fun _ _ => rfl)
    message
  have billed := sync
    (keeps_billMessage KernelState.sessionCount host kernel (fun _ _ => rfl) message)
  have dispatched : (kernel.dispatch host rdf message sessionId).Keeps
      (fun world => world.state.sessionCount) (Bears sessionId) := by
    refine Coro.keeps_bind hooks ?_ fun _ _ => bears_error sessionId _
    intro _ _
    refine Coro.keeps_bind processed ?_ fun _ _ => bears_error sessionId _
    intro text _
    exact Coro.keeps_bind billed (fun _ _ _ names => names) fun _ _ => bears_error sessionId _
  have replied : ∀ exc, (Coro.sync (kernel.replyException host message sessionId exc)).Keeps
      (fun world => world.state.sessionCount) (Bears sessionId) :=
    fun exc => Coro.keeps_sync (keeps_replyException KernelState.sessionCount host kernel
      (fun _ _ => rfl) message sessionId exc) (replyException_bears message sessionId exc)
  exact (Coro.keeps_tryCatch dispatched (fun _ bears => bears) fun exc _ => replied exc).draws
    fun _ bears => bears

end AgentOSKernel

namespace Gateway

variable {ν α : Type} {host : Host} {rdf : RdfLib} {loads : Str → Except Exc Json}
  {gateway : Gateway ν}

/-- The session that a reply of the route bears. -/
def sessionNamed : Except Exc Json → Option ℕ
  | .ok reply =>
      match reply.get? (py "session") with
      | some (.int number) => some number.toNat
      | _ => none
  | .error _ => none

/-- The answers of the route to anything but a message bear no session. -/
def Bare (result : Except Exc Json) : Prop := sessionNamed result = none

def sessionCount (world : ServiceWorld ν) : ℕ := world.state.sessionCount

theorem bare_statusReply (status : String) (reason : Str) :
    Bare (.ok (statusReply status reason)) := rfl

theorem atEngine_keeps (body : Coro Exc EngineWorld α) :
    (atEngine body : Coro Exc (ServiceWorld ν) α).Keeps sessionCount fun _ => True := by
  apply Coro.keeps_zoom
  · exact fun _ _ => rfl
  · exact fun _ => trivial

theorem noteCall_keeps (call : ServiceCall) :
    (noteCall call : Coro Exc (ServiceWorld ν) Unit).Keeps sessionCount fun _ => True :=
  Coro.keeps_sync (fun _ => rfl) fun _ => trivial

theorem handleCardCallback_keeps (body : Json) :
    (gateway.handleCardCallback host rdf body).Keeps sessionCount Bare := by
  unfold handleCardCallback
  split
  · exact rfl
  · exact bare_statusReply _ _
  · split
    · refine Coro.keeps_bind (atEngine_keeps _) ?_ fun _ _ => rfl
      rintro (_ | ctx) -
      · exact bare_statusReply _ _
      · refine Coro.keeps_bind (atEngine_keeps _) ?_ fun _ _ => rfl
        rintro (_ | sop) -
        · exact bare_statusReply _ _
        · refine Coro.keeps_bind (noteCall_keeps _) ?_ fun _ _ => rfl
          intro _ _
          exact Coro.keeps_bind (atEngine_keeps _) (fun _ _ => rfl) fun _ _ => rfl
    · exact bare_statusReply _ _

theorem atKernel_draws {held : Option ℕ} {body : Coro Exc (KernelWorld ν) ChannelResponse}
    (draws : body.Draws (fun world => world.state.sessionCount) AgentOSKernel.sessionNamed held) :
    (atKernel body).Draws sessionCount AgentOSKernel.sessionNamed held :=
  @Coro.Draws.zoom _ _ _ _ _ _ _ (Timed.part ServiceState.kernel)
    (Timed.setPart ServiceState.setKernel) (fun _ _ => rfl) _ draws

/-- The message of an event takes a number, also when its text is none. -/
theorem wakeUp_draws (kernel : AgentOSKernel ν) (message : FeishuAdapter.EventMessage)
    (held : Option ℕ) :
    (wakeUp host rdf kernel message).Draws (fun world => world.state.sessionCount)
      AgentOSKernel.sessionNamed held := by
  unfold wakeUp
  split
  · exact kernel.wakeUp_draws _ held
  · apply Coro.draws_next_bind fun _ => ⟨rfl, rfl⟩
    exact fun _ _ => nofun

/-- A request to the route is answered with the number that it took, or with none. -/
theorem feishuWebhook_draws (request : WebhookRequest) (held : Option ℕ) :
    (gateway.feishuWebhook host rdf loads request).Draws sessionCount sessionNamed held := by
  have noted : ∀ {body : Coro Exc (ServiceWorld ν) Json}, body.Keeps sessionCount Bare →
      body.Draws sessionCount sessionNamed held := by
    intro body keeps
    apply keeps.draws
    intro result bare number names
    rw [bare] at names
    cases names
  have done : ∀ {α : Type} (result : Except Exc α),
      (Coro.done result : Coro Exc (ServiceWorld ν) α).Keeps sessionCount
        fun ended => ended = result :=
    fun result => Coro.keeps_done rfl
  unfold feishuWebhook
  split
  · refine Coro.draws_bind (done _) ?_ fun _ => rfl
    intro body _
    refine Coro.draws_bind (done _) ?_ fun _ => rfl
    rintro (_ | reply) challenged
    · dsimp only
      split
      · exact noted (handleCardCallback_keeps body)
      · refine Coro.draws_bind (done _) ?_ fun _ => rfl
        rintro (_ | message) -
        · exact noted (bare_statusReply _ _)
        · dsimp only
          split
          · refine Coro.draws_bind (noteCall_keeps _) ?_ fun _ => rfl
            intro _ _
            exact Coro.draws_map (atKernel_draws (wakeUp_draws _ message held)) (fun _ => rfl)
              fun _ => rfl
          · exact noted rfl
    · rcases verifyChallenge_reply challenged.symm with ⟨challenge, rfl⟩
      exact noted rfl
  · exact noted rfl

end Gateway

namespace ServiceBootstrap

variable {ν : Type} {host : Host} {rdf : RdfLib} {loads : Str → Except Exc Json}
  {boot : ServiceBootstrap ν}

/-- The session that an answer of the service bears. -/
def sessionNamed : Except Exc ServiceAnswer → Option ℕ
  | .ok (.reply reply) => Gateway.sessionNamed (.ok reply)
  | .ok (.response response) => some response.sessionId
  | .ok (.outcome _) | .error _ => none

theorem task_draws (request : ServiceRequest) :
    (boot.task host rdf loads request).Draws Gateway.sessionCount sessionNamed none := by
  cases request with
  | webhook request =>
      exact Coro.draws_map (Gateway.feishuWebhook_draws request none) (fun _ => rfl) fun _ => rfl
  | message message =>
      exact Coro.draws_map (Gateway.atKernel_draws (AgentOSKernel.wakeUp_draws message none))
        (fun _ => rfl) fun _ => rfl
  | workflow call =>
      refine Coro.draws_bind (Gateway.atEngine_keeps _) ?_ fun _ => rfl
      exact fun _ _ _ => nofun

/-- The session that the answer to a request bears, once it is answered. -/
def session (host : Host) (rdf : RdfLib) (loads : Str → Except Exc Json) (boot : ServiceBootstrap ν)
    (requests : ℕ → ServiceRequest) (start : ServiceWorld ν) (schedule : List ℕ) (task : ℕ) :
    Option ℕ :=
  match (Pool.exec ⟨start, fun i => boot.task host rdf loads (requests i)⟩ schedule).tasks task with
  | .ret answer => sessionNamed (.ok answer)
  | .raise exc => sessionNamed (.error exc)
  | .act .. => none

/--
Whatever the service works on and in whatever order, no two of its answers bear the number of
the same session.
-/
theorem sessions_distinct (requests : ℕ → ServiceRequest) (start : ServiceWorld ν)
    (schedule : List ℕ) :
    Set.InjOn (boot.session host rdf loads requests start schedule)
      {task | (boot.session host rdf loads requests start schedule task).isSome} := by
  have ended : ∀ {task number}, boot.session host rdf loads requests start schedule task =
      some number → ∃ result,
        (Pool.exec ⟨start, fun i => boot.task host rdf loads (requests i)⟩ schedule).tasks task =
          .done result ∧ sessionNamed result = some number := by
    intro task number named
    rw [session] at named
    split at named
    · rename_i value shape
      exact ⟨.ok value, shape, named⟩
    · rename_i exc shape
      exact ⟨.error exc, shape, named⟩
    · cases named
  intro task answered other _ same
  rcases Option.isSome_iff_exists.mp answered with ⟨number, named⟩
  rcases ended named with ⟨result, done, names⟩
  rcases ended (same.symm.trans named) with ⟨result', done', names'⟩
  exact Pool.exec_draws (fun i => task_draws (requests i)) schedule done done' names names'

end ServiceBootstrap

namespace Sample

/-- A request that is no event and two messages. -/
def greetings : ℕ → ServiceRequest
  | 0 => .webhook ⟨[], [], [], []⟩
  | _ => .message ⟨py "hi", py "cli", py "Admin", py "cli", py "1"⟩

/-- The second message is numbered first. -/
example : [0, 1, 2].map (bootstrap.session steadyHost rdf loadsNothing greetings
    (ServiceBootstrap.started [] Dict.empty []) [0, 2, 1, 1, 1, 1, 2, 2, 2, 2]) =
      [none, some 2, some 1] := by
  decide +kernel

end Sample

end AgentOS
