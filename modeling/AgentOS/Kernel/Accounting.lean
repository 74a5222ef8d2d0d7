import AgentOS.Governance.GateFailure
import AgentOS.Kernel.Routing

/-!
# The account of failures

A call of `wake_up` that fails is recorded with the breaker under the stripped text, which is
encoded for that. A text with a lone surrogate cannot be encoded, so that for such a text the
handler itself raises.
-/

namespace AgentOS

open Python Cooperative

/-- The texts that `_parameters_to_vector` encodes for `{"input": text}`. -/
def inputFeatures (text : Str) : List Str := [py "input=" ++ text, py "input"]

theorem bind_error {α β : Type} {first : Except Exc α} {rest : α → Except Exc β} {exc : Exc}
    (raised : (first >>= rest) = .error exc) :
    first = .error exc ∨ ∃ value, first = .ok value ∧ rest value = .error exc := by
  rcases first with other | value
  · cases raised
    exact .inl rfl
  · exact .inr ⟨value, rfl, raised⟩

theorem mapM_error {α β : Type} {allowed : Exc → Prop} {f : α → Except Exc β}
    (each : ∀ item exc, f item = .error exc → allowed exc) (items : List α) {exc : Exc}
    (raised : items.mapM f = .error exc) : allowed exc := by
  induction items with
  | nil => cases raised
  | cons item rest ih =>
      rw [List.mapM_cons] at raised
      rcases bind_error raised with first | ⟨value, -, later⟩
      · exact each item exc first
      rcases bind_error later with others | ⟨values, -, last⟩
      · exact ih others
      · cases last

theorem intOfTerm_failures {term : Option Term} {exc : Exc} (raised : intOfTerm term = .error exc) :
    exc.IsFailure := by
  unfold intOfTerm at raised
  split at raised
  · cases raised
  · split at raised <;> cases raised
    rfl

theorem formatSchemaResponse_failures {schema : SchemaDefinition} {exc : Exc}
    (raised : formatSchemaResponse schema = .error exc) : exc.IsFailure := by
  rcases bind_error raised with shapes | ⟨lines, -, last⟩
  · apply mapM_error _ _ shapes
    intro shape exc raised
    unfold formatShape at raised
    split at raised <;> cases raised
    rfl
  · cases last

namespace DomainSchema

variable {rdf : RdfLib} {domain : DomainSchema} {exc : Exc}

theorem parseShaclProperty_failures {graph : Graph} {shape : Term}
    (raised : parseShaclProperty rdf graph shape = .error exc) : exc.IsFailure := by
  rcases bind_error raised with count | ⟨minCount, -, later⟩
  · exact intOfTerm_failures count
  rcases bind_error later with count | ⟨maxCount, -, last⟩
  · exact intOfTerm_failures count
  · cases last

theorem getShaclShapes_failures (raises : domain.RaisesFailures)
    (raised : domain.getShaclShapes rdf = .error exc) : exc.IsFailure := by
  rcases bind_error raised with loaded | ⟨graph, -, shapes⟩
  · exact raises.shaclGraph exc loaded
  apply mapM_error _ _ shapes
  intro subject exc raised
  rcases bind_error raised with properties | ⟨_, -, last⟩
  · exact mapM_error (fun _ _ => parseShaclProperty_failures) _ properties
  · cases last

end DomainSchema

theorem WriteGate.getDomainSchema_failures {host : Host} {rdf : RdfLib} {gate : WriteGate}
    (raises : gate.RaisesFailures) {domainName : Str} {exc : Exc}
    (raised : gate.getDomainSchema host rdf domainName = .error exc) : exc.IsFailure := by
  unfold getDomainSchema at raised
  rcases found : gate.schemaProvider.getSchemaDefinition rdf domainName with
    other | _ | definition <;> rw [found] at raised
  · cases raised
    unfold SchemaProvider.getSchemaDefinition at found
    rcases known : gate.schemaProvider.getDomain domainName with _ | domain <;>
      rw [known] at found
    · cases found
    have loads := raises.domains _ _ known
    rcases bind_error found with classes | ⟨_, -, later⟩
    · rcases bind_error classes with loaded | ⟨_, -, last⟩
      · exact loads.owlGraph _ loaded
      · cases last
    rcases bind_error later with properties | ⟨_, -, later⟩
    · rcases bind_error properties with loaded | ⟨_, -, last⟩
      · exact loads.owlGraph _ loaded
      · cases last
    rcases bind_error later with shapes | ⟨_, -, last⟩
    · exact DomainSchema.getShaclShapes_failures loads shapes
    · cases last
  · cases raised
    rfl
  · cases raised

namespace AgentOSKernel

variable {ν : Type} (host : Host) (rdf : RdfLib) (kernel : AgentOSKernel ν)

/-- The answer to a question about the schema. -/
def schemaResponse (gate : WriteGate) : Except Exc Str := do
  let schema ← gate.getDomainSchema host rdf (py "it-asset-mgmt")
  formatSchemaResponse schema

/-- Processing the message fails: the schema cannot be shown, or a write within the quota fails. -/
def FailsProcessing (message : ChannelMessage) (world : KernelWorld ν) : Prop :=
  ∃ gate, kernel.writeGate = some gate ∧
    match intentOf message.text with
    | .schema => ∃ exc, schemaResponse host rdf gate = .error exc
    | .governedWrite domain nonce data =>
        gate.WithinQuota host (world.part KernelState.gate) ∧
          ¬ gate.Succeeds host rdf domain data nonce (py "turtle") (world.part KernelState.gate)
    | _ => False

/-- The message is let through to processing, and processing it fails. -/
def Fails (message : ChannelMessage) (world : KernelWorld ν) : Prop :=
  Admitted host kernel message (entered world) ∧
    kernel.FailsProcessing host rdf message (hooksWorld host kernel message (entered world))

/-- The breaker once it was asked about the text: an open circuit may have been reset. -/
def askedBreaker (message : ChannelMessage) (world : KernelWorld ν) : BreakerState ν :=
  (kernel.circuitBreaker.lookedUp host (strip message.text)
    ((entered world).part KernelState.breaker)).state

/--
The call returns, counts one session, and records one failure of the stripped text if the
status is `error` and none otherwise. The failure joins the table of the breaker, which is
then pruned; without one the table holds at most what the question to the breaker left.
-/
def Accounted (message : ChannelMessage) (world : KernelWorld ν) : Prop :=
  ∃ response final, (kernel.wakeUp host rdf message).run world = (.ok response, final) ∧
    final.state.sessionCount = world.state.sessionCount + 1 ∧
    if response.status = .error then
      ∃ record cutoff, final.state.breaker.recorded =
          (strip message.text, record.timestamp) :: world.state.breaker.recorded ∧
        final.state.breaker.failures = ((kernel.askedBreaker host message world).store
          (strip message.text) record cutoff).failures
    else final.state.breaker.recorded = world.state.breaker.recorded ∧
      (final.state.breaker = world.state.breaker ∨
        final.state.breaker = kernel.askedBreaker host message world)

variable {host rdf kernel} {message : ChannelMessage}

theorem schemaResponse_failures {gate : WriteGate} (raises : gate.RaisesFailures) {exc : Exc}
    (raised : schemaResponse host rdf gate = .error exc) : exc.IsFailure := by
  rcases bind_error raised with unknown | ⟨schema, -, format⟩
  · exact WriteGate.getDomainSchema_failures raises unknown
  · exact formatSchemaResponse_failures format

/-- A question about the schema is answered from the gate. -/
theorem processMessage_schema {gate : WriteGate} (wired : kernel.writeGate = some gate)
    (intent : intentOf message.text = .schema) :
    kernel.processMessage host rdf message = Coro.done (schemaResponse host rdf gate) := by
  simp only [processMessage, intent, wired]
  rfl

/-- What the account is about: the sessions and the recorded failures. -/
def account (state : KernelState ν) : ℕ × List (Str × ℚ) :=
  (state.sessionCount, state.breaker.recorded)

/-! ### Refusals -/

theorem preDispatch_refuses :
    (kernel.preDispatch host message).RaisesOnly fun exc => exc.cls.isRefusal = true := by
  refine Action.raisesOnly_bind (raisesOnly_ofExcept ?_) ?_
  · intro exc raised
    dsimp only [SemanticFirewall.scan] at raised
    split at raised <;> cases raised
    rfl
  intro report
  have asked : (atBreaker (kernel.circuitBreaker.isOpen host (strip message.text)) :
      Action Exc (KernelWorld ν) Bool).RaisesOnly fun exc => exc.cls.isRefusal = true := by
    intro world exc final raised
    rw [isOpen_apply] at raised
    cases raised
  refine Action.raisesOnly_bind asked ?_
  intro tripped
  refine Action.raisesOnly_bind (raisesOnly_raiseIf rfl) ?_
  intro _
  split
  · rename_i policy _
    refine Action.raisesOnly_bind ?_ ?_
    · refine Action.raisesOnly_bind (raisesOnly_draw _) ?_
      exact fun _ => raisesOnly_raiseIf rfl
    · intro _
      dsimp only
      split
      · apply raisesOnly_ofExcept
        intro exc raised
        unfold AutonomyPolicy.checkCommand at raised
        split at raised
        · split at raised <;> cases raised
          rfl
        · split at raised <;> cases raised
          rfl
      · exact Action.raisesOnly_pure ()
  · exact Action.raisesOnly_pure ()

theorem billMessage_refuses :
    (kernel.billMessage host message).RaisesOnly fun exc => exc.cls.isRefusal = true := by
  have charged : ∀ usage, (atFuse (kernel.billingFuse.recordUsage host usage) :
      Action Exc (KernelWorld ν) ℚ).RaisesOnly fun exc => exc.cls.isRefusal = true := by
    intro usage
    apply Action.raisesOnly_zoom
    intro state exc final raised
    rcases kernel.billingFuse.recordUsage_cases host usage state with
      ⟨-, recorded⟩ | ⟨-, other, fuse, cls, refused⟩
    · cases recorded.symm.trans raised
    · cases refused.symm.trans raised
      rw [cls]
      rfl
  unfold billMessage
  split
  · refine Action.raisesOnly_bind (raisesOnly_draw _) ?_
    intro timestamp
    exact Action.raisesOnly_bind (charged _) fun _ => Action.raisesOnly_pure ()
  · exact Action.raisesOnly_pure ()

theorem failsProcessing_of_wired {gate : WriteGate} (wired : kernel.writeGate = some gate)
    {world : KernelWorld ν} :
    kernel.FailsProcessing host rdf message world ↔
      match intentOf message.text with
      | .schema => ∃ exc, schemaResponse host rdf gate = .error exc
      | .governedWrite domain nonce data =>
          gate.WithinQuota host (world.part KernelState.gate) ∧
            ¬ gate.Succeeds host rdf domain data nonce (py "turtle") (world.part KernelState.gate)
      | _ => False := by
  constructor
  · rintro ⟨other, same, fails⟩
    cases wired.symm.trans same
    exact fails
  · exact fun fails => ⟨gate, wired, fails⟩

/-- How processing a message ends: with a text, with a refusal, or with a failure. -/
theorem processMessage_cases (raises : ∀ gate, kernel.writeGate = some gate → gate.RaisesFailures)
    (world : KernelWorld ν) :
    (¬ kernel.FailsProcessing host rdf message world ∧ ∃ text final,
      (kernel.processMessage host rdf message).run world = (.ok text, final)) ∨
    (¬ kernel.FailsProcessing host rdf message world ∧ ∃ exc final, exc.cls.isRefusal = true ∧
      (kernel.processMessage host rdf message).run world = (.error exc, final)) ∨
    (kernel.FailsProcessing host rdf message world ∧ ∃ exc final, exc.IsFailure ∧
      (kernel.processMessage host rdf message).run world = (.error exc, final)) := by
  rcases wired : kernel.writeGate with _ | gate
  · refine .inl ⟨?_, ?_⟩
    · rintro ⟨gate, same, -⟩
      rw [wired] at same
      cases same
    · unfold processMessage
      rw [wired]
      split <;> exact ⟨_, _, rfl⟩
  rw [failsProcessing_of_wired wired]
  rcases intent : intentOf message.text with _ | _ | ⟨domain, nonce, data⟩ | _ | _ | _
  case schema =>
    rw [processMessage_schema wired intent, Coro.run_done]
    rcases answered : schemaResponse host rdf gate with exc | text
    · exact .inr (.inr ⟨⟨exc, rfl⟩, exc, world,
        schemaResponse_failures (raises gate wired) answered, rfl⟩)
    · refine .inl ⟨?_, text, world, rfl⟩
      rintro ⟨exc, ⟨⟩⟩
  case governedWrite =>
    rw [processMessage_governedWrite host rdf wired intent]
    have returns := gate.executeGovernedWrite_returns_iff host rdf domain data nonce (py "turtle")
      (world.part KernelState.gate)
    rcases ran : (gate.executeGovernedWrite host rdf domain data nonce (py "turtle")).run
      (world.part KernelState.gate) with ⟨exc | result, final⟩
    · have fails : ¬ gate.Succeeds host rdf domain data nonce (py "turtle")
          (world.part KernelState.gate) := by
        rw [← returns]
        rintro ⟨result, final', returned⟩
        cases ran.symm.trans returned
      rcases WriteGate.executeGovernedWrite_raises (raises gate wired) ran with
        ⟨quota, failure⟩ | ⟨beyond, refused⟩
      · exact .inr (.inr ⟨⟨quota, fails⟩, exc, _, failure, rfl⟩)
      · refine .inr (.inl ⟨fun both => beyond both.1, exc, _, ?_, rfl⟩)
        rw [refused]
        rfl
    · exact .inl ⟨fun both => both.2 (returns.mp ⟨result, final, ran⟩), _, _, rfl⟩
  all_goals
    left
    refine ⟨id, ?_⟩
    simp only [processMessage, intent]
    exact ⟨_, _, rfl⟩

/-- How the `try` block ends: not in a failure, or in one when the message fails. -/
theorem dispatch_cases (raises : ∀ gate, kernel.writeGate = some gate → gate.RaisesFailures)
    (sessionId : ℕ) (world : KernelWorld ν) :
    (¬ kernel.Fails host rdf message world ∧
      ((∃ response final, response.status = .ok ∧
        (kernel.dispatch host rdf message sessionId).run (entered world) = (.ok response, final)) ∨
      ∃ exc final, exc.cls.isRefusal = true ∧
        (kernel.dispatch host rdf message sessionId).run (entered world) = (.error exc, final))) ∨
    (kernel.Fails host rdf message world ∧ ∃ exc final, exc.IsFailure ∧
      (kernel.dispatch host rdf message sessionId).run (entered world) = (.error exc, final)) := by
  rcases hooks : kernel.preDispatch host message (entered world) with ⟨exc | ⟨⟩, ready⟩
  · refine .inl ⟨?_, .inr ⟨exc, ready, preDispatch_refuses _ _ _ hooks,
      dispatch_run_of_refused hooks⟩⟩
    rintro ⟨admitted, -⟩
    cases hooks.symm.trans (preDispatch_eq_ok_iff.mpr ⟨admitted, rfl⟩)
  rcases preDispatch_eq_ok_iff.mp hooks with ⟨admitted, rfl⟩
  have fails : kernel.Fails host rdf message world ↔ kernel.FailsProcessing host rdf message
      (hooksWorld host kernel message (entered world)) := and_iff_right admitted
  rw [dispatch_run_of_admitted hooks, fails]
  rcases processMessage_cases raises (hooksWorld host kernel message (entered world)) with
    ⟨smooth, text, middle, processed⟩ | ⟨smooth, exc, middle, refused, processed⟩ |
    ⟨failing, exc, middle, failure, processed⟩ <;> rw [processed]
  · dsimp only
    rcases charged : kernel.billMessage host message middle with ⟨exc | ⟨⟩, final⟩
    · exact .inl ⟨smooth, .inr ⟨exc, final, billMessage_refuses _ _ _ charged, rfl⟩⟩
    · exact .inl ⟨smooth, .inl ⟨_, final, rfl, rfl⟩⟩
  · exact .inl ⟨smooth, .inr ⟨exc, middle, refused, rfl⟩⟩
  · exact .inr ⟨failing, exc, middle, failure, rfl⟩

/-! ### The replies -/

/-- A refusal is answered without a record. -/
theorem replyException_refusal {exc : Exc} (refused : exc.cls.isRefusal = true) (sessionId : ℕ)
    (world : KernelWorld ν) :
    ∃ response, response.status ≠ .error ∧
      kernel.replyException host message sessionId exc world = (.ok response, world) := by
  rcases exc with ⟨cls, text⟩
  cases cls <;> simp only [ExcClass.isRefusal, Bool.false_eq_true] at refused
  all_goals
    refine ⟨_, ?_, rfl⟩
    exact fun same => nomatch same

/-- The signature for the breaker is built exactly when the text can be encoded. -/
theorem buildSignature_isOk_iff {text : Str}
    (features : kernel.circuitBreaker.scheme.features = inputFeatures) :
    (∃ signature, kernel.circuitBreaker.buildSignature host text = .ok signature) ↔
      encodable text = true := by
  have key : encodable (py "input") = true := by decide
  have parts : encodable (py "input=" ++ text) = encodable text := by
    rw [encodable_append]
    rfl
  unfold CircuitBreaker.buildSignature
  rw [features, inputFeatures]
  rcases whole : encodable text <;> simp [List.find?, parts, key, whole]

/-- The hooks change the breaker only by the question to it. -/
theorem preDispatch_breaker (host : Host) (kernel : AgentOSKernel ν) (message : ChannelMessage)
    (world : KernelWorld ν) :
    (kernel.preDispatch host message world).2.state.breaker = world.state.breaker ∨
      (kernel.preDispatch host message world).2.state.breaker =
        (kernel.circuitBreaker.lookedUp host (strip message.text)
          (world.part KernelState.breaker)).state := by
  have raised : ∀ (refused : Prop) [Decidable refused] (exc : Exc),
      (raiseIf refused exc : Action Exc (KernelWorld ν) Unit).Keeps
        fun world => world.state.breaker :=
    fun refused _ exc => keeps_raiseIf refused exc
  unfold preDispatch
  rw [Action.bind_apply, ofExcept_apply]
  rcases kernel.firewall.scan (strip message.text) (py "user_prompt") with exc | report
  · exact .inl rfl
  · dsimp only
    rw [Action.bind_apply, isOpen_apply]
    right
    rcases kernel.autonomyPolicy with _ | policy
    · exact Action.keeps_bind (raised _ _) (fun _ => Action.keeps_pure _) _
    · exact Action.keeps_bind (raised _ _) (fun _ => keeps_enforcePolicy host policy message) _

/-- The `try` block changes the breaker only by the question to it. -/
theorem dispatch_breaker (host : Host) (rdf : RdfLib) (kernel : AgentOSKernel ν)
    (message : ChannelMessage) (sessionId : ℕ) {world final : KernelWorld ν}
    {result : Except Exc ChannelResponse}
    (ran : (kernel.dispatch host rdf message sessionId).run (entered world) = (result, final)) :
    (Admitted host kernel message (entered world) →
      final.state.breaker = kernel.askedBreaker host message world) ∧
    (final.state.breaker = world.state.breaker ∨
      final.state.breaker = kernel.askedBreaker host message world) := by
  have hooked := preDispatch_breaker host kernel message (entered world)
  rcases hooks : kernel.preDispatch host message (entered world) with ⟨exc | ⟨⟩, ready⟩ <;>
    rw [hooks] at hooked
  · rw [dispatch_run_of_refused hooks] at ran
    cases ran
    refine ⟨?_, hooked⟩
    intro admitted
    cases hooks.symm.trans (preDispatch_eq_ok_iff.mpr ⟨admitted, rfl⟩)
  · have processed := (keeps_processMessage KernelState.breaker host rdf kernel (fun _ _ => rfl)
      message).run ready
    have asked : ready.state.breaker = kernel.askedBreaker host message world := by
      rcases preDispatch_eq_ok_iff.mp hooks with ⟨-, rfl⟩
      unfold hooksWorld
      dsimp only
      split <;> rfl
    have same : final.state.breaker = ready.state.breaker := by
      rw [dispatch_run_of_admitted hooks] at ran
      rcases called : (kernel.processMessage host rdf message).run ready with
        ⟨exc | text, middle⟩ <;> rw [called] at ran processed
      · cases ran
        exact processed.2
      · have billed := keeps_billMessage KernelState.breaker host kernel (fun _ _ => rfl) message
          middle
        dsimp only at ran
        rcases charged : kernel.billMessage host message middle with ⟨exc | ⟨⟩, last⟩ <;>
          rw [charged] at ran billed <;> cases ran <;> exact billed.trans processed.2
    exact ⟨fun _ => same.trans asked, .inr (same.trans asked)⟩

/-- A failure is answered with status `error` when the stripped text can be encoded. -/
theorem replyException_failure
    (features : kernel.circuitBreaker.scheme.features = inputFeatures) {exc : Exc}
    (failure : exc.IsFailure) (sessionId : ℕ) (world : KernelWorld ν) :
    (encodable (strip message.text) = true ∧ ∃ response final record cutoff,
      response.status = .error ∧
      kernel.replyException host message sessionId exc world = (.ok response, final) ∧
      account final.state = (world.state.sessionCount,
        (strip message.text, record.timestamp) :: world.state.breaker.recorded) ∧
      final.state.breaker.failures =
        (world.state.breaker.store (strip message.text) record cutoff).failures) ∨
    (encodable (strip message.text) = false ∧ ∃ other final,
      kernel.replyException host message sessionId exc world = (.error other, final)) := by
  have shape : ∃ start, kernel.replyException host message sessionId exc =
      kernel.replyFailure host message sessionId start exc := by
    rcases exc with ⟨cls, text⟩
    cases cls <;> first | exact ⟨_, rfl⟩ | cases failure
  rcases shape with ⟨start, shape⟩
  rw [shape, replyFailure, Action.bind_apply, atBreaker, Action.zoom]
  rcases kernel.circuitBreaker.recordFailure_apply host (strip message.text) (strip message.text)
    exc.cls.name (world.part KernelState.breaker) with
    ⟨signature, opened, built, ran⟩ | ⟨other, unbuilt, ran⟩ <;> rw [ran]
  · refine .inl ⟨(buildSignature_isOk_iff features).mp ⟨signature, built⟩, _, _,
      ⟨signature, host.time world.tick, exc.cls.name⟩,
      host.time (world.tick + 1) - kernel.circuitBreaker.windowSeconds, rfl, rfl, ?_, ?_⟩
    · have recorded := CircuitBreaker.recordedWorld_recorded host kernel.circuitBreaker
        (strip message.text) signature exc.cls.name (world.part KernelState.breaker)
      exact Prod.ext rfl recorded
    · exact CircuitBreaker.recordedWorld_failures host kernel.circuitBreaker
        (strip message.text) signature exc.cls.name (world.part KernelState.breaker)
  · refine .inr ⟨?_, other, _, rfl⟩
    rw [← Bool.not_eq_true, ← buildSignature_isOk_iff features]
    rintro ⟨signature, built⟩
    cases unbuilt.symm.trans built

theorem isOpen_keeps_account (host : Host) (kernel : AgentOSKernel ν) (text : Str) :
    (atBreaker (kernel.circuitBreaker.isOpen host text)).Keeps
      fun world => account world.state := by
  intro world
  rw [isOpen_apply]
  simp only [account, Timed.setPart, KernelState.setBreaker, CircuitBreaker.lookedUp]
  split
  · rfl
  split
  · rfl
  split <;> rfl

/--
A call returns and is accounted for exactly when the stripped text can be encoded or nothing
fails: the handler of a failure encodes the text before it records the failure.
-/
theorem wakeUp_accounted_iff
    (features : kernel.circuitBreaker.scheme.features = inputFeatures)
    (raises : ∀ gate, kernel.writeGate = some gate → gate.RaisesFailures)
    (message : ChannelMessage) (world : KernelWorld ν) :
    kernel.Accounted host rdf message world ↔
      encodable (strip message.text) = true ∨ ¬ kernel.Fails host rdf message world := by
  have kept : ∀ {result final}, (kernel.dispatch host rdf message
      (world.state.sessionCount + 1)).run (entered world) = (result, final) →
      account final.state = (world.state.sessionCount + 1, world.state.breaker.recorded) := by
    intro result final ran
    have keeps := keeps_dispatch_of account host rdf kernel message
      (isOpen_keeps_account host kernel _) (fun _ _ => rfl) (fun _ _ => rfl)
      (world.state.sessionCount + 1)
    have same := (keeps.run (entered world)).2
    rw [ran] at same
    exact same
  have called := wakeUp_run host rdf kernel message world
  rcases dispatch_cases raises (world.state.sessionCount + 1) world with
    ⟨smooth, ended⟩ | ⟨failing, exc, middle, failure, ran⟩
  · refine iff_of_true ?_ (.inr smooth)
    rcases ended with ⟨response, final, status, ran⟩ | ⟨exc, middle, refused, ran⟩ <;>
      rw [ran] at called
    · have same := Prod.ext_iff.mp (kept ran)
      have held := dispatch_breaker host rdf kernel message _ ran
      refine ⟨response, final, called, same.1, ?_⟩
      rw [if_neg (by simp [status])]
      exact ⟨same.2, held.2⟩
    · rcases @replyException_refusal _ host kernel message _ refused
        (world.state.sessionCount + 1) middle with ⟨response, status, replied⟩
      have same := Prod.ext_iff.mp (kept ran)
      have held := dispatch_breaker host rdf kernel message _ ran
      refine ⟨response, middle, called.trans replied, same.1, ?_⟩
      rw [if_neg status]
      exact ⟨same.2, held.2⟩
  · rw [ran] at called
    have same := Prod.ext_iff.mp (kept ran)
    have asked := (dispatch_breaker host rdf kernel message _ ran).1 failing.1
    rcases @replyException_failure _ host kernel message features _ failure
      (world.state.sessionCount + 1) middle with
      ⟨encodes, response, final, record, cutoff, status, replied, recorded, stored⟩ |
      ⟨foreign, other, final, raised⟩
    · refine iff_of_true ?_ (.inl encodes)
      have after := Prod.ext_iff.mp recorded
      refine ⟨response, final, called.trans replied, after.1.trans same.1, ?_⟩
      rw [if_pos status]
      refine ⟨record, cutoff, after.2.trans ?_, ?_⟩
      · exact congrArg (List.cons (strip message.text, record.timestamp)) same.2
      · rw [stored, asked]
    · apply iff_of_false
      · rintro ⟨response, final', returned, -⟩
        cases (called.trans raised).symm.trans returned
      · rintro (encodes | smooth)
        · rw [foreign] at encodes
          cases encodes
        · exact smooth failing

end AgentOSKernel

namespace Sample

/-- The sample kernel with a breaker that encodes what the code encodes. -/
def encodingKernel : AgentOSKernel Unit :=
  { kernel with
    circuitBreaker := ⟨⟨fun _ => [], inputFeatures, fun _ => (), fun _ _ => false⟩, 60, 3⟩ }

/-- A write with a forged nonce, of data that hold a lone surrogate. -/
def surrogateMessage : ChannelMessage :=
  { message data with text := governedWriteText domainName (py "forged") [0xD800] }

theorem gate_raisesFailures (wired : WriteGate)
    (same : encodingKernel.writeGate = some wired) : wired.RaisesFailures := by
  cases same
  refine ⟨?_, ?_⟩
  · rintro _ ⟨⟩
    refine ⟨?_, ?_, ?_, ?_, ?_⟩ <;> intros <;> contradiction
  · intro name domain known
    have mem := Dict.mem_of_get? known
    rcases List.mem_singleton.mp mem with ⟨⟩
    refine ⟨?_, ?_⟩ <;> intros <;> contradiction

/-- The write is accepted, and the one with the forged nonce is refused and recorded. -/
theorem sample_accounted :
    (encodingKernel.Accounted steadyHost rdf (message data) validatedWorld ↔
      encodable (strip (message data).text) = true ∨
        ¬ encodingKernel.Fails steadyHost rdf (message data) validatedWorld) ∧
    (encodingKernel.Accounted steadyHost rdf forgedMessage validatedWorld ↔
      encodable (strip forgedMessage.text) = true ∨
        ¬ encodingKernel.Fails steadyHost rdf forgedMessage validatedWorld) ∧
    ((encodingKernel.wakeUp steadyHost rdf forgedMessage).run
      validatedWorld).2.state.breaker.recorded = [(strip forgedMessage.text, 1000)] :=
  ⟨AgentOSKernel.wakeUp_accounted_iff rfl gate_raisesFailures _ _,
    AgentOSKernel.wakeUp_accounted_iff rfl gate_raisesFailures _ _, by decide +kernel⟩

/-- The refused write raises instead of being answered. -/
theorem surrogate_unanswered :
    ¬ ∀ (host : Host) (rdf : RdfLib) (kernel : AgentOSKernel Unit) (message : ChannelMessage)
      (world : KernelWorld Unit), kernel.circuitBreaker.scheme.features = inputFeatures →
      (∀ gate, kernel.writeGate = some gate → gate.RaisesFailures) →
      kernel.Accounted host rdf message world := by
  intro claim
  rcases claim steadyHost rdf encodingKernel surrogateMessage validatedWorld rfl
    gate_raisesFailures with ⟨response, final, returned, -⟩
  have raised : ((encodingKernel.wakeUp steadyHost rdf surrogateMessage).run
      validatedWorld).1.isOk = false := by
    decide +kernel
  rw [returned] at raised
  cases raised

end Sample

end AgentOS
