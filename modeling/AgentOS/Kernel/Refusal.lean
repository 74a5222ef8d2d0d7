import AgentOS.Kernel.Routing

/-!
# Refused messages

The budget is checked after the message was processed. A governed write that commits and
then exceeds the budget is therefore answered with `exhausted` although it took effect;
this is the only way in which a refused message leaves something in the database.
-/

namespace AgentOS

open Python Cooperative

namespace AgentOSKernel

variable {ν : Type} (host : Host) (rdf : RdfLib) (kernel : AgentOSKernel ν)

/-- A reply other than `ok` comes with an unchanged database. -/
def RefusedWithoutEffect (message : ChannelMessage) (world : KernelWorld ν) : Prop :=
  ∀ response final, (kernel.wakeUp host rdf message).run world = (.ok response, final) →
    response.status ≠ .ok → final.state.gate.database = world.state.gate.database

/-- The message passes the hooks and asks for a governed write that commits. -/
def CommitsWrite (message : ChannelMessage) (world : KernelWorld ν) : Prop :=
  Admitted host kernel message (entered world) ∧ ∃ gate client domain nonce data graph,
    kernel.writeGate = some gate ∧ gate.neo4jClient = some client ∧
    intentOf message.text = .governedWrite domain nonce data ∧
    WriteGate.Commits host rdf gate client domain data nonce (py "turtle") graph
      ((hooksWorld host kernel message (entered world)).part KernelState.gate)

/--
The call of the language model that the message is billed with stays in the budget: the
fuse is not tripped and the spend and the price, added as floats, do not exceed the cap.
-/
def WithinBudget (world : KernelWorld ν) : Prop :=
  kernel.billingFuse.WithinBudget (messageUsage 0) world.state.fuse

/-- The messages are handled one after another. -/
def afterMessages (messages : List ChannelMessage) (world : KernelWorld ν) : KernelWorld ν :=
  messages.foldl (fun world message => ((kernel.wakeUp host rdf message).run world).2) world

variable {host rdf kernel} {message : ChannelMessage}

theorem startswith_of_governedWrite {text domain nonce data : Str}
    (intent : intentOf text = .governedWrite domain nonce data) :
    startswith (strip text) (py "execute_governed_write ") = true := by
  unfold intentOf at intent
  dsimp only at intent
  split at intent
  · cases intent
  split at intent
  · cases intent
  split at intent
  · assumption
  · split at intent <;> cases intent

/-- Every governed write is billed, whatever its case of letters. -/
theorem isBilled_of_governedWrite {text domain nonce data : Str}
    (intent : intentOf text = .governedWrite domain nonce data) :
    isBilled (strip text) = true := by
  have started := startswith_of_governedWrite intent
  simp only [startswith, List.isPrefixOf_iff_prefix] at started
  rcases started with ⟨rest, shape⟩
  have lowered : lower (strip text) = py "execute" ++ (py "_governed_write " ++ lower rest) := by
    have command : lower (py "execute_governed_write ") =
        py "execute" ++ py "_governed_write " := by
      decide
    rw [← shape, lower_append, command, List.append_assoc]
  rw [isBilled, List.any_eq_true]
  refine ⟨py "execute", by decide, ?_⟩
  rw [lowered, contains_iff]
  exact (List.prefix_append _ _).isInfix

theorem billMessage_cases (host : Host) (kernel : AgentOSKernel ν)
    (billed : isBilled (strip message.text) = true) (world : KernelWorld ν) :
    (kernel.WithinBudget world ∧ ∃ final, kernel.billMessage host message world = (.ok (), final)) ∨
    (¬ kernel.WithinBudget world ∧ ∃ exc final, exc.cls = .billingFuseTrippedError ∧
      kernel.billMessage host message world = (.error exc, final)) := by
  -- The price does not depend on the time of the usage.
  have budget : kernel.billingFuse.WithinBudget (messageUsage (host.time world.tick))
      world.state.fuse ↔ kernel.WithinBudget world := Iff.rfl
  have shape : kernel.billMessage host message world =
      match kernel.billingFuse.recordUsage host (messageUsage (host.time world.tick))
        world.state.fuse with
      | (.ok _, fuse) => (.ok (), ⟨world.tick + 1, world.state.setFuse fuse⟩)
      | (.error exc, fuse) => (.error exc, ⟨world.tick + 1, world.state.setFuse fuse⟩) := by
    rw [billMessage, if_pos billed, Action.bind_apply, Host.readTime_apply]
    dsimp only
    rw [Action.bind_apply, atFuse, Action.zoom]
    dsimp only
    rcases kernel.billingFuse.recordUsage host (messageUsage (host.time world.tick))
      world.state.fuse with ⟨exc | spend, fuse⟩ <;> rfl
  rw [shape]
  rcases kernel.billingFuse.recordUsage_cases host (messageUsage (host.time world.tick))
    world.state.fuse with ⟨within, recorded⟩ | ⟨beyond, exc, fuse, cls, raised⟩
  · rw [recorded]
    exact .inl ⟨budget.mp within, _, rfl⟩
  · rw [raised]
    exact .inr ⟨fun within => beyond (budget.mpr within), exc, _, cls, rfl⟩

/-- The reply to an exhausted budget does not fail. -/
theorem replyException_exhausted (host : Host) (kernel : AgentOSKernel ν)
    (message : ChannelMessage) {exc : Exc} (cls : exc.cls = .billingFuseTrippedError)
    (sessionId : ℕ) (world : KernelWorld ν) :
    ∃ response, response.status = .exhausted ∧
      kernel.replyException host message sessionId exc world = (.ok response, world) := by
  unfold replyException
  rw [cls]
  exact ⟨reply message sessionId .exhausted _ exc, rfl, rfl⟩

/-- For a message that asks for a write it is the gate that decides whether it commits. -/
theorem commitsWrite_iff {gate : WriteGate} {domain nonce data : Str}
    (wired : kernel.writeGate = some gate)
    (intent : intentOf message.text = .governedWrite domain nonce data) {world : KernelWorld ν}
    (admitted : Admitted host kernel message (entered world)) :
    CommitsWrite host rdf kernel message world ↔ ∃ client graph, gate.neo4jClient = some client ∧
      WriteGate.Commits host rdf gate client domain data nonce (py "turtle") graph
        ((hooksWorld host kernel message (entered world)).part KernelState.gate) := by
  constructor
  · rintro ⟨-, gate', client, domain', nonce', data', graph, same, online, intent', commits⟩
    cases wired.symm.trans same
    cases intent.symm.trans intent'
    exact ⟨client, graph, online, commits⟩
  · rintro ⟨client, graph, online, commits⟩
    exact ⟨admitted, gate, client, domain, nonce, data, graph, wired, online, intent, commits⟩

/-- Processing a message writes to the database exactly when a governed write commits. -/
theorem processMessage_database (host : Host) (rdf : RdfLib) (kernel : AgentOSKernel ν)
    (message : ChannelMessage) (world : KernelWorld ν)
    (admitted : Admitted host kernel message (entered world)) :
    (CommitsWrite host rdf kernel message world ∧ isBilled (strip message.text) = true ∧
      ∃ text final batch, (kernel.processMessage host rdf message).run
          (hooksWorld host kernel message (entered world)) = (.ok text, final) ∧
        final.state.fuse = world.state.fuse ∧
        final.state.gate.database = world.state.gate.database ++ [batch]) ∨
    (¬ CommitsWrite host rdf kernel message world ∧
      ((kernel.processMessage host rdf message).run
        (hooksWorld host kernel message (entered world))).2.state.gate.database =
          world.state.gate.database) := by
  rcases hooksWorld_state host kernel message (entered world) with ⟨sameGate, sameFuse⟩
  have database : (hooksWorld host kernel message (entered world)).state.gate.database =
      world.state.gate.database := congrArg GateState.database sameGate
  by_cases other : ∀ domain nonce data, intentOf message.text ≠ .governedWrite domain nonce data
  · refine .inr ⟨?_, ?_⟩
    · rintro ⟨-, _, _, domain, nonce, data, _, -, -, intent, -⟩
      exact other domain nonce data intent
    · rw [processMessage_of_not_write host rdf kernel other]
      exact database
  simp only [ne_eq, not_forall, not_not] at other
  rcases other with ⟨domain, nonce, data, intent⟩
  rcases wired : kernel.writeGate with _ | gate
  · refine .inr ⟨?_, ?_⟩
    · rintro ⟨-, _, _, _, _, _, _, wired', -⟩
      cases wired.symm.trans wired'
    · simp only [processMessage, intent, wired, Coro.run_pure]
      exact database
  rw [commitsWrite_iff wired intent admitted]
  rcases online : gate.neo4jClient with _ | client
  · refine .inr ⟨?_, ?_⟩
    · rintro ⟨_, _, ⟨⟩, -⟩
    · rw [processMessage_gate host rdf wired intent]
      exact (WriteGate.executeGovernedWrite_offline host rdf online domain data nonce
        (py "turtle") _).trans database
  · rcases WriteGate.executeGovernedWrite_online host rdf online domain data nonce (py "turtle")
      ((hooksWorld host kernel message (entered world)).part KernelState.gate) with
      ⟨graph, commits, result, final, ran, written⟩ | ⟨fails, exc, final, ran, kept⟩
    · refine .inl ⟨⟨client, graph, rfl, commits⟩, isBilled_of_governedWrite intent,
        py "Write successful: " ++ result.str host, Timed.setPart KernelState.setGate final _,
        Neo4jDriver.runnable (rdfToCypherStatements rdf graph), ?_, sameFuse, ?_⟩
      · rw [processMessage_governedWrite host rdf wired intent, ran]
      · rw [← database]
        exact written
    · refine .inr ⟨?_, ?_⟩
      · rintro ⟨client', graph, same, commits⟩
        cases same
        exact fails graph commits
      · rw [processMessage_gate host rdf wired intent, ran]
        exact kept.trans database

theorem refusedWithoutEffect_iff_of_call (message : ChannelMessage) (world : KernelWorld ν) :
    RefusedWithoutEffect host rdf kernel message world ↔
      (CommitsWrite host rdf kernel message world → kernel.WithinBudget world) := by
  rcases hooks : kernel.preDispatch host message (entered world) with ⟨exc | ⟨⟨⟩⟩, ready⟩
  · refine iff_of_true ?_ ?_
    · intro response final returned _
      rw [← wakeUp_gate_of_refused rdf hooks, returned]
    · rintro ⟨admitted, -⟩
      have passed := preDispatch_eq_ok_iff.mpr ⟨admitted, rfl⟩
      cases hooks.symm.trans passed
  rcases preDispatch_eq_ok_iff.mp hooks with ⟨admitted, rfl⟩
  have gateAfter := wakeUp_gate_of_admitted rdf hooks
  rcases processMessage_database host rdf kernel message world admitted with
    ⟨commits, billed, text, final, batch, processed, sameFuse, written⟩ | ⟨fails, kept⟩
  · rw [processed] at gateAfter
    have grown : ((kernel.wakeUp host rdf message).run world).2.state.gate.database ≠
        world.state.gate.database := by
      rw [gateAfter, written]
      simp
    have sameBudget : kernel.WithinBudget final ↔ kernel.WithinBudget world := by
      unfold AgentOSKernel.WithinBudget
      rw [sameFuse]
    have called := wakeUp_run host rdf kernel message world
    rw [dispatch_run_of_admitted hooks, processed] at called
    rcases billMessage_cases host kernel billed final with
      ⟨within, last, charged⟩ | ⟨beyond, exc, last, cls, charged⟩
    · refine iff_of_true ?_ fun _ => sameBudget.mp within
      intro response final' returned refused
      simp only [charged] at called
      cases called.symm.trans returned
      exact absurd rfl refused
    · refine iff_of_false ?_ fun budget => beyond (sameBudget.mpr (budget commits))
      intro harmless
      simp only [charged] at called
      rcases replyException_exhausted host kernel message cls (world.state.sessionCount + 1) last
        with ⟨response, status, replied⟩
      rw [replied] at called
      have same := harmless response last called (by simp [status])
      rw [called] at grown
      exact grown same
  · refine iff_of_true ?_ fun commits => absurd commits fails
    intro response final returned _
    rw [returned] at gateAfter
    rw [gateAfter]
    exact kept

/--
After any messages, a refused message is without effect unless it asks for a write that
commits and then exceeds the budget.
-/
theorem refusedWithoutEffect_iff (earlier : List ChannelMessage) (start : KernelWorld ν)
    (message : ChannelMessage) :
    RefusedWithoutEffect host rdf kernel message (kernel.afterMessages host rdf earlier start) ↔
      (CommitsWrite host rdf kernel message (kernel.afterMessages host rdf earlier start) →
        kernel.WithinBudget (kernel.afterMessages host rdf earlier start)) :=
  refusedWithoutEffect_iff_of_call message _

end AgentOSKernel

namespace Sample

/-- Floats round: three prices of 0.0084 exceed a cap of 0.0252. -/
example : (AgentOSKernel.afterMessages steadyHost rdf
    { kernel with
      billingFuse := { kernel.billingFuse with budgetCapUsd := binary64 (252 / 10000) } }
    (List.replicate 3 { message data with text := py "validate" })
    validatedWorld).state.fuse.tripped = true := by
  decide +kernel

/-- The kernel after it answered 59 questions, which cost almost the whole budget. -/
def spentWorld : KernelWorld Unit :=
  kernel.afterMessages steadyHost rdf
    (List.replicate 59 { message data with text := py "validate" }) validatedWorld

/-- The write that exceeds the budget is refused as `exhausted`, and it is in the database. -/
theorem exhausted_write_commits :
    ¬ ∀ (host : Host) (rdf : RdfLib) (kernel : AgentOSKernel Unit)
      (earlier : List ChannelMessage) (start : KernelWorld Unit) (message : ChannelMessage),
      AgentOSKernel.RefusedWithoutEffect host rdf kernel message
        (kernel.afterMessages host rdf earlier start) := by
  intro claim
  have harmless : AgentOSKernel.RefusedWithoutEffect steadyHost rdf kernel (message data)
      spentWorld := claim _ _ _ _ _ _
  have refused : ((kernel.wakeUp steadyHost rdf (message data)).run spentWorld).1.map
      ChannelResponse.status = .ok .exhausted := by
    decide +kernel
  have written : ((kernel.wakeUp steadyHost rdf (message data)).run
      spentWorld).2.state.gate.database ≠ spentWorld.state.gate.database := by
    decide +kernel
  rcases called : (kernel.wakeUp steadyHost rdf (message data)).run spentWorld with
    ⟨exc | response, final⟩ <;> rw [called] at refused written
  · cases refused
  · have status : response.status = .exhausted := by simpa [Except.map] using refused
    exact written (harmless response final called (by simp [status]))

end Sample

end AgentOS
