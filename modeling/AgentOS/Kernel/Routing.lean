import AgentOS.Governance.GovernedWrite
import AgentOS.Governance.Replay
import AgentOS.Kernel.WakeUp
import AgentOS.Python.Binary64

/-!
# Routing of governed writes

A message that carries a governed write is recognised only after tests for other words
have failed, and these tests look at the whole message, the data included. A write whose
data mention `validate` or `verify`, or both `schema` and `it-asset`, is answered with
something else; every other write reaches the gate exactly as it was sent.
-/

namespace AgentOS

open Python Cooperative

/-- A non-empty text without white space. -/
structure IsWord (text : Str) : Prop where
  nonempty : text ≠ []
  solid : ∀ c ∈ text, isSpace c = false

/-- The text that asks for a governed write. -/
def governedWriteText (domain nonce data : Str) : Str :=
  py "execute_governed_write " ++ (domain ++ 0x20 :: (nonce ++ 0x0A :: data))

/-- The message contains words that an earlier test of the routing looks for. -/
def isRerouted (text : Str) : Bool :=
  let textLower := lower (strip text)
  (contains textLower (py "schema") && contains textLower (py "it-asset")) ||
    contains textLower (py "validate") || contains textLower (py "verify")

/-- Being a word, as a test that can be evaluated. -/
theorem isWord_of_all {text : Str} (nonempty : text ≠ [])
    (solid : (text.all fun c => !isSpace c) = true) : IsWord text := by
  refine ⟨nonempty, ?_⟩
  intro c mem
  simpa using List.all_eq_true.mp solid c mem

theorem IsWord.not_mem {word : Str} (isWord : IsWord word) {gap : CodePoint}
    (space : isSpace gap = true) : gap ∉ word := by
  intro mem
  rw [isWord.solid gap mem] at space
  cases space

theorem writeIntent_governedWriteText {domain nonce : Str} (domainWord : IsWord domain)
    (nonceWord : IsWord nonce) (data : Str) :
    writeIntent (governedWriteText domain nonce data) = .governedWrite domain nonce data := by
  have commandWord : IsWord (py "execute_governed_write") :=
    isWord_of_all (by decide) (by decide)
  have lineBreak : isSpace 0x0A = true := by decide
  have shape : governedWriteText domain nonce data =
      (py "execute_governed_write" ++ 0x20 :: (domain ++ 0x20 :: nonce)) ++ 0x0A :: data := by
    have command : py "execute_governed_write " = py "execute_governed_write" ++ [0x20] := by
      decide
    simp [governedWriteText, command]
  have oneLine : (0x0A : CodePoint) ∉
      py "execute_governed_write" ++ 0x20 :: (domain ++ 0x20 :: nonce) := by
    rw [List.mem_append, List.mem_cons, List.mem_append, List.mem_cons]
    rintro (mem | mem | mem | mem | mem)
    · exact commandWord.not_mem lineBreak mem
    · exact absurd mem (by decide)
    · exact domainWord.not_mem lineBreak mem
    · exact absurd mem (by decide)
    · exact nonceWord.not_mem lineBreak mem
  have words : split (py "execute_governed_write" ++ 0x20 :: (domain ++ 0x20 :: nonce)) =
      [py "execute_governed_write", domain, nonce] := by
    rw [split_cons_word commandWord.nonempty commandWord.solid (by decide),
      split_cons_word domainWord.nonempty domainWord.solid (by decide),
      split_of_no_space nonceWord.nonempty nonceWord.solid]
  rw [writeIntent, shape, splitSepOnce_append oneLine]
  simp only [List.headD_cons, List.tail_cons, words]

theorem startswith_governedWriteText {domain : Str} (domainWord : IsWord domain)
    (nonce data : Str) :
    startswith (strip (governedWriteText domain nonce data)) (py "execute_governed_write ") =
      true := by
  rcases domain with _ | ⟨first, rest⟩
  · exact absurd rfl domainWord.nonempty
  have started : startswith (strip ((py "execute_governed_write " ++ [first]) ++
      (rest ++ 0x20 :: (nonce ++ 0x0A :: data)))) (py "execute_governed_write " ++ [first]) =
        true :=
    startswith_strip 0x65 first (py "xecute_governed_write ") rfl (by decide)
      (domainWord.solid first List.mem_cons_self)
  have shape : (py "execute_governed_write " ++ [first]) ++
      (rest ++ 0x20 :: (nonce ++ 0x0A :: data)) =
        governedWriteText (first :: rest) nonce data := by
    simp [governedWriteText]
  rw [shape] at started
  simp only [startswith, List.isPrefixOf_iff_prefix] at started ⊢
  exact (List.prefix_append _ _).trans started

/-- Only the words of the message decide whether a write is recognised. -/
theorem intentOf_governedWriteText {domain nonce : Str} (domainWord : IsWord domain)
    (nonceWord : IsWord nonce) (data : Str) :
    (isRerouted (governedWriteText domain nonce data) = false ∧
      intentOf (governedWriteText domain nonce data) = .governedWrite domain nonce data) ∨
    (isRerouted (governedWriteText domain nonce data) = true ∧
      (intentOf (governedWriteText domain nonce data) = .schema ∨
        intentOf (governedWriteText domain nonce data) = .validationHint)) := by
  unfold intentOf isRerouted
  dsimp only
  rw [if_pos (startswith_governedWriteText domainWord nonce data),
    writeIntent_governedWriteText domainWord nonceWord data]
  by_cases schema : contains (lower (strip (governedWriteText domain nonce data)))
        (py "schema") = true ∧
      contains (lower (strip (governedWriteText domain nonce data))) (py "it-asset") = true
  · right
    simp [schema]
  · by_cases hint : contains (lower (strip (governedWriteText domain nonce data)))
          (py "validate") = true ∨
        contains (lower (strip (governedWriteText domain nonce data))) (py "verify") = true
    · right
      rw [if_neg schema, if_pos hint]
      refine ⟨?_, .inr rfl⟩
      rcases hint with hint | hint <;> simp [hint]
    · left
      rw [if_neg schema, if_neg hint]
      rw [not_or] at hint
      refine ⟨?_, rfl⟩
      simpa [hint] using schema

namespace AgentOSKernel

variable {ν : Type} (host : Host) (rdf : RdfLib) (kernel : AgentOSKernel ν)

/-- The write reached the gate once, as it was sent, and a reply of `ok` means it was made. -/
structure FaithfullyDispatched (gate : WriteGate) (message : ChannelMessage)
    (domain nonce data : Str) (world : KernelWorld ν) : Prop where
  calledOnce :
    ((kernel.wakeUp host rdf message).run world).2.state.gate.history.filter GateEvent.isCall =
      .called domain data nonce (py "turtle") ::
        world.state.gate.history.filter GateEvent.isCall
  submitted : ∀ response final,
    (kernel.wakeUp host rdf message).run world = (.ok response, final) → response.status = .ok →
      ∃ during, final.state.gate.history =
          .succeeded domain data :: (during ++ world.state.gate.history) ∧
        (gate.neo4jClient.isSome →
          ∃ statements, .submitted domain data (py "turtle") statements ∈ during)

variable {host rdf kernel} {gate : WriteGate} {message : ChannelMessage}

theorem processMessage_governedWrite (host : Host) (rdf : RdfLib) {domain nonce data : Str}
    (wired : kernel.writeGate = some gate)
    (intent : intentOf message.text = .governedWrite domain nonce data)
    (world : KernelWorld ν) : (kernel.processMessage host rdf message).run world =
      match (gate.executeGovernedWrite host rdf domain data nonce (py "turtle")).run
        (world.part KernelState.gate) with
      | (.ok result, final) =>
          (.ok (py "Write successful: " ++ result.str host),
            Timed.setPart KernelState.setGate final world)
      | (.error exc, final) => (.error exc, Timed.setPart KernelState.setGate final world) := by
  simp only [processMessage, intent, wired]
  rw [Coro.run_bind, atGate_run]
  rcases (gate.executeGovernedWrite host rdf domain data nonce (py "turtle")).run
    (world.part KernelState.gate) with ⟨exc | result, final⟩ <;> rfl

/-- What a message that asks for a write leaves in the gate is what the gate leaves. -/
theorem processMessage_gate (host : Host) (rdf : RdfLib) {domain nonce data : Str}
    (wired : kernel.writeGate = some gate)
    (intent : intentOf message.text = .governedWrite domain nonce data)
    (world : KernelWorld ν) :
    ((kernel.processMessage host rdf message).run world).2.state.gate =
      ((gate.executeGovernedWrite host rdf domain data nonce (py "turtle")).run
        (world.part KernelState.gate)).2.state := by
  rw [processMessage_governedWrite host rdf wired intent world]
  rcases (gate.executeGovernedWrite host rdf domain data nonce (py "turtle")).run
    (world.part KernelState.gate) with ⟨exc | result, final⟩ <;> rfl

/-- Only a governed write changes anything. -/
theorem processMessage_of_not_write (host : Host) (rdf : RdfLib) (kernel : AgentOSKernel ν)
    (other : ∀ domain nonce data, intentOf message.text ≠ .governedWrite domain nonce data)
    (world : KernelWorld ν) : ((kernel.processMessage host rdf message).run world).2 = world := by
  unfold processMessage
  rcases intent : intentOf message.text with _ | _ | ⟨domain, nonce, data⟩ | _ | _ | _
  · rcases kernel.writeGate with _ | gate
    · rfl
    · rw [Coro.run_done]
  · rfl
  · exact absurd intent (other domain nonce data)
  · rfl
  · rfl
  · rfl

/-- A governed write is dispatched faithfully unless it is rerouted. -/
theorem faithfullyDispatched_iff {domain nonce data : Str} {world : KernelWorld ν}
    (wired : kernel.writeGate = some gate) (domainWord : IsWord domain) (nonceWord : IsWord nonce)
    (text : message.text = governedWriteText domain nonce data)
    (admitted : (kernel.preDispatch host message (entered world)).1 = .ok ()) :
    FaithfullyDispatched host rdf kernel gate message domain nonce data world ↔
      isRerouted message.text = false := by
  have hooks := keeps_preDispatch KernelState.gate host kernel (fun _ _ => rfl) message
    (entered world)
  rcases ready : kernel.preDispatch host message (entered world) with ⟨result, middle⟩
  rw [ready] at admitted hooks
  cases admitted
  have start : middle.state.gate = world.state.gate := hooks
  have gateAfter := wakeUp_gate_of_admitted rdf ready
  rcases intentOf_governedWriteText domainWord nonceWord data with
    ⟨kept, intent⟩ | ⟨rerouted, intent⟩ <;> rw [← text] at *
  · have processed := processMessage_governedWrite host rdf wired intent middle
    refine iff_of_true ⟨?_, ?_⟩ kept
    · have calls := WriteGate.executeGovernedWrite_calls host rdf gate domain data nonce
        (py "turtle") (middle.part KernelState.gate)
      rw [gateAfter, processed, ← start]
      rcases ran : (gate.executeGovernedWrite host rdf domain data nonce (py "turtle")).run
        (middle.part KernelState.gate) with ⟨exc | result, final⟩ <;> rw [ran] at calls
      · exact calls
      · exact calls
    · intro response final returned status
      have dispatched := wakeUp_ok_iff.mp ⟨returned, status⟩
      rw [returned] at gateAfter
      rw [dispatch_run_of_admitted ready, processed] at dispatched
      rw [gateAfter, processed, ← start]
      rcases ran : (gate.executeGovernedWrite host rdf domain data nonce (py "turtle")).run
        (middle.part KernelState.gate) with ⟨exc | result, gateFinal⟩
      · rw [ran] at dispatched
        cases dispatched
      · exact WriteGate.executeGovernedWrite_submits ran
  · rw [rerouted]
    refine iff_of_false ?_ (by decide)
    intro faithful
    have other : ∀ domain nonce data, intentOf message.text ≠ .governedWrite domain nonce data := by
      intro _ _ _ written
      rcases intent with intent | intent <;> rw [intent] at written <;> cases written
    have called := faithful.calledOnce
    rw [gateAfter, processMessage_of_not_write host rdf kernel other, start] at called
    exact absurd (congrArg List.length called) (by simp)

end AgentOSKernel

/-! ### A kernel around the sample gate -/

namespace Sample

def rates : Rates := ⟨3, 15⟩

def kernel : AgentOSKernel Unit where
  version := py "0.1.0"
  domainNames := [domainName]
  writeGate := some gate
  autonomyPolicy := none
  firewall := ⟨[], [py "critical", py "high"]⟩
  circuitBreaker := ⟨⟨fun _ => [], fun _ => [], fun _ => (), fun _ _ => false⟩, 60, 3⟩
  billingFuse :=
    ⟨1 / 2, Dict.ofEntries [(py "claude-sonnet-4", rates)], true, rates, none, binary64⟩

def kernelWorld (gateWorld : GateWorld) : KernelWorld Unit :=
  ⟨gateWorld.tick, ⟨gateWorld.state, 0, BreakerState.initial, BillingFuse.initial⟩⟩

/-- The kernel in front of a gate that issued the nonce for the data. -/
def validatedWorld : KernelWorld Unit :=
  kernelWorld (gate.afterCalls steadyHost rdf calls [] [0])

def message (data : Str) : ChannelMessage where
  text := governedWriteText domainName nonce data
  senderId := py "cli"
  senderName := py "Admin"
  channel := py "cli"
  messageId := py "1"

/-- A write whose nonce nobody signed. -/
def forgedMessage : ChannelMessage :=
  { message data with text := governedWriteText domainName (py "100:0:0") data }

/-- Data that mention the word `verify`. -/
def unverifiedData : Str := py "<urn:a> <urn:verifyBefore> <urn:b> ."

theorem domainName_isWord : IsWord domainName := isWord_of_all (by decide) (by decide)

theorem nonce_isWord : IsWord nonce := isWord_of_all (by decide) (by decide)

theorem message_dispatched :
    AgentOSKernel.FaithfullyDispatched steadyHost rdf kernel gate (message data) domainName nonce
      data validatedWorld :=
  (AgentOSKernel.faithfullyDispatched_iff rfl domainName_isWord nonce_isWord rfl
    (by decide)).mpr (by decide)

/-- A write of data that mention `verify` never reaches the gate. -/
theorem rerouted_write_dropped :
    ¬ ∀ (host : Host) (rdf : RdfLib) (kernel : AgentOSKernel Unit) (gate : WriteGate)
      (message : ChannelMessage) (domain nonce data : Str) (world : KernelWorld Unit),
      kernel.writeGate = some gate → IsWord domain → IsWord nonce →
      message.text = governedWriteText domain nonce data →
      (kernel.preDispatch host message (AgentOSKernel.entered world)).1 = .ok () →
      AgentOSKernel.FaithfullyDispatched host rdf kernel gate message domain nonce data world := by
  intro claim
  have faithful := claim steadyHost rdf kernel gate (message unverifiedData) domainName nonce
    unverifiedData validatedWorld rfl domainName_isWord nonce_isWord rfl (by decide)
  have untouched : ((kernel.wakeUp steadyHost rdf (message unverifiedData)).run
      validatedWorld).2.state.gate.history.filter GateEvent.isCall = [] := by
    decide +kernel
  have called := faithful.calledOnce
  rw [untouched] at called
  cases called

end Sample

end AgentOS
