import AgentOS.Cli.Cli
import AgentOS.Kernel.Refusal

/-!
# Nonces across processes

Each process accepts a nonce at most once, because its gate serves one call. Over several
processes a printed nonce is used once exactly when only one of them presents it in time,
whatever spelling of it they present: the gate compares signatures.
-/

namespace AgentOS

open Python Cooperative

/-- The nonce is signed for the data in the domain, and its TTL is not over at the time. -/
def Genuine (host : Host) (nonceSecret : Str) (nonceTtl : ℤ) (domainName dataRdf nonce : Str)
    (now : ℚ) : Prop :=
  ∃ text timestamp dataHash signature, splitSep 0x3A nonce = [text, dataHash, signature] ∧
    int text = some timestamp ∧ exceedsFloat timestamp = false ∧ now - timestamp ≤ nonceTtl ∧
    encodable (WriteGate.noncePayload timestamp dataHash domainName) = true ∧
    signature =
      (host.hmacSha256 nonceSecret (WriteGate.noncePayload timestamp dataHash domainName)).text ∧
    encodable dataRdf = true ∧ (host.sha256 dataRdf).text = dataHash

/-- The event is the acceptance of a text with the signature of the nonce. -/
def GateEvent.acceptsNonce (nonce : Str) : GateEvent → Bool
  | accepted _ _ _ signature _ => WriteGate.signatureOf nonce = some signature
  | _ => false

namespace AppConfig

variable {ν : Type} (host : Host) (rdf : RdfLib) (config : AppConfig ν)

/--
The process asks for a governed write with a text that has the signature of the nonce, while
the text is genuine.
-/
def Presents (nonce : Str) (invocation : Invocation) (machine : Machine) : Prop :=
  match invocation with
  | .validate _ _ => False
  | .write domain given dataFile =>
      let policy := config.loadPolicy (host.time machine.tick)
      let message := writeMessage domain given dataFile
      ∃ target presented data, intentOf message.text = .governedWrite target presented data ∧
        WriteGate.signatureOf presented = WriteGate.signatureOf nonce ∧
        AgentOSKernel.Admitted host (config.kernel policy) message
          (AgentOSKernel.entered (newKernel machine)) ∧
        policy.withinQuota (host.time (machine.tick + 2)) ⟨0, []⟩ ∧
        Genuine host config.nonceSecret config.nonceTtlSeconds target data presented
          (host.monotonic (machine.tick + 3))

/-- The nonces that the processes printed. -/
def Printed (nonce : Str) (invocations : List Invocation) (machine : Machine) : Prop :=
  ∃ process ∈ config.processes host rdf invocations machine, process.output = .nonce (some nonce)

/-- The writes that the nonce authorised in any spelling, over all processes. -/
def authorisations (nonce : Str) (invocations : List Invocation) (machine : Machine) : ℕ :=
  ((config.processes host rdf invocations machine).flatMap CliProcess.history).countP
    (GateEvent.acceptsNonce nonce)

variable {host rdf config}

theorem countP_acceptsNonce (nonce : Str) (state : GateState) :
    state.history.countP (GateEvent.acceptsNonce nonce) =
      (WriteGate.acceptances state).countP (GateEvent.acceptsNonce nonce) := by
  rw [WriteGate.acceptances, List.countP_filter]
  apply List.countP_congr
  intro event _
  cases event <;> simp [GateEvent.acceptsNonce, GateEvent.isAcceptance]

/-- A gate that consumed nothing yet admits every genuine nonce. -/
theorem admits_initial_iff {gate : WriteGate} {domainName dataRdf nonce : Str} {tick : ℕ}
    {state : GateState} (unused : state.consumedNonces = Dict.empty) :
    (∃ signature timestamp dataHash, WriteGate.Admits host gate domainName dataRdf nonce signature
      timestamp dataHash ⟨tick, state⟩) ↔
      Genuine host gate.nonceSecret gate.nonceTtl domainName dataRdf nonce
        (host.monotonic tick) := by
  have empty : ∀ signature, ((GateWorld.read ⟨tick, state⟩).sweep host).state.consumedNonces.get?
      signature = none := by
    intro signature
    simp [GateWorld.sweep, GateWorld.read, unused, Dict.get?_filter]
  constructor
  · rintro ⟨signature, timestamp, dataHash, admits⟩
    rcases admits.parts with ⟨text, split, parsed⟩
    exact ⟨text, timestamp, dataHash, signature, split, parsed, by simpa using admits.inRange,
      admits.timely, admits.payloadEncodes, admits.signed, admits.dataEncodes, admits.hashed⟩
  · rintro ⟨text, timestamp, dataHash, signature, split, parsed, inRange, timely, payloadEncodes,
      signed, dataEncodes, hashed⟩
    exact ⟨signature, timestamp, dataHash, ⟨text, split, parsed⟩, by simp [inRange], timely,
      empty signature, payloadEncodes, signed, dataEncodes, hashed⟩

theorem hooksWorld_newKernel (host : Host) (config : AppConfig ν) (policy : AutonomyPolicy)
    (message : ChannelMessage) (machine : Machine) :
    (AgentOSKernel.hooksWorld host (config.kernel policy) message
      (AgentOSKernel.entered (newKernel machine))).tick = machine.tick + 2 := by
  simp [AgentOSKernel.hooksWorld, kernel, CircuitBreaker.lookedUp, AgentOSKernel.entered,
    newKernel, Timed.setPart, Timed.part, BreakerState.initial]

theorem validate_authorises (domain dataFile nonce : Str) (machine : Machine) :
    (config.validate host rdf domain dataFile machine).1.history.countP
      (GateEvent.acceptsNonce nonce) = 0 := by
  have kept := WriteGate.verifyShaclCompliance_keeps WriteGate.indifferent_acceptances
    (fun _ => rfl) (fun _ _ _ _ => rfl) host rdf (config.writeGate none none) domain
    (strip dataFile) (py "turtle") ⟨machine.tick, GateState.initial machine.state⟩
  exact (countP_acceptsNonce nonce _).trans (congrArg (List.countP _) kept)

/-- What a fresh process accepts: the quota is unused, and so is the nonce. -/
theorem accepts_newProcess_iff {policy : AutonomyPolicy} {target data presented : Str}
    {machine : Machine} :
    WriteGate.Accepts host (config.writeGate (some config.neo4j) (some policy)) target data
        presented ⟨machine.tick + 2, GateState.initial machine.state⟩ ↔
      policy.withinQuota (host.time (machine.tick + 2)) ⟨0, []⟩ ∧
        Genuine host config.nonceSecret config.nonceTtlSeconds target data presented
          (host.monotonic (machine.tick + 3)) :=
  and_congr_right fun _ => admits_initial_iff rfl

/-- After the hooks the gate of the process is still the fresh one. -/
theorem hooksWorld_newKernel_gate (host : Host) (config : AppConfig ν) (policy : AutonomyPolicy)
    (message : ChannelMessage) (machine : Machine) :
    (AgentOSKernel.hooksWorld host (config.kernel policy) message
      (AgentOSKernel.entered (newKernel machine))).part KernelState.gate =
        ⟨machine.tick + 2, GateState.initial machine.state⟩ := by
  have fresh : (AgentOSKernel.hooksWorld host (config.kernel policy) message
      (AgentOSKernel.entered (newKernel machine))).state.gate =
        GateState.initial machine.state :=
    (AgentOSKernel.hooksWorld_state host (config.kernel policy) message _).1
  rw [← hooksWorld_newKernel host config policy message machine, ← fresh]
  rfl

/-- The gate of the process is called once at most, with what the message asks for. -/
theorem write_acceptances (host : Host) (rdf : RdfLib) (config : AppConfig ν)
    (policy : AutonomyPolicy) (message : ChannelMessage) (machine : Machine) :
    (∃ target presented data signature time,
      intentOf message.text = .governedWrite target presented data ∧
      WriteGate.signatureOf presented = some signature ∧
      AgentOSKernel.Admitted host (config.kernel policy) message
        (AgentOSKernel.entered (newKernel machine)) ∧
      WriteGate.Accepts host (config.writeGate (some config.neo4j) (some policy)) target data
        presented ⟨machine.tick + 2, GateState.initial machine.state⟩ ∧
      WriteGate.acceptances (((config.kernel policy).wakeUp host rdf message).run
        (newKernel machine)).2.state.gate = [.accepted target data presented signature time]) ∨
    ((∀ target presented data, intentOf message.text = .governedWrite target presented data →
      AgentOSKernel.Admitted host (config.kernel policy) message
        (AgentOSKernel.entered (newKernel machine)) →
      ¬ WriteGate.Accepts host (config.writeGate (some config.neo4j) (some policy)) target data
        presented ⟨machine.tick + 2, GateState.initial machine.state⟩) ∧
      WriteGate.acceptances (((config.kernel policy).wakeUp host rdf message).run
        (newKernel machine)).2.state.gate = []) := by
  rcases hooks : (config.kernel policy).preDispatch host message
    (AgentOSKernel.entered (newKernel machine)) with ⟨exc | ⟨⟩, ready⟩
  · right
    rw [AgentOSKernel.wakeUp_gate_of_refused rdf hooks]
    refine ⟨?_, rfl⟩
    intro target presented data _ admitted
    cases hooks.symm.trans (AgentOSKernel.preDispatch_eq_ok_iff.mpr ⟨admitted, rfl⟩)
  rcases AgentOSKernel.preDispatch_eq_ok_iff.mp hooks with ⟨admitted, rfl⟩
  have fresh := hooksWorld_newKernel_gate host config policy message machine
  rw [AgentOSKernel.wakeUp_gate_of_admitted rdf hooks]
  by_cases other : ∀ target given data, intentOf message.text ≠ .governedWrite target given data
  · right
    refine ⟨fun target presented data intent => absurd intent (other _ _ _), ?_⟩
    rw [AgentOSKernel.processMessage_of_not_write host rdf _ other]
    exact congrArg (fun world => WriteGate.acceptances world.state) fresh
  simp only [ne_eq, not_forall, not_not] at other
  rcases other with ⟨target, presented, data, intent⟩
  rw [AgentOSKernel.processMessage_gate host rdf rfl intent, fresh]
  rcases WriteGate.executeGovernedWrite_acceptances host rdf
    (config.writeGate (some config.neo4j) (some policy)) target data presented (py "turtle")
    ⟨machine.tick + 2, GateState.initial machine.state⟩ with
    ⟨accepts, signature, time, signed, log⟩ | ⟨refuses, log⟩
  · exact .inl ⟨target, presented, data, signature, time, intent, signed, admitted, accepts, log⟩
  · right
    refine ⟨?_, log⟩
    intro target' presented' data' same _
    rw [intent, Intent.governedWrite.injEq] at same
    rcases same with ⟨rfl, rfl, rfl⟩
    exact refuses

/-- A write process accepts the nonce once if it presents it, and otherwise not at all. -/
theorem write_authorises (domain given dataFile nonce : Str) (machine : Machine) :
    (config.Presents host nonce (.write domain given dataFile) machine ∧
      (config.write host rdf domain given dataFile machine).1.history.countP
        (GateEvent.acceptsNonce nonce) = 1) ∨
    (¬ config.Presents host nonce (.write domain given dataFile) machine ∧
      (config.write host rdf domain given dataFile machine).1.history.countP
        (GateEvent.acceptsNonce nonce) = 0) := by
  generalize policyEq : config.loadPolicy (host.time machine.tick) = policy
  generalize messageEq : writeMessage domain given dataFile = message
  have history : (config.write host rdf domain given dataFile machine).1.history =
      (((config.kernel policy).wakeUp host rdf message).run
        (newKernel machine)).2.state.gate.history := by
    rw [← policyEq, ← messageEq]
    rfl
  rw [history, countP_acceptsNonce]
  simp only [Presents, policyEq, messageEq]
  rcases write_acceptances host rdf config policy message machine with
    ⟨target, presented, data, signature, time, intent, signed, admitted, accepts, log⟩ |
    ⟨refuses, log⟩ <;>
    rw [log]
  · by_cases same : WriteGate.signatureOf presented = WriteGate.signatureOf nonce
    · left
      refine ⟨⟨target, presented, data, intent, same, admitted,
        accepts_newProcess_iff.mp accepts⟩, ?_⟩
      simp [GateEvent.acceptsNonce, ← same, signed]
    · right
      refine ⟨?_, ?_⟩
      · rintro ⟨target', presented', data', intent', same', _⟩
        rw [intent, Intent.governedWrite.injEq] at intent'
        rcases intent' with ⟨rfl, rfl, rfl⟩
        exact same same'
      · rw [signed] at same
        simp [GateEvent.acceptsNonce, eq_comm, same]
  · right
    refine ⟨?_, rfl⟩
    rintro ⟨target, presented, data, intent, -, admitted, allowed⟩
    exact refuses target presented data intent admitted (accepts_newProcess_iff.mpr allowed)

theorem execute_authorises (host : Host) (rdf : RdfLib) (config : AppConfig ν)
    (invocation : Invocation) (nonce : Str) (machine : Machine) :
    (config.Presents host nonce invocation machine ∧
      (config.execute host rdf machine invocation).1.history.countP
        (GateEvent.acceptsNonce nonce) = 1) ∨
    (¬ config.Presents host nonce invocation machine ∧
      (config.execute host rdf machine invocation).1.history.countP
        (GateEvent.acceptsNonce nonce) = 0) := by
  cases invocation with
  | validate domain dataFile => exact .inr ⟨fun presents => presents, validate_authorises ..⟩
  | write domain given dataFile => exact write_authorises ..

theorem authorisations_cons (nonce : Str) (invocation : Invocation) (rest : List Invocation)
    (machine : Machine) :
    config.authorisations host rdf nonce (invocation :: rest) machine =
      (config.execute host rdf machine invocation).1.history.countP
          (GateEvent.acceptsNonce nonce) +
        config.authorisations host rdf nonce rest
          (config.execute host rdf machine invocation).2 := by
  simp only [authorisations, processes, List.flatMap_cons, List.countP_append]

theorem authorisations_eq_zero_iff (nonce : Str) (invocations : List Invocation)
    (machine : Machine) :
    config.authorisations host rdf nonce invocations machine = 0 ↔
      ¬ config.Sometimes host rdf (config.Presents host nonce) invocations machine := by
  induction invocations generalizing machine with
  | nil => simp [authorisations, processes, Sometimes]
  | cons invocation rest ih =>
      rw [authorisations_cons, Sometimes, Nat.add_eq_zero_iff, ih, not_or]
      rcases execute_authorises host rdf config invocation nonce machine with
        ⟨presents, count⟩ | ⟨absent, count⟩
      · simp [presents, count]
      · simp [absent, count]

/-- Over all processes a nonce authorises one write at most when one process presents it. -/
theorem authorisations_le_one_iff (nonce : Str) (invocations : List Invocation)
    (machine : Machine) :
    config.authorisations host rdf nonce invocations machine ≤ 1 ↔
      config.AtMostOnce host rdf (config.Presents host nonce) invocations machine := by
  induction invocations generalizing machine with
  | nil => simp [authorisations, processes, AtMostOnce]
  | cons invocation rest ih =>
      have others : _ ↔ ¬ config.Sometimes host rdf (config.Presents host nonce) rest
          (config.execute host rdf machine invocation).2 :=
        authorisations_eq_zero_iff nonce rest _
      rw [authorisations_cons, AtMostOnce]
      rcases execute_authorises host rdf config invocation nonce machine with
        ⟨presents, count⟩ | ⟨absent, count⟩
      · rw [count, ← others, ← ih]
        simp only [presents, true_implies]
        omega
      · rw [count, ← ih]
        simp [absent]

/--
Over all processes every printed nonce authorises at most one write exactly when no two
processes present it, in any spelling, while it is genuine.
-/
theorem printed_nonces_single_use_iff (host : Host) (rdf : RdfLib) (config : AppConfig ν)
    (invocations : List Invocation) (machine : Machine) :
    (∀ nonce, config.Printed host rdf nonce invocations machine →
      config.authorisations host rdf nonce invocations machine ≤ 1) ↔
    ∀ nonce, config.Printed host rdf nonce invocations machine →
      config.AtMostOnce host rdf (config.Presents host nonce) invocations machine := by
  constructor
  · intro once nonce printed
    exact (authorisations_le_one_iff nonce invocations machine).mp (once nonce printed)
  · intro once nonce printed
    exact (authorisations_le_one_iff nonce invocations machine).mpr (once nonce printed)

end AppConfig

namespace Sample

def appConfig : AppConfig Unit where
  version := py "0.1.2"
  domainNames := [domainName]
  schemaProvider := gate.schemaProvider
  neo4j := driver
  nonceSecret := nonceSecret
  nonceTtlSeconds := 300
  commands := ⟨py "allowlist", [py "ls"], []⟩
  writeQuotas := ⟨50, 10⟩
  maxDurationSeconds := 3600
  firewall := kernel.firewall
  circuitBreaker := kernel.circuitBreaker
  billingFuse := kernel.billingFuse

/-- The data are validated once and written twice. -/
def invocations : List Invocation :=
  [.validate domainName data, .write domainName nonce data, .write domainName nonce data]

/-- One nonce authorises a write in each of two processes. -/
theorem two_processes_write :
    ¬ ∀ (host : Host) (rdf : RdfLib) (config : AppConfig Unit) (invocations : List Invocation)
      (machine : Machine) (nonce : Str), config.Printed host rdf nonce invocations machine →
      config.authorisations host rdf nonce invocations machine ≤ 1 := by
  intro claim
  have printed : appConfig.Printed steadyHost rdf nonce invocations ⟨0, []⟩ := by
    refine ⟨⟨.nonce (some nonce), _⟩, List.mem_cons_self .., rfl⟩
  have twice : appConfig.authorisations steadyHost rdf nonce invocations ⟨0, []⟩ = 2 := by
    decide +kernel
  have once := claim steadyHost rdf appConfig invocations ⟨0, []⟩ nonce printed
  rw [twice] at once
  exact absurd once (by decide)

/-- The same with `+100` for the timestamp `100` in the second write. -/
example : appConfig.authorisations steadyHost rdf nonce
    [.validate domainName data, .write domainName nonce data,
      .write domainName (0x2B :: nonce) data] ⟨0, []⟩ = 2 := by
  decide +kernel

end Sample

end AgentOS
