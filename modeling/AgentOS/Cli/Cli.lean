import AgentOS.Governance.Acceptance
import AgentOS.Kernel.Routing

/-!
# Command line

The commands `validate` and `write` each run in a process of their own, with a new gate and,
for a write, a new kernel. Processes on one machine share the clocks, the database and the
configuration, but not the table of consumed nonces, so that a nonce authorises every write
that presents it in time.
-/

namespace AgentOS

open Python Cooperative

/-- What the commands take from the configuration and from the defaults of the kernel. -/
structure AppConfig (ν : Type) where
  version : Str
  domainNames : List Str
  schemaProvider : SchemaProvider
  neo4j : Neo4jDriver
  nonceSecret : Str
  nonceTtlSeconds : ℤ
  commands : CommandsPolicy
  writeQuotas : WriteQuotasPolicy
  maxDurationSeconds : ℤ
  firewall : SemanticFirewall
  circuitBreaker : CircuitBreaker Str ν
  billingFuse : BillingFuse

/-- A command with its options; a data file is given by its text. -/
inductive Invocation where
  | validate (domain dataFile : Str)
  | write (domain nonce dataFile : Str)

inductive CliOutput where
  | nonce (nonce : Option Str)
  | validationFailed
  | written (text : Str)
  | writeFailed (text : Str)
  /-- A traceback. -/
  | raised (exc : Exc)
  deriving DecidableEq

/-- What a process printed, and what it did on its gate, newest event first. -/
structure CliProcess where
  output : CliOutput
  history : List GateEvent

/-- The readings so far and the database, which processes share. -/
abbrev Machine := Timed Database

namespace AppConfig

variable {ν : Type} (host : Host) (rdf : RdfLib) (config : AppConfig ν)

def writeGate (neo4jClient : Option Neo4jDriver) (autonomyPolicy : Option AutonomyPolicy) :
    WriteGate where
  schemaProvider := config.schemaProvider
  neo4jClient := neo4jClient
  nonceSecret := config.nonceSecret
  nonceTtl := config.nonceTtlSeconds
  autonomyPolicy := autonomyPolicy

/-- `load_policy` at the time at which the session starts. -/
def loadPolicy (sessionStart : ℚ) : AutonomyPolicy :=
  ⟨config.commands, config.writeQuotas, config.maxDurationSeconds, sessionStart⟩

/-- The kernel of a write; its constructor hands the policy on to the gate. -/
def kernel (policy : AutonomyPolicy) : AgentOSKernel ν where
  version := config.version
  domainNames := config.domainNames
  writeGate := some (config.writeGate (some config.neo4j) (some policy))
  autonomyPolicy := some policy
  firewall := config.firewall
  circuitBreaker := config.circuitBreaker
  billingFuse := config.billingFuse

/-- `agentos validate`. -/
def validate (domain dataFile : Str) (machine : Machine) : CliProcess × Machine :=
  let ran := (config.writeGate none none).verifyShaclCompliance host rdf domain (strip dataFile)
    (py "turtle") ⟨machine.tick, GateState.initial machine.state⟩
  let output := match ran.1 with
    | .ok (report, nonce) => if report.isValid then .nonce nonce else .validationFailed
    | .error exc => .raised exc
  (⟨output, ran.2.state.history⟩, ⟨ran.2.tick, ran.2.state.database⟩)

def writeMessage (domain nonce dataFile : Str) : ChannelMessage where
  text := governedWriteText domain nonce (strip dataFile)
  senderId := py "cli-user"
  senderName := py "CLI"
  channel := py "cli"
  messageId := []

/-- A new kernel on the machine, after its policy was loaded. -/
def newKernel (machine : Machine) : KernelWorld ν :=
  ⟨machine.tick + 1,
    ⟨GateState.initial machine.state, 0, BreakerState.initial, BillingFuse.initial⟩⟩

/-- `agentos write`; the health check of the database is only logged. -/
def write (domain nonce dataFile : Str) (machine : Machine) : CliProcess × Machine :=
  let policy := config.loadPolicy (host.time machine.tick)
  let ran := ((config.kernel policy).wakeUp host rdf (writeMessage domain nonce dataFile)).run
    (newKernel machine)
  let output := match ran.1 with
    | .ok response =>
        if response.status = .error ∨ response.error.getD [] ≠ [] then .writeFailed response.text
        else .written response.text
    | .error exc => .raised exc
  (⟨output, ran.2.state.gate.history⟩, ⟨ran.2.tick, ran.2.state.gate.database⟩)

def execute (machine : Machine) : Invocation → CliProcess × Machine
  | .validate domain dataFile => config.validate host rdf domain dataFile machine
  | .write domain nonce dataFile => config.write host rdf domain nonce dataFile machine

/-- The processes of the invocations, one after another. -/
def processes : List Invocation → Machine → List CliProcess
  | [], _ => []
  | invocation :: rest, machine =>
      let ran := config.execute host rdf machine invocation
      ran.1 :: processes rest ran.2

/-- A test that some process passes on the machine it starts on. -/
def Sometimes (test : Invocation → Machine → Prop) : List Invocation → Machine → Prop
  | [], _ => False
  | invocation :: rest, machine =>
      test invocation machine ∨ Sometimes test rest (config.execute host rdf machine invocation).2

/-- No two processes pass the test. -/
def AtMostOnce (test : Invocation → Machine → Prop) : List Invocation → Machine → Prop
  | [], _ => True
  | invocation :: rest, machine =>
      let next := (config.execute host rdf machine invocation).2
      (test invocation machine → ¬ config.Sometimes host rdf test rest next) ∧
        AtMostOnce test rest next

end AppConfig

end AgentOS
