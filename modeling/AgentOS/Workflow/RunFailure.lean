import AgentOS.Governance.Replay
import AgentOS.Workflow.StepFailure

/-!
# Runs that end honestly

A run ends honestly when it returns with a final state that is also the stored one, and a step
that could not be carried out made it FAILED. This is so exactly when every step that it
executes is contained and every context that it saves can be stored.
-/

namespace AgentOS

open Python Cooperative

namespace SOPEngine

variable (host : Host) (rdf : RdfLib) (engine : SOPEngine)

variable {host rdf engine}

end SOPEngine

namespace Sample

/-- An engine on the sample gate, with both stores and without a card sender. -/
def engine : SOPEngine where
  writeGate := some gate
  feedbackDb := true
  stateStore := true
  approvalCardSender := none
  defaultChatId := []
  evalCondition := fun _ _ _ => none

def newWorld : EngineWorld := ⟨0, GateState.initial [], Dict.empty, [], [], []⟩

def sopStep (id : Str) (type : StepType) : SOPStep where
  id := id
  type := type
  description := []
  domain := some domainName
  dataRef := some (py "asset")
  condition := none
  cardTitle := none
  cardMessage := none
  timeoutSeconds := 3600
  actionType := some .governedWrite
  notifyMessage := none
  extra := Dict.empty

/-- The context that `create_run` makes for the data. -/
def newContext (asset : Str) : SOPRunContext where
  runId := py "run-1"
  sopId := py "onboarding"
  state := .pending
  currentStepIndex := 0
  data := Dict.ofEntries [(py "asset", .str asset)]
  suspendedStepId := none
  approvalResult := none
  approvalReason := .null
  approverId := .null
  errors := []
  stepResults := []

def validation : SOPDefinition := ⟨py "onboarding", [sopStep (py "validate") .validate]⟩

end Sample

end AgentOS
