import AgentOS.Cooperative.Ownership
import AgentOS.Database.FeedbackDb
import AgentOS.Governance.WriteGate

/-!
# SOP engine

The engine executes the steps of an SOP one after another on a run context. A
`human_approval` step suspends the run, and `resume` records the decision and goes on with
the next step. Every operation on the stores, on the gate and on the outside world is an
atomic step of its own, so that other calls may run in between.

A step that raises leaves behind the context as it is at that moment, so `executeStep`
returns the context along with the outcome. The history lists the steps that were executed
and the contexts that were saved, and the cards are those that were handed to the sender,
newest first; no function reads them.
-/

namespace AgentOS

open Python Cooperative

/-- What the engine did. -/
inductive EngineEvent where
  /-- The step at the index is executed on the data. -/
  | executing (runId : Str) (index : ℕ) (data : Dict Str Json)
  /-- `save_state` stored the context. -/
  | saved (ctx : SOPRunContext)

structure EngineState where
  gate : GateState
  runs : RunTable
  feedback : FeedbackTable
  history : List EngineEvent
  /-- The approval cards by their run and their step. -/
  cards : List (Str × Str)

abbrev EngineWorld := Timed EngineState

namespace EngineState

def setGate (gate : GateState) (engine : EngineState) : EngineState := { engine with gate }

def setRuns (runs : RunTable) (engine : EngineState) : EngineState := { engine with runs }

def setFeedback (feedback : FeedbackTable) (engine : EngineState) : EngineState :=
  { engine with feedback }

def note (event : EngineEvent) (engine : EngineState) : EngineState :=
  { engine with history := event :: engine.history }

def handOver (card : Str × Str) (engine : EngineState) : EngineState :=
  { engine with cards := card :: engine.cards }

/-- What the engine itself reads and writes. -/
def records (engine : EngineState) : RunTable × FeedbackTable × List EngineEvent :=
  (engine.runs, engine.feedback, engine.history)

/-- The context that `load_state` returns for a run. -/
def stored (engine : EngineState) (runId : Str) : Option SOPRunContext :=
  (engine.runs.get? runId).bind StoredRun.context?

end EngineState

/-- `{"type": step.type, ...}`, the entry of a step in `step_results`. -/
def stepEntry (step : SOPStep) (result : Json) : Dict Str Json :=
  Dict.ofEntries
    [(py "step_id", .str step.id), (py "type", .str step.type.value), (py "status", .str (py "ok")),
      (py "result", result)]

namespace SOPRunContext

/-- `ctx.data[key] = value`. -/
def setData (key : Str) (value : Json) (ctx : SOPRunContext) : SOPRunContext :=
  { ctx with data := ctx.data.set key value }

/-- A step completed with the result. -/
def logResult (step : SOPStep) (result : Json) (ctx : SOPRunContext) : SOPRunContext :=
  { ctx with stepResults := ctx.stepResults ++ [stepEntry step result] }

/-- A step failed with the text. -/
def fail (message : Str) (ctx : SOPRunContext) : SOPRunContext :=
  { ctx with errors := ctx.errors ++ [message], state := .failed }

/-- The approval step waits for a decision. -/
def suspend (step : SOPStep) (ctx : SOPRunContext) : SOPRunContext :=
  { ctx with state := .suspended, suspendedStepId := some step.id }

/-- The decision on the suspended step. -/
def answer (decision : Str) (reason approverId : Json) (ctx : SOPRunContext) : SOPRunContext :=
  { ctx with
    approvalResult := some decision, approvalReason := reason, approverId := approverId }

/-- The text stored as `original_agent_output`. -/
def originalOutput (host : Host) (ctx : SOPRunContext) : Str :=
  match ctx.stepResults.getLast? with
  | some entry => ((entry.get? (py "result")).getD (.obj [])).dumps host.strFloat
  | none => []

end SOPRunContext

/-- The configuration of an `SOPEngine`; the schema provider is never used. -/
structure SOPEngine where
  writeGate : Option WriteGate
  feedbackDb : Bool
  stateStore : Bool
  /-- The outcomes of the card sender, for its chat, title, message, run and card. -/
  approvalCardSender : Option (Json → Str → Str → Str → Json → ℕ → Except Exc Unit)
  defaultChatId : Str
  /-- `bool(EvalWithCompoundTypes(names=data).eval(condition))`; `none` when it raises. -/
  evalCondition : Str → Dict Str Json → ℕ → Option Bool

/-- The result of a step, or the exception it raised, with the context it left behind. -/
abbrev StepOutcome := Except Exc Json × SOPRunContext

def sopExecutionError (message : Str) : Exc := ⟨.sopExecutionError, message, none⟩

/-- `build_approval_card`. -/
def buildApprovalCard (title message runId stepId : Str) : Json :=
  let plainText (content : Str) : Json :=
    .obj [(py "tag", .str (py "plain_text")), (py "content", .str content)]
  let larkMd (content : Str) : Json :=
    .obj [(py "tag", .str (py "div")),
      (py "text", .obj [(py "tag", .str (py "lark_md")), (py "content", .str content)])]
  let button (label kind action : Str) : Json :=
    .obj [(py "tag", .str (py "button")), (py "text", plainText label), (py "type", .str kind),
      (py "value", .obj [(py "action", .str action), (py "run_id", .str runId),
        (py "step_id", .str stepId)])]
  .obj
    [(py "config", .obj [(py "wide_screen_mode", .bool true)]),
      (py "header", .obj [(py "title", plainText title), (py "template", .str (py "orange"))]),
      (py "elements", .arr
        [larkMd message,
          .obj [(py "tag", .str (py "hr"))],
          larkMd (py "**Run ID**: `" ++ runId ++ py "`\n**Step**: `" ++ stepId ++ py "`"),
          .obj [(py "tag", .str (py "action")), (py "actions", .arr
            [button (py "✅ 批准") (py "primary") (py "APPROVED"),
              button (py "❌ 驳回") (py "danger") (py "REJECTED")])],
          .obj [(py "tag", .str (py "note")), (py "elements", .arr
            [plainText (py "⚠️ 此卡片由 Agent OS 自动生成，请仔细核对后再做决定。")])]])]

/-- The text that `_print_card_to_console` prints. -/
def cardConsoleText (title message runId : Str) : Str :=
  let line (mark : CodePoint) : Str := List.replicate 65 mark
  join (py "\n")
    [[], line 0x3D, py "  🃏  Feishu Interactive Card 审批请求", line 0x3D,
      py "  标题:   " ++ title, py "  内容:   " ++ message, py "  Run ID: " ++ runId, line 0x2D,
      py "  [按钮 1] ✅ 批准   |   [按钮 2] ❌ 驳回", line 0x3D, []]

/-- `text or default`. -/
def orElseText (text : Option Str) (default : Str) : Str :=
  match text with
  | some text => if text ≠ [] then text else default
  | none => default

namespace SOPStep

/-- `step.data_ref or ""`. -/
def dataKey (step : SOPStep) : Str := orElseText step.dataRef []

/-- The key under which a validation leaves its nonce. -/
def nonceKey (step : SOPStep) : Str := py "_nonce_" ++ step.dataKey

def cardTitleText (step : SOPStep) : Str :=
  orElseText step.cardTitle (py "🤖 Agent OS — 需要您的审批")

def cardTemplate (step : SOPStep) : Str := orElseText step.cardMessage (py "请审批此操作")

def notifyTemplate (step : SOPStep) : Str :=
  orElseText step.notifyMessage step.description

end SOPStep

/-- `data.get(key, "")`. -/
def dataOr (data : Dict Str Json) (key : Str) : Json := (data.get? key).getD (.str [])

namespace SOPEngine

variable (host : Host) (rdf : RdfLib) (engine : SOPEngine)

def note (event : EngineEvent) : Action Exc EngineWorld Unit :=
  Timed.modify (EngineState.note event)

def atGate {α : Type} (body : Coro Exc GateWorld α) : Coro Exc EngineWorld α :=
  body.zoom (Timed.part EngineState.gate) (Timed.setPart EngineState.setGate)

/-- `if self._state_store: self._state_store.save_state(ctx)`. -/
def save (ctx : SOPRunContext) : Action Exc EngineWorld Unit :=
  if engine.stateStore then do
    let runs ← Timed.view EngineState.runs
    let runs ← ofExcept (RunTable.saveState ctx runs)
    Timed.modify (EngineState.setRuns runs)
    note (.saved ctx)
  else pure ()

/-- `create_run`. -/
def createRun (sop : SOPDefinition) (data : Dict Str Json) (runId : Option Str) :
    Action Exc EngineWorld SOPRunContext := do
  let runId ← match runId with
    | some runId => if runId ≠ [] then pure runId else Timed.draw host.uuid4
    | none => Timed.draw host.uuid4
  let ctx : SOPRunContext := {
    runId, sopId := sop.sopId, state := .pending, currentStepIndex := 0, data
    suspendedStepId := none, approvalResult := none, approvalReason := .null, approverId := .null
    errors := [], stepResults := [] }
  engine.save ctx
  pure ctx

/-- `load_state` of the state store. -/
def loadState (runId : Json) : Action Exc EngineWorld (Option SOPRunContext) := do
  let runs ← Timed.view EngineState.runs
  ofExcept (RunTable.loadState host runId runs)

/-- `load_run`. -/
def loadRun (runId : Str) : Action Exc EngineWorld (Option SOPRunContext) :=
  if engine.stateStore then loadState host (.str runId)
  else throw (sopExecutionError (py "未配置 state_store，无法加载状态。"))

/-! ### Steps -/

/-- `_step_validate` after it found the data. -/
def validateData (gate : WriteGate) (step : SOPStep) (domainName : Str) (value : Json)
    (ctx : SOPRunContext) : Coro Exc EngineWorld StepOutcome := do
  let verdict ← (atGate (Coro.sync
    (gate.verifyValue host rdf domainName value (py "turtle")))).attempt
  match verdict with
  | .error exc => pure (.error exc, ctx)
  | .ok (report, nonce) =>
      if report.isValid then
        pure (.ok (.obj [(py "valid", .bool true), (py "domain", .str domainName),
            (py "data_ref", .str step.dataKey)]),
          ctx.setData step.nonceKey (.optional nonce))
      else
        pure (.error (sopExecutionError (py "SHACL 校验失败 (step=" ++ step.id ++ py ", domain=" ++
          domainName ++ py "): " ++
            join (py "; ") (report.results.map ValidationResult.resultMessage))), ctx)

/-- `_step_validate`. -/
def stepValidate (step : SOPStep) (ctx : SOPRunContext) : Coro Exc EngineWorld StepOutcome :=
  match engine.writeGate, step.domain with
  | some gate, some domainName =>
      let value := dataOr ctx.data step.dataKey
      if value.truthy then validateData host rdf gate step domainName value ctx
      else pure (.error (sopExecutionError (py "步骤 " ++ step.id ++ py " 需要 data['" ++
        step.dataKey ++ py "']，但上下文中不存在")), ctx)
  | _, _ =>
      pure (.ok (.obj [(py "skipped", .bool true),
        (py "reason", .str (py "write_gate or domain not configured"))]), ctx)

/-- Whether the approval is asked for: a condition that cannot be evaluated counts as true. -/
def triggers (step : SOPStep) (data : Dict Str Json) : Action Exc EngineWorld Bool :=
  if orElseText step.condition [] ≠ [] then do
    let verdict ← Timed.draw (engine.evalCondition (orElseText step.condition []) data)
    pure (verdict.getD true)
  else pure true

/-- `await approval_card_sender(...)`, if there is one: other calls run before its outcome. -/
def sendCard (step : SOPStep) (message : Str) (card : Json) (ctx : SOPRunContext) :
    Coro Exc EngineWorld Unit :=
  match engine.approvalCardSender with
  | some sender =>
      let chatId := match step.extra.get? (py "chat_id") with
        | some chat => if chat.truthy then chat else .str engine.defaultChatId
        | none => .str engine.defaultChatId
      do
        Coro.sync (Timed.modify (EngineState.handOver (ctx.runId, step.id)))
        Coro.sync (Timed.outcome (sender chatId step.cardTitleText message ctx.runId card))
  | none => pure ()

/-- `_step_human_approval` from the card on. -/
def askApproval (step : SOPStep) (message : Str) (ctx : SOPRunContext) :
    Coro Exc EngineWorld StepOutcome := do
  let card := buildApprovalCard step.cardTitleText message ctx.runId step.id
  let ctx := ctx.setData (py "_pending_card") card
  let shown ← Coro.attempt do
    engine.sendCard step message card ctx
    Coro.sync (Timed.outcome (host.print (cardConsoleText step.cardTitleText message ctx.runId)))
  match shown with
  | .error exc => pure (.error exc, ctx)
  | .ok () =>
      pure (.ok (.obj [(py "suspended", .bool true), (py "step_id", .str step.id),
        (py "run_id", .str ctx.runId), (py "card_title", .str step.cardTitleText)]),
        ctx.suspend step)

/-- `_step_human_approval`. -/
def stepHumanApproval (step : SOPStep) (ctx : SOPRunContext) :
    Coro Exc EngineWorld StepOutcome := do
  let triggered ← Coro.sync (engine.triggers step ctx.data)
  if triggered then
    match host.formatMap step.cardTemplate ctx.data with
    | .ok message => engine.askApproval host step message ctx
    | .error exc => pure (.error exc, ctx)
  else
    pure (.ok (.obj [(py "auto_approved", .bool true), (py "condition", .optional step.condition)]),
      ctx)

/-- `_action_governed_write`: every exception of the gate becomes an `SOPExecutionError`. -/
def actionGovernedWrite (step : SOPStep) (ctx : SOPRunContext) : Coro Exc EngineWorld StepOutcome :=
  match engine.writeGate with
  | some gate =>
      let value := dataOr ctx.data step.dataKey
      let nonce := dataOr ctx.data step.nonceKey
      if value.truthy && nonce.truthy then do
        let written ← (atGate (gate.writeValue host rdf (step.domain.getD []) value nonce
          (py "turtle"))).attempt
        match written with
        | .ok result =>
            pure (.ok (.obj [(py "written", .bool true), (py "result", .str (result.str host))]),
              ctx)
        | .error exc =>
            pure (.error (sopExecutionError (py "governed_write 步骤 " ++ step.id ++ py " 执行失败: " ++
              exc.message)), ctx)
      else pure (.error (sopExecutionError (py "governed_write 步骤 " ++ step.id ++
        py " 缺少数据或 nonce (data_key='" ++ step.dataKey ++ py "')")), ctx)
  | none => pure (.ok (.obj [(py "simulated", .bool true)]), ctx)

/-- `_step_action`. -/
def stepAction (step : SOPStep) (ctx : SOPRunContext) : Coro Exc EngineWorld StepOutcome :=
  if step.actionType = some .governedWrite then engine.actionGovernedWrite host rdf step ctx
  else pure (.ok (.obj [(py "skipped", .bool true)]), ctx)

/-- `_step_notify`. -/
def stepNotify (step : SOPStep) (ctx : SOPRunContext) : Coro Exc EngineWorld StepOutcome :=
  match host.formatMap step.notifyTemplate ctx.data with
  | .ok message => do
      let shown ← (Coro.sync (Timed.outcome
        (host.print (py "\n📢 [SOP 通知] " ++ message ++ py "\n")))).attempt
      match shown with
      | .ok () =>
          pure (.ok (.obj [(py "notified", .bool true), (py "message", .str message)]), ctx)
      | .error exc => pure (.error exc, ctx)
  | .error exc => pure (.error exc, ctx)

/-- `_execute_step`. -/
def executeStep (step : SOPStep) (ctx : SOPRunContext) : Coro Exc EngineWorld StepOutcome :=
  match step.type with
  | .validate => engine.stepValidate host rdf step ctx
  | .humanApproval => engine.stepHumanApproval host step ctx
  | .action => engine.stepAction host rdf step ctx
  | .notify => stepNotify host step ctx

/-! ### Runs -/

/-- The loop of `run` over the steps from an index on. -/
def runSteps : List SOPStep → ℕ → SOPRunContext → Coro Exc EngineWorld SOPRunContext
  | [], _, ctx => do
      let ctx := { ctx with state := .completed }
      Coro.sync (engine.save ctx)
      pure ctx
  | step :: rest, index, ctx => do
      let ctx := { ctx with currentStepIndex := index }
      Coro.sync (note (.executing ctx.runId index ctx.data))
      let (outcome, ctx) ← engine.executeStep host rdf step ctx
      match outcome with
      | .ok result =>
          let ctx := ctx.logResult step result
          Coro.sync (engine.save ctx)
          if ctx.state = .suspended then pure ctx else runSteps rest (index + 1) ctx
      | .error exc =>
          if exc.cls = .sopExecutionError then do
            let ctx := ctx.fail exc.message
            Coro.sync (engine.save ctx)
            pure ctx
          else throw exc

/-- `run`. -/
def run (sop : SOPDefinition) (ctx : SOPRunContext) : Coro Exc EngineWorld SOPRunContext :=
  engine.runSteps host rdf (sop.steps.drop ctx.currentStepIndex) ctx.currentStepIndex
    { ctx with state := .running }

/-- `insert_feedback` with the decision on the run. -/
def insertFeedback (ctx : SOPRunContext) (decision : Str) (reason approverId : Json) :
    Action Exc EngineWorld Unit := do
  raiseIf (isDecision decision = false) (.builtin "ValueError"
    (py "decision 必须是 'APPROVED' 或 'REJECTED'，收到: " ++ host.repr decision))
  let now ← host.readTime
  let feedback ← Timed.view EngineState.feedback
  let feedback ← ofExcept (FeedbackTable.insertFeedback host ctx.runId approverId decision reason
    (ctx.originalOutput host) (host.isoFormat now) feedback)
  Timed.modify (EngineState.setFeedback feedback)

/-- `resume` after the decision was recorded. -/
def proceed (sop : SOPDefinition) (ctx : SOPRunContext) (decision : Str) :
    Coro Exc EngineWorld SOPRunContext :=
  if decision = py "REJECTED" then do
    let ctx := { ctx with state := .rejected }
    Coro.sync (engine.save ctx)
    pure ctx
  else
    engine.run host rdf sop
      { ctx with state := .approved, currentStepIndex := ctx.currentStepIndex + 1 }

/-- `resume`. -/
def resume (sop : SOPDefinition) (ctx : SOPRunContext) (decision : Str)
    (reason approverId : Json) : Coro Exc EngineWorld SOPRunContext :=
  if ctx.state ≠ .suspended then
    throw (sopExecutionError (py "resume() 只能在 SUSPENDED 状态下调用，当前状态: SOPRunState." ++
      ctx.state.value))
  else do
    let ctx := ctx.answer decision reason approverId
    if engine.feedbackDb then Coro.sync (insertFeedback host ctx decision reason approverId)
    engine.proceed host rdf sop ctx decision

end SOPEngine

end AgentOS
