import AgentOS.Python.Json

/-!
# SOP definitions and run contexts

The schema of an SOP file and the context of a run, with the JSON document that
`model_dump_json` writes for a context and `model_validate_json` reads back.
-/

namespace AgentOS

open Python

inductive StepType where
  | validate
  | humanApproval
  | action
  | notify
  deriving DecidableEq

def StepType.value : StepType → Str
  | validate => py "validate"
  | humanApproval => py "human_approval"
  | action => py "action"
  | notify => py "notify"

inductive ActionType where
  | governedWrite
  | notifyIm
  deriving DecidableEq

/-- The fields of a step that the engine reads, and the timeout, which nothing reads. -/
structure SOPStep where
  id : Str
  type : StepType
  description : Str
  domain : Option Str
  dataRef : Option Str
  condition : Option Str
  cardTitle : Option Str
  cardMessage : Option Str
  timeoutSeconds : ℤ
  actionType : Option ActionType
  notifyMessage : Option Str
  extra : Dict Str Json

structure SOPDefinition where
  sopId : Str
  steps : List SOPStep

inductive SOPRunState where
  | pending
  | running
  | suspended
  | approved
  | rejected
  | completed
  | failed
  deriving DecidableEq

namespace SOPRunState

def value : SOPRunState → Str
  | pending => py "PENDING"
  | running => py "RUNNING"
  | suspended => py "SUSPENDED"
  | approved => py "APPROVED"
  | rejected => py "REJECTED"
  | completed => py "COMPLETED"
  | failed => py "FAILED"

/-- `SOPRunState(value)`. -/
def ofValue (text : Str) : Option SOPRunState :=
  [pending, running, suspended, approved, rejected, completed, failed].find? fun state =>
    state.value = text

@[simp]
theorem ofValue_value (state : SOPRunState) : ofValue state.value = some state := by
  cases state <;> decide

end SOPRunState

/-- The context of a run. The engine assigns `approvalReason` and `approverId` unchecked. -/
structure SOPRunContext where
  runId : Str
  sopId : Str
  state : SOPRunState
  currentStepIndex : ℕ
  data : Dict Str Json
  suspendedStepId : Option Str
  approvalResult : Option Str
  approvalReason : Json
  approverId : Json
  errors : List Str
  stepResults : List (Dict Str Json)

namespace SOPRunContext

/-- The document of `model_dump_json()`. -/
def toJson (ctx : SOPRunContext) : Json :=
  .obj
    [(py "run_id", .str ctx.runId),
      (py "sop_id", .str ctx.sopId),
      (py "state", .str ctx.state.value),
      (py "current_step_index", .int ctx.currentStepIndex),
      (py "data", .obj ctx.data.entries),
      (py "suspended_step_id", .optional ctx.suspendedStepId),
      (py "approval_result", .optional ctx.approvalResult),
      (py "approval_reason", ctx.approvalReason),
      (py "approver_id", ctx.approverId),
      (py "errors", .arr (ctx.errors.map .str)),
      (py "step_results", .arr (ctx.stepResults.map fun entry => .obj entry.entries))]

def readStr : Json → Option Str
  | .str text => some text
  | _ => none

def readNat : Json → Option ℕ
  | .int value => if 0 ≤ value then some value.toNat else none
  | _ => none

/-- A field of type `Optional[str]`. -/
def readOptional : Json → Option (Option Str)
  | .str text => some (some text)
  | .null => some none
  | _ => none

def readDict : Json → Option (Dict Str Json)
  | .obj fields => some (Dict.ofEntries fields)
  | _ => none

def readList {α : Type} (read : Json → Option α) : Json → Option (List α)
  | .arr items => items.mapM read
  | _ => none

/--
`model_validate_json` on the documents that `save_state` writes, where only the fields that
were assigned unchecked can have a wrong type.
-/
def ofJson (document : Json) : Option SOPRunContext := do
  let runId ← document.get? (py "run_id") >>= readStr
  let sopId ← document.get? (py "sop_id") >>= readStr
  let state ← document.get? (py "state") >>= readStr >>= SOPRunState.ofValue
  let currentStepIndex ← document.get? (py "current_step_index") >>= readNat
  let data ← document.get? (py "data") >>= readDict
  let suspendedStepId ← document.get? (py "suspended_step_id") >>= readOptional
  let approvalResult ← document.get? (py "approval_result") >>= readOptional
  let approvalReason ← document.get? (py "approval_reason") >>= readOptional
  let approverId ← document.get? (py "approver_id") >>= readOptional
  let errors ← document.get? (py "errors") >>= readList readStr
  let stepResults ← document.get? (py "step_results") >>= readList readDict
  return {
    runId, sopId, state, currentStepIndex, data, suspendedStepId, approvalResult,
    approvalReason := .optional approvalReason, approverId := .optional approverId,
    errors, stepResults }

/-- The unchecked fields have their declared type. -/
def wellTyped (ctx : SOPRunContext) : Bool :=
  (readOptional ctx.approvalReason).isSome && (readOptional ctx.approverId).isSome

@[simp]
theorem readOptional_optional (text : Option Str) :
    readOptional (.optional text) = some text := by
  cases text <;> rfl

theorem optional_of_readOptional {value : Json} {text : Option Str}
    (read : readOptional value = some text) : Json.optional text = value := by
  rcases value with _ | _ | _ | _ | text | _ | _ <;> cases read <;> rfl

theorem readList_map {α : Type} {read : Json → Option α} {write : α → Json}
    (inverse : ∀ item, read (write item) = some item) (items : List α) :
    readList read (.arr (items.map write)) = some items := by
  induction items with
  | nil => rfl
  | cons item rest ih =>
      rw [readList] at ih ⊢
      rw [List.map_cons, List.mapM_cons, inverse, ih]
      rfl

/-- The fields of the document are found under their names. -/
theorem ofJson_toJson_eq (ctx : SOPRunContext) : ofJson ctx.toJson = do
    let approvalReason ← readOptional ctx.approvalReason
    let approverId ← readOptional ctx.approverId
    return { ctx with
      approvalReason := .optional approvalReason, approverId := .optional approverId } := by
  have index : readNat (.int ctx.currentStepIndex) = some ctx.currentStepIndex := by
    simp [readNat]
  have data : readDict (.obj ctx.data.entries) = some ctx.data := by
    simp [readDict]
  have errors : readList readStr (.arr (ctx.errors.map Json.str)) = some ctx.errors :=
    @readList_map Str readStr Json.str (fun _ => rfl) ctx.errors
  have results : readList readDict (.arr (ctx.stepResults.map fun entry => .obj entry.entries)) =
      some ctx.stepResults :=
    readList_map (fun entry => by simp [readDict]) ctx.stepResults
  have fields :
      ctx.toJson.get? (py "run_id") = some (.str ctx.runId) ∧
      ctx.toJson.get? (py "sop_id") = some (.str ctx.sopId) ∧
      ctx.toJson.get? (py "state") = some (.str ctx.state.value) ∧
      ctx.toJson.get? (py "current_step_index") = some (.int ctx.currentStepIndex) ∧
      ctx.toJson.get? (py "data") = some (.obj ctx.data.entries) ∧
      ctx.toJson.get? (py "suspended_step_id") = some (.optional ctx.suspendedStepId) ∧
      ctx.toJson.get? (py "approval_result") = some (.optional ctx.approvalResult) ∧
      ctx.toJson.get? (py "approval_reason") = some ctx.approvalReason ∧
      ctx.toJson.get? (py "approver_id") = some ctx.approverId ∧
      ctx.toJson.get? (py "errors") = some (.arr (ctx.errors.map .str)) ∧
      ctx.toJson.get? (py "step_results") =
        some (.arr (ctx.stepResults.map fun entry => .obj entry.entries)) :=
    ⟨rfl, rfl, rfl, rfl, rfl, rfl, rfl, rfl, rfl, rfl, rfl⟩
  rcases fields with ⟨f1, f2, f3, f4, f5, f6, f7, f8, f9, f10, f11⟩
  rw [ofJson, f1, f2, f3, f4, f5, f6, f7, f8, f9, f10, f11]
  simp only [Option.bind_eq_bind, Option.bind_some, readStr, SOPRunState.ofValue_value, index, data,
    readOptional_optional, errors, results, Option.pure_def]

/-- A stored context is read back as it was exactly when it has the declared types. -/
theorem ofJson_toJson (ctx : SOPRunContext) :
    ofJson ctx.toJson = if ctx.wellTyped then some ctx else none := by
  rw [ofJson_toJson_eq, wellTyped]
  rcases reason : readOptional ctx.approvalReason with _ | reason'
  · rfl
  · rcases approver : readOptional ctx.approverId with _ | approver'
    · rfl
    · simp [optional_of_readOptional reason, optional_of_readOptional approver]

/-- The document can be written exactly when every text of the context has an encoding. -/
theorem toJson_encodable_iff (ctx : SOPRunContext) : ctx.toJson.encodable = true ↔
    encodable ctx.runId = true ∧ encodable ctx.sopId = true ∧
    Json.encodableFields ctx.data.entries = true ∧
    (Json.optional ctx.suspendedStepId).encodable = true ∧
    (Json.optional ctx.approvalResult).encodable = true ∧
    ctx.approvalReason.encodable = true ∧ ctx.approverId.encodable = true ∧
    Json.encodableItems (ctx.errors.map .str) = true ∧
    Json.encodableItems (ctx.stepResults.map fun entry => .obj entry.entries) = true := by
  have state : encodable ctx.state.value = true := by cases ctx.state <;> decide
  have names : encodable (py "run_id") = true ∧ encodable (py "sop_id") = true ∧
      encodable (py "state") = true ∧ encodable (py "current_step_index") = true ∧
      encodable (py "data") = true ∧ encodable (py "suspended_step_id") = true ∧
      encodable (py "approval_result") = true ∧ encodable (py "approval_reason") = true ∧
      encodable (py "approver_id") = true ∧ encodable (py "errors") = true ∧
      encodable (py "step_results") = true := by
    decide
  simp only [toJson, Json.encodable, Json.encodableFields, state, names, Bool.and_true,
    Bool.true_and, Bool.and_eq_true]

/-- Where a run is in its steps has no effect on whether its context can be written. -/
theorem toJson_encodable_position (ctx : SOPRunContext) (state : SOPRunState) (index : ℕ) :
    { ctx with state, currentStepIndex := index }.toJson.encodable = ctx.toJson.encodable := by
  rw [Bool.eq_iff_iff, toJson_encodable_iff, toJson_encodable_iff]

end SOPRunContext

end AgentOS
