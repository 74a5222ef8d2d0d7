import AgentOS.Kernel.Host
import AgentOS.Workflow.SopSchema

/-!
# Workflow state store

The table `sop_state` with the last saved context of every run. A context is stored as
its JSON document, so that reading it back validates it again.
-/

namespace AgentOS

open Python Cooperative

/--
A value bound to a parameter that is compared with, or stored in, a TEXT column: numbers
become their text, `None` is NULL, and other types are refused.
-/
def bindText (host : Host) (parameter : ℕ) : Json → Except Exc (Option Str)
  | .null => .ok none
  | .bool value => .ok (some (if value then py "1" else py "0"))
  | .int value =>
      if -(2 : ℤ) ^ 63 ≤ value ∧ value < 2 ^ 63 then .ok (some (strInt value))
      else .error (.builtin "OverflowError"
        (py "Python int too large to convert to SQLite INTEGER"))
  | .float value => .ok (some (host.sqliteReal value))
  | .str text => (host.encode text).map some
  | value => .error (.builtin "ProgrammingError"
      (py "Error binding parameter " ++ strNat parameter ++ py ": type '" ++ value.typeName ++
        py "' is not supported"))

/-- A row of `sop_state`; the document was encoded in UTF-8. -/
structure StoredRun where
  sopId : Str
  state : SOPRunState
  contextJson : Json
  encoded : contextJson.encodable = true

/-- The rows of `sop_state` by their `run_id`. -/
abbrev RunTable := Dict Str StoredRun

namespace StoredRun

/-- `model_validate_json`; a document that is not valid is logged and ignored. -/
def context? (row : StoredRun) : Option SOPRunContext := SOPRunContext.ofJson row.contextJson

end StoredRun

namespace RunTable

variable (host : Host)

/-- The row that `save_state` writes: an existing row keeps its `sop_id`. -/
def rowFor (ctx : SOPRunContext) (encoded : ctx.toJson.encodable = true) (table : RunTable) :
    StoredRun where
  sopId := match Dict.get? table ctx.runId with
    | some row => row.sopId
    | none => ctx.sopId
  state := ctx.state
  contextJson := ctx.toJson
  encoded := encoded

/-- `save_state`. -/
def saveState (ctx : SOPRunContext) (table : RunTable) : Except Exc RunTable :=
  if encoded : ctx.toJson.encodable = true then
    .ok (Dict.set table ctx.runId (rowFor ctx encoded table))
  else .error (.builtin "PydanticSerializationError"
    (py "Error serializing to JSON: invalid utf-8 sequence: surrogates not allowed"))

/-- `load_state`. -/
def loadState (runId : Json) (table : RunTable) : Except Exc (Option SOPRunContext) := do
  match ← bindText host 1 runId with
  | some key => pure ((Dict.get? table key).bind StoredRun.context?)
  | none => pure none

/-- `ORDER BY updated_at DESC`: some order of the rows. -/
structure UpdateOrder where
  sort : List (Str × StoredRun) → List (Str × StoredRun)
  perm : ∀ rows, (sort rows).Perm rows

/-- `count_by_state`. -/
def countByState (state : Str) (table : RunTable) : Except Exc ℕ := do
  let state ← host.encode state
  return (table.entries.filter fun entry => entry.2.state.value = state).length

variable {host}

/-- A context that was saved is loaded as it was when it has the declared types. -/
theorem context?_rowFor (ctx : SOPRunContext) (encoded : ctx.toJson.encodable = true)
    (table : RunTable) :
    (rowFor ctx encoded table).context? = if ctx.wellTyped then some ctx else none :=
  SOPRunContext.ofJson_toJson ctx

/-- A run that is loaded by its id is the stored one, or the id has no encoding. -/
theorem loadState_str (host : Host) (runId : Str) (table : RunTable) :
    loadState host (.str runId) table =
      if encodable runId then .ok ((Dict.get? table runId).bind StoredRun.context?)
      else .error (.builtin "UnicodeEncodeError" (host.encodeError runId)) := by
  simp only [loadState, bindText, Host.encode]
  split <;> rfl

theorem saveState_cases (ctx : SOPRunContext) (table : RunTable) :
    (∃ encoded, saveState ctx table = .ok (Dict.set table ctx.runId (rowFor ctx encoded table))) ∨
      (ctx.toJson.encodable = false ∧ ∃ exc, saveState ctx table = .error exc) := by
  unfold saveState
  split
  · rename_i encoded
    exact .inl ⟨encoded, rfl⟩
  · rename_i foreign
    exact .inr ⟨Bool.eq_false_iff.mpr foreign, _, rfl⟩

end RunTable

end AgentOS
