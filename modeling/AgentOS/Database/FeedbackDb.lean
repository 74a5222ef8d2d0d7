import AgentOS.Database.StateStore

/-!
# Feedback database

The table `agent_feedback` with one row for every recorded approval decision. The column
`trace_id` is unique, and a row that violates a constraint is not inserted.
-/

namespace AgentOS

open Python Cooperative

/-- A row of `agent_feedback`. -/
structure FeedbackRecord where
  traceId : Str
  reviewer : Str
  decision : Str
  reason : Option Str
  originalAgentOutput : Str
  timestamp : Str
  deriving DecidableEq

/-- The rows of `agent_feedback`, newest last. -/
abbrev FeedbackTable := List FeedbackRecord

/-- The decisions that `insert_feedback` and the callers of `resume` accept. -/
def isDecision (decision : Str) : Bool := decision = py "APPROVED" ∨ decision = py "REJECTED"

namespace FeedbackTable

variable (host : Host)

def integrityError (message : String) : Exc := .builtin "IntegrityError" (py message)

/-- The row that was inserted for the trace. -/
def rowsOf (traceId : Str) (table : FeedbackTable) : List FeedbackRecord :=
  table.filter fun record => record.traceId = traceId

/-- Binding of the parameters of the `INSERT`. -/
def bindRecord (traceId : Str) (reviewer : Json) (decision : Str) (reason : Json)
    (originalAgentOutput timestamp : Str) : Except Exc FeedbackRecord := do
  let traceId ← host.encode traceId
  let reviewer ← bindText host 2 reviewer
  let decision ← host.encode decision
  let reason ← bindText host 4 reason
  let originalAgentOutput ← host.encode originalAgentOutput
  let timestamp ← host.encode timestamp
  match reviewer with
  | some reviewer =>
      pure { traceId, reviewer, decision, reason, originalAgentOutput, timestamp }
  | none => throw (integrityError "NOT NULL constraint failed: agent_feedback.reviewer")

/-- The `INSERT` with the constraint on `trace_id`. -/
def insert (record : FeedbackRecord) (table : FeedbackTable) : Except Exc FeedbackTable :=
  if (rowsOf record.traceId table).isEmpty then .ok (table ++ [record])
  else .error (integrityError "UNIQUE constraint failed: agent_feedback.trace_id")

/-- `insert_feedback` at a given time. -/
def insertFeedback (traceId : Str) (reviewer : Json) (decision : Str) (reason : Json)
    (originalAgentOutput timestamp : Str) (table : FeedbackTable) : Except Exc FeedbackTable := do
  let record ← bindRecord host traceId reviewer decision reason originalAgentOutput timestamp
  insert record table

end FeedbackTable

end AgentOS
