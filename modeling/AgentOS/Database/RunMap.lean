import AgentOS.Database.StateStore
import AgentOS.Governance.Replay

/-!
# The store as a map

A sequence of saves stands for the map from each run to the context that was saved for it last.
The table keeps the state and the document of that context, but the `sop_id` of the first one.
-/

namespace AgentOS

open Python

namespace RunTable

variable {saves : List PlainContext} {save : PlainContext} {table : RunTable} {runId : Str}
  {ctx : SOPRunContext}

end RunTable

namespace Sample

open RunTable

/-- The rows in the order in which they were inserted. -/
def inserted : UpdateOrder := ⟨id, fun _ => .refl _⟩

end Sample

end AgentOS
