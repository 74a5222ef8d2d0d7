import AgentOS.Python.Json

/-!
# Validation reports

What a SHACL validation says of the data, and the dictionary that is made of it.
-/

namespace AgentOS

open Python

/-- An entry of `SHACLValidationReport.results`. -/
structure ValidationResult where
  focusNode : Option Str
  resultPath : Option Str
  resultMessage : Str
  severity : Str
  value : Option Str
  fixHint : Str
  deriving DecidableEq

/-- `SHACLValidationReport`. -/
structure SHACLValidationReport where
  conforms : Bool
  results : List ValidationResult
  deriving DecidableEq

/-- `is_valid`. -/
def SHACLValidationReport.isValid (report : SHACLValidationReport) : Bool := report.conforms

/-- A dictionary of a report, as in `_parse_results`. -/
def ValidationResult.toDict (result : ValidationResult) : Json :=
  .obj [(py "focusNode", .optional result.focusNode),
    (py "resultPath", .optional result.resultPath),
    (py "resultMessage", .str result.resultMessage), (py "severity", .str result.severity),
    (py "value", .optional result.value), (py "fixHint", .str result.fixHint)]

/-- The fields of `to_dict`. -/
def SHACLValidationReport.toDict (report : SHACLValidationReport) : List (Str × Json) :=
  [(py "conforms", .bool report.conforms), (py "is_valid", .bool report.conforms),
    (py "result_count", .int report.results.length),
    (py "results", .arr (report.results.map ValidationResult.toDict))]

end AgentOS
