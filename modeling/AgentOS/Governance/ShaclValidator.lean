import AgentOS.Governance.SchemaProvider

/-!
# SHACL validator

Stage 2 of the write gate: a data graph is validated against a shapes graph by `pyshacl`
and the results graph is turned into a report with a fix hint for every violation.
-/

namespace AgentOS

open Python

/-- `_generate_fix_hint`; the first two tests look for a capital in a lower-cased text. -/
def generateFixHint (path message : Str) : Str :=
  let text := lower message
  if contains text (py "minCount") ∨ contains text (py "required") then
    py "Add the required property '" ++ path ++ py "' to the entity."
  else if contains text (py "maxCount") then
    py "Remove duplicate values for property '" ++ path ++ py "' — only one is allowed."
  else if contains text (py "in") ∨ contains text (py "allowed") then
    py "Change '" ++ path ++ py "' to one of the allowed values listed in the schema."
  else if contains text (py "datatype") ∨ contains text (py "type") then
    py "Ensure '" ++ path ++ py "' has the correct data type as defined in the schema."
  else
    py "Review the SHACL shape constraint for '" ++ path ++ py "' and fix the data."

variable (rdf : RdfLib)

/-- One step of `_parse_results`. -/
def parseResult (node : ResultNode) : ValidationResult :=
  let message := (strIfTruthy rdf node.resultMessage).getD []
  let path := match strIfTruthy rdf node.resultPath with
    | some path => (splitSep 0x23 path).getLastD []
    | none => py "?"
  { focusNode := strIfTruthy rdf node.focusNode
    resultPath := strIfTruthy rdf node.resultPath
    resultMessage := message
    severity :=
      if node.resultSeverity = some (shTerm "Warning") then py "Warning"
      else if node.resultSeverity = some (shTerm "Info") then py "Info"
      else py "Violation"
    value := strIfTruthy rdf node.value
    fixHint := generateFixHint path message }

/-- `SHACLValidator.validate` on a shapes graph. -/
def shaclValidate (shapes data : Graph) : Except Exc SHACLValidationReport :=
  match rdf.validate data shapes with
  | .error text =>
      .error ⟨.shaclValidationError, py "SHACL validation engine error: " ++ text, none⟩
  | .ok (conforms, nodes) => .ok { conforms, results := nodes.map (parseResult rdf) }

end AgentOS
