import AgentOS.Governance.ValidationReport

/-!
# Exceptions

The exception classes of the runtime with their subclass relation, and the built-in and
third-party classes by name. A raised exception is its class, its text `str(exc)` and the report
that it may carry.
-/

namespace AgentOS

open Python

/-- The classes of `agentos.kernel.exceptions`, of the SOP engine, and all others by name. -/
inductive ExcClass where
  | kernelException
  | configError
  | adapterError
  | governanceError
  | shaclValidationError
  | writeGateError
  | policyViolationError
  | neo4jConnectionError
  | sandboxError
  | securityInterceptError
  | billingFuseTrippedError
  | circuitBreakerOpenError
  | sopExecutionError
  | other (name : Str)
  deriving DecidableEq

/-- `exc.__class__.__name__`. -/
def ExcClass.name : ExcClass → Str
  | kernelException => py "KernelException"
  | configError => py "ConfigError"
  | adapterError => py "AdapterError"
  | governanceError => py "GovernanceError"
  | shaclValidationError => py "SHACLValidationError"
  | writeGateError => py "WriteGateError"
  | policyViolationError => py "PolicyViolationError"
  | neo4jConnectionError => py "Neo4jConnectionError"
  | sandboxError => py "SandboxError"
  | securityInterceptError => py "SecurityInterceptError"
  | billingFuseTrippedError => py "BillingFuseTrippedError"
  | circuitBreakerOpenError => py "CircuitBreakerOpenError"
  | sopExecutionError => py "SOPExecutionError"
  | other name => name

/-- Whether the class derives from `AgentOSException`; `SOPExecutionError` does not. -/
def ExcClass.isAgentOSException : ExcClass → Bool
  | sopExecutionError | other _ => false
  | _ => true

/-- A raised exception. -/
structure Exc where
  cls : ExcClass
  message : Str
  /-- The report whose dictionary a `SHACLValidationError` carries; without one it is empty. -/
  validationReport : Option SHACLValidationReport
  deriving DecidableEq

/-- An exception of a built-in or third-party class. -/
def Exc.builtin (name : String) (message : Str) : Exc := ⟨.other (py name), message, none⟩

end AgentOS
