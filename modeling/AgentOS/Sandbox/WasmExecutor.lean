import AgentOS.Kernel.Host
import AgentOS.Python.Numeral
import AgentOS.Python.Utf8
import AgentOS.Sandbox.Wasm

/-!
# WASM micro-sandbox

Untrusted code runs in a store of its own. The store gets the fuel of the configuration; the
memory limit of the configuration reaches no store.
-/

namespace AgentOS

open Python Wasm

/-- What `execute_untrusted_code` reads of a `SandboxConfig`, and the limit it does not read. -/
structure SandboxConfig where
  memoryLimitBytes : ℤ
  fuelLimit : ℤ
  sensitivePaths : List Str

namespace SandboxConfig

/-- The defaults. -/
def default : SandboxConfig where
  memoryLimitBytes := 16 * 1024 * 1024
  fuelLimit := 1000000000
  sensitivePaths := [py "/etc/passwd", py "/etc/shadow", py "/etc/sudoers", py "/etc/ssh",
    py "/proc", py "/sys", py "/dev"]

/-- The fuel as a number of 64 bits. -/
def fuel (config : SandboxConfig) : ℕ := (config.fuelLimit % 2 ^ 64).toNat

end SandboxConfig

/-- A `SandboxError`. -/
def sandboxError (message : Str) : Exc := ⟨.sandboxError, message, none⟩

/-- `_check_sensitive_path_grep`. -/
def checkSensitivePathGrep (config : SandboxConfig) (codeStr : Str) : Except Exc Unit :=
  match config.sensitivePaths.find? fun path => contains (lower codeStr) (lower path) with
  | some path => .error (sandboxError (py "Sandbox trap: code references sensitive path \"" ++
      path ++ py "\". Execution aborted BEFORE instantiation."))
  | none => .ok ()

/-- The `wasmtime` package: how it compiles, and the machine that its code runs on. -/
structure Wasmtime where
  machine : Machine
  compile : List Byte → Except Str (Wasm.Module machine)

/-- What a call of an exported function leaves in `return_values`. -/
inductive ReturnValue (Value : Type)
  | value (result : Value)
  /-- Several results come as one list. -/
  | list (results : List Value)

/-- `return_values` of a call with these results. -/
def ReturnValue.ofResults {Value : Type} : List Value → List (ReturnValue Value)
  | [] => []
  | [result] => [.value result]
  | results => [.list results]

structure WasmExecutionResult (Value : Type) where
  returnValues : List (ReturnValue Value)
  fuelConsumed : Option ℤ
  memoryPeak : Option ℕ
  trapped : Bool
  trapReason : Option Str

/-- What the sandbox does with the module, in order. -/
inductive SandboxEvent
  | compiles
  /-- The instance holds memories of so many pages from now on. -/
  | holds (pages : List ℕ)
  deriving DecidableEq

/-- A call of `execute_untrusted_code`. -/
structure Execution (Value : Type) where
  outcome : Except Exc (WasmExecutionResult Value)
  history : List SandboxEvent
  /-- Whether the limit of the store refused memory. -/
  refused : Bool

section Execution

variable (host : Host) (wasmtime : Wasmtime) (config : SandboxConfig)

/-- The message for a missing entrypoint. -/
def entrypointNotFound (module : Wasm.Module wasmtime.machine) (entrypoint : Str) : Exc :=
  sandboxError (py "Sandbox: entrypoint \"" ++ entrypoint ++ py "\" not found in WASM exports. " ++
    py "Available: " ++ host.reprList module.exports.keys)

/-- What the call of the entrypoint comes to. -/
def callOutcome (fuelBefore : ℕ) (called : Run (List wasmtime.machine.Value)) :
    Except Exc (WasmExecutionResult wasmtime.machine.Value) :=
  match called.result with
  | .error message =>
      if called.fuel = 0 then
        .error (sandboxError (py "WASM fuel exhausted (instruction budget: " ++
          strInt config.fuelLimit ++ py " instructions)."))
      else .error (sandboxError (py "WASM Trap: " ++ message))
  | .ok results =>
      .ok {
        returnValues := ReturnValue.ofResults results
        fuelConsumed := if fuelBefore = 0 then none else some (fuelBefore - called.fuel : ℤ)
        memoryPeak := none
        trapped := false
        trapReason := none }

/-- `execute_untrusted_code` from the instance on. -/
def callEntrypoint (store : Store) (module : Wasm.Module wasmtime.machine)
    (instance_ : Run (List wasmtime.machine.Value)) (entrypoint : Str)
    (args : List wasmtime.machine.Arg) : Execution wasmtime.machine.Value :=
  let begun := SandboxEvent.compiles :: instance_.moments.map .holds
  match instance_.result with
  | .error message => ⟨.error (.builtin "Trap" message), begun, instance_.refused⟩
  | .ok _ =>
      match module.exports.get? entrypoint with
      | some (.func enter) =>
          match enter args with
          | .error message =>
              ⟨.error (sandboxError (py "WASM execution failed: " ++ message)), begun,
                instance_.refused⟩
          | .ok state =>
              let called := run module.memories store.limit instance_.fuel state instance_.pages
              ⟨callOutcome wasmtime config store.fuel called,
                begun ++ called.moments.map .holds, instance_.refused || called.refused⟩
      | _ => ⟨.error (entrypointNotFound host wasmtime module entrypoint), begun, instance_.refused⟩

/-- `execute_untrusted_code` with a store. -/
def executeIn (store : Store) (wasmModule : List Byte) (entrypoint : Str)
    (args : List wasmtime.machine.Arg) : Execution wasmtime.machine.Value :=
  match checkSensitivePathGrep config (decodeReplace wasmModule) with
  | .error exc => ⟨.error exc, [], false⟩
  | .ok () =>
      let store := store.setFuel config.fuel
      match wasmtime.compile wasmModule with
      | .error message =>
          ⟨.error (sandboxError (py "WASM module compilation failed: " ++ message)), [.compiles],
            false⟩
      | .ok module =>
          if module.imports ≠ [] then
            ⟨.error (sandboxError (py "Sandbox: module requires " ++ strNat module.imports.length ++
              py " unresolved import(s): " ++ join (py ", ") (module.imports.take 5) ++
              py ". All host-side imports are disabled for untrusted code.")), [.compiles], false⟩
          else
            callEntrypoint host wasmtime config store module
              (instantiate store module) entrypoint args

/-- `execute_untrusted_code`: no limit is set on the store. -/
def executeUntrustedCode (wasmModule : List Byte) (entrypoint : Str)
    (args : List wasmtime.machine.Arg) : Execution wasmtime.machine.Value :=
  executeIn host wasmtime config Store.new wasmModule entrypoint args

end Execution

end AgentOS
