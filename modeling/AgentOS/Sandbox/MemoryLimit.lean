import AgentOS.Governance.Replay
import AgentOS.Sandbox.WasmExecutor

/-!
# The memory limit of the sandbox

`memory_limit_bytes` bounds the memory of a call exactly when a store with that limit would
refuse the module nothing.
-/

namespace AgentOS

open Python Wasm

section

variable (host : Host) (wasmtime : Wasmtime) (config : SandboxConfig) (wasmModule : List Byte)
  (entrypoint : Str) (args : List wasmtime.machine.Arg)

/-- The memory of a call is never beyond the limit, and what goes beyond it is stopped. -/
structure LimitEnforced : Prop where
  bounded : ∀ pages,
    .holds pages ∈ (executeUntrustedCode host wasmtime config wasmModule entrypoint args).history →
      (bytesOf pages : ℤ) ≤ config.memoryLimitBytes
  stopped : ∀ pages,
    .holds pages ∈ (executeUntrustedCode host wasmtime config wasmModule entrypoint args).history →
      config.memoryLimitBytes < bytesOf pages →
      ∃ message, (executeUntrustedCode host wasmtime config wasmModule entrypoint args).outcome =
        .error (sandboxError message)

/-- A store with the limit would refuse none of the memory that the call asks for. -/
def FitsLimit : Prop :=
  (executeIn host wasmtime config (Store.new.setLimit config.memoryLimitBytes) wasmModule entrypoint
    args).refused = false

end

/-- What the module declares, and what its start function and then its entrypoint ask for, is within
the limit. -/
structure RequestsWithin {machine : Machine} (limit : ℤ) (fuel : ℕ) (module : Wasm.Module machine)
    (entrypoint : Str) (args : List machine.Arg) : Prop where
  declared : (bytesOf (module.memories.map MemoryType.minimum) : ℤ) ≤ limit
  starts : ∀ state, module.start = some state → AsksWithin module.memories limit fuel state
    (module.memories.map MemoryType.minimum)
  calls : ∀ results enter state, (instantiate ⟨fuel, none⟩ module).result = .ok results →
    module.exports.get? entrypoint = some (.func enter) → enter args = .ok state →
      AsksWithin module.memories limit (instantiate ⟨fuel, none⟩ module).fuel state
        (instantiate ⟨fuel, none⟩ module).pages

variable {host : Host} {wasmtime : Wasmtime} {config : SandboxConfig}
  {module : Wasm.Module wasmtime.machine} {instance_ : Run (List wasmtime.machine.Value)}
  {entrypoint : Str} {args : List wasmtime.machine.Arg}

theorem limitEnforced_iff_bounded {wasmModule : List Byte} :
    LimitEnforced host wasmtime config wasmModule entrypoint args ↔ ∀ pages,
      .holds pages ∈
        (executeUntrustedCode host wasmtime config wasmModule entrypoint args).history →
        (bytesOf pages : ℤ) ≤ config.memoryLimitBytes := by
  refine ⟨LimitEnforced.bounded, fun bounded => ⟨bounded, fun pages held above => ?_⟩⟩
  exact absurd (bounded pages held) (not_le.mpr above)

/-- The memories of the instance are among those of the call. -/
theorem holds_of_instance (store : Store) {pages : List ℕ} (held : pages ∈ instance_.moments) :
    .holds pages ∈ (callEntrypoint host wasmtime config store module instance_ entrypoint
      args).history := by
  have begun : SandboxEvent.holds pages ∈ SandboxEvent.compiles :: instance_.moments.map .holds :=
    List.mem_cons_of_mem _ (List.mem_map_of_mem held)
  unfold callEntrypoint
  rcases instance_.result with _ | _
  · exact begun
  · rcases module.exports.get? entrypoint with _ | ⟨enter⟩ | _
    · exact begun
    · dsimp only
      rcases enter args with _ | state
      · exact begun
      · exact List.mem_append_left _ begun
    · exact begun

theorem refused_of_instance (store : Store) (refused : instance_.refused = true) :
    (callEntrypoint host wasmtime config store module instance_ entrypoint args).refused =
      true := by
  unfold callEntrypoint
  rcases instance_.result with _ | _
  · exact refused
  · rcases module.exports.get? entrypoint with _ | ⟨enter⟩ | _
    · exact refused
    · dsimp only
      rcases enter args with _ | state
      · exact refused
      · simp [refused]
    · exact refused

/-- From an instance within the limit on, a call stays within it exactly when it is refused
nothing. -/
theorem callEntrypoint_within_iff (fuel : ℕ) (limit : ℤ) (granted : instance_.refused = false)
    (within : ∀ moment ∈ instance_.moments, (bytesOf moment : ℤ) ≤ limit) :
    (∀ pages, .holds pages ∈ (callEntrypoint host wasmtime config ⟨fuel, none⟩ module instance_
        entrypoint args).history → (bytesOf pages : ℤ) ≤ limit) ↔
      (callEntrypoint host wasmtime config ⟨fuel, some limit⟩ module instance_ entrypoint
        args).refused = false := by
  have begun : ∀ pages, SandboxEvent.holds pages ∈
      SandboxEvent.compiles :: instance_.moments.map .holds → (bytesOf pages : ℤ) ≤ limit := by
    intro pages held
    simp only [List.mem_cons, reduceCtorEq, List.mem_map, SandboxEvent.holds.injEq,
      exists_eq_right, false_or] at held
    exact within pages held
  have idle : (∀ pages, SandboxEvent.holds pages ∈
      SandboxEvent.compiles :: instance_.moments.map .holds → (bytesOf pages : ℤ) ≤ limit) ↔
        instance_.refused = false := ⟨fun _ => granted, fun _ => begun⟩
  unfold callEntrypoint
  rcases instance_.result with _ | _
  · exact idle
  · rcases module.exports.get? entrypoint with _ | ⟨enter⟩ | _
    · exact idle
    · dsimp only
      rcases enter args with _ | state
      · exact idle
      · dsimp only
        rw [granted, Bool.false_or, ← run_within_iff]
        constructor
        · intro bounded moment held
          exact bounded moment (List.mem_append_right _ (List.mem_map_of_mem held))
        · intro bounded pages held
          rcases List.mem_append.mp held with held | held
          · exact begun pages held
          · rcases List.mem_map.mp held with ⟨moment, mem, same⟩
            cases same
            exact bounded _ mem
    · exact idle

/-- From an instance that was refused nothing on, a call is refused nothing exactly when its
entrypoint asks for nothing beyond the limit. -/
theorem callEntrypoint_refused_iff (fuel : ℕ) (limit : ℤ) (granted : instance_.refused = false) :
    (callEntrypoint host wasmtime config ⟨fuel, some limit⟩ module instance_ entrypoint
        args).refused = false ↔
      ∀ results enter state, instance_.result = .ok results →
        module.exports.get? entrypoint = some (.func enter) → enter args = .ok state →
          AsksWithin module.memories limit instance_.fuel state instance_.pages := by
  unfold callEntrypoint
  rcases instance_.result with message | results
  · exact ⟨fun _ _ _ _ ended => (nomatch ended), fun _ => granted⟩
  · rcases module.exports.get? entrypoint with _ | ⟨enter⟩ | _
    · exact ⟨fun _ _ _ _ _ found => (nomatch found), fun _ => granted⟩
    · dsimp only
      rcases entered : enter args with message | state
      · refine ⟨fun _ _ enter' _ _ same entered' => ?_, fun _ => granted⟩
        cases same
        cases entered.symm.trans entered'
      · dsimp only
        rw [granted, Bool.false_or, run_refused_iff]
        constructor
        · intro asks _ enter' state' _ same entered'
          cases same
          cases entered.symm.trans entered'
          exact asks
        · exact fun asks => asks results enter state rfl rfl entered
    · refine ⟨fun _ _ _ _ _ found => ?_, fun _ => granted⟩
      cases found

/-- What the store would refuse is what the module asks for, once it is instantiated at all. -/
theorem fitsLimit_iff (host : Host) (wasmtime : Wasmtime) (config : SandboxConfig)
    (wasmModule : List Byte) (entrypoint : Str) (args : List wasmtime.machine.Arg) :
    FitsLimit host wasmtime config wasmModule entrypoint args ↔ ∀ module,
      checkSensitivePathGrep config (decodeReplace wasmModule) = .ok () →
      wasmtime.compile wasmModule = .ok module → module.imports = [] →
        RequestsWithin config.memoryLimitBytes config.fuel module entrypoint args := by
  unfold FitsLimit executeIn
  rcases checkSensitivePathGrep config (decodeReplace wasmModule) with exc | ⟨⟩
  · exact ⟨fun _ _ clean => (nomatch clean), fun _ => rfl⟩
  rcases wasmtime.compile wasmModule with message | module
  · exact ⟨fun _ _ _ compiled => (nomatch compiled), fun _ => rfl⟩
  dsimp only
  split
  · rename_i imports
    refine ⟨fun _ module' _ same unimported => ?_, fun _ => rfl⟩
    cases same
    exact absurd unimported imports
  · rename_i imports
    have asked := instantiate_refused_iff config.fuel config.memoryLimitBytes module
    rcases instantiate_limited config.fuel config.memoryLimitBytes module with
      ⟨granted, same, -⟩ | ⟨refused, -⟩
    · change (callEntrypoint host wasmtime config ⟨config.fuel, some config.memoryLimitBytes⟩ module
        (instantiate ⟨config.fuel, some config.memoryLimitBytes⟩ module) entrypoint
          args).refused = false ↔ _
      rw [callEntrypoint_refused_iff _ _ granted, same]
      constructor
      · intro calls module' _ compiled _
        cases compiled
        exact ⟨(asked.mp granted).1, (asked.mp granted).2, calls⟩
      · exact fun requests => (requests module rfl rfl (not_not.mp imports)).calls
    · have refuses := @refused_of_instance host wasmtime config module _ entrypoint args
        ⟨config.fuel, some config.memoryLimitBytes⟩ refused
      constructor
      · exact fun fits => absurd (refuses.symm.trans fits) (by decide)
      · intro requests
        have within := requests module rfl rfl (not_not.mp imports)
        rw [asked.mpr ⟨within.declared, within.starts⟩] at refused
        cases refused

/-- The limit is enforced exactly for the calls that fit it by themselves. -/
theorem limitEnforced_iff (host : Host) (wasmtime : Wasmtime) (config : SandboxConfig)
    (wasmModule : List Byte) (entrypoint : Str) (args : List wasmtime.machine.Arg) :
    LimitEnforced host wasmtime config wasmModule entrypoint args ↔
      FitsLimit host wasmtime config wasmModule entrypoint args := by
  rw [limitEnforced_iff_bounded]
  unfold FitsLimit executeUntrustedCode executeIn
  rcases checkSensitivePathGrep config (decodeReplace wasmModule) with exc | ⟨⟩
  · simp
  · rcases wasmtime.compile wasmModule with message | module
    · simp
    · dsimp only
      split
      · simp
      · rcases instantiate_limited config.fuel config.memoryLimitBytes module with
          ⟨granted, same, within⟩ | ⟨refused, moment, held, above⟩
        · have free : (instantiate ⟨config.fuel, none⟩ module).refused = false := by
            rw [← same]
            exact granted
          change _ ↔ (callEntrypoint host wasmtime config
            ⟨config.fuel, some config.memoryLimitBytes⟩
            module (instantiate ⟨config.fuel, some config.memoryLimitBytes⟩ module) entrypoint
              args).refused = false
          rw [same]
          exact callEntrypoint_within_iff config.fuel config.memoryLimitBytes free within
        · constructor
          · intro bounded
            exact absurd (bounded moment (holds_of_instance _ held)) (not_le.mpr above)
          · intro fits
            have refuses := @refused_of_instance host wasmtime config module _ entrypoint args
              ⟨config.fuel, some config.memoryLimitBytes⟩ refused
            exact absurd (refuses.symm.trans fits) (by decide)

namespace Sample

/-- Code that returns at once. -/
def idleMachine : Machine where
  State := Unit
  Value := Unit
  Arg := Unit
  step := fun _ => .finish []

/-- `(module (memory 257) (func (export "main")))`: one page more than the 16 MiB. -/
def largeModule : Wasm.Module idleMachine where
  imports := []
  memories := [⟨257, maxPages, by decide, le_rfl⟩]
  start := none
  exports := Dict.ofEntries [(py "main", .func fun _ => .ok ())]

def largeModuleBytes : List Byte :=
  [0x00, 0x61, 0x73, 0x6D, 0x01, 0x00, 0x00, 0x00, 0x01, 0x04, 0x01, 0x60, 0x00, 0x00, 0x03, 0x02,
    0x01, 0x00, 0x05, 0x04, 0x01, 0x00, 0x81, 0x02, 0x07, 0x08, 0x01, 0x04, 0x6D, 0x61, 0x69, 0x6E,
    0x00, 0x00, 0x0A, 0x04, 0x01, 0x02, 0x00, 0x0B]

def idleWasmtime : Wasmtime where
  machine := idleMachine
  compile := fun bytes =>
    if bytes = largeModuleBytes then .ok largeModule else .error (py "unexpected end-of-file")

/-- The module gets its memory and returns. -/
theorem large_memory_granted : ¬ LimitEnforced steadyHost idleWasmtime .default largeModuleBytes
    (py "main") [] := by
  intro enforced
  have clean : checkSensitivePathGrep .default (decodeReplace largeModuleBytes) = .ok () := by
    decide
  have compiled : idleWasmtime.compile largeModuleBytes = .ok largeModule := by
    simp [idleWasmtime]
  have held : .holds [257] ∈ (executeUntrustedCode steadyHost idleWasmtime .default
      largeModuleBytes (py "main") []).history := by
    rw [executeUntrustedCode, executeIn, clean, compiled]
    decide
  exact absurd (enforced.bounded [257] held) (by decide)

end Sample

end AgentOS
