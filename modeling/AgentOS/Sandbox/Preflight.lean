import AgentOS.Governance.Replay
import AgentOS.Sandbox.WasmExecutor

/-!
# The pre-flight scan

The scan for sensitive paths misses no ASCII path that the module holds in one piece, in small
letters or in capitals and between any bytes.
-/

namespace AgentOS

open Python Wasm

/-- The bytes spell the text, in ASCII letters of either case. -/
def Spells (bytes : List Byte) (text : Str) : Prop :=
  bytes.map (fun b => asciiLower b.val) = text.map fun c => asciiLower c.val

variable {config : SandboxConfig} {path : Str} {spelling : List Byte}

theorem asciiLower_lt_iff (c : ℕ) : asciiLower c < 0x80 ↔ c < 0x80 := by
  unfold asciiLower
  split <;> omega

/-- What spells an ASCII text is ASCII itself. -/
theorem ascii_of_spells (spells : Spells spelling path) (ascii : ∀ c ∈ path, c.val < 0x80) :
    ∀ b ∈ spelling, b.val < 0x80 := by
  intro b mem
  have image : asciiLower b.val ∈ path.map fun c => asciiLower c.val := by
    rw [← spells]
    exact List.mem_map_of_mem mem
  rcases List.mem_map.mp image with ⟨c, mem, same⟩
  rw [← asciiLower_lt_iff, ← same, asciiLower_lt_iff]
  exact ascii c mem

/-- In small letters, the decoded spelling is the text. -/
theorem lower_spelling (spells : Spells spelling path) (ascii : ∀ c ∈ path, c.val < 0x80) :
    lower (spelling.map ofByte) = lower path := by
  have decoded : ∀ c ∈ spelling.map ofByte, c.val < 0x80 := by
    intro c mem
    rcases List.mem_map.mp mem with ⟨b, listed, rfl⟩
    exact ascii_of_spells spells ascii b listed
  have codes := congrArg (List.map (Fin.ofNat 0x110000)) spells
  rw [List.map_map, List.map_map] at codes
  rw [lower_ascii decoded, lower_ascii ascii, List.map_map]
  exact codes

/-- The scan raises when the text holds one of the paths. -/
theorem checkSensitivePathGrep_of_contains {codeStr : Str} (listed : path ∈ config.sensitivePaths)
    (holds : contains (lower codeStr) (lower path) = true) :
    ∃ message, checkSensitivePathGrep config codeStr = .error (sandboxError message) := by
  unfold checkSensitivePathGrep
  rcases found : config.sensitivePaths.find? fun path => contains (lower codeStr) (lower path) with
    _ | first
  · have missed := List.find?_eq_none.mp found path listed
    exact absurd holds missed
  · exact ⟨_, rfl⟩

/-- The scan stops every module that spells one of the paths, before it is compiled. -/
theorem preflight_complete (host : Host) (wasmtime : Wasmtime)
    (listed : path ∈ config.sensitivePaths) (nonempty : path ≠ [])
    (ascii : ∀ c ∈ path, c.val < 0x80)
    (spells : Spells spelling path) (before after : List Byte) (entrypoint : Str)
    (args : List wasmtime.machine.Arg) :
    ∃ message, executeUntrustedCode host wasmtime config (before ++ spelling ++ after) entrypoint
      args = ⟨.error (sandboxError message), [], false⟩ := by
  have solid : spelling ≠ [] := by
    rintro rfl
    exact nonempty (List.map_eq_nil_iff.mp spells.symm)
  have decoded := decodeReplace_ascii (ascii_of_spells spells ascii) solid before after
  have found := lower_infix decoded
  rw [lower_spelling spells ascii] at found
  rcases checkSensitivePathGrep_of_contains listed ((contains_iff _ _).mpr found) with
    ⟨message, stopped⟩
  refine ⟨message, ?_⟩
  rw [executeUntrustedCode, executeIn, stopped]

namespace Sample

/-- The path in mixed letters, behind the broken start of a character. -/
theorem broken_context_stopped : ∃ message, executeUntrustedCode steadyHost ⟨⟨Unit, Unit, Unit,
      fun _ => .finish []⟩, fun _ => .error (py "magic header not detected")⟩ .default
    ([0xE2, 0x82] ++ [0x2F, 0x50, 0x72, 0x6F, 0x43] ++ [0xFF]) (py "main") [] =
      ⟨.error (sandboxError message), [], false⟩ :=
  preflight_complete steadyHost _ (by decide : py "/proc" ∈ SandboxConfig.default.sensitivePaths)
    (by decide) (by simp [py]) (by simp [Spells, asciiLower, py]) _ _ _ _

end Sample

end AgentOS
