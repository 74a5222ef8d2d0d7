import AgentOS.Kernel.Exceptions

/-!
# Configuration

The loader replaces references to environment variables in the strings of the configuration
file: in the values of mappings, and in the values of the mappings in a list.
-/

namespace AgentOS

open Python

/-- A match of `_ENV_VAR_RE`: the variable, what follows its colon, and the length of the match. -/
structure EnvReference where
  name : Str
  default : Option Str
  length : ℕ

/-- `\$\{([^}:]+)(?::([^}]*))?\}` from behind the opening brace on. -/
def namedReference (body : Str) : Option EnvReference :=
  let name := body.takeWhile fun c => c ≠ 0x7D ∧ c ≠ 0x3A
  let rest := body.drop name.length
  if name = [] then none
  else if rest.head? = some 0x7D then some ⟨name, none, name.length + 3⟩
  else
    -- Behind the name stands a colon, or nothing.
    let default := rest.tail.takeWhile (· ≠ 0x7D)
    if rest.tail.drop default.length = [] then none
    else some ⟨name, some default, name.length + default.length + 4⟩

/-- `\$\{([^}]+)\}` from behind the opening brace on. -/
def plainReference (body : Str) : Option EnvReference :=
  let name := body.takeWhile (· ≠ 0x7D)
  if name = [] ∨ body.drop name.length = [] then none else some ⟨name, none, name.length + 3⟩

/-- The match of `_ENV_VAR_RE` at the beginning of a text, behind a character. -/
def referenceAt (behind : Option CodePoint) (text : Str) : Option EnvReference :=
  if startswith text (py "$\x7b") then
    match namedReference (text.drop 2) with
    | some reference => some reference
    | none => if behind = some 0x5C then none else plainReference (text.drop 2)
  else none

section Resolve

variable (environ : Str → Option Str)

/-- `_replace`. The `UnicodeEncodeError` that `os.environ.get` raises for a name with a lone
surrogate is left out. -/
def replaceReference (reference : EnvReference) : Except Exc Str :=
  match environ reference.name, reference.default with
  | some value, _ => .ok value
  | none, some default =>
      .ok (if startswith default (py "-") then default.drop 1 else default)
  | none, none =>
      .error ⟨.configError, py "Missing required environment variable: " ++ reference.name, none⟩

/-- `_ENV_VAR_RE.sub(_replace, text)` behind a character, while the first characters of the text
belong to the last match. -/
def substitute : ℕ → Option CodePoint → Str → Except Exc Str
  | _, _, [] => .ok []
  | skip + 1, _, c :: rest => substitute skip (some c) rest
  | 0, behind, c :: rest =>
      match referenceAt behind (c :: rest) with
      | some reference => do
          let value ← replaceReference environ reference
          let replaced ← substitute (reference.length - 1) (some c) rest
          return value ++ replaced
      | none => do
          let replaced ← substitute 0 (some c) rest
          return c :: replaced

/-- `_resolve_env_vars`. -/
def resolveEnvVars (value : Str) : Except Exc Str := substitute environ 0 none value

end Resolve

/-- What `yaml.safe_load` returns; the keys and the scalars other than strings are arbitrary. -/
inductive Yaml (κ σ : Type)
  | str (text : Str)
  | scalar (value : σ)
  | map (fields : List (κ × Yaml κ σ))
  | list (items : List (Yaml κ σ))

section Dict

variable {κ σ : Type} (environ : Str → Option Str)

mutual

/-- A value of a mapping in `_resolve_dict`. -/
def resolveValue : Yaml κ σ → Except Exc (Yaml κ σ)
  | .str text => do return .str (← resolveEnvVars environ text)
  | .map fields => do return .map (← resolveDict fields)
  | .list items => do return .list (← resolveItems items)
  | .scalar value => .ok (.scalar value)

/-- `_resolve_dict`. -/
def resolveDict : List (κ × Yaml κ σ) → Except Exc (List (κ × Yaml κ σ))
  | [] => .ok []
  | (key, value) :: rest => do
      let value ← resolveValue value
      let rest ← resolveDict rest
      return (key, value) :: rest

/-- The items of a list in `_resolve_dict`. -/
def resolveItems : List (Yaml κ σ) → Except Exc (List (Yaml κ σ))
  | [] => .ok []
  | .map fields :: rest => do
      let fields ← resolveDict fields
      let rest ← resolveItems rest
      return .map fields :: rest
  | item :: rest => do
      let rest ← resolveItems rest
      return item :: rest

end

end Dict

end AgentOS
