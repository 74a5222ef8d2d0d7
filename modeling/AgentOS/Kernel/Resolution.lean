import AgentOS.Kernel.Config

/-!
# What configuration resolution reaches

`_resolve_dict` descends from a mapping into its values, and from a list into the mappings in
it. It is right about the whole tree exactly when it raises, or when every string that it does not
reach resolves to itself.
-/

namespace AgentOS

open Python

variable {κ σ : Type}

namespace Yaml

mutual

/-- The strings in a tree. -/
def leaves : Yaml κ σ → List Str
  | .str text => [text]
  | .scalar _ => []
  | .map fields => fieldLeaves fields
  | .list items => itemLeaves items

def fieldLeaves : List (κ × Yaml κ σ) → List Str
  | [] => []
  | (_, value) :: rest => value.leaves ++ fieldLeaves rest

def itemLeaves : List (Yaml κ σ) → List Str
  | [] => []
  | item :: rest => item.leaves ++ itemLeaves rest

end

mutual

/-- The strings in a value that `_resolve_dict` reaches. -/
def reached : Yaml κ σ → List Str
  | .str text => [text]
  | .scalar _ => []
  | .map fields => reachedFields fields
  | .list items => reachedItems items

def reachedFields : List (κ × Yaml κ σ) → List Str
  | [] => []
  | (_, value) :: rest => value.reached ++ reachedFields rest

def reachedItems : List (Yaml κ σ) → List Str
  | [] => []
  | .map fields :: rest => reachedFields fields ++ reachedItems rest
  | _ :: rest => reachedItems rest

end

mutual

/-- The strings in a value that stand in a list, or in a list in a list. -/
def missed : Yaml κ σ → List Str
  | .str _ => []
  | .scalar _ => []
  | .map fields => missedFields fields
  | .list items => missedItems items

def missedFields : List (κ × Yaml κ σ) → List Str
  | [] => []
  | (_, value) :: rest => value.missed ++ missedFields rest

def missedItems : List (Yaml κ σ) → List Str
  | [] => []
  | .map fields :: rest => missedFields fields ++ missedItems rest
  | item :: rest => item.leaves ++ missedItems rest

end

section Resolved

variable (resolve : Str → Except Exc Str)

mutual

/-- The second tree is the first one with all its strings resolved. -/
def Resolved : Yaml κ σ → Yaml κ σ → Prop
  | .str text, result => ∃ text', resolve text = .ok text' ∧ result = .str text'
  | .scalar value, result => result = .scalar value
  | .map fields, result => ∃ fields', ResolvedFields fields fields' ∧ result = .map fields'
  | .list items, result => ∃ items', ResolvedItems items items' ∧ result = .list items'

def ResolvedFields : List (κ × Yaml κ σ) → List (κ × Yaml κ σ) → Prop
  | [], result => result = []
  | (key, value) :: rest, result => ∃ value' rest', value.Resolved value' ∧
      ResolvedFields rest rest' ∧ result = (key, value') :: rest'

def ResolvedItems : List (Yaml κ σ) → List (Yaml κ σ) → Prop
  | [], result => result = []
  | item :: rest, result => ∃ item' rest', item.Resolved item' ∧
      ResolvedItems rest rest' ∧ result = item' :: rest'

end

variable {resolve}

theorem resolvedFields_cons {key : κ} {value value' : Yaml κ σ} {rest rest' : List (κ × Yaml κ σ)} :
    ResolvedFields resolve ((key, value) :: rest) ((key, value') :: rest') ↔
      value.Resolved resolve value' ∧ ResolvedFields resolve rest rest' := by
  constructor
  · rintro ⟨_, _, here, later, same⟩
    cases same
    exact ⟨here, later⟩
  · rintro ⟨here, later⟩
    exact ⟨_, _, here, later, rfl⟩

theorem resolvedItems_cons {item item' : Yaml κ σ} {rest rest' : List (Yaml κ σ)} :
    ResolvedItems resolve (item :: rest) (item' :: rest') ↔
      item.Resolved resolve item' ∧ ResolvedItems resolve rest rest' := by
  constructor
  · rintro ⟨_, _, here, later, same⟩
    cases same
    exact ⟨here, later⟩
  · rintro ⟨here, later⟩
    exact ⟨_, _, here, later, rfl⟩

theorem resolved_map {fields fields' : List (κ × Yaml κ σ)} :
    (map fields).Resolved resolve (map fields') ↔ ResolvedFields resolve fields fields' := by
  simp [Resolved]

theorem resolved_list {items items' : List (Yaml κ σ)} :
    (list items).Resolved resolve (list items') ↔ ResolvedItems resolve items items' := by
  simp [Resolved]

end Resolved

end Yaml

/-- Some part of the configuration is resolved; these of its strings are reached and these not. -/
structure Resolves {α : Type} (resolve : Str → Except Exc Str) (result : Except Exc α)
    (Correct : α → Prop) (reached missed : List Str) : Prop where
  raises : (∃ exc, result = .error exc) ↔ ∃ text ∈ reached, ∃ exc, resolve text = .error exc
  configError : ∀ exc, result = .error exc → exc.cls = .configError
  correct : ∀ value, result = .ok value → (Correct value ↔ ∀ text ∈ missed, resolve text = .ok text)

namespace Resolves

variable {α β γ : Type} {resolve : Str → Except Exc Str} {result : Except Exc α}
  {rest : Except Exc β} {Correct : α → Prop} {CorrectRest : β → Prop} {Both : γ → Prop}
  {reached missed reached' missed' : List Str}

/-- What is left alone. -/
theorem pure {value : α} (same : Correct value ↔ ∀ text ∈ missed, resolve text = .ok text) :
    Resolves resolve (.ok value) Correct [] missed where
  raises := by simp
  configError := by simp
  correct := by
    rintro _ ⟨⟩
    exact same

/-- What is raised in one part is raised. -/
theorem error {exc : Exc} (Other : β → Prop) (more : List Str)
    (inner : Resolves resolve (.error exc : Except Exc α) Correct reached missed)
    (later : ∀ text ∈ reached, text ∈ more) :
    Resolves resolve (.error exc : Except Exc β) Other more missed' := by
  rcases inner.raises.mp ⟨exc, rfl⟩ with ⟨text, mem, raised⟩
  refine ⟨⟨fun _ => ⟨text, later text mem, raised⟩, fun _ => ⟨exc, rfl⟩⟩, ?_, by simp⟩
  rintro _ ⟨⟩
  exact inner.configError exc rfl

/-- One part within another. -/
theorem map (inner : Resolves resolve result Correct reached missed) (build : α → β)
    (same : ∀ value, CorrectRest (build value) ↔ Correct value) :
    Resolves resolve (result >>= fun value => .ok (build value)) CorrectRest reached missed := by
  rcases result with exc | value
  · exact inner.error CorrectRest reached fun _ mem => mem
  · have quiet := inner.raises
    refine ⟨by simpa [bind, Except.bind] using quiet, by simp [bind, Except.bind], ?_⟩
    rintro _ ⟨⟩
    rw [same]
    exact inner.correct value rfl

/-- One part after another. -/
theorem both (first : Resolves resolve result Correct reached missed)
    (second : Resolves resolve rest CorrectRest reached' missed') (build : α → β → γ)
    (same : ∀ value other, Both (build value other) ↔ Correct value ∧ CorrectRest other) :
    Resolves resolve (result >>= fun value => rest >>= fun other => .ok (build value other)) Both
      (reached ++ reached') (missed ++ missed') := by
  rcases result with exc | value
  · exact first.error Both _ fun _ mem => List.mem_append_left _ mem
  · have quiet : ∀ text ∈ reached, ¬ ∃ exc, resolve text = .error exc := by
      intro text mem raised
      rcases first.raises.mpr ⟨text, mem, raised⟩ with ⟨exc, impossible⟩
      cases impossible
    rcases rest with exc | other
    · exact second.error Both _ fun _ mem => List.mem_append_right _ mem
    · have quiet' : ∀ text ∈ reached', ¬ ∃ exc, resolve text = .error exc := by
        intro text mem raised
        rcases second.raises.mpr ⟨text, mem, raised⟩ with ⟨exc, impossible⟩
        cases impossible
      refine ⟨⟨?_, ?_⟩, by simp [bind, Except.bind], ?_⟩
      · rintro ⟨exc, impossible⟩
        cases impossible
      · rintro ⟨text, mem, raised⟩
        rcases List.mem_append.mp mem with mem | mem
        · exact absurd raised (quiet text mem)
        · exact absurd raised (quiet' text mem)
      · rintro _ ⟨⟩
        rw [same, first.correct value rfl, second.correct other rfl]
        simp only [List.mem_append, or_imp, forall_and]

end Resolves

/-! ### The tree -/

section Tree

variable {environ : Str → Option Str}

theorem replaceReference_configError {reference : EnvReference} {exc : Exc}
    (raised : replaceReference environ reference = .error exc) : exc.cls = .configError := by
  unfold replaceReference at raised
  split at raised <;> cases raised
  rfl

/-- The only error of `_resolve_env_vars` is a `ConfigError`. -/
theorem substitute_configError {skip : ℕ} {behind : Option CodePoint} {text : Str} {exc : Exc}
    (raised : substitute environ skip behind text = .error exc) : exc.cls = .configError := by
  induction text generalizing skip behind with
  | nil => cases skip <;> cases raised
  | cons c text ih =>
      rcases skip with _ | skip
      · unfold substitute at raised
        rcases found : referenceAt behind (c :: text) with _ | reference <;> rw [found] at raised
        · rcases later : substitute environ 0 (some c) text with exc' | replaced <;>
            rw [later] at raised <;> cases raised
          exact ih later
        · rcases read : replaceReference environ reference with exc' | value <;>
            simp only [read] at raised
          · cases raised
            exact replaceReference_configError read
          · rcases later : substitute environ (reference.length - 1) (some c) text with
              exc' | replaced <;> rw [later] at raised <;> cases raised
            exact ih later
      · exact ih raised

mutual

/-- A tree that is left alone is resolved when all its strings resolve to themselves. -/
theorem resolved_self (resolve : Str → Except Exc Str) : ∀ tree : Yaml κ σ,
    tree.Resolved resolve tree ↔ ∀ text ∈ tree.leaves, resolve text = .ok text
  | .str text => by simp [Yaml.Resolved, Yaml.leaves]
  | .scalar value => by simp [Yaml.Resolved, Yaml.leaves]
  | .map fields => by
      rw [Yaml.resolved_map, resolved_self_fields resolve fields, Yaml.leaves]
  | .list items => by
      rw [Yaml.resolved_list, resolved_self_items resolve items, Yaml.leaves]

theorem resolved_self_fields (resolve : Str → Except Exc Str) : ∀ fields : List (κ × Yaml κ σ),
    Yaml.ResolvedFields resolve fields fields ↔
      ∀ text ∈ Yaml.fieldLeaves fields, resolve text = .ok text
  | [] => by simp [Yaml.ResolvedFields, Yaml.fieldLeaves]
  | (key, value) :: rest => by
      rw [Yaml.resolvedFields_cons, resolved_self resolve value, resolved_self_fields resolve rest]
      simp only [Yaml.fieldLeaves, List.mem_append, or_imp, forall_and]

theorem resolved_self_items (resolve : Str → Except Exc Str) : ∀ items : List (Yaml κ σ),
    Yaml.ResolvedItems resolve items items ↔
      ∀ text ∈ Yaml.itemLeaves items, resolve text = .ok text
  | [] => by simp [Yaml.ResolvedItems, Yaml.itemLeaves]
  | item :: rest => by
      rw [Yaml.resolvedItems_cons, resolved_self resolve item, resolved_self_items resolve rest]
      simp only [Yaml.itemLeaves, List.mem_append, or_imp, forall_and]

end

/-- An item of a list that is left alone. -/
theorem alone (environ : Str → Option Str) (item : Yaml κ σ) :
    Resolves (resolveEnvVars environ) (.ok item) (item.Resolved (resolveEnvVars environ)) []
      item.leaves :=
  .pure (resolved_self (resolveEnvVars environ) item)

/-- A string that is reached. -/
theorem resolveEnvVars_resolves (environ : Str → Option Str) (text : Str) :
    Resolves (resolveEnvVars environ) (resolveEnvVars environ text)
      (fun text' => resolveEnvVars environ text = .ok text') [text] [] where
  raises := by simp
  configError := fun _ => substitute_configError
  correct := by simp

mutual

theorem resolveValue_resolves (environ : Str → Option Str) : ∀ value : Yaml κ σ,
    Resolves (resolveEnvVars environ) (resolveValue environ value)
      (value.Resolved (resolveEnvVars environ)) value.reached value.missed
  | .str text => by
      rw [resolveValue, Yaml.reached, Yaml.missed]
      exact (resolveEnvVars_resolves environ text).map _ fun _ => by simp [Yaml.Resolved]
  | .scalar value => by
      rw [resolveValue, Yaml.reached, Yaml.missed]
      exact .pure (by simp [Yaml.Resolved])
  | .map fields => by
      rw [resolveValue, Yaml.reached, Yaml.missed]
      exact (resolveDict_resolves environ fields).map _ fun _ => Yaml.resolved_map
  | .list items => by
      rw [resolveValue, Yaml.reached, Yaml.missed]
      exact (resolveItems_resolves environ items).map _ fun _ => Yaml.resolved_list

theorem resolveDict_resolves (environ : Str → Option Str) : ∀ fields : List (κ × Yaml κ σ),
    Resolves (resolveEnvVars environ) (resolveDict environ fields)
      (Yaml.ResolvedFields (resolveEnvVars environ) fields) (Yaml.reachedFields fields)
      (Yaml.missedFields fields)
  | [] => .pure (by simp [Yaml.ResolvedFields, Yaml.missedFields])
  | (key, value) :: rest => by
      rw [resolveDict, Yaml.reachedFields, Yaml.missedFields]
      exact (resolveValue_resolves environ value).both (resolveDict_resolves environ rest) _
        fun _ _ => Yaml.resolvedFields_cons

theorem resolveItems_resolves (environ : Str → Option Str) : ∀ items : List (Yaml κ σ),
    Resolves (resolveEnvVars environ) (resolveItems environ items)
      (Yaml.ResolvedItems (resolveEnvVars environ) items) (Yaml.reachedItems items)
      (Yaml.missedItems items)
  | [] => .pure (by simp [Yaml.ResolvedItems, Yaml.missedItems])
  | .map fields :: rest => by
      rw [resolveItems, Yaml.reachedItems, Yaml.missedItems]
      refine (resolveDict_resolves environ fields).both (resolveItems_resolves environ rest) _
        fun _ _ => ?_
      rw [Yaml.resolvedItems_cons, Yaml.resolved_map]
  | .str text :: rest =>
      (alone environ (.str text)).both (resolveItems_resolves environ rest) List.cons
        fun _ _ => Yaml.resolvedItems_cons
  | .scalar value :: rest =>
      (alone environ (.scalar value)).both (resolveItems_resolves environ rest) List.cons
        fun _ _ => Yaml.resolvedItems_cons
  | .list items :: rest =>
      (alone environ (.list items)).both (resolveItems_resolves environ rest) List.cons
        fun _ _ => Yaml.resolvedItems_cons

end

mutual

/-- Every string is reached or missed. -/
theorem mem_leaves (text : Str) : ∀ value : Yaml κ σ,
    text ∈ value.leaves ↔ text ∈ value.reached ∨ text ∈ value.missed
  | .str other => by simp [Yaml.leaves, Yaml.reached, Yaml.missed]
  | .scalar value => by simp [Yaml.leaves, Yaml.reached, Yaml.missed]
  | .map fields => by
      rw [Yaml.leaves, Yaml.reached, Yaml.missed]
      exact mem_fieldLeaves text fields
  | .list items => by
      rw [Yaml.leaves, Yaml.reached, Yaml.missed]
      exact mem_itemLeaves text items

theorem mem_fieldLeaves (text : Str) : ∀ fields : List (κ × Yaml κ σ),
    text ∈ Yaml.fieldLeaves fields ↔
      text ∈ Yaml.reachedFields fields ∨ text ∈ Yaml.missedFields fields
  | [] => by simp [Yaml.fieldLeaves, Yaml.reachedFields, Yaml.missedFields]
  | (key, value) :: rest => by
      have here := mem_leaves text value
      have later := mem_fieldLeaves text rest
      simp only [Yaml.fieldLeaves, Yaml.reachedFields, Yaml.missedFields, List.mem_append, here,
        later]
      tauto

theorem mem_itemLeaves (text : Str) : ∀ items : List (Yaml κ σ),
    text ∈ Yaml.itemLeaves items ↔ text ∈ Yaml.reachedItems items ∨ text ∈ Yaml.missedItems items
  | [] => by simp [Yaml.itemLeaves, Yaml.reachedItems, Yaml.missedItems]
  | .map fields :: rest => by
      have here := mem_fieldLeaves text fields
      have later := mem_itemLeaves text rest
      simp only [Yaml.itemLeaves, Yaml.leaves, Yaml.reachedItems, Yaml.missedItems, List.mem_append,
        here, later]
      tauto
  | .str other :: rest => by
      have later := mem_itemLeaves text rest
      simp only [Yaml.itemLeaves, Yaml.reachedItems, Yaml.missedItems, List.mem_append, later]
      tauto
  | .scalar value :: rest => by
      have later := mem_itemLeaves text rest
      simp only [Yaml.itemLeaves, Yaml.reachedItems, Yaml.missedItems, List.mem_append, later]
      tauto
  | .list items :: rest => by
      have later := mem_itemLeaves text rest
      simp only [Yaml.itemLeaves, Yaml.reachedItems, Yaml.missedItems, List.mem_append, later]
      tauto

end

end Tree

/-! ### Reaching every string -/

/-- Resolving the string raises a `ConfigError`. -/
def RaisesConfigError {α : Type} (result : Except Exc α) : Prop :=
  ∃ exc : Exc, result = .error exc ∧ exc.cls = .configError

/-- The mapping is resolved as a whole, or raises because of one of its strings. -/
structure ReachesEvery (environ : Str → Option Str) (data : List (κ × Yaml κ σ)) : Prop where
  resolved : ∀ result, resolveDict environ data = .ok result →
    Yaml.ResolvedFields (resolveEnvVars environ) data result
  raises : RaisesConfigError (resolveDict environ data) ↔
    ∃ text ∈ Yaml.fieldLeaves data, RaisesConfigError (resolveEnvVars environ text)

theorem raisesConfigError_iff {α : Type} {result : Except Exc α}
    (configError : ∀ exc, result = .error exc → exc.cls = .configError) :
    RaisesConfigError result ↔ ∃ exc, result = .error exc := by
  constructor
  · rintro ⟨exc, raised, -⟩
    exact ⟨exc, raised⟩
  · rintro ⟨exc, raised⟩
    exact ⟨exc, raised, configError exc raised⟩

/-- Every string is reached exactly when one that is reached raises, or all the others resolve to
themselves. -/
theorem reachesEvery_iff (environ : Str → Option Str) (data : List (κ × Yaml κ σ)) :
    ReachesEvery environ data ↔
      (∃ text ∈ Yaml.reachedFields data, RaisesConfigError (resolveEnvVars environ text)) ∨
        ∀ text ∈ Yaml.missedFields data, resolveEnvVars environ text = .ok text := by
  have resolves := resolveDict_resolves environ data
  have plain : ∀ text, RaisesConfigError (resolveEnvVars environ text) ↔
      ∃ exc, resolveEnvVars environ text = .error exc := fun text =>
    raisesConfigError_iff fun _ => substitute_configError
  have whole := raisesConfigError_iff resolves.configError
  simp only [plain]
  rw [← resolves.raises]
  constructor
  · intro every
    rcases resolved : resolveDict environ data with exc | result
    · exact .inl ⟨exc, rfl⟩
    · exact .inr ((resolves.correct result resolved).mp (every.resolved result resolved))
  · intro condition
    refine ⟨fun result resolved => ?_, ?_⟩
    · rcases condition with ⟨exc, raised⟩ | fixed
      · cases resolved.symm.trans raised
      · exact (resolves.correct result resolved).mpr fixed
    · rw [whole]
      simp only [plain, mem_fieldLeaves]
      constructor
      · intro raised
        rcases resolves.raises.mp raised with ⟨text, mem, raised⟩
        exact ⟨text, .inl mem, raised⟩
      · rintro ⟨text, mem | mem, exc, raised⟩
        · exact resolves.raises.mpr ⟨text, mem, exc, raised⟩
        · rcases condition with raises | fixed
          · exact raises
          · cases raised.symm.trans (fixed text mem)

namespace Sample

/-- One variable is set. -/
def secretEnviron (name : Str) : Option Str :=
  if name = py "API_KEY" then some (py "s3cret") else none

/-- `keys: ["${API_KEY}"]`. -/
def keyList : List (Str × Yaml Str Unit) :=
  [(py "keys", .list [.str (py "$\x7bAPI_KEY\x7d")])]

/-- A list of strings keeps its placeholders. -/
theorem list_placeholder_kept : ¬ ReachesEvery secretEnviron keyList := by
  intro every
  rcases every.resolved keyList rfl with
    ⟨_, _, ⟨_, ⟨_, _, ⟨text, resolved, item⟩, -, items⟩, value⟩, -, fields⟩
  have secret : resolveEnvVars secretEnviron (py "$\x7bAPI_KEY\x7d") = .ok (py "s3cret") := by
    decide
  cases secret.symm.trans resolved
  simp_all [keyList, py]

end Sample

end AgentOS
