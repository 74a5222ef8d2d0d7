import Mathlib.Data.List.Nodup
import Mathlib.Data.Option.Basic

/-!
# Python dictionaries

A `dict` keeps its keys in insertion order and holds each key once: assigning to a
present key replaces the value in place, assigning to a new key appends.
-/

namespace Python

universe u v

/-- A Python `dict`. -/
structure Dict (κ : Type u) (α : Type v) where
  entries : List (κ × α)
  /-- No key occurs twice. -/
  nodup : (entries.map Prod.fst).Nodup

namespace Dict

variable {κ : Type u} {α : Type v}

@[ext]
theorem ext {left right : Dict κ α} (same : left.entries = right.entries) : left = right := by
  cases left
  cases right
  cases same
  rfl

instance [DecidableEq κ] [DecidableEq α] : DecidableEq (Dict κ α) := fun left right =>
  decidable_of_iff (left.entries = right.entries) ⟨ext, fun same => same ▸ rfl⟩

/-- The empty dictionary. -/
def empty : Dict κ α := ⟨[], by simp⟩

instance : Inhabited (Dict κ α) := ⟨empty⟩

/-- `list(d.keys())`. -/
def keys (dict : Dict κ α) : List κ := dict.entries.map Prod.fst

/-- `{k: v for k, v in d.items() if keep(k, v)}`. -/
def filter (dict : Dict κ α) (keep : κ → α → Bool) : Dict κ α :=
  ⟨dict.entries.filter fun entry => keep entry.1 entry.2,
    dict.nodup.sublist (List.filter_sublist.map _)⟩

variable [DecidableEq κ]

/-- `d.get(key)`. -/
def get? (dict : Dict κ α) (key : κ) : Option α := dict.entries.lookup key

/-- Assignment in a list of entries. -/
def setEntry (key : κ) (value : α) : List (κ × α) → List (κ × α)
  | [] => [(key, value)]
  | entry :: rest =>
      if entry.1 = key then (key, value) :: rest else entry :: setEntry key value rest

theorem mem_keys_setEntry {key other : κ} {value : α} {entries : List (κ × α)} :
    other ∈ (setEntry key value entries).map Prod.fst ↔
      other = key ∨ other ∈ entries.map Prod.fst := by
  induction entries with
  | nil => simp [setEntry]
  | cons entry rest ih =>
      unfold setEntry
      split
      · rename_i same
        simp [same]
      · rw [List.map_cons, List.mem_cons, ih, List.map_cons, List.mem_cons]
        tauto

theorem nodup_setEntry {key : κ} {value : α} {entries : List (κ × α)}
    (nodup : (entries.map Prod.fst).Nodup) :
    ((setEntry key value entries).map Prod.fst).Nodup := by
  induction entries with
  | nil => simp [setEntry]
  | cons entry rest ih =>
      rw [List.map_cons, List.nodup_cons] at nodup
      unfold setEntry
      split
      · rename_i same
        rw [List.map_cons, List.nodup_cons]
        exact ⟨same ▸ nodup.1, nodup.2⟩
      · rename_i differ
        rw [List.map_cons, List.nodup_cons, mem_keys_setEntry]
        exact ⟨by tauto, ih nodup.2⟩

/-- `d[key] = value`. -/
def set (dict : Dict κ α) (key : κ) (value : α) : Dict κ α :=
  ⟨setEntry key value dict.entries, nodup_setEntry dict.nodup⟩

/-- `d.pop(key, None)`. -/
def erase (dict : Dict κ α) (key : κ) : Dict κ α :=
  dict.filter fun other _ => other ≠ key

/-- The dictionary built by assigning the entries one after another. -/
def ofEntries (entries : List (κ × α)) : Dict κ α :=
  entries.foldl (fun dict entry => dict.set entry.1 entry.2) empty

theorem lookup_cons_ite (key : κ) (entry : κ × α) (rest : List (κ × α)) :
    (entry :: rest).lookup key = if key = entry.1 then some entry.2 else rest.lookup key := by
  obtain ⟨first, value⟩ := entry
  by_cases same : key = first
  · simp [same]
  · rw [List.lookup_cons, beq_eq_false_iff_ne.mpr same]
    simp [same]

@[simp]
theorem get?_empty (key : κ) : (empty : Dict κ α).get? key = none := rfl

theorem get?_set (dict : Dict κ α) (key other : κ) (value : α) :
    (dict.set key value).get? other = if other = key then some value else dict.get? other := by
  change (setEntry key value dict.entries).lookup other = _
  unfold get?
  induction dict.entries with
  | nil => simp [setEntry, lookup_cons_ite]
  | cons entry rest ih =>
      unfold setEntry
      split
      · rename_i same
        subst same
        simp only [lookup_cons_ite]
        split <;> simp_all
      · rename_i differ
        rw [lookup_cons_ite, lookup_cons_ite, ih]
        split <;> rename_i here
        · have : other ≠ key := fun same => differ (here.symm.trans same)
          simp [this]
        · rfl

@[simp]
theorem get?_set_self (dict : Dict κ α) (key : κ) (value : α) :
    (dict.set key value).get? key = some value := by
  simp [get?_set]

theorem get?_set_of_ne (dict : Dict κ α) {key other : κ} (value : α) (differ : other ≠ key) :
    (dict.set key value).get? other = dict.get? other := by
  simp [get?_set, differ]

theorem mem_of_get? {dict : Dict κ α} {key : κ} {value : α} (found : dict.get? key = some value) :
    (key, value) ∈ dict.entries := by
  obtain ⟨before, after, shape, -⟩ := List.lookup_eq_some_iff.mp found
  rw [shape]
  simp

theorem get?_of_mem {dict : Dict κ α} {key : κ} {value : α}
    (mem : (key, value) ∈ dict.entries) : dict.get? key = some value := by
  obtain ⟨entries, nodup⟩ := dict
  change entries.lookup key = some value
  induction entries with
  | nil => simp at mem
  | cons entry rest ih =>
      rw [List.map_cons, List.nodup_cons] at nodup
      rcases List.mem_cons.mp mem with rfl | later
      · simp
      · have differ : key ≠ entry.1 := by
          rintro rfl
          exact nodup.1 (List.mem_map.mpr ⟨_, later, rfl⟩)
        rw [lookup_cons_ite, if_neg differ]
        exact ih nodup.2 later

/-- Filtering keeps exactly the values that pass. -/
theorem get?_filter (dict : Dict κ α) (keep : κ → α → Bool) (key : κ) :
    (dict.filter keep).get? key = (dict.get? key).filter (keep key) := by
  rcases found : dict.get? key with _ | value
  · rw [Option.filter_none, Option.eq_none_iff_forall_ne_some]
    intro value kept
    have mem := mem_of_get? kept
    rw [get?_of_mem (List.mem_of_mem_filter mem)] at found
    simp at found
  · rw [Option.filter_some]
    split
    · rename_i passes
      exact get?_of_mem (List.mem_filter.mpr ⟨mem_of_get? found, passes⟩)
    · rename_i fails
      rw [Option.eq_none_iff_forall_ne_some]
      intro other kept
      have mem := List.mem_filter.mp (mem_of_get? kept)
      rw [get?_of_mem mem.1, Option.some.injEq] at found
      exact fails (found ▸ mem.2)

theorem get?_erase (dict : Dict κ α) (key other : κ) :
    (dict.erase key).get? other = if other = key then none else dict.get? other := by
  rw [erase, get?_filter]
  by_cases same : other = key
  · cases dict.get? other <;> simp [same]
  · cases found : dict.get? other <;> simp [same]

theorem setEntry_of_not_mem {key : κ} {value : α} {entries : List (κ × α)}
    (fresh : key ∉ entries.map Prod.fst) :
    setEntry key value entries = entries ++ [(key, value)] := by
  induction entries with
  | nil => rfl
  | cons entry rest ih =>
      rw [List.map_cons, List.mem_cons, not_or] at fresh
      rw [setEntry, if_neg (Ne.symm fresh.1), ih fresh.2, List.cons_append]

/-- Rebuilding a dictionary from its own entries gives it back. -/
@[simp]
theorem ofEntries_entries (dict : Dict κ α) : ofEntries dict.entries = dict := by
  have rebuild : ∀ (entries : List (κ × α)) (base : Dict κ α),
      ((base.entries ++ entries).map Prod.fst).Nodup →
        (entries.foldl (fun dict entry => dict.set entry.1 entry.2) base).entries =
          base.entries ++ entries := by
    intro entries
    induction entries with
    | nil => simp
    | cons entry rest ih =>
        intro base nodup
        have fresh : entry.1 ∉ base.entries.map Prod.fst := by
          rw [List.map_append, List.map_cons, List.nodup_middle, List.nodup_cons] at nodup
          exact fun mem => nodup.1 (List.mem_append_left _ mem)
        have grown : (base.set entry.1 entry.2).entries = base.entries ++ [entry] :=
          setEntry_of_not_mem fresh
        rw [List.foldl_cons, ih _ (by simpa [grown] using nodup), grown]
        simp
  apply ext
  simpa [ofEntries, empty] using rebuild dict.entries empty (by simpa [empty] using dict.nodup)

end Dict

end Python
