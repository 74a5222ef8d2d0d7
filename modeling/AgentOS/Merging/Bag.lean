import Mathlib.Data.Multiset.Count
import Mathlib.Data.List.Perm.Basic

/-!
# Merging into a bag

Merging an element creates it when the bag has none, and does nothing otherwise. What a batch of
merges leaves at one element depends only on whether the element is among them, so that the
order of the batch and its repetitions do not matter, nor does the batch matter when it is
repeated as a whole.
-/

namespace Merging

variable {α : Type} [DecidableEq α]

/-- How many elements are created, and the bag with the element. -/
def merge (element : α) (bag : Multiset α) : ℕ × Multiset α :=
  if element ∈ bag then (0, bag) else (1, element ::ₘ bag)

/-- The elements are merged one after another. -/
def mergeAll : List α → Multiset α → ℕ × Multiset α
  | [], bag => (0, bag)
  | element :: rest, bag =>
      let merged := merge element bag
      let later := mergeAll rest merged.2
      (merged.1 + later.1, later.2)

variable {element : α} {elements others : List α} {bag : Multiset α}

theorem count_merge (element : α) (bag : Multiset α) (x : α) :
    (merge element bag).2.count x =
      if x ∈ bag then bag.count x else if x = element then 1 else 0 := by
  by_cases mem : x ∈ bag
  · rw [if_pos mem]
    unfold merge
    split
    · rfl
    · rename_i absent
      have differ : x ≠ element := fun same => absent (same ▸ mem)
      exact Multiset.count_cons_of_ne differ bag
  · rw [if_neg mem]
    have none : bag.count x = 0 := Multiset.count_eq_zero.mpr mem
    unfold merge
    split
    · rename_i present
      have differ : x ≠ element := fun same => mem (same ▸ present)
      rw [none, if_neg differ]
    · rw [Multiset.count_cons, none, Nat.zero_add]

/-- What is created is what the bag grows by. -/
theorem card_merge (element : α) (bag : Multiset α) :
    (merge element bag).2.card = bag.card + (merge element bag).1 := by
  unfold merge
  split <;> simp

theorem mem_merge {x : α} : x ∈ (merge element bag).2 ↔ x = element ∨ x ∈ bag := by
  unfold merge
  split
  · rename_i present
    constructor
    · exact .inr
    · rintro (rfl | mem)
      · exact present
      · exact mem
  · exact Multiset.mem_cons

theorem merge_of_mem (present : element ∈ bag) : merge element bag = (0, bag) :=
  if_pos present

theorem mem_mergeAll {x : α} : x ∈ (mergeAll elements bag).2 ↔ x ∈ elements ∨ x ∈ bag := by
  induction elements generalizing bag with
  | nil => simp [mergeAll]
  | cons element rest ih =>
      simp only [mergeAll, ih, mem_merge, List.mem_cons]
      tauto

theorem card_mergeAll (elements : List α) (bag : Multiset α) :
    (mergeAll elements bag).2.card = bag.card + (mergeAll elements bag).1 := by
  induction elements generalizing bag with
  | nil => rfl
  | cons element rest ih => simp only [mergeAll, ih, card_merge, Nat.add_assoc]

/-- At every element the batch does what the set of its elements says. -/
theorem count_mergeAll (elements : List α) (bag : Multiset α) (x : α) :
    (mergeAll elements bag).2.count x =
      if x ∈ bag then bag.count x else if x ∈ elements then 1 else 0 := by
  induction elements generalizing bag with
  | nil =>
      by_cases mem : x ∈ bag <;> simp [mergeAll, mem]
  | cons element rest ih =>
      rw [mergeAll, ih, count_merge]
      simp only [mem_merge, List.mem_cons]
      by_cases mem : x ∈ bag
      · simp [mem]
      · by_cases same : x = element <;> simp [mem, same]

/-- Neither the order nor the repetitions of a batch matter. -/
theorem mergeAll_congr (same : ∀ x, x ∈ elements ↔ x ∈ others) (bag : Multiset α) :
    mergeAll elements bag = mergeAll others bag := by
  have bags : (mergeAll elements bag).2 = (mergeAll others bag).2 := by
    ext x
    rw [count_mergeAll, count_mergeAll, if_congr (same x) rfl rfl]
  have sizes := congrArg Multiset.card bags
  rw [card_mergeAll, card_mergeAll, Nat.add_left_cancel_iff] at sizes
  exact Prod.ext sizes bags

theorem mergeAll_perm (perm : elements.Perm others) (bag : Multiset α) :
    mergeAll elements bag = mergeAll others bag :=
  mergeAll_congr (fun _ => perm.mem_iff) bag

/-- What is there already is merged without an effect. -/
theorem mergeAll_of_subset (present : ∀ x ∈ elements, x ∈ bag) :
    mergeAll elements bag = (0, bag) := by
  induction elements with
  | nil => rfl
  | cons element rest ih =>
      have first := merge_of_mem (present element List.mem_cons_self)
      have later := ih fun x mem => present x (List.mem_cons_of_mem _ mem)
      simp only [mergeAll, first, later]

/-- A batch that is merged again creates nothing. -/
theorem mergeAll_again (elements : List α) (bag : Multiset α) :
    mergeAll elements (mergeAll elements bag).2 = (0, (mergeAll elements bag).2) :=
  mergeAll_of_subset fun _ mem => mem_mergeAll.mpr (.inl mem)

theorem mergeAll_append (elements others : List α) (bag : Multiset α) :
    mergeAll (elements ++ others) bag =
      ((mergeAll elements bag).1 + (mergeAll others (mergeAll elements bag).2).1,
        (mergeAll others (mergeAll elements bag).2).2) := by
  induction elements generalizing bag with
  | nil => simp [mergeAll]
  | cons element rest ih => simp only [List.cons_append, mergeAll, ih, Nat.add_assoc]

end Merging
