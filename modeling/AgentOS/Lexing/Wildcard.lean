import Mathlib.Data.List.Infix

/-!
# Wildcard patterns

A pattern is a list of items over an arbitrary alphabet: one item takes any text, the others
take one character of a kind. The alphabet may be characters, or the segments of a path.
-/

namespace Lexing

/-- An item of a wildcard pattern. -/
inductive Item (α : Type)
  | anything
  | one (accepts : α → Bool)

variable {α : Type}

/-- Whether the items take the whole text. -/
def matchItems : List (Item α) → List α → Bool
  | [], text => text.isEmpty
  | .anything :: items, text => text.tails.any (matchItems items)
  | .one _ :: _, [] => false
  | .one accepts :: items, char :: text => accepts char && matchItems items text

variable {items items' : List (Item α)} {text : List α}

@[simp]
theorem matchItems_nil : matchItems [] text = true ↔ text = [] := by
  simp [matchItems]

theorem matchItems_anything : matchItems (.anything :: items) text = true ↔
    ∃ skipped rest, text = skipped ++ rest ∧ matchItems items rest = true := by
  simp only [matchItems, List.any_eq_true, List.mem_tails]
  constructor
  · rintro ⟨rest, ⟨skipped, rfl⟩, taken⟩
    exact ⟨skipped, rest, rfl, taken⟩
  · rintro ⟨skipped, rest, rfl, taken⟩
    exact ⟨rest, ⟨skipped, rfl⟩, taken⟩

theorem matchItems_one {accepts : α → Bool} : matchItems (.one accepts :: items) text = true ↔
    ∃ char rest, text = char :: rest ∧ accepts char = true ∧ matchItems items rest = true := by
  cases text with
  | nil => simp [matchItems]
  | cons char text => simp [matchItems]

/-- Two patterns in a row take a text in two parts. -/
theorem matchItems_append : matchItems (items ++ items') text = true ↔
    ∃ front back, text = front ++ back ∧
      matchItems items front = true ∧ matchItems items' back = true := by
  induction items generalizing text with
  | nil => simp
  | cons item items ih =>
      cases item with
      | anything =>
          simp only [List.cons_append, matchItems_anything, ih]
          constructor
          · rintro ⟨skipped, _, rfl, front, back, rfl, taken, taken'⟩
            exact ⟨skipped ++ front, back, by simp, ⟨skipped, front, rfl, taken⟩, taken'⟩
          · rintro ⟨_, back, rfl, ⟨skipped, front, rfl, taken⟩, taken'⟩
            exact ⟨skipped, front ++ back, by simp, front, back, rfl, taken, taken'⟩
      | one accepts =>
          simp only [List.cons_append, matchItems_one, ih]
          constructor
          · rintro ⟨char, _, rfl, accepted, front, back, rfl, taken, taken'⟩
            exact ⟨char :: front, back, by simp, ⟨char, front, rfl, accepted, taken⟩, taken'⟩
          · rintro ⟨_, back, rfl, ⟨char, front, rfl, accepted, taken⟩, taken'⟩
            exact ⟨char, front ++ back, by simp, accepted, front, back, rfl, taken, taken'⟩

/-- Every character of the pattern that stands for itself. -/
def literally [DecidableEq α] (text : List α) : List (Item α) :=
  text.map fun char => .one (· = char)

theorem matchItems_literally [DecidableEq α] {expected : List α} :
    matchItems (literally expected) text = true ↔ text = expected := by
  induction expected generalizing text with
  | nil => simp [literally]
  | cons char expected ih =>
      simp only [literally, List.map_cons] at ih ⊢
      rw [matchItems_one]
      constructor
      · rintro ⟨_, rest, rfl, same, taken⟩
        rw [ih.mp taken, of_decide_eq_true same]
      · rintro rfl
        exact ⟨char, expected, rfl, by simp, ih.mpr rfl⟩

/-- A literal beginning is taken off the text. -/
theorem matchItems_literally_append [DecidableEq α] {expected : List α} :
    matchItems (literally expected ++ items) text = true ↔
      ∃ rest, text = expected ++ rest ∧ matchItems items rest = true := by
  rw [matchItems_append]
  constructor
  · rintro ⟨front, back, rfl, taken, taken'⟩
    rw [matchItems_literally.mp taken]
    exact ⟨back, rfl, taken'⟩
  · rintro ⟨rest, rfl, taken⟩
    exact ⟨expected, rest, rfl, matchItems_literally.mpr rfl, taken⟩

end Lexing
