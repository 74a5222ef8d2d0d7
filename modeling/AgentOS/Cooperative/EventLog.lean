import Mathlib.Data.List.Infix

/-!
# Event logs

A log lists events, newest first. `Each law` says that every event of a log stands in the
relation `law` to the events before it, which is how statements about the order of events
are made: an event justified by earlier ones, or one that never follows another.
-/

namespace Cooperative

namespace EventLog

variable {ε : Type} {law law' : ε → List ε → Prop}

/-- Every event obeys the law with respect to the events before it. -/
def Each (law : ε → List ε → Prop) : List ε → Prop
  | [] => True
  | event :: earlier => law event earlier ∧ Each law earlier

instance (law : ε → List ε → Prop) [∀ event earlier, Decidable (law event earlier)] :
    (log : List ε) → Decidable (Each law log)
  | [] => inferInstanceAs (Decidable True)
  | event :: earlier =>
      have := instDecidableEach law earlier
      inferInstanceAs (Decidable (law event earlier ∧ Each law earlier))

@[simp]
theorem each_nil : Each law [] := trivial

theorem Each.suffix {log earlier : List ε} (each : Each law log) (before : earlier <:+ log) :
    Each law earlier := by
  rcases before with ⟨later, rfl⟩
  induction later with
  | nil => exact each
  | cons event later ih => exact ih each.2

/-- The law at a position of the log. -/
theorem each_iff {log : List ε} :
    Each law log ↔ ∀ later event earlier, log = later ++ event :: earlier → law event earlier := by
  constructor
  · rintro each later event earlier rfl
    exact (each.suffix (List.suffix_append later (event :: earlier))).1
  · intro all
    induction log with
    | nil => trivial
    | cons event earlier ih =>
        refine ⟨all [] event earlier rfl, ih ?_⟩
        rintro later other before rfl
        exact all (event :: later) other before rfl

theorem Each.of_mem {log : List ε} (each : Each law log) {event : ε} (mem : event ∈ log) :
    ∃ earlier, earlier <:+ log ∧ law event earlier := by
  rcases List.append_of_mem mem with ⟨later, earlier, rfl⟩
  refine ⟨earlier, ?_, each_iff.mp each later event earlier rfl⟩
  exact (List.suffix_cons event earlier).trans (List.suffix_append later _)

/-- A law that only looks at some of the events holds of these alone. -/
theorem Each.filter {keeps : ε → Bool} {log : List ε} (each : Each law log)
    (looks : ∀ event earlier, law event earlier → law event (earlier.filter keeps)) :
    Each law (log.filter keeps) := by
  induction log with
  | nil => trivial
  | cons event earlier ih =>
      rw [List.filter_cons]
      split
      · exact ⟨looks event earlier each.1, ih each.2⟩
      · exact ih each.2

end EventLog

/-- A place in a sequence that grew at its end is the new one, or it was there before. -/
theorem concat_eq_append_cons_iff {ε : Type} {events before rest : List ε} {event last : ε} :
    events ++ [last] = before ++ event :: rest ↔
      (events = before ∧ last = event ∧ rest = []) ∨
        ∃ middle, rest = middle ++ [last] ∧ events = before ++ event :: middle := by
  constructor
  · intro split
    rcases List.eq_nil_or_concat rest with rfl | ⟨middle, final, rfl⟩
    · left
      simpa using split
    · right
      rw [List.concat_eq_append, ← List.cons_append, ← List.append_assoc] at split
      have same := List.append_inj' split rfl
      cases same.2
      exact ⟨middle, List.concat_eq_append, same.1⟩
  · rintro (⟨rfl, rfl, rfl⟩ | ⟨middle, rfl, rfl⟩)
    · rfl
    · simp

end Cooperative
