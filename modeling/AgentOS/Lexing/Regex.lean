import Mathlib.Data.List.Infix

/-!
# Backtracking search

Regular expressions as a backtracking engine tries them: alternatives in their order,
repetitions as long as they can, the first success counts. A search reports the matches from
left to right, and goes on behind each. There are no anchors, so that text after a match
can only make it longer.
-/

namespace Lexing

/-- A regular expression; only single characters are repeated. -/
inductive Regex (α : Type)
  | empty
  | one (accepts : α → Bool)
  | many (accepts : α → Bool)
  | seq (first second : Regex α)
  | alt (first second : Regex α)

variable {α : Type}

/-- What a greedy repetition leaves, longest repetition first. -/
def manyRests (accepts : α → Bool) : List α → List (List α)
  | [] => [[]]
  | char :: text =>
      if accepts char then manyRests accepts text ++ [char :: text] else [char :: text]

namespace Regex

/-- What a match at the start of the text leaves, in the order in which matches are tried. -/
def rests : Regex α → List α → List (List α)
  | empty, text => [text]
  | one _, [] => []
  | one accepts, char :: text => if accepts char then [text] else []
  | many accepts, text => manyRests accepts text
  | seq first second, text => (rests first text).flatMap (rests second)
  | alt first second, text => rests first text ++ rests second text

/-- The words of the language. -/
def Spells : Regex α → List α → Prop
  | empty, word => word = []
  | one accepts, word => ∃ char, word = [char] ∧ accepts char = true
  | many accepts, word => ∀ char ∈ word, accepts char = true
  | seq first second, word =>
      ∃ front back, word = front ++ back ∧ Spells first front ∧ Spells second back
  | alt first second, word => Spells first word ∨ Spells second word

/-- The first match at the start of a text, unless it is empty. -/
def start (regex : Regex α) (text : List α) : Option (List α) :=
  (regex.rests text).head?.bind fun rest =>
    if rest.length = text.length then none else some (text.take (text.length - rest.length))

/-- The matches that a search reports from a position on, with their positions; some characters
still belong to the last match. Empty matches are left out. -/
def foundFrom (regex : Regex α) : ℕ → ℕ → List α → List (ℕ × List α)
  | _, _, [] => []
  | pos, skip + 1, _ :: text => foundFrom regex (pos + 1) skip text
  | pos, 0, char :: text =>
      match regex.start (char :: text) with
      | none => foundFrom regex (pos + 1) 0 text
      | some word => (pos, word) :: foundFrom regex (pos + 1) (word.length - 1) text

/-- The matches of a text with their positions. -/
def found (regex : Regex α) (text : List α) : List (ℕ × List α) := regex.foundFrom 0 0 text

end Regex

theorem mem_manyRests {accepts : α → Bool} {text rest : List α} :
    rest ∈ manyRests accepts text ↔
      ∃ word, text = word ++ rest ∧ ∀ char ∈ word, accepts char = true := by
  induction text with
  | nil =>
      simp only [manyRests, List.mem_singleton]
      constructor
      · rintro rfl
        exact ⟨[], rfl, by simp⟩
      · rintro ⟨word, split, -⟩
        exact (List.append_eq_nil_iff.mp split.symm).2
  | cons char text ih =>
      simp only [manyRests]
      split
      · rename_i accepted
        rw [List.mem_append, ih, List.mem_singleton]
        constructor
        · rintro (⟨word, rfl, all⟩ | rfl)
          · exact ⟨char :: word, rfl, by simpa [accepted] using all⟩
          · exact ⟨[], rfl, by simp⟩
        · rintro ⟨word, split, all⟩
          cases word with
          | nil => exact .inr split.symm
          | cons first word =>
              rw [List.cons_append, List.cons.injEq] at split
              exact .inl ⟨word, split.2, fun c mem => all c (List.mem_cons_of_mem _ mem)⟩
      · rename_i refused
        rw [List.mem_singleton]
        constructor
        · rintro rfl
          exact ⟨[], rfl, by simp⟩
        · rintro ⟨word, split, all⟩
          cases word with
          | nil => exact split.symm
          | cons first word =>
              rw [List.cons_append, List.cons.injEq] at split
              rw [split.1] at refused
              exact absurd (all first List.mem_cons_self) refused

namespace Regex

/-- The engine tries exactly the words of the language. -/
theorem mem_rests {regex : Regex α} {text rest : List α} :
    rest ∈ regex.rests text ↔ ∃ word, text = word ++ rest ∧ regex.Spells word := by
  induction regex generalizing text rest with
  | empty =>
      simp only [rests, List.mem_singleton, Spells]
      constructor
      · rintro rfl
        exact ⟨[], rfl, rfl⟩
      · rintro ⟨_, split, rfl⟩
        exact split.symm
  | one accepts =>
      cases text with
      | nil => simp [rests, Spells]
      | cons char text =>
          simp only [rests, Spells]
          constructor
          · intro mem
            split at mem
            · rename_i accepted
              rw [List.mem_singleton.mp mem]
              exact ⟨[char], rfl, char, rfl, accepted⟩
            · cases mem
          · rintro ⟨_, split, single, rfl, accepted⟩
            rw [List.singleton_append, List.cons.injEq] at split
            simp [split.1, split.2, accepted]
  | many accepts => exact mem_manyRests
  | seq first second ihFirst ihSecond =>
      simp only [rests, List.mem_flatMap, ihFirst, ihSecond, Spells]
      constructor
      · rintro ⟨_, ⟨front, rfl, spelled⟩, back, rfl, spelled'⟩
        exact ⟨front ++ back, by simp, front, back, rfl, spelled, spelled'⟩
      · rintro ⟨_, rfl, front, back, rfl, spelled, spelled'⟩
        exact ⟨back ++ rest, ⟨front, by simp, spelled⟩, back, rfl, spelled'⟩
  | alt first second ihFirst ihSecond =>
      simp only [rests, List.mem_append, ihFirst, ihSecond, Spells]
      constructor
      · rintro (⟨word, split, spelled⟩ | ⟨word, split, spelled⟩)
        · exact ⟨word, split, .inl spelled⟩
        · exact ⟨word, split, .inr spelled⟩
      · rintro ⟨word, split, spelled | spelled⟩
        · exact .inl ⟨word, split, spelled⟩
        · exact .inr ⟨word, split, spelled⟩

/-- A match leaves an end of the text. -/
theorem length_le_of_mem_rests {regex : Regex α} {text rest : List α}
    (tried : rest ∈ regex.rests text) : rest.length ≤ text.length := by
  obtain ⟨word, rfl, -⟩ := mem_rests.mp tried
  simp

end Regex

theorem filter_manyRests_append {accepts : α → Bool} {text more : List α} :
    (manyRests accepts (text ++ more)).filter (more.length ≤ ·.length) =
      (manyRests accepts text).map (· ++ more) := by
  induction text with
  | nil =>
      cases more with
      | nil => simp [manyRests]
      | cons char more =>
          have beyond : ∀ rest ∈ manyRests accepts more, ¬ (char :: more).length ≤ rest.length := by
            intro rest tried
            have shorter : rest.length ≤ more.length :=
              Regex.length_le_of_mem_rests (show rest ∈ (Regex.many accepts).rests more from tried)
            simp only [List.length_cons]
            omega
          have none : (manyRests accepts more).filter ((char :: more).length ≤ ·.length) = [] :=
            List.filter_eq_nil_iff.mpr fun rest tried => by simpa using beyond rest tried
          simp only [List.nil_append, manyRests]
          split
          · rw [List.filter_append, none]
            simp
          · simp
  | cons char text ih =>
      simp only [List.cons_append, manyRests]
      split
      · rw [List.filter_append, ih, List.map_append]
        simp [Nat.le_add_right_of_le]
      · simp [Nat.le_add_right_of_le]

namespace Regex

/-- Text after the end adds matches that go beyond it, and leaves the others in their order. -/
theorem filter_rests_append (regex : Regex α) (text more : List α) :
    (regex.rests (text ++ more)).filter (more.length ≤ ·.length) =
      (regex.rests text).map (· ++ more) := by
  induction regex generalizing text with
  | empty => simp [rests]
  | one accepts =>
      cases text with
      | nil =>
          cases more with
          | nil => rfl
          | cons char more =>
              simp only [List.nil_append, rests]
              split <;> simp
      | cons char text =>
          simp only [List.cons_append, rests]
          split <;> simp
  | many accepts => exact filter_manyRests_append
  | seq first second ihFirst ihSecond =>
      have pruned : ∀ tails : List (List α),
          (tails.flatMap second.rests).filter (more.length ≤ ·.length) =
            (tails.filter (more.length ≤ ·.length)).flatMap fun tail =>
              (second.rests tail).filter (more.length ≤ ·.length) := by
        intro tails
        induction tails with
        | nil => rfl
        | cons tail tails ih =>
            rw [List.flatMap_cons, List.filter_append, ih]
            by_cases within : more.length ≤ tail.length
            · rw [List.filter_cons_of_pos (by simpa using within), List.flatMap_cons]
            · rw [List.filter_cons_of_neg (by simpa using within)]
              have none : (second.rests tail).filter (more.length ≤ ·.length) = [] := by
                refine List.filter_eq_nil_iff.mpr fun rest tried => ?_
                have shorter := length_le_of_mem_rests tried
                simp only [decide_eq_true_eq]
                omega
              rw [none, List.nil_append]
      rw [rests, pruned, ihFirst, List.flatMap_map, rests, List.map_flatMap]
      exact congrArg (List.flatMap · _) (funext fun tail => ihSecond tail)
  | alt first second ihFirst ihSecond =>
      rw [rests, List.filter_append, ihFirst, ihSecond, rests, List.map_append]

theorem start_eq_some_iff {regex : Regex α} {text word : List α} :
    regex.start text = some word ↔
      word ≠ [] ∧ ∃ rest, (regex.rests text).head? = some rest ∧ text = word ++ rest := by
  rw [start]
  cases first : (regex.rests text).head? with
  | none => simp
  | some rest =>
      obtain ⟨front, rfl, -⟩ := mem_rests.mp (List.mem_of_mem_head? first)
      have taken : (front ++ rest).take ((front ++ rest).length - rest.length) = front := by
        simp
      rw [Option.bind_some, taken]
      by_cases empty : front = []
      · subst empty
        simp only [List.nil_append, if_true, reduceCtorEq, false_iff]
        rintro ⟨filled, rest', same, split⟩
        rw [Option.some.injEq] at same
        subst same
        exact filled (List.append_left_eq_self.mp split.symm)
      · have longer : rest.length ≠ (front ++ rest).length := by
          simpa using empty
        rw [if_neg longer, Option.some.injEq]
        constructor
        · rintro rfl
          exact ⟨empty, rest, rfl, rfl⟩
        · rintro ⟨-, rest', same, split⟩
          rw [Option.some.injEq] at same
          subst same
          exact (List.append_cancel_right split)

/-- A match is a word of the language. -/
theorem spells_of_start {regex : Regex α} {text word : List α}
    (matched : regex.start text = some word) : regex.Spells word := by
  obtain ⟨-, rest, first, rfl⟩ := start_eq_some_iff.mp matched
  obtain ⟨word', split, spelled⟩ := mem_rests.mp (List.mem_of_mem_head? first)
  rwa [List.append_cancel_right split]

/-- The match at the start of a text grows with the text. -/
theorem start_append {regex : Regex α} {text word : List α} (more : List α)
    (matched : regex.start text = some word) :
    ∃ longer, regex.start (text ++ more) = some longer ∧ word <+: longer := by
  obtain ⟨filled, rest, first, rfl⟩ := start_eq_some_iff.mp matched
  have within := regex.filter_rests_append (word ++ rest) more
  obtain ⟨later, tried⟩ := List.head?_eq_some_iff.mp first
  rw [tried, List.map_cons] at within
  cases extended : regex.rests (word ++ rest ++ more) with
  | nil =>
      rw [extended] at within
      cases within
  | cons rest' others =>
      rw [extended] at within
      have leading : (regex.rests (word ++ rest ++ more)).head? = some rest' := by
        rw [extended, List.head?_cons]
      by_cases inside : more.length ≤ rest'.length
      · -- The new first match ends within the old text, so it is the old one.
        rw [List.filter_cons_of_pos (by simpa using inside), List.cons.injEq] at within
        obtain ⟨rfl, -⟩ := within
        exact ⟨word, start_eq_some_iff.mpr ⟨filled, _, leading, by simp⟩, List.prefix_rfl⟩
      · obtain ⟨longer, split, -⟩ := mem_rests.mp (List.mem_of_mem_head? leading)
        have long : (word ++ rest).length < longer.length := by
          have lengths := congrArg List.length split
          simp only [List.length_append] at lengths ⊢
          omega
        have covering : word ++ rest <+: longer :=
          List.prefix_of_prefix_length_le ⟨more, rfl⟩ ⟨rest', split.symm⟩ long.le
        have nonempty : longer ≠ [] := List.ne_nil_of_length_pos (by omega)
        exact ⟨longer, start_eq_some_iff.mpr ⟨nonempty, rest', leading, split⟩,
          (List.prefix_append word rest).trans covering⟩

theorem start_nil (regex : Regex α) : regex.start [] = none := by
  by_contra matched
  obtain ⟨word, matched⟩ := Option.ne_none_iff_exists'.mp matched
  obtain ⟨filled, rest, -, split⟩ := start_eq_some_iff.mp matched
  exact filled (List.append_eq_nil_iff.mp split.symm).1

/-- The characters of the last match are passed over. -/
theorem le_of_mem_foundFrom {regex : Regex α} {pos skip : ℕ} {text : List α}
    {entry : ℕ × List α} (reported : entry ∈ regex.foundFrom pos skip text) :
    pos + skip ≤ entry.1 := by
  induction text generalizing pos skip with
  | nil => cases reported
  | cons char text ih =>
      cases skip with
      | succ skip =>
          have behind := ih reported
          omega
      | zero =>
          rw [foundFrom] at reported
          split at reported
          · have behind := ih reported
            omega
          · rcases List.mem_cons.mp reported with rfl | reported
            · exact le_rfl
            · have behind := ih reported
              omega

/-- A search reports the first match at every position that no earlier match covers. -/
theorem mem_foundFrom {regex : Regex α} {pos skip d : ℕ} {text word : List α} :
    (pos + d, word) ∈ regex.foundFrom pos skip text ↔
      regex.start (text.drop d) = some word ∧ skip ≤ d ∧
        ∀ entry ∈ regex.foundFrom pos skip text,
          entry.1 < pos + d → entry.1 + entry.2.length ≤ pos + d := by
  induction text generalizing pos skip d with
  | nil => simp [foundFrom, start_nil]
  | cons char text ih =>
      cases skip with
      | succ skip =>
          rw [foundFrom]
          cases d with
          | zero =>
              constructor
              · intro reported
                have behind := le_of_mem_foundFrom reported
                omega
              · rintro ⟨-, within, -⟩
                omega
          | succ d =>
              rw [← Nat.add_assoc, Nat.add_right_comm, ih, List.drop_succ_cons,
                Nat.add_le_add_iff_right]
      | zero =>
          rw [foundFrom]
          split
          · rename_i unmatched
            cases d with
            | zero =>
                simp only [List.drop_zero, unmatched, reduceCtorEq, false_and, iff_false]
                intro reported
                have behind := le_of_mem_foundFrom reported
                simp only at behind
                omega
            | succ d =>
                rw [← Nat.add_assoc, Nat.add_right_comm, ih, List.drop_succ_cons]
                simp
          · rename_i first matched
            have filled := List.length_pos_of_ne_nil (start_eq_some_iff.mp matched).1
            cases d with
            | zero =>
                rw [List.drop_zero, matched, Option.some.injEq, List.mem_cons, Prod.mk.injEq]
                constructor
                · rintro (⟨-, rfl⟩ | reported)
                  · refine ⟨rfl, le_rfl, fun entry reported earlier => ?_⟩
                    rcases List.mem_cons.mp reported with rfl | reported
                    · exact absurd earlier (lt_irrefl _)
                    · have behind := le_of_mem_foundFrom reported
                      omega
                  · have behind := le_of_mem_foundFrom reported
                    simp only at behind
                    omega
                · rintro ⟨rfl, -, -⟩
                  exact .inl ⟨rfl, rfl⟩
            | succ d =>
                have later : pos + (d + 1) ≠ pos := by omega
                rw [List.mem_cons, Prod.mk.injEq, eq_false later, false_and, false_or,
                  List.forall_mem_cons, List.drop_succ_cons, ← Nat.add_assoc, Nat.add_right_comm,
                  ih]
                have uncovered : (pos < pos + 1 + d → pos + first.length ≤ pos + 1 + d) ↔
                    first.length - 1 ≤ d := by omega
                rw [uncovered]
                simp

/-- A position within a match that begins before it. -/
def Covered (regex : Regex α) (text : List α) (p : ℕ) : Prop :=
  ∃ entry ∈ regex.found text, entry.1 < p ∧ p < entry.1 + entry.2.length

theorem mem_found {regex : Regex α} {p : ℕ} {text word : List α} :
    (p, word) ∈ regex.found text ↔
      regex.start (text.drop p) = some word ∧ ¬ regex.Covered text p := by
  have reported : (0 + p, word) ∈ regex.foundFrom 0 0 text ↔ _ := mem_foundFrom
  simp only [Nat.zero_add, Nat.zero_le, true_and] at reported
  rw [found, reported, Covered]
  simp only [found, not_exists, not_and, not_lt]

/-- Text on both sides lets the match at a position grow. -/
theorem start_padded {regex : Regex α} {text before after word : List α} {p : ℕ}
    (matched : regex.start (text.drop p) = some word) :
    ∃ longer, regex.start ((before ++ text ++ after).drop (before.length + p)) = some longer ∧
      word <+: longer := by
  have within : p ≤ text.length := by
    by_contra beyond
    rw [List.drop_eq_nil_of_le (by omega), start_nil] at matched
    cases matched
  have place : (before ++ text ++ after).drop (before.length + p) = text.drop p ++ after := by
    rw [List.append_assoc, List.drop_append, List.drop_eq_nil_of_le (by omega), List.nil_append,
      Nat.add_sub_cancel_left, List.drop_append_of_le_length within]
  rw [place]
  exact start_append after matched

/-- Text on both sides leaves a match where it is, or lets an earlier match cover it. -/
theorem mem_found_padded {regex : Regex α} {text before after word : List α} {p : ℕ}
    (reported : (p, word) ∈ regex.found text)
    (uncovered : ¬ regex.Covered (before ++ text ++ after) (before.length + p)) :
    ∃ longer, (before.length + p, longer) ∈ regex.found (before ++ text ++ after) ∧
      word <+: longer := by
  rcases start_padded (mem_found.mp reported).1 with ⟨longer, extended, grown⟩
  exact ⟨longer, mem_found.mpr ⟨extended, uncovered⟩, grown⟩

/-- No word begins within another one, not even when it goes on behind it. -/
def NonOverlapping (regex : Regex α) : Prop :=
  ∀ word other : List α, regex.Spells word → regex.Spells other →
    ∀ d, 0 < d → d < word.length → ¬ (word.drop d <+: other ∨ other <+: word.drop d)

theorem NonOverlapping.not_covered {regex : Regex α} (apart : regex.NonOverlapping)
    {text word : List α} {p : ℕ} (matched : regex.start (text.drop p) = some word) :
    ¬ regex.Covered text p := by
  rintro ⟨⟨q, covering⟩, reported, earlier, reaching⟩
  have begun := (mem_found.mp reported).1
  rcases start_eq_some_iff.mp begun with ⟨-, rest, -, split⟩
  rcases start_eq_some_iff.mp matched with ⟨-, rest', -, split'⟩
  simp only at earlier reaching
  have tail : covering.drop (p - q) ++ rest = word ++ rest' := by
    rw [← split', ← List.drop_append_of_le_length (by omega), ← split, List.drop_drop]
    congr 1
    omega
  refine apart covering word (spells_of_start begun) (spells_of_start matched) (p - q)
    (by omega) (by omega) ?_
  exact List.prefix_or_prefix_of_prefix ⟨rest, rfl⟩ (tail ▸ ⟨rest', rfl⟩)

/-- Words that begin with a character and do not hold it again. -/
theorem nonOverlapping_of_head {regex : Regex α} (char : α)
    (headed : ∀ word, regex.Spells word → ∃ tail, word = char :: tail ∧ char ∉ tail) :
    regex.NonOverlapping := by
  intro word other spelled spelled' d positive within overlapping
  rcases headed word spelled with ⟨tail, rfl, once⟩
  rcases headed other spelled' with ⟨tail', rfl, -⟩
  rcases Nat.exists_eq_succ_of_ne_zero (by omega : d ≠ 0) with ⟨e, rfl⟩
  rw [List.drop_succ_cons] at overlapping
  have later : char ∈ tail.drop e := by
    cases left : tail.drop e with
    | nil =>
        have short := List.drop_eq_nil_iff.mp left
        simp only [List.length_cons] at within
        omega
    | cons first rest =>
        rw [left] at overlapping
        rcases overlapping with overlap | overlap
        · exact (List.cons_prefix_cons.mp overlap).1 ▸ List.mem_cons_self
        · exact (List.cons_prefix_cons.mp overlap).1 ▸ List.mem_cons_self
  exact once (List.mem_of_mem_drop later)

/-- What a search reports are words of the language. -/
theorem spells_of_mem_found {regex : Regex α} {text : List α} {entry : ℕ × List α}
    (reported : entry ∈ regex.found text) : regex.Spells entry.2 :=
  spells_of_start (mem_found.mp reported).1

/-- Every character that the expression accepts has a property. -/
def Within (P : α → Prop) : Regex α → Prop
  | empty => True
  | one accepts => ∀ char, accepts char = true → P char
  | many accepts => ∀ char, accepts char = true → P char
  | seq first second => first.Within P ∧ second.Within P
  | alt first second => first.Within P ∧ second.Within P

/-- A word has the characters that its expression accepts. -/
theorem Within.forall_mem {P : α → Prop} {regex : Regex α} (within : regex.Within P)
    {word : List α} (spelled : regex.Spells word) : ∀ char ∈ word, P char := by
  induction regex generalizing word with
  | empty =>
      rcases spelled with rfl
      simp
  | one accepts =>
      rcases spelled with ⟨char, rfl, accepted⟩
      simpa using within char accepted
  | many accepts => exact fun char mem => within char (spelled char mem)
  | seq first second ihFirst ihSecond =>
      rcases spelled with ⟨front, back, rfl, spelled, spelled'⟩
      intro char mem
      rcases List.mem_append.mp mem with mem | mem
      · exact ihFirst within.1 spelled char mem
      · exact ihSecond within.2 spelled' char mem
  | alt first second ihFirst ihSecond =>
      rcases spelled with spelled | spelled
      · exact ihFirst within.1 spelled
      · exact ihSecond within.2 spelled

end Regex

end Lexing
