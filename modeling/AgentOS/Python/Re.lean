import AgentOS.Lexing.Regex
import AgentOS.Python.Casing

/-!
# Regular expressions of Python

The parts of which patterns are put together by hand: literal text with and without regard to
case, groups of alternatives, and the runs that `+` and `*` make of single characters. Under
`(?i)` a character is looked up in lower case, by its simple mapping, and dotless i and long s
count as i and s.
-/

namespace Python

open Lexing

/-- The simple lower-case mapping, of one character to one. -/
def foldChar (c : CodePoint) : CodePoint :=
  (lowerChar c).headD c

/-- The letter that a character is to a pattern with `(?i)`. -/
def letterOf (c : CodePoint) : CodePoint :=
  if foldChar c = 0x131 then 0x69 else if foldChar c = 0x17F then 0x73 else foldChar c

/-- Literal text; the characters are compared as `view` sees them. -/
def literal (view : CodePoint → CodePoint) : Str → Regex CodePoint
  | [] => .empty
  | c :: text => .seq (.one fun d => view d == c) (literal view text)

/-- The group `(?:first|second|...)`. -/
def group : List (Regex CodePoint) → Regex CodePoint
  | [] => .one fun _ => false
  | regex :: others => .alt regex (group others)

/-- Groups of literal texts, one after the other. -/
def phrase (view : CodePoint → CodePoint) : List (List Str) → Regex CodePoint
  | [] => .empty
  | texts :: others => .seq (group (texts.map (literal view))) (phrase view others)

/-- The texts that groups of literal texts spell. -/
def wordings : List (List Str) → List Str
  | [] => [[]]
  | texts :: others => texts.flatMap fun text => (wordings others).map (text ++ ·)

/-- A greedy `+` of a class of characters. -/
def plus (accepts : CodePoint → Bool) : Regex CodePoint :=
  .seq (.one accepts) (.many accepts)

theorem spells_literal {view : CodePoint → CodePoint} {text word : Str} :
    (literal view text).Spells word ↔ word.map view = text := by
  induction text generalizing word with
  | nil => simp [literal, Regex.Spells]
  | cons c text ih =>
      simp only [literal, Regex.Spells, ih]
      constructor
      · rintro ⟨_, back, rfl, ⟨d, rfl, same⟩, rfl⟩
        simpa using same
      · intro spelled
        obtain ⟨d, back, rfl, same, rest⟩ := List.map_eq_cons_iff.mp spelled
        exact ⟨[d], back, rfl, ⟨d, rfl, by simpa using same⟩, rest⟩

theorem spells_group {regexes : List (Regex CodePoint)} {word : Str} :
    (group regexes).Spells word ↔ ∃ regex ∈ regexes, regex.Spells word := by
  induction regexes with
  | nil => simp [group, Regex.Spells]
  | cons regex others ih => simp [group, Regex.Spells, ih]

theorem spells_phrase {view : CodePoint → CodePoint} {groups : List (List Str)} {word : Str} :
    (phrase view groups).Spells word ↔ word.map view ∈ wordings groups := by
  induction groups generalizing word with
  | nil => simp [phrase, wordings, Regex.Spells]
  | cons texts others ih =>
      simp only [phrase, wordings, Regex.Spells, spells_group, List.mem_map, List.mem_flatMap, ih]
      constructor
      · rintro ⟨front, back, rfl, ⟨_, ⟨text, chosen, rfl⟩, spelled⟩, rest⟩
        rw [spells_literal] at spelled
        exact ⟨text, chosen, _, rest, by rw [List.map_append, spelled]⟩
      · rintro ⟨text, chosen, tail, rest, split⟩
        obtain ⟨front, back, rfl, rfl, rfl⟩ := List.map_eq_append_iff.mp split.symm
        exact ⟨front, back, rfl, ⟨_, ⟨_, chosen, rfl⟩, spells_literal.mpr rfl⟩, rest⟩

/-- A phrase does not overlap itself when the opening of its wordings does not come again. -/
theorem nonOverlapping_phrase {view : CodePoint → CodePoint} {groups : List (List Str)}
    (opening : Str) (opened : ∀ wording ∈ wordings groups, opening <+: wording)
    (once : ∀ wording ∈ wordings groups, ∀ d ∈ List.range wording.length, 0 < d →
      ¬ (wording.drop d <+: opening ∨ opening <+: wording.drop d)) :
    (phrase view groups).NonOverlapping := by
  intro word other spelled spelled' d positive within overlapping
  rw [spells_phrase] at spelled spelled'
  apply once _ spelled d (by simpa using within) positive
  rw [← List.map_drop]
  rcases overlapping with overlap | overlap
  · exact List.prefix_or_prefix_of_prefix (overlap.map view) (opened _ spelled')
  · exact .inr ((opened _ spelled').trans (overlap.map view))

theorem within_literal {P : CodePoint → Prop} {text : Str} (all : ∀ c ∈ text, P c) :
    (literal id text).Within P := by
  induction text with
  | nil => trivial
  | cons c text ih =>
      refine ⟨?_, ih fun d mem => all d (List.mem_cons_of_mem _ mem)⟩
      intro d same
      have equal : d = c := by simpa using same
      exact equal ▸ all c List.mem_cons_self

theorem within_group {P : CodePoint → Prop} {regexes : List (Regex CodePoint)}
    (all : ∀ regex ∈ regexes, regex.Within P) : (group regexes).Within P := by
  induction regexes with
  | nil => simp [group, Regex.Within]
  | cons regex others ih =>
      exact ⟨all regex List.mem_cons_self, ih fun r mem => all r (List.mem_cons_of_mem _ mem)⟩

/-! ## Lower case -/

/-- Lower case without combining dots, dotless i and long s. -/
def undotted (text : Str) : Str :=
  (text.filter (· ≠ 0x307)).map fun c => if c = 0x131 then 0x69 else if c = 0x17F then 0x73 else c

/-- Only the capital i with a dot has a lower case of two characters. -/
theorem lowerChar_cases (c : CodePoint) :
    lowerChar c = [foldChar c] ∨ lowerChar c = [0x69, 0x307] ∧ foldChar c = 0x69 := by
  rw [foldChar, lowerChar]
  split
  · left
    split <;> rfl
  · split
    · right
      exact ⟨rfl, rfl⟩
    · left
      rw [mapCase]
      split <;> rfl

/-- Lower case keeps the letters, but for dots and the shapes of i and s. -/
theorem undotted_lower {text : Str} (undottable : ∀ c ∈ text, letterOf c ≠ 0x307) :
    undotted (lower text) = text.map letterOf := by
  induction text with
  | nil => rfl
  | cons c text ih =>
      have rest := ih fun d mem => undottable d (List.mem_cons_of_mem _ mem)
      have here : undotted (lowerChar c) = [letterOf c] := by
        have undotted' := undottable c List.mem_cons_self
        rcases lowerChar_cases c with single | ⟨double, folded⟩
        · have solid : foldChar c ≠ 0x307 := by
            intro combining
            apply undotted'
            rw [letterOf, combining]
            decide
          rw [single, undotted, List.filter_cons_of_pos (by simpa using solid)]
          rfl
        · rw [double, letterOf, folded]
          decide
      rw [lower, List.flatMap_cons, undotted, List.filter_append, List.map_append]
      exact congrArg₂ (· ++ ·) here rest

theorem lower_eq_self {text : Str} (small : ∀ c ∈ text, lowerChar c = [c]) : lower text = text := by
  rw [lower, List.flatMap_congr small]
  exact List.flatMap_singleton' text

/-- Lower case keeps letters other than i and s. -/
theorem lower_of_letters {text : Str} (plain : ∀ c ∈ text, letterOf c ≠ 0x69 ∧ letterOf c ≠ 0x73) :
    lower text = text.map letterOf := by
  induction text with
  | nil => rfl
  | cons c text ih =>
      have rest := ih fun d mem => plain d (List.mem_cons_of_mem _ mem)
      obtain ⟨dotless, short⟩ := plain c List.mem_cons_self
      have unfolded : foldChar c = letterOf c := by
        rw [letterOf] at dotless short ⊢
        split_ifs at dotless short ⊢ <;> simp_all
      have here : lowerChar c = [letterOf c] := by
        rcases lowerChar_cases c with single | ⟨-, folded⟩
        · rw [single, unfolded]
        · exact absurd (unfolded.symm.trans folded) dotless
      rw [lower, List.flatMap_cons, here]
      exact congrArg (letterOf c :: ·) rest

/-- A text without dots and without shapes of i and s has the letters that a pattern sees as its
lower case. -/
theorem lower_of_plain {text : Str}
    (plain : ∀ c ∈ lower text, c ≠ 0x307 ∧ c ≠ 0x131 ∧ c ≠ 0x17F) :
    lower text = text.map letterOf := by
  induction text with
  | nil => rfl
  | cons c text ih =>
      rw [lower, List.flatMap_cons, ← lower] at plain ⊢
      have rest := ih fun d mem => plain d (List.mem_append_right _ mem)
      have here : lowerChar c = [letterOf c] := by
        rcases lowerChar_cases c with single | ⟨double, -⟩
        · have shape := plain (foldChar c) (by simp [single])
          rw [single, letterOf, if_neg shape.2.1, if_neg shape.2.2]
        · exact absurd rfl (plain 0x307 (by simp [double])).1
      rw [here, rest]
      rfl

/-- A keyword in the lower case of a text is in the letters that a pattern sees. -/
theorem infix_of_contains_lower {text keyword : Str} (plain : undotted keyword = keyword)
    (undottable : ∀ c ∈ text, letterOf c ≠ 0x307) (held : contains (lower text) keyword = true) :
    keyword <:+: text.map letterOf := by
  rw [← undotted_lower undottable, ← plain]
  exact ((contains_iff _ _).mp held).filter _ |>.map _

end Python
