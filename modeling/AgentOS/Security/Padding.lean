import AgentOS.Security.Recognition

/-!
# Padding

Text around a blocked text. Every match keeps its place and can only grow, unless an earlier
match of the same pattern covers it. Only the assignments of credentials, which go on to the
next white space, cover others.
-/

namespace AgentOS

open Python Lexing

namespace Hook

open SemanticFirewall

variable {hook : Hook}

/-- A match that grows goes on showing its keywords. -/
theorem shows_of_prefix {keywords : List Str} {word longer : Str} (grown : word <+: longer)
    (shown : shows keywords word = true) : shows keywords longer = true := by
  rcases List.any_eq_true.mp shown with ⟨keyword, known, inside⟩
  apply List.any_eq_true.mpr
  refine ⟨keyword, known, (contains_iff _ _).mpr ?_⟩
  rcases grown.take 80 with ⟨rest, split⟩
  rw [← split, lower_append]
  exact ((contains_iff _ _).mp inside).trans (List.prefix_append _ _).isInfix

/-- A script tag has one opening bracket. -/
theorem scriptTag_nonOverlapping : scriptTag.regex.NonOverlapping := by
  apply Regex.nonOverlapping_of_head 0x3C
  rintro _ ⟨front, _, rfl, begun, c, rfl, closing⟩
  rw [spells_literal, List.map_id] at begun
  refine ⟨py "script" ++ [c], by rw [begun]; rfl, ?_⟩
  have once : (0x3C : CodePoint) ∉ py "script" := by simp [py]
  simp only [List.mem_append, once, List.mem_singleton, false_or]
  rintro rfl
  revert closing
  decide

theorem javascriptUrl_nonOverlapping : javascriptUrl.regex.NonOverlapping := by
  apply Regex.nonOverlapping_of_head 0x6A
  rintro _ ⟨front, blanks, rfl, begun, blank⟩
  rw [spells_literal, List.map_id] at begun
  refine ⟨py "avascript:" ++ blanks, by rw [begun]; rfl, ?_⟩
  have once : (0x6A : CodePoint) ∉ py "avascript:" := by simp [py]
  rw [List.mem_append, not_or]
  refine ⟨once, fun mem => ?_⟩
  have wrong := blank _ mem
  revert wrong
  decide

/-- After its opening braces a template marker has no more of them. -/
theorem templateMarker_words {word : Str} (spelled : templateMarker.regex.Spells word) :
    ∃ c tail, word = 0x7B :: 0x7B :: c :: tail ∧ (0x7B : CodePoint) ∉ c :: tail := by
  rcases spelled with ⟨front, rest, rfl, begun, spelled⟩
  rw [spells_literal, List.map_id] at begun
  have blank : ∀ c, isBlank c = true → c ≠ 0x7B := by
    rintro _ wrong rfl
    revert wrong
    decide
  have name : ∀ c, isNameChar c = true → c ≠ 0x7B := by
    rintro _ wrong rfl
    revert wrong
    decide
  have dot : ∀ regex ∈ [py ".", py ""].map (literal id), regex.Within (· ≠ 0x7B) := by
    simp only [List.map_cons, List.map_nil, List.forall_mem_cons]
    exact ⟨within_literal (by simp [py]), within_literal (by simp [py]), by simp⟩
  have solid : ∀ c ∈ rest, c ≠ 0x7B := by
    refine Regex.Within.forall_mem (P := (· ≠ 0x7B)) ?_ spelled
    refine ⟨blank, ⟨within_group dot, trivial⟩, ⟨name, name⟩, blank, ?_⟩
    exact within_literal (by simp [py])
  have filled : rest ≠ [] := by
    rcases spelled with ⟨blanks, _, rfl, -, dot, _, rfl, -, word, _, rfl, -, blanks', closing, rfl,
      -, closed⟩
    rw [spells_literal, List.map_id] at closed
    rw [closed]
    simp [py]
  rcases List.exists_cons_of_ne_nil filled with ⟨c, tail, rfl⟩
  exact ⟨c, tail, by rw [begun]; rfl, fun mem => solid _ mem rfl⟩

theorem templateMarker_nonOverlapping : templateMarker.regex.NonOverlapping := by
  intro word other spelled spelled' d positive within overlapping
  rcases templateMarker_words spelled with ⟨c, tail, rfl, closed⟩
  rcases templateMarker_words spelled' with ⟨c', tail', rfl, -⟩
  match d with
  | 1 =>
      have brace : c = 0x7B := by
        rcases overlapping with overlap | overlap
        · exact (List.cons_prefix_cons.mp (List.cons_prefix_cons.mp overlap).2).1
        · exact (List.cons_prefix_cons.mp (List.cons_prefix_cons.mp overlap).2).1.symm
      exact closed (brace ▸ List.mem_cons_self)
  | e + 2 =>
      rw [List.drop_succ_cons, List.drop_succ_cons] at overlapping
      cases left : (c :: tail).drop e with
      | nil =>
          have short := List.drop_eq_nil_iff.mp left
          simp only [List.length_cons] at within short
          omega
      | cons first rest =>
          rw [left] at overlapping
          have brace : first = 0x7B := by
            rcases overlapping with overlap | overlap
            · exact (List.cons_prefix_cons.mp overlap).1
            · exact (List.cons_prefix_cons.mp overlap).1.symm
          apply closed
          have inside : first ∈ (c :: tail).drop e := left ▸ List.mem_cons_self
          exact brace ▸ List.mem_of_mem_drop inside

/-- A pattern assigns a credential, never tells, or never overlaps itself. -/
theorem defaults_cases (known : hook ∈ defaults) :
    hook ∈ exfiltration ∨ hook ∈ silent ∨ hook.regex.NonOverlapping := by
  simp only [defaults, directInjection, roleOverride, exfiltration, templateInjection,
    encodedPayloads, directionality, List.cons_append, List.nil_append, List.mem_cons,
    List.not_mem_nil, or_false] at known
  rcases known with rfl | rfl | rfl | rfl | rfl | rfl | rfl | rfl | rfl | rfl | rfl | rfl |
    rfl | rfl | rfl | rfl | rfl | rfl | rfl | rfl
  · exact .inr (.inr (nonOverlapping_phrase (py "ig") (by decide) (by decide)))
  · exact .inr (.inr (nonOverlapping_phrase (py "dis") (by decide) (by decide)))
  · exact .inr (.inr (nonOverlapping_phrase (py "fo") (by decide) (by decide)))
  · exact .inr (.inl (by simp [silent]))
  · exact .inr (.inr (nonOverlapping_phrase (py "you") (by decide) (by decide)))
  · exact .inr (.inr (nonOverlapping_phrase (py "act") (by decide) (by decide)))
  · exact .inr (.inr (nonOverlapping_phrase (py "pre") (by decide) (by decide)))
  · exact .inl (by simp [exfiltration])
  · exact .inl (by simp [exfiltration])
  · exact .inl (by simp [exfiltration])
  · exact .inr (.inr templateMarker_nonOverlapping)
  · exact .inr (.inl (by simp [silent]))
  · exact .inr (.inl (by simp [silent]))
  · exact .inr (.inr (nonOverlapping_phrase (py "%3C") (by decide) (by decide)))
  · exact .inr (.inr scriptTag_nonOverlapping)
  · exact .inr (.inr javascriptUrl_nonOverlapping)
  · exact .inr (.inl (by simp [silent]))
  · exact .inr (.inl (by simp [silent]))
  · exact .inr (.inl (by simp [silent]))
  · exact .inr (.inl (by simp [silent]))

end Hook

namespace SemanticFirewall

open Hook

/-- Every match of a text that shows a keyword is the assignment of a credential and lies, in
the padded text, within an earlier assignment. -/
def Buried (before text after : Str) : Prop :=
  ∀ hook ∈ defaults, ∀ entry ∈ hook.regex.found text, shows blockedKeywords entry.2 = true →
    hook ∈ exfiltration ∧
      hook.regex.Covered (before ++ text ++ after) (before.length + entry.1)

/-- The padded text has a match with a keyword where the text had none. -/
def Fresh (before text after : Str) : Prop :=
  ∃ hook ∈ defaults, ∃ entry ∈ hook.regex.found (before ++ text ++ after),
    shows blockedKeywords entry.2 = true ∧
      ∀ old ∈ hook.regex.found text, shows blockedKeywords old.2 = true →
        entry.1 ≠ before.length + old.1

/-- Padding keeps a text blocked, unless it buries what was recognised and adds nothing. -/
theorem padding_blocks_iff (before text after inputType inputType' : Str) :
    ((∃ e, getFirewall.scan text inputType = .error e) →
        ∃ e, getFirewall.scan (before ++ text ++ after) inputType' = .error e) ↔
      ¬ (Recognised text ∧ Buried before text after) ∨ Fresh before text after := by
  rw [scan_error_iff, scan_error_iff, exists_tells_iff_recognised]
  constructor
  · intro blocks
    by_cases lost : Recognised text ∧ Buried before text after
    · right
      rcases blocks lost.1 with ⟨hook, known, entry, reported, shown⟩
      refine ⟨hook, known, entry, reported, shown, ?_⟩
      rintro old reported' shown' place
      -- An entry that is reported lies within no other.
      have covered := (lost.2 hook known old reported' shown').2
      rw [← place] at covered
      exact (Regex.mem_found.mp reported).2 covered
    · exact .inl lost
  · rintro (kept | ⟨hook, known, entry, reported, shown, -⟩) recognised
    · by_contra passed
      apply kept
      refine ⟨recognised, ?_⟩
      intro hook known old reported shown
      have covered : hook.regex.Covered (before ++ text ++ after) (before.length + old.1) := by
        by_contra uncovered
        rcases Regex.mem_found_padded reported uncovered with ⟨longer, reported', grown⟩
        exact passed ⟨hook, known, _, reported', shows_of_prefix grown shown⟩
      refine ⟨?_, covered⟩
      rcases defaults_cases known with assigns | quiet | apart
      · exact assigns
      · exact absurd ⟨old, reported, shown⟩ (silent_not_tells quiet)
      · rcases Regex.start_padded (Regex.mem_found.mp reported).1 with ⟨_, matched, -⟩
        exact absurd covered (apart.not_covered matched)
    · exact ⟨hook, known, entry, reported, shown⟩

end SemanticFirewall

namespace Sample

open SemanticFirewall

/-- A value that hides the text behind 72 characters of its own. -/
def shelter : Str := py "api-key=" ++ List.replicate 72 0x78

/-- An API key is blocked, and let through as the end of a longer value. -/
theorem api_key_sheltered :
    ¬ ((∃ e, getFirewall.scan (py "api_key=y") (py "unknown") = .error e) →
      ∃ e, getFirewall.scan (shelter ++ py "api_key=y" ++ []) (py "unknown") = .error e) := by
  intro blocks
  have passed : (getFirewall.scan (shelter ++ py "api_key=y" ++ [])
      (py "unknown")).toOption.isSome = true := by decide +kernel
  have caught : (getFirewall.scan (py "api_key=y") (py "unknown")).toOption.isSome = false := by
    decide
  have raised : ∃ e, getFirewall.scan (py "api_key=y") (py "unknown") = .error e := by
    cases scanned : getFirewall.scan (py "api_key=y") (py "unknown") with
    | error e => exact ⟨e, rfl⟩
    | ok result =>
        rw [scanned] at caught
        cases caught
  rcases blocks raised with ⟨e, again⟩
  rw [again] at passed
  cases passed

end Sample

end AgentOS
