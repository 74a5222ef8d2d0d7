import AgentOS.Python.Text

/-!
# The words of a text

`str.split()` gives the words of a text, its longest pieces without white space. Stripping keeps
them, and what is looked for without white space is found in one of them.
-/

namespace Python

variable {text white part word rest : Str} {words : List Str}

theorem split_append_cons {gap : CodePoint} (space : isSpace gap = true) (text rest : Str) :
    split (text ++ gap :: rest) = split text ++ split rest := by
  simp [split, List.splitOnP_append_cons text rest space]

theorem split_spaces_append (spaces : ∀ c ∈ white, isSpace c = true) (rest : Str) :
    split (white ++ rest) = split rest := by
  induction white with
  | nil => rfl
  | cons gap white ih =>
      have first := split_append_cons (spaces gap List.mem_cons_self) [] (white ++ rest)
      have later := ih fun c mem => spaces c (List.mem_cons_of_mem _ mem)
      exact first.trans later

theorem split_append_spaces (spaces : ∀ c ∈ white, isSpace c = true) (text : Str) :
    split (text ++ white) = split text := by
  rcases white with _ | ⟨gap, white⟩
  · rw [List.append_nil]
  · have none : split white = [] := by
      have blank := split_spaces_append (fun c mem => spaces c (List.mem_cons_of_mem _ mem)) []
      simpa [split] using blank
    rw [split_append_cons (spaces gap List.mem_cons_self), none, List.append_nil]

/-- Stripping takes white space off both ends. -/
theorem exists_strip (text : Str) :
    ∃ before after, text = before ++ (strip text ++ after) ∧
      (∀ c ∈ before, isSpace c = true) ∧ ∀ c ∈ after, isSpace c = true := by
  refine ⟨text.takeWhile isSpace, (text.dropWhile isSpace).rtakeWhile isSpace, ?_, ?_, ?_⟩
  · rw [strip, List.rdropWhile_append_rtakeWhile, List.takeWhile_append_dropWhile]
  · exact fun c mem => List.mem_takeWhile_imp mem
  · exact fun c mem => List.mem_rtakeWhile_imp mem

theorem split_strip (text : Str) : split (strip text) = split text := by
  rcases exists_strip text with ⟨before, after, shape, beforeSpaces, afterSpaces⟩
  conv_rhs => rw [shape]
  rw [split_spaces_append beforeSpaces, split_append_spaces afterSpaces]

/-- A word that is followed by white space or by nothing is the first one. -/
theorem split_word_append (nonempty : word ≠ []) (solid : ∀ c ∈ word, isSpace c = false)
    (ends : ∀ c ∈ rest.head?, isSpace c = true) : split (word ++ rest) = word :: split rest := by
  rcases rest with _ | ⟨gap, more⟩
  · rw [List.append_nil, split_of_no_space nonempty solid]
    rfl
  · have space := ends gap rfl
    have later := split_append_cons space [] more
    rw [split_cons_word nonempty solid space]
    exact congrArg (word :: ·) later.symm

/-- A text is white space, or white space, its first word and what holds the other words. -/
theorem words_cases (text : Str) :
    ((∀ c ∈ text, isSpace c = true) ∧ split text = []) ∨
    ∃ white word rest, text = white ++ (word ++ rest) ∧ (∀ c ∈ white, isSpace c = true) ∧
      word ≠ [] ∧ (∀ c ∈ word, isSpace c = false) ∧ (∀ c ∈ rest.head?, isSpace c = true) ∧
      split text = word :: split rest := by
  have spaces : ∀ c ∈ text.takeWhile isSpace, isSpace c = true :=
    fun c mem => List.mem_takeWhile_imp mem
  have front := List.takeWhile_append_dropWhile (p := isSpace) (l := text)
  have begins := List.head?_dropWhile_not isSpace text
  rcases body : text.dropWhile isSpace with _ | ⟨first, more⟩ <;> rw [body] at front begins
  · left
    have all := List.dropWhile_eq_nil_iff.mp body
    have none := split_spaces_append all []
    rw [List.append_nil] at none
    exact ⟨all, none⟩
  · right
    have solid : isSpace first = false := by simpa using begins
    have parts := List.takeWhile_append_dropWhile (p := fun c => !isSpace c) (l := first :: more)
    have ends := List.head?_dropWhile_not (fun c => !isSpace c) (first :: more)
    have word_solid : ∀ c ∈ (first :: more).takeWhile fun c => !isSpace c, isSpace c = false := by
      intro c mem
      simpa using List.mem_takeWhile_imp mem
    have nonempty : ((first :: more).takeWhile fun c => !isSpace c) ≠ [] := by
      simp [solid]
    generalize (first :: more).takeWhile (fun c => !isSpace c) = word at *
    generalize (first :: more).dropWhile (fun c => !isSpace c) = rest at *
    have rest_ends : ∀ c ∈ rest.head?, isSpace c = true := by
      intro c mem
      rw [Option.mem_def.mp mem] at ends
      simpa using ends
    refine ⟨text.takeWhile isSpace, word, rest, ?_, spaces, nonempty, word_solid, rest_ends, ?_⟩
    · rw [parts, front]
    · rw [← front, ← parts, split_spaces_append spaces,
        split_word_append nonempty word_solid rest_ends]

/-! ### Stripped texts -/

theorem head_strip (text : Str) : ∀ c ∈ (strip text).head?, isSpace c = false := by
  intro c mem
  have begins := List.head?_dropWhile_not isSpace text
  obtain ⟨more, shape⟩ : strip text <+: text.dropWhile isSpace :=
    List.rdropWhile_prefix isSpace _
  rw [← shape, List.head?_append, Option.mem_def.mp mem, Option.some_or] at begins
  simpa using begins

theorem getLast_strip (text : Str) : ∀ c ∈ (strip text).getLast?, isSpace c = false := by
  intro c mem
  rcases List.mem_getLast?_eq_getLast mem with ⟨nonempty, rfl⟩
  exact Bool.eq_false_iff.mpr (List.rdropWhile_last_not isSpace (text.dropWhile isSpace) nonempty)

theorem strip_of_split_nil (none : split text = []) : strip text = [] := by
  rcases words_cases (strip text) with ⟨spaces, -⟩ | ⟨_, _, _, -, -, -, -, -, parts⟩
  · rcases shape : strip text with _ | ⟨c, rest⟩
    · rfl
    · have solid := head_strip text c (by simp [shape])
      rw [spaces c (by simp [shape])] at solid
      cases solid
  · rw [split_strip, none] at parts
    cases parts

/-- A stripped text begins with its first word, and is that word if it is the only one. -/
theorem strip_of_split_cons (words_eq : split text = word :: words) :
    ∃ rest, strip text = word ++ rest ∧ split rest = words ∧
      (∀ c ∈ rest.head?, isSpace c = true) ∧ word ≠ [] ∧ (∀ c ∈ word, isSpace c = false) ∧
      (words = [] → rest = []) := by
  rcases words_cases (strip text) with ⟨-, none⟩ |
    ⟨white, word', rest, shape, spaces, nonempty, solid, ends, parts⟩
  · rw [split_strip, words_eq] at none
    cases none
  rw [split_strip, words_eq] at parts
  cases parts
  have begins := head_strip text
  rcases white with _ | ⟨gap, white⟩
  · refine ⟨rest, shape, rfl, ends, nonempty, solid, ?_⟩
    intro none
    by_contra more
    have last := getLast_strip text (rest.getLast more)
    rcases words_cases rest with ⟨all, -⟩ | ⟨_, _, _, _, _, _, _, _, parts⟩
    · rw [shape, List.nil_append, List.getLast?_append_of_ne_nil _ more,
        List.getLast?_eq_getLast_of_ne_nil more, all _ (List.getLast_mem more)] at last
      cases last rfl
    · rw [none] at parts
      cases parts
  · rw [shape, List.cons_append, List.head?_cons] at begins
    have space := spaces gap List.mem_cons_self
    rw [begins gap rfl] at space
    cases space

/-! ### Parts of words -/

/-- What holds no separator is found before or behind the separator. -/
theorem infix_append_cons_iff {α : Type} {part : List α} {sep : α} (absent : sep ∉ part)
    (first rest : List α) : part <:+: first ++ sep :: rest ↔ part <:+: first ∨ part <:+: rest := by
  constructor
  · intro within
    rcases List.infix_append_iff.mp within with before | behind | ⟨left, right, rfl, ends, begins⟩
    · exact .inl before
    · rcases List.infix_cons_iff.mp behind with begins | behind
      · rcases part with _ | ⟨c, part⟩
        · exact .inl (List.nil_infix)
        · cases (List.cons_prefix_cons.mp begins).1
          exact absurd List.mem_cons_self absent
      · exact .inr behind
    · rcases right with _ | ⟨c, right⟩
      · rw [List.append_nil]
        exact .inl ends.isInfix
      · cases (List.cons_prefix_cons.mp begins).1
        exact absurd (List.mem_append_right _ List.mem_cons_self) absent
  · rintro (before | behind)
    · exact List.infix_append_of_infix_left before
    · exact List.infix_append_of_infix_right (List.infix_cons_iff.mpr (.inr behind))

/-- What holds no white space is found in a text exactly when it is found in one of the words. -/
theorem contains_iff_words (nonempty : part ≠ []) (solid : ∀ c ∈ part, isSpace c = false)
    (text : Str) : contains text part = true ↔ ∃ word ∈ split text, contains word part = true := by
  simp only [contains_iff]
  have absent : ∀ {gap}, isSpace gap = true → gap ∉ part := by
    intro gap space mem
    rw [solid gap mem] at space
    cases space
  have skip : ∀ {gap rest}, isSpace gap = true → (part <:+: gap :: rest ↔ part <:+: rest) := by
    intro gap rest space
    have cut := infix_append_cons_iff (absent space) [] rest
    rwa [List.nil_append, List.infix_nil, or_iff_right nonempty] at cut
  have skipAll : ∀ {white} rest, (∀ c ∈ white, isSpace c = true) →
      (part <:+: white ++ rest ↔ part <:+: rest) := by
    intro white rest spaces
    induction white with
    | nil => rfl
    | cons gap white ih =>
        rw [List.cons_append, skip (spaces gap List.mem_cons_self)]
        exact ih fun c mem => spaces c (List.mem_cons_of_mem _ mem)
  -- The words are taken off the text one after another.
  induction words_eq : split text generalizing text with
  | nil =>
      rcases words_cases text with ⟨all, -⟩ | ⟨_, _, _, -, -, -, -, -, parts⟩
      · have found := skipAll [] all
        rw [List.append_nil, List.infix_nil] at found
        simp [found, nonempty]
      · cases words_eq.symm.trans parts
  | cons word words ih =>
      rcases words_cases text with ⟨-, none⟩ | ⟨white, _, rest, rfl, spaces, -, -, ends, parts⟩
      · cases words_eq.symm.trans none
      cases words_eq.symm.trans parts
      have later : part <:+: rest ↔ ∃ word ∈ split rest, part <:+: word := ih rest rfl
      rw [skipAll _ spaces, List.exists_mem_cons_iff, ← later]
      rcases rest with _ | ⟨gap, more⟩
      · rw [List.append_nil, List.infix_nil, or_iff_left nonempty]
      · have space := ends gap rfl
        rw [infix_append_cons_iff (absent space), skip space]

end Python
