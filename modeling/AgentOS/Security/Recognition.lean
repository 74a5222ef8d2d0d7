import AgentOS.Security.DefaultPatterns

/-!
# Recognition

Which matches of the default patterns show a keyword that blocks. The patterns ignore case in
the way of regular expressions, and the keywords are looked up in lower case: an i with or
without a dot of its own and a long s match and are not found again.
-/

namespace AgentOS

open Python Lexing

namespace Hook

open SemanticFirewall

variable {hook : Hook} {text : Str}

/-- A keyword at the beginning of a match stays within its first 80 characters. -/
theorem shows_append {keywords : List Str} {front : Str} (back : Str)
    (short : front.length ≤ 80)
    (held : keywords.any (contains (lower front)) = true) :
    shows keywords (front ++ back) = true := by
  rcases List.any_eq_true.mp held with ⟨keyword, known, inside⟩
  apply List.any_eq_true.mpr
  refine ⟨keyword, known, (contains_iff _ _).mpr ?_⟩
  rw [List.take_append, List.take_of_length_le short, lower_append]
  exact ((contains_iff _ _).mp inside).trans (List.prefix_append _ _).isInfix

/-- A keyword without i and s at the beginning of a match is shown. -/
theorem shows_of_opening {keywords : List Str} {word keyword : Str}
    (known : keyword ∈ keywords) (short : keyword.length ≤ 80)
    (plain : 0x69 ∉ keyword ∧ 0x73 ∉ keyword) (opening : keyword <+: word.map letterOf) :
    shows keywords word = true := by
  rcases opening with ⟨rest, split⟩
  rcases List.map_eq_append_iff.mp split.symm with ⟨front, back, rfl, rfl, -⟩
  apply shows_append back (by simpa using short)
  apply List.any_eq_true.mpr
  refine ⟨_, known, (contains_iff _ _).mpr ?_⟩
  have letters : ∀ c ∈ front, letterOf c ≠ 0x69 ∧ letterOf c ≠ 0x73 := by
    intro c mem
    have spelled := List.mem_map_of_mem mem (f := letterOf)
    exact ⟨fun same => plain.1 (same ▸ spelled), fun same => plain.2 (same ▸ spelled)⟩
  rw [lower_of_letters letters]

/-- A pattern all of whose matches show a keyword tells whenever it is found. -/
theorem tells_iff_finds {keywords : List Str}
    (shown : ∀ word, hook.regex.Spells word → shows keywords word = true) :
    hook.Tells keywords text ↔ hook.Finds text := by
  constructor
  · rintro ⟨entry, reported, -⟩
    exact List.ne_nil_of_mem reported
  · intro found
    rcases List.exists_mem_of_ne_nil _ found with ⟨entry, reported⟩
    exact ⟨entry, reported, shown _ (Regex.spells_of_mem_found reported)⟩

/-- A phrase whose wordings all begin with a keyword without i and s tells whenever it is
found. -/
theorem tells_iff_finds_of_opening {keywords : List Str} {groups : List (List Str)}
    (keyword : Str) (phrased : hook.regex = phrase letterOf groups)
    (known : keyword ∈ keywords) (short : keyword.length ≤ 80)
    (plain : 0x69 ∉ keyword ∧ 0x73 ∉ keyword)
    (opening : ∀ wording ∈ wordings groups, keyword <+: wording) :
    hook.Tells keywords text ↔ hook.Finds text := by
  apply tells_iff_finds
  intro word spelled
  rw [phrased, spells_phrase] at spelled
  exact shows_of_opening known short plain (opening _ spelled)

/-- A pattern with a keyword in its literal text tells whenever it is found. -/
theorem tells_iff_finds_of_literal {keywords : List Str} (front : Str) (short : front.length ≤ 80)
    (held : keywords.any (contains (lower front)) = true)
    (begun : ∀ word, hook.regex.Spells word → front <+: word) :
    hook.Tells keywords text ↔ hook.Finds text := by
  apply tells_iff_finds
  intro word spelled
  rcases begun word spelled with ⟨back, rfl⟩
  exact shows_append back short held

/-- A phrase shows no other keywords than its wordings hold. -/
theorem shows_of_wordings {keywords own : List Str} {groups : List (List Str)} {word : Str}
    (included : own ⊆ keywords) (plain : ∀ keyword ∈ keywords, undotted keyword = keyword)
    (closed : ∀ wording ∈ wordings groups, (0x307 : CodePoint) ∉ wording ∧
      ∀ keyword ∈ keywords, contains wording keyword = true → keyword ∈ own)
    (spelled : (phrase letterOf groups).Spells word) :
    shows keywords word = shows own word := by
  rw [spells_phrase] at spelled
  rcases closed _ spelled with ⟨undottable, owned⟩
  have solid : ∀ c ∈ word, letterOf c ≠ 0x307 :=
    fun c mem same => undottable (same ▸ List.mem_map_of_mem mem)
  rw [Bool.eq_iff_iff, shows, shows, List.any_eq_true, List.any_eq_true]
  constructor
  · rintro ⟨keyword, known, held⟩
    have seen := infix_of_contains_lower (plain keyword known)
      (fun c mem => solid c (List.mem_of_mem_take mem)) held
    have within : keyword <:+: word.map letterOf :=
      seen.trans ((List.take_prefix 80 word).map letterOf).isInfix
    exact ⟨keyword, owned keyword known ((contains_iff _ _).mpr within), held⟩
  · rintro ⟨keyword, known, held⟩
    exact ⟨keyword, included known, held⟩

theorem tells_iff_of_wordings {keywords own : List Str} {groups : List (List Str)}
    (phrased : hook.regex = phrase letterOf groups) (included : own ⊆ keywords)
    (plain : ∀ keyword ∈ keywords, undotted keyword = keyword)
    (closed : ∀ wording ∈ wordings groups, (0x307 : CodePoint) ∉ wording ∧
      ∀ keyword ∈ keywords, contains wording keyword = true → keyword ∈ own) :
    hook.Tells keywords text ↔ hook.Tells own text := by
  have same : ∀ entry ∈ hook.regex.found text, shows keywords entry.2 = shows own entry.2 := by
    intro entry reported
    have spelled := Regex.spells_of_mem_found reported
    rw [phrased] at spelled
    exact shows_of_wordings included plain closed spelled
  constructor
  · rintro ⟨entry, reported, held⟩
    exact ⟨entry, reported, same entry reported ▸ held⟩
  · rintro ⟨entry, reported, held⟩
    exact ⟨entry, reported, (same entry reported).symm ▸ held⟩

/-- The keywords are short, and without dots and other shapes of i and s. -/
theorem plain_blockedKeywords :
    ∀ keyword ∈ blockedKeywords, undotted keyword = keyword ∧ keyword.length ≤ 80 := by
  decide

/-- The words that a pattern with regard to case finds show a keyword or not by themselves. -/
theorem not_tells_of_wordings {keywords : List Str} {groups : List (List Str)}
    (phrased : hook.regex = phrase id groups)
    (silent : ∀ wording ∈ wordings groups, shows keywords wording = false) :
    ¬ hook.Tells keywords text := by
  rintro ⟨entry, reported, held⟩
  have spelled := Regex.spells_of_mem_found reported
  rw [phrased, spells_phrase, List.map_id] at spelled
  rw [silent _ spelled] at held
  cases held

/-- A pattern tells only through its own keywords, which are then spelled without dotted
capitals, dotless i and long s. -/
theorem tells_spelled :
    (ignorePrevious.Tells blockedKeywords text ↔
      ignorePrevious.Tells [py "ignore previous"] text) ∧
    (disregardPrevious.Tells blockedKeywords text ↔
      disregardPrevious.Tells [py "disregard"] text) ∧
    (forgetEverything.Tells blockedKeywords text ↔
      forgetEverything.Tells [py "forget everything"] text) ∧
    (actAs.Tells blockedKeywords text ↔
      actAs.Tells [py "act as", py "system", py "admin"] text) := by
  refine ⟨?_, ?_, ?_, ?_⟩ <;>
    exact tells_iff_of_wordings rfl (by decide)
      (fun keyword known => (plain_blockedKeywords keyword known).1) (by decide)

/-- A pattern that begins with literal text finds it. -/
theorem begins_of_spells {front word : Str} {regex : Regex CodePoint}
    (spelled : (Regex.seq (literal id front) regex).Spells word) : front <+: word := by
  rcases spelled with ⟨start, back, rfl, begun, -⟩
  rw [spells_literal, List.map_id] at begun
  rw [begun]
  exact List.prefix_append front back

/-- No keyword is spelled with few enough small letters. -/
theorem not_tells_of_alphabet {keywords : List Str} (alphabet : Str)
    (within : hook.regex.Within (· ∈ alphabet))
    (small : (alphabet.all fun c => lowerChar c == [c]) = true)
    (foreign : (keywords.all fun keyword => keyword.any fun c => !alphabet.contains c) = true) :
    ¬ hook.Tells keywords text := by
  rintro ⟨entry, reported, held⟩
  have spelled := Regex.spells_of_mem_found reported
  have letters : ∀ c ∈ entry.2.take 80, c ∈ alphabet :=
    fun c mem => within.forall_mem spelled c (List.mem_of_mem_take mem)
  have kept : lower (entry.2.take 80) = entry.2.take 80 := by
    apply lower_eq_self
    intro c mem
    simpa using List.all_eq_true.mp small c (letters c mem)
  rcases List.any_eq_true.mp held with ⟨keyword, known, inside⟩
  rcases List.any_eq_true.mp (List.all_eq_true.mp foreign keyword known) with ⟨c, mem, outside⟩
  rw [kept, contains_iff] at inside
  have spelled' := letters c (inside.subset mem)
  simp [spelled'] at outside

/-- The letters of the code markers. -/
theorem codeMarker_within : codeMarker.regex.Within (· ∈ py "<? phytonjsba>") := by
  have blank : (0x20 : CodePoint) ∈ py "<? phytonjsba>" := by simp [py]
  have blanks : ∀ c, isBlank c = true → c ∈ py "<? phytonjsba>" := by
    intro c same
    have equal : c = 0x20 := by simpa [isBlank] using same
    exact equal ▸ blank
  refine ⟨within_literal ?_, blanks, ⟨within_group ?_, trivial⟩, blanks, within_literal ?_⟩
  · simp [py]
  · intro regex mem
    rcases List.mem_map.mp mem with ⟨language, known, rfl⟩
    apply within_literal
    simp only [List.mem_cons, List.not_mem_nil, or_false] at known
    rcases known with rfl | rfl | rfl | rfl <;>
      simp [py]
  · simp [py]

/-- Patterns that tell whenever they are found. -/
def outspoken : List Hook := [youAreNow, pretendToBe, encodedScript, scriptTag, javascriptUrl]

theorem outspoken_tells (known : hook ∈ outspoken) :
    hook.Tells blockedKeywords text ↔ hook.Finds text := by
  simp only [outspoken, List.mem_cons, List.not_mem_nil, or_false] at known
  rcases known with rfl | rfl | rfl | rfl | rfl
  · exact tells_iff_finds_of_opening (py "you are now") rfl (by decide)
      (by decide) (by decide) (by decide)
  · exact tells_iff_finds_of_opening (py "pretend to be") rfl (by decide)
      (by decide) (by decide) (by decide)
  · refine tells_iff_finds_of_literal (py "%3Cscript%3E") (by decide) (by decide) ?_
    intro word spelled
    rw [encodedScript, spells_phrase, List.map_id] at spelled
    simp only [wordings, List.flatMap_cons, List.flatMap_nil, List.append_nil, List.map_cons,
      List.map_nil, List.mem_singleton] at spelled
    rw [spelled]
  · refine tells_iff_finds_of_literal (py "<script") (by decide) (by decide) ?_
    exact fun word => begins_of_spells
  · refine tells_iff_finds_of_literal (py "javascript:") (by decide) (by decide) ?_
    exact fun word => begins_of_spells

/-- Patterns that never tell. -/
def silent : List Hook :=
  [ignoreAbove, codeMarker, cdata, dataUrl, rightToLeftOverride, leftToRightMark,
    leftToRightOverride]

theorem silent_not_tells (known : hook ∈ silent) : ¬ hook.Tells blockedKeywords text := by
  simp only [silent, List.mem_cons, List.not_mem_nil, or_false] at known
  rcases known with rfl | rfl | rfl | rfl | rfl | rfl | rfl
  · intro tells
    have none := (tells_iff_of_wordings rfl (List.nil_subset _)
      (fun keyword known => (plain_blockedKeywords keyword known).1) (by decide)).mp tells
    rcases none with ⟨entry, -, held⟩
    cases held
  · exact not_tells_of_alphabet (py "<? phytonjsba>") codeMarker_within (by decide)
      (by decide)
  · exact not_tells_of_wordings rfl (by decide)
  · exact not_tells_of_wordings rfl (by decide)
  · exact not_tells_of_wordings rfl (by decide)
  · exact not_tells_of_wordings rfl (by decide)
  · exact not_tells_of_wordings rfl (by decide)

/-- The other patterns, with the keywords that decide about their matches. -/
def keyed : List (Hook × List Str) :=
  [(ignorePrevious, [py "ignore previous"]), (disregardPrevious, [py "disregard"]),
   (forgetEverything, [py "forget everything"]),
   (actAs, [py "act as", py "system", py "admin"]), (password, blockedKeywords),
   (apiKey, blockedKeywords), (secret, blockedKeywords), (templateMarker, blockedKeywords)]

/-- What the patterns recognise: everything that an outspoken pattern finds, and the matches of
the keyed patterns that hold their keywords in plain spelling. -/
def Recognised (text : Str) : Prop :=
  (∃ hook ∈ outspoken, hook.Finds text) ∨ ∃ pair ∈ keyed, pair.1.Tells pair.2 text

theorem exists_tells_iff_recognised :
    (∃ hook ∈ defaults, hook.Tells blockedKeywords text) ↔ Recognised text := by
  have spelled := @tells_spelled text
  constructor
  · rintro ⟨hook, known, tells⟩
    have place : hook ∈ outspoken ∨ hook ∈ silent ∨ ∃ pair ∈ keyed, pair.1 = hook ∧
        (hook.Tells blockedKeywords text → hook.Tells pair.2 text) := by
      simp only [defaults, directInjection, roleOverride, exfiltration, templateInjection,
        encodedPayloads, directionality, List.cons_append, List.nil_append, List.mem_cons,
        List.not_mem_nil, or_false] at known
      rcases known with rfl | rfl | rfl | rfl | rfl | rfl | rfl | rfl | rfl | rfl | rfl | rfl |
        rfl | rfl | rfl | rfl | rfl | rfl | rfl | rfl <;>
        simp [outspoken, silent, keyed, spelled]
    rcases place with loud | quiet | ⟨pair, listed, rfl, own⟩
    · exact .inl ⟨hook, loud, (outspoken_tells loud).mp tells⟩
    · exact absurd tells (silent_not_tells quiet)
    · exact .inr ⟨pair, listed, own tells⟩
  · rintro (⟨hook, loud, finds⟩ | ⟨pair, listed, tells⟩)
    · have known : hook ∈ defaults := by
        simp only [outspoken, List.mem_cons, List.not_mem_nil, or_false] at loud
        rcases loud with rfl | rfl | rfl | rfl | rfl <;> simp [defaults, roleOverride,
          encodedPayloads]
      exact ⟨hook, known, (outspoken_tells loud).mpr finds⟩
    · have known : pair.1 ∈ defaults ∧
          (pair.1.Tells pair.2 text → pair.1.Tells blockedKeywords text) := by
        simp only [keyed, List.mem_cons, List.not_mem_nil, or_false] at listed
        rcases listed with rfl | rfl | rfl | rfl | rfl | rfl | rfl | rfl <;>
          simp [defaults, directInjection, roleOverride, exfiltration, templateInjection, spelled]
      exact ⟨pair.1, known.1, known.2 tells⟩

/-- Patterns whose words begin with a keyword, if only their letters count. -/
def worded : List Hook :=
  [ignorePrevious, disregardPrevious, forgetEverything, actAs, password, secret]

theorem opening_of_phrase {keywords : List Str} {groups : List (List Str)}
    {rest : Regex CodePoint} {word : Str}
    (openings : ∀ wording ∈ wordings groups, ∃ keyword ∈ keywords, keyword <+: wording)
    (spelled : (Regex.seq (phrase letterOf groups) rest).Spells word) :
    ∃ keyword ∈ keywords, keyword <+: word.map letterOf := by
  rcases spelled with ⟨front, back, rfl, named, -⟩
  rcases openings _ (spells_phrase.mp named) with ⟨keyword, known, opening⟩
  refine ⟨keyword, known, opening.trans ?_⟩
  rw [List.map_append]
  exact List.prefix_append _ _

theorem opening_of_worded {word : Str} (known : hook ∈ worded)
    (spelled : hook.regex.Spells word) :
    ∃ keyword ∈ blockedKeywords, keyword <+: word.map letterOf := by
  simp only [worded, List.mem_cons, List.not_mem_nil, or_false] at known
  have alone : ∀ groups, (phrase letterOf groups).Spells word →
      (Regex.seq (phrase letterOf groups) .empty).Spells word :=
    fun groups whole => ⟨word, [], by simp, whole, rfl⟩
  rcases known with rfl | rfl | rfl | rfl | rfl | rfl
  · exact opening_of_phrase (by decide) (alone _ spelled)
  · exact opening_of_phrase (by decide) (alone _ spelled)
  · exact opening_of_phrase (by decide) (alone _ spelled)
  · exact opening_of_phrase (by decide) (alone _ spelled)
  · exact opening_of_phrase (by decide) spelled
  · exact opening_of_phrase (by decide) spelled

/-- In plain spelling they show it. -/
theorem shows_of_worded {word : Str} (known : hook ∈ worded) (spelled : hook.regex.Spells word)
    (plain : ∀ c ∈ lower word, c ≠ 0x307 ∧ c ≠ 0x131 ∧ c ≠ 0x17F) :
    shows blockedKeywords word = true := by
  rcases opening_of_worded known spelled with ⟨keyword, listed, rest, split⟩
  rcases List.map_eq_append_iff.mp split.symm with ⟨front, back, rfl, rfl, -⟩
  apply shows_append back (by simpa using (plain_blockedKeywords _ listed).2)
  apply List.any_eq_true.mpr
  refine ⟨_, listed, (contains_iff _ _).mpr ?_⟩
  rw [lower_of_plain fun c mem => plain c (by simp [mem])]

end Hook

namespace SemanticFirewall

open Hook

theorem scan_error_iff_recognised {text inputType : Str} :
    (∃ e, getFirewall.scan text inputType = .error e) ↔ Recognised text := by
  rw [scan_error_iff, exists_tells_iff_recognised]

/-- A match in plain spelling of a pattern that begins with a keyword is always blocked. -/
theorem scan_error_of_plain {hook : Hook} {text inputType : Str} {entry : ℕ × Str}
    (known : hook ∈ worded) (reported : entry ∈ hook.regex.found text)
    (plain : ∀ c ∈ lower entry.2, c ≠ 0x307 ∧ c ≠ 0x131 ∧ c ≠ 0x17F) :
    ∃ e, getFirewall.scan text inputType = .error e := by
  have listed : hook ∈ defaults := by
    simp only [worded, List.mem_cons, List.not_mem_nil, or_false] at known
    rcases known with rfl | rfl | rfl | rfl | rfl | rfl <;>
      simp [defaults, directInjection, roleOverride, exfiltration]
  have shown := shows_of_worded known (Regex.spells_of_mem_found reported) plain
  exact scan_error_iff.mpr ⟨hook, listed, entry, reported, shown⟩

/-- Matches of the first three groups of patterns block exactly the texts that hold one of an
outspoken pattern or one in plain spelling. -/
theorem injections_blocked_iff (text inputType : Str) :
    ((∃ hook ∈ directInjection ++ roleOverride ++ exfiltration, hook.Finds text) →
        ∃ e, getFirewall.scan text inputType = .error e) ↔
      (∀ hook ∈ directInjection ++ roleOverride ++ exfiltration, ¬ hook.Finds text) ∨
        Recognised text := by
  rw [scan_error_iff_recognised]
  constructor
  · intro blocked
    by_cases found : ∃ hook ∈ directInjection ++ roleOverride ++ exfiltration, hook.Finds text
    · exact .inr (blocked found)
    · exact .inl fun hook known finds => found ⟨hook, known, finds⟩
  · rintro (none | recognised)
    · rintro ⟨hook, known, finds⟩
      exact absurd finds (none hook known)
    · exact fun _ => recognised

end SemanticFirewall

namespace Sample

open SemanticFirewall Hook

/-- An API key whose name is written without a separator is found and let through. -/
theorem api_key_let_through :
    ¬ ((∃ hook ∈ directInjection ++ roleOverride ++ exfiltration, hook.Finds (py "apikey=abc")) →
      ∃ e, getFirewall.scan (py "apikey=abc") (py "unknown") = .error e) := by
  intro blocks
  have found : apiKey.Finds (py "apikey=abc") := by
    rw [Finds]
    decide
  rcases blocks ⟨apiKey, by simp [exfiltration], found⟩ with ⟨e, raised⟩
  have passed : (getFirewall.scan (py "apikey=abc") (py "unknown")).toOption.isSome = true := by
    decide
  rw [raised] at passed
  cases passed

end Sample

end AgentOS
