import AgentOS.Governance.Replay
import AgentOS.Policies.PathPolicy

/-!
# Path leaks

Absolute patterns of literal text, `*` and `**`, against what they are meant to cover. The
matcher works on the text: a star crosses slashes, and the text of a pattern without its
trailing stars and slashes reaches everything that starts like it.
-/

namespace AgentOS

open Python Lexing

/-- An absolute pattern of literal text and `*` within the segments, and `**` as a segment. -/
structure PathPattern where
  segments : List Str
  proper : ∀ segment ∈ segments, segment ≠ [] ∧ (0x2F : CodePoint) ∉ segment ∧
    (0x3F : CodePoint) ∉ segment ∧ (0x5B : CodePoint) ∉ segment ∧
      (segment = py "**" ∨ contains segment (py "**") = false)

namespace PathPattern

def text (pattern : PathPattern) : Str := rooted pattern.segments

/-- No `**`, or only literal segments before a last `**`. -/
def Simple (pattern : PathPattern) : Prop :=
  py "**" ∉ pattern.segments ∨ ∃ literals, pattern.segments = literals ++ [py "**"] ∧
    ∀ segment ∈ literals, (0x2A : CodePoint) ∉ segment

end PathPattern

/-- The text of the path is a glob match whose stars may cross slashes, or starts like the
pattern without its trailing stars and slashes. -/
def Reaches (path : CanonicalPath) (pattern : Str) : Prop :=
  fnmatch path.text pattern = true ∨ stem pattern <+: path.text

theorem segmentsOf_rooted {segments : List Str}
    (proper : ∀ s ∈ segments, s ≠ [] ∧ (0x2F : CodePoint) ∉ s) :
    segmentsOf (rooted segments) = segments := by
  by_cases empty : segments = []
  · subst empty
    rfl
  · rw [segmentsOf, splitSep_rooted (fun s mem => (proper s mem).2) empty]
    have kept : ∀ s ∈ segments, decide (s ≠ []) = true := by
      intro s mem
      simpa using (proper s mem).1
    simpa using kept

theorem startswith_rooted (segments : List Str) : startswith (rooted segments) (py "/") = true := by
  rw [rooted]
  split
  · rfl
  · rename_i nonempty
    obtain ⟨first, rest, rfl⟩ := List.exists_cons_of_ne_nil nonempty
    rfl

theorem matchPath_iff_reaches {path : CanonicalPath} {pattern : Str}
    (absolute : startswith pattern (py "/") = true) :
    FilesystemPolicy.matchPath path.text pattern = true ↔ Reaches path pattern := by
  rw [FilesystemPolicy.matchPath, if_pos absolute, Bool.or_eq_true, Reaches]
  simp only [startswith, List.isPrefixOf_iff_prefix]

theorem slashed_append (segments segments' : List Str) :
    slashed (segments ++ segments') = slashed segments ++ slashed segments' :=
  List.flatMap_append ..

/-- A `/`, the segment, and the segments after it. -/
theorem slashed_cons (segment : Str) (segments : List Str) :
    slashed (segment :: segments) = 0x2F :: (segment ++ slashed segments) := rfl

/-- Segment by segment matches are a match of the text. -/
theorem matchItems_slashed {segments names : List Str}
    (single : ∀ s ∈ segments, s ≠ py "**") (unbracketed : ∀ s ∈ segments, (0x5B : CodePoint) ∉ s)
    (matched : matchItems (segments.map segmentItem) names = true) :
    matchItems ((slashed segments).map patternItem) (slashed names) = true := by
  induction segments generalizing names with
  | nil =>
      rw [List.map_nil, matchItems_nil] at matched
      subst matched
      rfl
  | cons segment segments ih =>
      have first : segmentItem segment = .one fun name => fnmatch name segment :=
        if_neg (single segment List.mem_cons_self)
      rw [List.map_cons, first, matchItems_one] at matched
      obtain ⟨name, rest, rfl, here, later⟩ := matched
      have tail := ih (fun s mem => single s (List.mem_cons_of_mem _ mem))
        (fun s mem => unbracketed s (List.mem_cons_of_mem _ mem)) later
      rw [fnmatch, translate_of_no_bracket (unbracketed segment List.mem_cons_self)] at here
      rw [slashed_cons, slashed_cons, List.map_cons, List.map_append]
      refine matchItems_one.mpr ⟨0x2F, _, rfl, by decide, ?_⟩
      exact matchItems_append.mpr ⟨name, slashed rest, rfl, here, tail⟩

/-- Every segment of the pattern takes a slash of the text. -/
theorem length_le_of_matchItems_slashed {segments : List Str} {text : Str}
    (matched : matchItems ((slashed segments).map patternItem) text = true) :
    segments.length ≤ text.count 0x2F := by
  induction segments generalizing text with
  | nil => exact Nat.zero_le _
  | cons segment segments ih =>
      rw [slashed_cons, List.map_cons, List.map_append] at matched
      obtain ⟨slash, behind, rfl, same, later⟩ := matchItems_one.mp matched
      obtain ⟨name, rest, rfl, -, taken⟩ := matchItems_append.mp later
      have below := ih taken
      rw [of_decide_eq_true same, List.count_cons_self, List.count_append, List.length_cons]
      omega

/-- A text without a slash at the start of a path ends within the first name. -/
theorem prefix_of_no_slash {front back name : Str} {names : List Str}
    (solid : (0x2F : CodePoint) ∉ front) (split : name ++ slashed names = front ++ back) :
    ∃ more, name = front ++ more ∧ back = more ++ slashed names := by
  rcases List.append_eq_append_iff.mp split with ⟨middle, front', behind⟩ | ⟨more, name', behind⟩
  · rcases names with _ | ⟨next, names⟩
    · have parts : middle ++ back = [] := behind.symm
      rw [List.append_eq_nil_iff] at parts
      exact ⟨[], by simp [front', parts.1], by simp [parts.2, slashed]⟩
    · rcases middle with _ | ⟨c, middle⟩
      · exact ⟨[], by simpa using front'.symm, behind.symm⟩
      · rw [slashed_cons, List.cons_append] at behind
        have slash := (List.cons.inj behind).1
        refine absurd ?_ solid
        rw [front', ← slash]
        simp
  · exact ⟨more, name', behind⟩

/-- A match of the text in which no star takes a slash is one segment by segment. -/
theorem matchItems_of_slashed {segments names : List Str}
    (single : ∀ s ∈ segments, s ≠ py "**") (unbracketed : ∀ s ∈ segments, (0x5B : CodePoint) ∉ s)
    (solid : ∀ n ∈ names, (0x2F : CodePoint) ∉ n) (even : names.length = segments.length)
    (matched : matchItems ((slashed segments).map patternItem) (slashed names) = true) :
    matchItems (segments.map segmentItem) names = true := by
  have slashes : ∀ names : List Str, (∀ n ∈ names, (0x2F : CodePoint) ∉ n) →
      (slashed names).count 0x2F = names.length := by
    intro names
    induction names with
    | nil => exact fun _ => rfl
    | cons name names ih =>
        intro solid
        rw [slashed_cons, List.count_cons_self, List.count_append,
          List.count_eq_zero_of_not_mem (solid name List.mem_cons_self),
          ih fun n mem => solid n (List.mem_cons_of_mem _ mem), List.length_cons, Nat.zero_add]
  induction segments generalizing names with
  | nil => rw [List.length_eq_zero_iff.mp even, List.map_nil, matchItems_nil]
  | cons segment segments ih =>
      obtain ⟨name, names, rfl⟩ := List.exists_cons_of_length_eq_add_one even
      rw [slashed_cons, slashed_cons, List.map_cons, List.map_append] at matched
      obtain ⟨_, behind, split, -, later⟩ := matchItems_one.mp matched
      obtain ⟨-, rfl⟩ := List.cons.inj split
      obtain ⟨front, back, parts, here, taken⟩ := matchItems_append.mp later
      have solid' : ∀ n ∈ names, (0x2F : CodePoint) ∉ n :=
        fun n mem => solid n (List.mem_cons_of_mem _ mem)
      -- The segments behind take as many slashes as there are, so that none is left for this one.
      have total := congrArg (List.count 0x2F) parts
      rw [List.count_append, List.count_append, slashes names solid',
        List.count_eq_zero_of_not_mem (solid name List.mem_cons_self)] at total
      have below := length_le_of_matchItems_slashed taken
      rw [List.length_cons, List.length_cons] at even
      have whole : (0x2F : CodePoint) ∉ front := List.count_eq_zero.mp (by omega)
      obtain ⟨more, name', back'⟩ := prefix_of_no_slash whole parts
      have nothing : more = [] := by
        rcases segments with _ | ⟨next, segments⟩
        · rw [slashed, List.flatMap_nil, List.map_nil, matchItems_nil, back'] at taken
          exact (List.append_eq_nil_iff.mp taken).1
        · rw [slashed_cons, List.map_cons, back'] at taken
          obtain ⟨slash, rest, start, same, -⟩ := matchItems_one.mp taken
          rcases more with _ | ⟨c, more⟩
          · rfl
          · rw [List.cons_append] at start
            have first : c = 0x2F := (List.cons.inj start).1.trans (of_decide_eq_true same)
            refine absurd ?_ (solid name List.mem_cons_self)
            rw [name', first]
            simp
      rw [nothing, List.append_nil] at name'
      rw [nothing, List.nil_append] at back'
      have first : segmentItem segment = .one fun name => fnmatch name segment :=
        if_neg (single segment List.mem_cons_self)
      rw [List.map_cons, first]
      refine matchItems_one.mpr ⟨name, names, rfl, ?_, ?_⟩
      · rw [fnmatch, translate_of_no_bracket (unbracketed segment List.mem_cons_self), name']
        exact here
      · exact ih (fun s mem => single s (List.mem_cons_of_mem _ mem))
          (fun s mem => unbracketed s (List.mem_cons_of_mem _ mem)) solid' (by omega)
          (back' ▸ taken)

theorem length_of_matchItems_segments {segments names : List Str}
    (single : ∀ s ∈ segments, s ≠ py "**")
    (matched : matchItems (segments.map segmentItem) names = true) :
    names.length = segments.length := by
  induction segments generalizing names with
  | nil =>
      rw [List.map_nil, matchItems_nil] at matched
      rw [matched]
  | cons segment segments ih =>
      have first : segmentItem segment = .one fun name => fnmatch name segment :=
        if_neg (single segment List.mem_cons_self)
      rw [List.map_cons, first] at matched
      obtain ⟨name, rest, rfl, -, later⟩ := matchItems_one.mp matched
      rw [List.length_cons, List.length_cons,
        ih (fun s mem => single s (List.mem_cons_of_mem _ mem)) later]

/-- A literal segment takes itself only. -/
theorem fnmatch_literal {name segment : Str} (plain : ∀ c ∈ segment, isPlain c = true) :
    fnmatch name segment = true ↔ name = segment := by
  have unbracketed : (0x5B : CodePoint) ∉ segment := by
    intro mem
    have ordinary := plain _ mem
    revert ordinary
    decide
  rw [fnmatch, translate_of_no_bracket unbracketed, map_patternItem_of_plain plain,
    matchItems_literally]

theorem matchItems_literals {segments names : List Str}
    (plain : ∀ s ∈ segments, ∀ c ∈ s, isPlain c = true)
    (matched : matchItems (segments.map segmentItem) names = true) : names = segments := by
  induction segments generalizing names with
  | nil => simpa using matched
  | cons segment segments ih =>
      have here := plain segment List.mem_cons_self
      have first : segmentItem segment = .one fun name => fnmatch name segment := by
        apply if_neg
        rintro rfl
        have starred := here 0x2A (by decide)
        revert starred
        decide
      rw [List.map_cons, first, matchItems_one] at matched
      obtain ⟨name, rest, rfl, same, later⟩ := matched
      rw [(fnmatch_literal here).mp same,
        ih (fun s mem => plain s (List.mem_cons_of_mem _ mem)) later]

theorem matchItems_literals_self {segments : List Str}
    (plain : ∀ s ∈ segments, ∀ c ∈ s, isPlain c = true) :
    matchItems (segments.map segmentItem) segments = true := by
  induction segments with
  | nil => rfl
  | cons segment segments ih =>
      have here := plain segment List.mem_cons_self
      have first : segmentItem segment = .one fun name => fnmatch name segment := by
        apply if_neg
        rintro rfl
        have starred := here 0x2A (by decide)
        revert starred
        decide
      rw [List.map_cons, first]
      exact matchItems_one.mpr ⟨segment, segments, rfl, (fnmatch_literal here).mpr rfl,
        ih fun s mem => plain s (List.mem_cons_of_mem _ mem)⟩

/-- The names are those of the literal segments, but for the last of them, which goes on. -/
def Sibling (literals names : List Str) : Prop :=
  ∃ before last more rest, literals = before ++ [last] ∧ more ≠ [] ∧
    names = before ++ (last ++ more) :: rest

/-- A text starts like literal segments when its names do, or when it is that of a sibling. -/
theorem slashed_prefix_iff {literals names : List Str}
    (solid : ∀ s ∈ literals, (0x2F : CodePoint) ∉ s)
    (solid' : ∀ n ∈ names, (0x2F : CodePoint) ∉ n) :
    slashed literals <+: slashed names ↔ literals <+: names ∨ Sibling literals names := by
  constructor
  · intro starts
    induction literals generalizing names with
    | nil => exact .inl List.nil_prefix
    | cons literal literals ih =>
        rcases names with _ | ⟨name, names⟩
        · cases List.prefix_nil.mp starts
        obtain ⟨behind, split⟩ := starts
        rw [slashed_cons, slashed_cons, List.cons_append, List.append_assoc] at split
        obtain ⟨more, rfl, later⟩ := prefix_of_no_slash (solid literal List.mem_cons_self)
          (List.cons.inj split).2.symm
        rcases more with _ | ⟨c, more⟩
        · rw [List.append_nil]
          have starts' : slashed literals <+: slashed names := ⟨behind, later⟩
          rcases ih (fun s mem => solid s (List.mem_cons_of_mem _ mem))
              (fun n mem => solid' n (List.mem_cons_of_mem _ mem)) starts' with
            inside | ⟨before, last, more, rest, rfl, goesOn, rfl⟩
          · exact .inl (List.cons_prefix_cons.mpr ⟨rfl, inside⟩)
          · exact .inr ⟨literal :: before, last, more, rest, rfl, goesOn, rfl⟩
        · rcases literals with _ | ⟨next, literals⟩
          · exact .inr ⟨[], literal, c :: more, names, rfl, List.cons_ne_nil c more, rfl⟩
          · rw [slashed_cons, List.cons_append, List.cons_append] at later
            have slash := (List.cons.inj later).1
            refine absurd ?_ (solid' _ List.mem_cons_self)
            rw [← slash]
            simp
  · rintro (⟨rest, rfl⟩ | ⟨before, last, more, rest, rfl, -, rfl⟩)
    · rw [slashed_append]
      exact List.prefix_append ..
    · refine ⟨more ++ slashed rest, ?_⟩
      simp [slashed]

/-- The stem of a pattern that ends in `**` is the text of the segments before it. -/
theorem stem_below {literals : List Str}
    (proper : ∀ s ∈ literals, s ≠ [] ∧ (0x2F : CodePoint) ∉ s) :
    stem (rooted (literals ++ [py "**"])) = slashed literals := by
  have nonempty : literals ++ [py "**"] ≠ [] := by simp
  have stars : rooted (literals ++ [py "**"]) = slashed literals ++ [0x2F] ++ [0x2A] ++ [0x2A] := by
    rw [rooted, if_neg nonempty, slashed_append]
    simp [slashed]
    rfl
  rw [stem, stars, List.rdropWhile_concat_pos _ _ _ (by decide),
    List.rdropWhile_concat_pos _ _ _ (by decide), List.rdropWhile_concat_neg _ _ _ (by decide),
    List.rdropWhile_concat_pos _ _ _ (by decide)]
  rcases List.eq_nil_or_concat literals with rfl | ⟨before, last, rfl⟩
  · rfl
  · rw [List.concat_eq_append] at proper ⊢
    obtain ⟨filled, solid⟩ := proper last (by simp)
    rcases List.eq_nil_or_concat last with rfl | ⟨start, c, rfl⟩
    · exact absurd rfl filled
    · have other : c ≠ 0x2F := by
        rintro rfl
        exact solid (by simp)
      rw [slashed_append, slashed_cons, List.concat_eq_append]
      have shape : slashed before ++ 0x2F :: ((start ++ [c]) ++ slashed []) =
          (slashed before ++ 0x2F :: start) ++ [c] := by
        simp [slashed]
      rw [shape, List.rdropWhile_concat_neg _ _ _ (by simpa using other)]

namespace PathPattern

variable {pattern : PathPattern} {path : CanonicalPath}

theorem segmentsOf_text (pattern : PathPattern) : segmentsOf pattern.text = pattern.segments :=
  segmentsOf_rooted fun s mem => ⟨(pattern.proper s mem).1, (pattern.proper s mem).2.1⟩

theorem bracket_not_mem_text (pattern : PathPattern) : (0x5B : CodePoint) ∉ pattern.text := by
  intro mem
  rw [text, rooted] at mem
  split at mem
  · revert mem
    decide
  · obtain ⟨segment, listed, here⟩ := List.mem_flatMap.mp mem
    rcases List.mem_cons.mp here with slash | inside
    · revert slash
      decide
    · exact (pattern.proper segment listed).2.2.2.1 inside

/-- Without `**` a covered path is a match of the text. -/
theorem fnmatch_of_covers (single : py "**" ∉ pattern.segments)
    (covered : covers pattern.text path = true) : fnmatch path.text pattern.text = true := by
  rw [covers, segmentsOf_text] at covered
  have unbracketed : ∀ s ∈ pattern.segments, (0x5B : CodePoint) ∉ s :=
    fun s mem => (pattern.proper s mem).2.2.2.1
  have matched := matchItems_slashed (fun s mem same => single (same ▸ mem)) unbracketed covered
  rw [fnmatch, translate_of_no_bracket pattern.bracket_not_mem_text, CanonicalPath.text, text,
    rooted, rooted]
  by_cases top : pattern.segments = []
  · have root : path.segments = [] := by simpa [top] using covered
    rw [if_pos top, if_pos root]
    decide
  · have below : path.segments ≠ [] := by
      intro root
      obtain ⟨first, rest, split⟩ := List.exists_cons_of_ne_nil top
      rw [root, split, List.map_cons, segmentItem,
        if_neg fun same => single (by simp [split, same])] at covered
      cases covered
    rwa [if_neg top, if_neg below]

/-- Without `**` a path is covered when it is a match of the text in which no star takes a slash. -/
theorem covers_iff_fnmatch (single : py "**" ∉ pattern.segments) :
    covers pattern.text path = true ↔
      fnmatch path.text pattern.text = true ∧ path.segments.length = pattern.segments.length := by
  have unbracketed : ∀ s ∈ pattern.segments, (0x5B : CodePoint) ∉ s :=
    fun s mem => (pattern.proper s mem).2.2.2.1
  have single' : ∀ s ∈ pattern.segments, s ≠ py "**" := fun s mem same => single (same ▸ mem)
  constructor
  · intro covered
    refine ⟨fnmatch_of_covers single covered, ?_⟩
    rw [covers, segmentsOf_text] at covered
    exact length_of_matchItems_segments single' covered
  · rintro ⟨matched, even⟩
    rw [covers, segmentsOf_text]
    rw [fnmatch, translate_of_no_bracket pattern.bracket_not_mem_text, CanonicalPath.text, text,
      rooted, rooted] at matched
    by_cases top : pattern.segments = []
    · rw [top, List.length_nil] at even
      rw [top, List.map_nil, matchItems_nil]
      exact List.length_eq_zero_iff.mp even
    · have below : path.segments ≠ [] := by
        intro root
        rw [root, List.length_nil] at even
        exact top (List.length_eq_zero_iff.mp even.symm)
      rw [if_neg top, if_neg below] at matched
      exact matchItems_of_slashed single' unbracketed (fun n mem => (path.proper n mem).2.1) even
        matched

/-- It reaches, besides, what a star takes over a slash, and what starts like the stem. -/
theorem reaches_single_iff (single : py "**" ∉ pattern.segments) :
    Reaches path pattern.text ↔ covers pattern.text path = true ∨
      (fnmatch path.text pattern.text = true ∧
        path.segments.length ≠ pattern.segments.length) ∨
      stem pattern.text <+: path.text := by
  rw [covers_iff_fnmatch single, Reaches]
  by_cases even : path.segments.length = pattern.segments.length <;> simp [even]

section Below

variable {literals : List Str} (shape : pattern.segments = literals ++ [py "**"])
  (literal : ∀ s ∈ literals, (0x2A : CodePoint) ∉ s)

include shape literal

theorem plain_of_literal : ∀ s ∈ literals, ∀ c ∈ s, isPlain c = true := by
  intro s mem c inside
  have listed : s ∈ pattern.segments := by simp [shape, mem]
  obtain ⟨-, -, question, bracket, -⟩ := pattern.proper s listed
  have star := literal s mem
  simp only [isPlain, Bool.and_eq_true, decide_eq_true_eq]
  refine ⟨⟨?_, ?_⟩, ?_⟩ <;> rintro rfl <;> contradiction

/-- Literal segments and a last `**` cover what lies below the segments. -/
theorem covers_below_iff : covers pattern.text path = true ↔ literals <+: path.segments := by
  have plain := plain_of_literal shape literal
  rw [covers, segmentsOf_text, shape, List.map_append, matchItems_append]
  constructor
  · rintro ⟨front, back, split, matched, -⟩
    rw [split, matchItems_literals plain matched]
    exact List.prefix_append ..
  · rintro ⟨rest, split⟩
    refine ⟨literals, rest, split.symm, matchItems_literals_self plain, ?_⟩
    exact matchItems_anything.mpr ⟨rest, [], by simp, rfl⟩

/-- They reach, besides, the siblings of the last segment whose names begin like it. -/
theorem reaches_below_iff :
    Reaches path pattern.text ↔
      covers pattern.text path = true ∨ Sibling literals path.segments := by
  have proper : ∀ s ∈ literals, s ≠ [] ∧ (0x2F : CodePoint) ∉ s := by
    intro s mem
    have listed : s ∈ pattern.segments := by simp [shape, mem]
    exact ⟨(pattern.proper s listed).1, (pattern.proper s listed).2.1⟩
  have start : stem pattern.text = slashed literals := by
    rw [text, shape, stem_below proper]
  have matched : fnmatch path.text pattern.text = true → slashed literals <+: path.text := by
    intro matched
    have nonempty : literals ++ [py "**"] ≠ [] := by simp
    have plain : ∀ c ∈ slashed literals, isPlain c = true := by
      intro c mem
      obtain ⟨s, listed, here⟩ := List.mem_flatMap.mp mem
      rcases List.mem_cons.mp here with rfl | inside
      · decide
      · exact plain_of_literal shape literal s listed c inside
    rw [fnmatch, translate_of_no_bracket pattern.bracket_not_mem_text, text, shape, rooted,
      if_neg nonempty, slashed_append, List.map_append, map_patternItem_of_plain plain] at matched
    obtain ⟨rest, split, -⟩ := matchItems_literally_append.mp matched
    exact ⟨rest, split.symm⟩
  rw [covers_below_iff shape literal, Reaches, start, or_iff_right_of_imp matched,
    CanonicalPath.text, rooted]
  split
  · rename_i root
    rw [root]
    constructor
    · intro starts
      rcases literals with _ | ⟨first, literals⟩
      · exact .inl List.nil_prefix
      · obtain ⟨rest, split⟩ := starts
        have slash : py "/" = [0x2F] := rfl
        rw [slashed_cons, List.cons_append, slash, List.append_assoc] at split
        have empty := List.append_eq_nil_iff.mp (List.cons.inj split).2
        exact absurd empty.1 (proper first List.mem_cons_self).1
    · rintro (inside | ⟨before, last, more, rest, -, -, names⟩)
      · rw [List.prefix_nil.mp inside]
        exact List.nil_prefix
      · cases (List.append_eq_nil_iff.mp names.symm).2
  · exact slashed_prefix_iff (fun s mem => (proper s mem).2) fun n mem => (path.proper n mem).2.1

end Below

/-- The matcher misses nothing that a simple pattern is meant to cover. -/
theorem Simple.reaches (simple : pattern.Simple) (covered : covers pattern.text path = true) :
    Reaches path pattern.text := by
  rcases simple with single | ⟨literals, shape, literal⟩
  · exact .inl (fnmatch_of_covers single covered)
  · exact (reaches_below_iff shape literal).mpr (.inl covered)

end PathPattern

/-- An accepted path is covered by an allowed pattern and by no denied one exactly when a denied
pattern reaches it, or no allowed pattern does, or an allowed pattern covers it and no denied
pattern does whose `**` is not last after literal segments. -/
theorem checkPathAccess_sound_iff (host : Host) (policy : FilesystemPolicy)
    (resolve : Str → CanonicalPath) (targetPath operation : Str)
    (documented : ∀ text ∈ policy.allowedPaths ++ policy.deniedPaths,
      ∃ pattern : PathPattern, text = pattern.text) :
    (policy.checkPathAccess host resolve targetPath operation = .ok () →
      (∃ text ∈ policy.allowedPaths, covers text (resolve targetPath) = true) ∧
        ∀ text ∈ policy.deniedPaths, covers text (resolve targetPath) = false) ↔
    (∃ text ∈ policy.deniedPaths, Reaches (resolve targetPath) text) ∨
      (∀ text ∈ policy.allowedPaths, ¬ Reaches (resolve targetPath) text) ∨
      (∃ text ∈ policy.allowedPaths, covers text (resolve targetPath) = true) ∧
        ∀ pattern : PathPattern, pattern.text ∈ policy.deniedPaths → ¬ pattern.Simple →
          covers pattern.text (resolve targetPath) = false := by
  have matched : ∀ text ∈ policy.allowedPaths ++ policy.deniedPaths,
      (FilesystemPolicy.matchPath (resolve targetPath).text text = true ↔
        Reaches (resolve targetPath) text) := by
    intro text mem
    obtain ⟨pattern, rfl⟩ := documented text mem
    exact matchPath_iff_reaches (startswith_rooted _)
  have denied : (∀ text ∈ policy.deniedPaths,
      FilesystemPolicy.matchPath (resolve targetPath).text text = false) ↔
        ¬ ∃ text ∈ policy.deniedPaths, Reaches (resolve targetPath) text := by
    simp only [not_exists, not_and]
    apply forall₂_congr
    intro text mem
    rw [← matched text (List.mem_append_right _ mem), Bool.not_eq_true]
  have allowed : (∃ text ∈ policy.allowedPaths,
      FilesystemPolicy.matchPath (resolve targetPath).text text = true) ↔
        ¬ ∀ text ∈ policy.allowedPaths, ¬ Reaches (resolve targetPath) text := by
    simp only [not_forall, not_not, exists_prop]
    apply exists_congr
    intro text
    apply and_congr_right
    intro mem
    exact matched text (List.mem_append_left _ mem)
  rw [FilesystemPolicy.checkPathAccess_eq_ok_iff, denied, allowed]
  constructor
  · intro sound
    by_cases stopped : ∃ text ∈ policy.deniedPaths, Reaches (resolve targetPath) text
    · exact .inl stopped
    · by_cases outside : ∀ text ∈ policy.allowedPaths, ¬ Reaches (resolve targetPath) text
      · exact .inr (.inl outside)
      · obtain ⟨covered, uncovered⟩ := sound ⟨stopped, outside⟩
        exact .inr (.inr ⟨covered, fun pattern mem _ => uncovered pattern.text mem⟩)
  · rintro (stopped | outside | ⟨covered, uncovered⟩) ⟨undenied, inside⟩
    · exact absurd stopped undenied
    · exact absurd outside inside
    · refine ⟨covered, ?_⟩
      intro text mem
      obtain ⟨pattern, rfl⟩ := documented text (List.mem_append_right _ mem)
      by_cases simple : pattern.Simple
      · rw [Bool.eq_false_iff]
        exact fun hit => undenied ⟨pattern.text, mem, simple.reaches hit⟩
      · exact uncovered pattern mem simple

namespace Sample

def scratchPattern : PathPattern :=
  ⟨[py "tmp", py "agent-os-poc", py "**"], by decide⟩

/-- The scratch area is allowed, and nothing is denied. -/
def scratchPolicy : FilesystemPolicy := ⟨[scratchPattern.text], []⟩

/-- A sibling of the scratch area. -/
def sibling : CanonicalPath := ⟨[py "tmp", py "agent-os-pocket", py "key"], by decide⟩

/-- The sibling is accepted, though no allowed pattern covers it. -/
theorem sibling_accepted :
    ¬ ∀ (host : Host) (policy : FilesystemPolicy) (resolve : Str → CanonicalPath)
      (targetPath operation : Str),
      (∀ text ∈ policy.allowedPaths ++ policy.deniedPaths,
        ∃ pattern : PathPattern, text = pattern.text) →
      policy.checkPathAccess host resolve targetPath operation = .ok () →
        (∃ text ∈ policy.allowedPaths, covers text (resolve targetPath) = true) ∧
          ∀ text ∈ policy.deniedPaths, covers text (resolve targetPath) = false := by
  intro claim
  have documented : ∀ text ∈ scratchPolicy.allowedPaths ++ scratchPolicy.deniedPaths,
      ∃ pattern : PathPattern, text = pattern.text := by
    intro text mem
    exact ⟨scratchPattern, List.mem_singleton.mp mem⟩
  have accepted : scratchPolicy.checkPathAccess steadyHost (fun _ => sibling)
      (py "/tmp/agent-os-pocket/key") (py "read") = .ok () := by
    rw [FilesystemPolicy.checkPathAccess_eq_ok_iff]
    decide
  obtain ⟨⟨text, mem, covered⟩, -⟩ := claim _ _ _ _ _ documented accepted
  rw [List.mem_singleton.mp mem] at covered
  revert covered
  decide

/-- A file of the scratch area is accepted as it should be. -/
def scratchFile : CanonicalPath := ⟨[py "tmp", py "agent-os-poc", py "a"], by decide⟩

theorem scratch_file_sound :
    (∃ text ∈ scratchPolicy.allowedPaths, covers text scratchFile = true) ∧
      ∀ text ∈ scratchPolicy.deniedPaths, covers text scratchFile = false := by
  have documented : ∀ text ∈ scratchPolicy.allowedPaths ++ scratchPolicy.deniedPaths,
      ∃ pattern : PathPattern, text = pattern.text := by
    intro text mem
    exact ⟨scratchPattern, List.mem_singleton.mp mem⟩
  have accepted : scratchPolicy.checkPathAccess steadyHost (fun _ => scratchFile)
      (py "/tmp/agent-os-poc/a") (py "read") = .ok () := by rfl
  refine (checkPathAccess_sound_iff steadyHost scratchPolicy (fun _ => scratchFile) _ _
    documented).mpr (.inr (.inr ⟨⟨scratchPattern.text, ?_, ?_⟩, ?_⟩)) accepted
  · exact List.mem_singleton_self _
  · decide
  · intro pattern denied
    cases denied

end Sample

end AgentOS
