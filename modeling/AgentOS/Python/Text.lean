import Mathlib.Data.List.DropRight
import Mathlib.Data.List.Infix
import Mathlib.Data.Rat.Floor

/-!
# Python strings

A Python `str` is a sequence of Unicode code points, and unlike Lean's `String` it
may hold lone surrogates: a JSON escape or a decoder with `surrogateescape` delivers
them. This file models a `str` as the list of its code points and gives the methods
of the standard library used by the rest of the development, with the white space
set of `str.isspace`.
-/

namespace Python

/-- A Unicode code point, surrogates included. -/
abbrev CodePoint := Fin 0x110000

instance (priority := high) neZeroCodePoints : NeZero 0x110000 := ⟨Nat.succ_ne_zero 0x10FFFF⟩

/-- A Python `str`. -/
abbrev Str := List CodePoint

instance (priority := high) lawfulStr : LawfulBEq Str := inferInstance

/-- The `str` written by a Lean string literal. -/
def py (text : String) : Str :=
  text.toList.map fun c => Fin.ofNat _ c.toNat

/-- `str.isspace` of one code point. -/
def isSpace (c : CodePoint) : Bool :=
  (9 ≤ c.val && c.val ≤ 13) || (28 ≤ c.val && c.val ≤ 32) || c.val == 0x85 ||
    c.val == 0xA0 || c.val == 0x1680 || (0x2000 ≤ c.val && c.val ≤ 0x200A) ||
    c.val == 0x2028 || c.val == 0x2029 || c.val == 0x202F || c.val == 0x205F ||
    c.val == 0x3000

/-- A surrogate code point has no UTF-8 encoding. -/
def isSurrogate (c : CodePoint) : Bool :=
  0xD800 ≤ c.val && c.val ≤ 0xDFFF

/-- Whether `str.encode("utf-8")` succeeds. -/
def encodable (text : Str) : Bool :=
  text.all fun c => !isSurrogate c

/-- `str.strip()`. -/
def strip (text : Str) : Str :=
  (text.dropWhile isSpace).rdropWhile isSpace

/-- `str.split()`: the maximal runs of characters that are not white space. -/
def split (text : Str) : List Str :=
  (text.splitOnP isSpace).filter (· ≠ [])

/-- `str.split(sep)` for a separator of one character. -/
def splitSep (sep : CodePoint) (text : Str) : List Str :=
  text.splitOn sep

/-- `str.split(sep, 1)` for a separator of one character. -/
def splitSepOnce (sep : CodePoint) (text : Str) : List Str :=
  match text.dropWhile (· ≠ sep) with
  | [] => [text]
  | _ :: rest => [text.takeWhile (· ≠ sep), rest]

/-- `str.startswith`. -/
def startswith (text start : Str) : Bool :=
  start.isPrefixOf text

/-- The test `part in text`. -/
def contains (text part : Str) : Bool :=
  text.tails.any fun rest => part.isPrefixOf rest

/-- `sep.join(parts)`. -/
def join (sep : Str) (parts : List Str) : Str :=
  sep.intercalate parts

/-- `str.replace` of one character by a string. -/
def replaceChar (old : CodePoint) (new : Str) (text : Str) : Str :=
  text.flatMap fun c => if c = old then new else [c]

@[simp]
theorem encodable_append (text rest : Str) :
    encodable (text ++ rest) = (encodable text && encodable rest) := by
  simp [encodable]

@[simp]
theorem encodable_cons (c : CodePoint) (rest : Str) :
    encodable (c :: rest) = (!isSurrogate c && encodable rest) := by
  simp [encodable]

/-- ASCII text has an encoding. -/
theorem encodable_of_ascii {text : Str} (ascii : ∀ c ∈ text, c.val < 0x80) :
    encodable text = true := by
  rw [encodable, List.all_eq_true]
  intro c mem
  have small := ascii c mem
  simp [isSurrogate]
  omega

theorem contains_iff (text part : Str) : contains text part = true ↔ part <:+: text := by
  simp only [contains, List.any_eq_true, List.mem_tails, List.isPrefixOf_iff_prefix]
  constructor
  · rintro ⟨rest, suffix, start⟩
    exact start.isInfix.trans suffix.isInfix
  · rintro ⟨before, after, rfl⟩
    exact ⟨part ++ after, ⟨before, by simp⟩, List.prefix_append part after⟩

/-- A text without white space is one word for `split`. -/
theorem split_of_no_space {word : Str} (nonempty : word ≠ [])
    (solid : ∀ c ∈ word, isSpace c = false) : split word = [word] := by
  simp [split, List.splitOnP_eq_singleton solid, nonempty]

/-- `split` takes the first word off a text. -/
theorem split_cons_word {word : Str} (nonempty : word ≠ [])
    (solid : ∀ c ∈ word, isSpace c = false) {gap : CodePoint} (space : isSpace gap = true)
    (rest : Str) : split (word ++ gap :: rest) = word :: split rest := by
  simp [split, List.splitOnP_append_cons_of_forall_mem solid gap space, nonempty]

/-- `split(sep, 1)` cuts at the first separator. -/
theorem splitSepOnce_append {sep : CodePoint} {first : Str} (absent : sep ∉ first) (rest : Str) :
    splitSepOnce sep (first ++ sep :: rest) = [first, rest] := by
  have keep : ∀ c ∈ first, (decide (c ≠ sep)) = true := by
    intro c mem
    simpa using fun same : c = sep => absent (same ▸ mem)
  have dropped : (first ++ sep :: rest).dropWhile (· ≠ sep) = sep :: rest := by
    rw [List.dropWhile_append_of_pos keep]
    simp
  have taken : (first ++ sep :: rest).takeWhile (· ≠ sep) = first := by
    rw [List.takeWhile_append_of_pos keep]
    simp
  rw [splitSepOnce, dropped, taken]

/-- A text without the separator is one part. -/
theorem splitSep_of_not_mem {sep : CodePoint} {text : Str} (absent : sep ∉ text) :
    splitSep sep text = [text] := by
  have other : ∀ c ∈ text, (c == sep) = false := by
    intro c mem
    simpa using fun same : c = sep => absent (same ▸ mem)
  exact List.splitOnP_eq_singleton other

/-- `split(sep)` takes off what stands before the first separator. -/
theorem splitSep_append {sep : CodePoint} {first : Str} (absent : sep ∉ first) (rest : Str) :
    splitSep sep (first ++ sep :: rest) = first :: splitSep sep rest := by
  have other : ∀ c ∈ first, (c == sep) = false := by
    intro c mem
    simpa using fun same : c = sep => absent (same ▸ mem)
  exact List.splitOnP_append_cons_of_forall_mem other sep (by simp) rest

/-- Stripping keeps a beginning that neither starts nor ends with white space. -/
theorem startswith_strip {start rest : Str} (first last : CodePoint) (middle : Str)
    (shape : start = first :: middle ++ [last]) (firstSolid : isSpace first = false)
    (lastSolid : isSpace last = false) : startswith (strip (start ++ rest)) start = true := by
  have front : (start ++ rest).dropWhile isSpace = start ++ rest := by
    simp [shape, firstSolid]
  have kept : ∃ tail, (start ++ rest).rdropWhile isSpace = start ++ tail := by
    induction rest using List.reverseRecOn with
    | nil =>
        refine ⟨[], ?_⟩
        rw [List.append_nil, shape, List.rdropWhile_concat_neg isSpace _ _ (by simp [lastSolid])]
    | append_singleton rest c ih =>
        rw [← List.append_assoc, List.rdropWhile_concat]
        split
        · exact ih (by simp [shape, firstSolid])
        · exact ⟨rest ++ [c], by simp⟩
  obtain ⟨tail, shape'⟩ := kept
  simp only [startswith, strip, front, shape', List.isPrefixOf_iff_prefix]
  exact List.prefix_append start tail

/-- A separated pair is determined by its text when the separator is in neither first part. -/
theorem append_sep_inj {sep : CodePoint} {first first' rest rest' : Str}
    (absent : sep ∉ first) (absent' : sep ∉ first')
    (same : first ++ sep :: rest = first' ++ sep :: rest') : first = first' ∧ rest = rest' := by
  have cut := congrArg (splitSepOnce sep) same
  rw [splitSepOnce_append absent, splitSepOnce_append absent'] at cut
  simpa using cut

end Python
