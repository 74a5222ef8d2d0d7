import AgentOS.Lexing.Wildcard
import AgentOS.Python.Text

/-!
# `fnmatch`

Shell patterns over strings: `*` takes any text, slashes included, `?` one character, and
`[...]` one character of a set of characters and ranges, or none of it after `!`. A bracket
that is not closed is a character like any other.
-/

namespace Python

open Lexing

/-- What stands between `[` and its closing bracket; a bracket right after `[` or `[!` does not
close. -/
def bracketText (rest : Str) : Option Str :=
  let negated := if rest.head? = some 0x21 then 1 else 0
  let start := if rest[negated]? = some 0x5D then negated + 1 else negated
  if (0x5D : CodePoint) ∈ rest.drop start then
    some (rest.take start ++ (rest.drop start).takeWhile (· ≠ 0x5D))
  else none

/-- The ranges of a set; a single character is a range of its own. -/
def bracketRanges : Str → List (CodePoint × CodePoint)
  | low :: 0x2D :: high :: rest => (low, high) :: bracketRanges rest
  | c :: rest => (c, c) :: bracketRanges rest
  | [] => []

/-- Whether the set between the brackets takes the character. -/
def bracketAccepts (stuff : Str) (c : CodePoint) : Bool :=
  let listed := fun set => (bracketRanges set).any fun range => range.1 ≤ c && c ≤ range.2
  if stuff.head? = some 0x21 then !listed stuff.tail else listed stuff

/-- The item of a pattern character outside of brackets. -/
def patternItem (c : CodePoint) : Item CodePoint :=
  if c = 0x2A then .anything
  else if c = 0x3F then .one fun _ => true
  else .one (· = c)

/-- `fnmatch.translate` of a pattern whose first characters are already consumed. -/
def translateFrom : ℕ → Str → List (Item CodePoint)
  | _, [] => []
  | skip + 1, _ :: rest => translateFrom skip rest
  | 0, c :: rest =>
      if c = 0x5B then
        match bracketText rest with
        | some stuff => .one (bracketAccepts stuff) :: translateFrom (stuff.length + 1) rest
        | none => patternItem c :: translateFrom 0 rest
      else patternItem c :: translateFrom 0 rest

def translate (pattern : Str) : List (Item CodePoint) := translateFrom 0 pattern

/-- `fnmatch.fnmatch` on POSIX. -/
def fnmatch (name pattern : Str) : Bool := matchItems (translate pattern) name

/-- Without brackets, every character of a pattern is an item of its own. -/
theorem translate_append_of_no_bracket {start : Str} (plain : (0x5B : CodePoint) ∉ start)
    (rest : Str) : translate (start ++ rest) = start.map patternItem ++ translate rest := by
  induction start with
  | nil => rfl
  | cons c start ih =>
      simp only [List.mem_cons, not_or] at plain
      have tail := ih plain.2
      simp only [translate] at tail
      simp [translate, translateFrom, Ne.symm plain.1, tail]

theorem translate_of_no_bracket {pattern : Str} (plain : (0x5B : CodePoint) ∉ pattern) :
    translate pattern = pattern.map patternItem := by
  have whole := translate_append_of_no_bracket plain []
  rw [List.append_nil] at whole
  rw [whole]
  simp [translate, translateFrom]

/-- A character without a meaning for patterns. -/
def isPlain (c : CodePoint) : Bool := c ≠ 0x2A && c ≠ 0x3F && c ≠ 0x5B

theorem map_patternItem_of_plain {text : Str} (plain : ∀ c ∈ text, isPlain c = true) :
    text.map patternItem = literally text := by
  apply List.map_congr_left
  intro c mem
  have ordinary := plain c mem
  simp only [isPlain, Bool.and_eq_true, decide_eq_true_eq] at ordinary
  simp [patternItem, ordinary.1.1, ordinary.1.2]

example : fnmatch (py "/var/log/a.txt") (py "/var/*.[ct]xt") = true := by decide

example : fnmatch (py "a-b") (py "a[!a-c]b") = true := by decide

end Python
