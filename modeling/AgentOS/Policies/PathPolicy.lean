import AgentOS.Kernel.Host
import AgentOS.Python.Fnmatch

/-!
# Path policy

The filesystem part of the autonomy policy. A target is resolved to a canonical absolute path
and its text is matched against the patterns, the denied ones first. What a pattern is meant
to cover is stated on the segments of the path: `*` stays within a segment, `**` stands for
any number of segments, and a relative pattern belongs to the workspace root.
-/

namespace AgentOS

open Python Lexing

/-- A canonical absolute path: no empty segment, no slash in a segment, no dot segment. -/
structure CanonicalPath where
  segments : List Str
  proper : ∀ segment ∈ segments, segment ≠ [] ∧ (0x2F : CodePoint) ∉ segment ∧
    segment ≠ py "." ∧ segment ≠ py ".."

/-- Segments with a slash before each. -/
def slashed (segments : List Str) : Str := segments.flatMap fun segment => 0x2F :: segment

/-- The text of an absolute path or pattern with the segments. -/
def rooted (segments : List Str) : Str := if segments = [] then py "/" else slashed segments

/-- `str(path)`. -/
def CanonicalPath.text (path : CanonicalPath) : Str := rooted path.segments

/-- `FilesystemPolicy`. -/
structure FilesystemPolicy where
  allowedPaths : List Str
  deniedPaths : List Str

/-- `pattern.rstrip("*").rstrip("/")`. -/
def stem (pattern : Str) : Str := (pattern.rdropWhile (· = 0x2A)).rdropWhile (· = 0x2F)

namespace FilesystemPolicy

variable (host : Host) (policy : FilesystemPolicy) (resolve : Str → CanonicalPath)

/-- `_match_path`. -/
def matchPath (resolvedPath pattern : Str) : Bool :=
  if startswith pattern (py "/") then
    fnmatch resolvedPath pattern || startswith resolvedPath (stem pattern)
  else fnmatch resolvedPath (py "*/" ++ pattern)

/-- `check_path_access`; `Path.resolve` is the parameter `resolve`. -/
def checkPathAccess (targetPath operation : Str) : Except Exc Unit :=
  let resolved := (resolve targetPath).text
  match policy.deniedPaths.find? (matchPath resolved) with
  | some pattern =>
      .error ⟨.policyViolationError,
        py "Path access DENIED: '" ++ targetPath ++ py "' matches denied pattern '" ++ pattern ++
          py "'. Operation '" ++ operation ++ py "' blocked.", none⟩
  | none =>
      if policy.allowedPaths.any (matchPath resolved) then .ok ()
      else
        .error ⟨.policyViolationError,
          py "Path access DENIED: '" ++ targetPath ++
            py "' is outside allowed workspace. Allowed patterns: " ++
            host.reprList policy.allowedPaths ++ py ". Operation '" ++ operation ++
            py "' blocked.", none⟩

variable {host policy resolve}

theorem checkPathAccess_eq_ok_iff {targetPath operation : Str} :
    policy.checkPathAccess host resolve targetPath operation = .ok () ↔
      (∀ pattern ∈ policy.deniedPaths, matchPath (resolve targetPath).text pattern = false) ∧
        ∃ pattern ∈ policy.allowedPaths, matchPath (resolve targetPath).text pattern = true := by
  simp only [checkPathAccess]
  rcases found : policy.deniedPaths.find? (matchPath (resolve targetPath).text) with _ | pattern
  · have undenied : ∀ pattern ∈ policy.deniedPaths,
        matchPath (resolve targetPath).text pattern = false := by
      simpa using found
    by_cases allowed : policy.allowedPaths.any (matchPath (resolve targetPath).text) = true
    · rw [if_pos allowed]
      exact ⟨fun _ => ⟨undenied, List.any_eq_true.mp allowed⟩, fun _ => rfl⟩
    · rw [if_neg allowed]
      constructor
      · intro accepted
        cases accepted
      · rintro ⟨-, matched⟩
        exact absurd (List.any_eq_true.mpr matched) allowed
  · have denied := List.find?_some found
    have mem := List.mem_of_find?_eq_some found
    constructor
    · intro accepted
      cases accepted
    · rintro ⟨undenied, -⟩
      rw [undenied pattern mem] at denied
      cases denied

end FilesystemPolicy

/-- The segments of a pattern. -/
def segmentsOf (pattern : Str) : List Str := (splitSep 0x2F pattern).filter (· ≠ [])

/-- A segment of a pattern over the segments of a path. -/
def segmentItem (segment : Str) : Item Str :=
  if segment = py "**" then .anything else .one fun name => fnmatch name segment

/-- What an absolute pattern is meant to cover. -/
def covers (pattern : Str) (path : CanonicalPath) : Bool :=
  matchItems ((segmentsOf pattern).map segmentItem) path.segments

/-- A relative pattern without the leading `./`. -/
def relativePart (pattern : Str) : Str :=
  if startswith pattern (py "./") then pattern.drop 2 else pattern

/-- What a pattern is meant to cover in a workspace. -/
def coversIn (root : CanonicalPath) (pattern : Str) (path : CanonicalPath) : Bool :=
  if startswith pattern (py "/") then covers pattern path
  else
    root.segments.isPrefixOf path.segments &&
      matchItems ((segmentsOf (relativePart pattern)).map segmentItem)
        (path.segments.drop root.segments.length)

theorem splitSep_append_slashed {segment : Str} {segments : List Str}
    (solid : ∀ s ∈ segment :: segments, (0x2F : CodePoint) ∉ s) :
    splitSep 0x2F (segment ++ slashed segments) = segment :: segments := by
  induction segments generalizing segment with
  | nil =>
      rw [slashed, List.flatMap_nil, List.append_nil]
      exact splitSep_of_not_mem (solid segment List.mem_cons_self)
  | cons next segments ih =>
      have here := solid segment List.mem_cons_self
      have rest := ih fun s mem => solid s (List.mem_cons_of_mem _ mem)
      rw [slashed] at rest ⊢
      rw [List.flatMap_cons, List.cons_append, splitSep_append here, rest]

/-- An absolute text splits into its segments. -/
theorem splitSep_rooted {segments : List Str}
    (solid : ∀ s ∈ segments, (0x2F : CodePoint) ∉ s) (nonempty : segments ≠ []) :
    splitSep 0x2F (rooted segments) = [] :: segments := by
  rw [rooted, if_neg nonempty]
  have padded : ∀ s ∈ ([] : Str) :: segments, (0x2F : CodePoint) ∉ s := by
    intro s mem
    rcases List.mem_cons.mp mem with rfl | mem
    · exact List.not_mem_nil
    · exact solid s mem
  have split := splitSep_append_slashed padded
  rwa [List.nil_append] at split

end AgentOS
