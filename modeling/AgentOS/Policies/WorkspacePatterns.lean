import AgentOS.Policies.PathLeaks

/-!
# Workspace patterns

A pattern `./q` is meant for the workspace, but the matcher looks for `/./` in a canonical
path, which has none: the pattern never matches, so that the other patterns decide alone.
-/

namespace AgentOS

open Python Lexing

/-- The pattern is written relative to the workspace. -/
def isDotted (pattern : Str) : Bool := startswith pattern (py "./")

/-- The matcher's test for patterns that are not written with `./`. -/
def ReachesFrom (path : CanonicalPath) (pattern : Str) : Prop :=
  if startswith pattern (py "/") then Reaches path pattern
  else fnmatch path.text (py "*/" ++ pattern) = true

theorem matchPath_iff_reachesFrom {path : CanonicalPath} {pattern : Str} :
    FilesystemPolicy.matchPath path.text pattern = true ↔ ReachesFrom path pattern := by
  rw [ReachesFrom]
  split
  · rename_i absolute
    exact matchPath_iff_reaches absolute
  · rename_i relative
    rw [FilesystemPolicy.matchPath, if_neg relative]

/-- A canonical path has no dot segment between two slashes. -/
theorem text_ne_dotted (path : CanonicalPath) (before after : Str) :
    path.text ≠ before ++ 0x2F :: 0x2E :: 0x2F :: after := by
  intro same
  have cut := congrArg (splitSep 0x2F) same
  have dot : splitSep 0x2F (0x2E :: 0x2F :: after) = [0x2E] :: splitSep 0x2F after :=
    @splitSep_append 0x2F [0x2E] (by decide) after
  have right : splitSep 0x2F (before ++ 0x2F :: 0x2E :: 0x2F :: after) =
      splitSep 0x2F before ++ [0x2E] :: splitSep 0x2F after := by
    rw [← dot]
    exact List.splitOn_append_cons_self _ _
  rw [right, CanonicalPath.text] at cut
  have listed : [0x2E] ∈ splitSep 0x2F (rooted path.segments) := by
    rw [cut]
    simp
  by_cases top : path.segments = []
  · rw [top] at listed
    revert listed
    decide
  · rw [splitSep_rooted (fun s mem => (path.proper s mem).2.1) top] at listed
    rcases List.mem_cons.mp listed with empty | mem
    · cases empty
    · exact (path.proper [0x2E] mem).2.2.1 rfl

/-- A pattern with `./` matches no path. -/
theorem not_reachesFrom_of_dotted {path : CanonicalPath} {pattern : Str}
    (dotted : isDotted pattern = true) : ¬ ReachesFrom path pattern := by
  obtain ⟨rest, rfl⟩ := List.isPrefixOf_iff_prefix.mp dotted
  have relative : startswith (py "./" ++ rest) (py "/") = false := rfl
  intro reached
  rw [ReachesFrom, if_neg (by simp [relative]), ← List.append_assoc, fnmatch,
    translate_append_of_no_bracket (by decide)] at reached
  have items : (py "*/" ++ py "./").map patternItem =
      .anything :: literally [0x2F, 0x2E, 0x2F] := rfl
  rw [items, List.cons_append, matchItems_anything] at reached
  obtain ⟨before, _, same, taken⟩ := reached
  obtain ⟨after, rfl, -⟩ := matchItems_literally_append.mp taken
  exact text_ne_dotted path before after same

/-- Whether the matcher's test for some pattern that is not written with `./` succeeds. -/
def ReachedByOthers (path : CanonicalPath) (patterns : List Str) : Prop :=
  ∃ pattern ∈ patterns, isDotted pattern = false ∧ ReachesFrom path pattern

theorem reachedByOthers_iff {path : CanonicalPath} {patterns : List Str} :
    ReachedByOthers path patterns ↔
      ∃ pattern ∈ patterns, FilesystemPolicy.matchPath path.text pattern = true := by
  simp only [ReachedByOthers, matchPath_iff_reachesFrom]
  constructor
  · rintro ⟨pattern, mem, -, reached⟩
    exact ⟨pattern, mem, reached⟩
  · rintro ⟨pattern, mem, reached⟩
    refine ⟨pattern, mem, ?_, reached⟩
    rw [Bool.eq_false_iff]
    exact fun dotted => not_reachesFrom_of_dotted dotted reached

/-- Only patterns that are not written with `./` decide. -/
theorem checkPathAccess_eq_ok_iff_others {host : Host} {policy : FilesystemPolicy}
    {resolve : Str → CanonicalPath} {targetPath operation : Str} :
    policy.checkPathAccess host resolve targetPath operation = .ok () ↔
      ¬ ReachedByOthers (resolve targetPath) policy.deniedPaths ∧
        ReachedByOthers (resolve targetPath) policy.allowedPaths := by
  rw [FilesystemPolicy.checkPathAccess_eq_ok_iff, reachedByOthers_iff, reachedByOthers_iff]
  simp only [not_exists, not_and, Bool.not_eq_true]

/-- The policy does what the workspace-relative pattern asks for: a denied one refuses what it
covers, and an allowed one lets in what it covers, if no denied pattern covers it. -/
def HonoursRelative (host : Host) (policy : FilesystemPolicy) (resolve : Str → CanonicalPath)
    (root : CanonicalPath) (relative targetPath operation : Str) : Prop :=
  (py "./" ++ relative ∈ policy.deniedPaths →
    coversIn root (py "./" ++ relative) (resolve targetPath) = true →
      policy.checkPathAccess host resolve targetPath operation ≠ .ok ()) ∧
  (py "./" ++ relative ∈ policy.allowedPaths →
    coversIn root (py "./" ++ relative) (resolve targetPath) = true →
      (∀ pattern ∈ policy.deniedPaths, coversIn root pattern (resolve targetPath) = false) →
        policy.checkPathAccess host resolve targetPath operation = .ok ())

/-- A workspace-relative pattern is honoured exactly when the other patterns decide as it asks. -/
theorem honoursRelative_iff (host : Host) (policy : FilesystemPolicy)
    (resolve : Str → CanonicalPath) (root : CanonicalPath) (relative targetPath operation : Str) :
    HonoursRelative host policy resolve root relative targetPath operation ↔
      (py "./" ++ relative ∈ policy.deniedPaths →
        coversIn root (py "./" ++ relative) (resolve targetPath) = true →
          ReachedByOthers (resolve targetPath) policy.deniedPaths ∨
            ¬ ReachedByOthers (resolve targetPath) policy.allowedPaths) ∧
      (py "./" ++ relative ∈ policy.allowedPaths →
        coversIn root (py "./" ++ relative) (resolve targetPath) = true →
          (∀ pattern ∈ policy.deniedPaths, coversIn root pattern (resolve targetPath) = false) →
            ¬ ReachedByOthers (resolve targetPath) policy.deniedPaths ∧
              ReachedByOthers (resolve targetPath) policy.allowedPaths) := by
  rw [HonoursRelative]
  simp only [ne_eq, checkPathAccess_eq_ok_iff_others, not_and_or, not_not]

namespace Sample

/-- The relative patterns of the shipped policy beside its scratch area. -/
def shippedPolicy : FilesystemPolicy :=
  ⟨[py "./**", py "/tmp/agent-os-poc/**"], [py "./.env", py "/etc/**"]⟩

def scratchRoot : CanonicalPath := ⟨[py "tmp", py "agent-os-poc", py "ws"], by decide⟩

def secretFile : CanonicalPath :=
  ⟨[py "tmp", py "agent-os-poc", py "ws", py ".env"], by decide⟩

/-- In a workspace under an allowed directory the denied `.env` is let in. -/
theorem env_file_accepted :
    ¬ ∀ (host : Host) (policy : FilesystemPolicy) (resolve : Str → CanonicalPath)
      (root : CanonicalPath) (relative targetPath operation : Str),
      HonoursRelative host policy resolve root relative targetPath operation := by
  intro claim
  have refused := (claim steadyHost shippedPolicy (fun _ => secretFile) scratchRoot (py ".env")
    (py "./.env") (py "read")).1 (by decide) (by decide)
  apply refused
  rw [FilesystemPolicy.checkPathAccess_eq_ok_iff]
  decide

/-- In any other workspace no file is let in. -/
example : shippedPolicy.checkPathAccess steadyHost (fun _ => ⟨[py "ws", py "a"], by decide⟩)
    (py "a") (py "read") ≠ .ok () := by
  rw [ne_eq, FilesystemPolicy.checkPathAccess_eq_ok_iff]
  decide

end Sample

end AgentOS
