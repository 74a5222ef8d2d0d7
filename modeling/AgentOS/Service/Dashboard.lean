import AgentOS.Python.Pathlib
import AgentOS.Service.Service

/-!
# The dashboard

The route that serves the files of the dashboard joins its directory with the path of the
request and serves whatever regular file is found there.
-/

namespace AgentOS

open Python

/-- `dashboard_dir`. -/
def dashboardDir : PosixPath := .parse (py "src/agentos/static/dashboard")

/-- `index_file`. -/
def indexFile : PosixPath := dashboardDir.joinpath (py "index.html")

/-- `serve_dashboard` when the path names no file. -/
def serveIndex (fs : FileSystem Exc) : Except Exc PosixPath := do
  if ← fs.isFile indexFile then return indexFile
  throw (httpException 404 (py "Dashboard not found"))

/-- `serve_dashboard`: the path of the `FileResponse`. -/
def serveDashboard (fs : FileSystem Exc) (fullPath : Str) : Except Exc PosixPath :=
  if fullPath ≠ [] then do
    if ← fs.isFile (dashboardDir.joinpath fullPath) then return dashboardDir.joinpath fullPath
    serveIndex fs
  else serveIndex fs

/-- Every file that is served for the path lies in the directory of the dashboard. -/
def Confined (fullPath : Str) : Prop :=
  ∀ (fs : FileSystem Exc) (top : fs.Dir), fs.resolve dashboardDir = some (.directory top) →
    fs.WithoutLinks top → ∀ (path : PosixPath) (file : fs.File),
    serveDashboard fs fullPath = .ok path → fs.resolve path = some (.file file) →
    fs.Below top (fs.folder file)

/-- The path names no file, or one that it reaches within the directory of the dashboard. -/
def isHarmless (path : PosixPath) : Bool :=
  !path.statable || path.namesDirectory || (!path.absolute && staysWithin 0 path.parts)

variable {fs : FileSystem Exc} {top : fs.Dir} {fullPath : Str} {path : PosixPath} {file : fs.File}

theorem dashboardDir_joinpath {text : Str} (relative : (PosixPath.parse text).absolute = false) :
    dashboardDir.joinpath text = ⟨false, dashboardDir.parts ++ (PosixPath.parse text).parts⟩ := by
  rw [PosixPath.joinpath, if_neg (by simp [relative])]
  rfl

/-- A relative path is followed from the directory of the dashboard. -/
theorem resolve_joinpath {text : Str} (at_ : fs.resolve dashboardDir = some (.directory top))
    (relative : (PosixPath.parse text).absolute = false) :
    fs.resolve (dashboardDir.joinpath text) = fs.walk top (PosixPath.parse text).parts := by
  rw [dashboardDir_joinpath relative]
  exact FileSystem.walk_append at_ _

theorem statable_joinpath (text : Str) :
    (dashboardDir.joinpath text).statable = (PosixPath.parse text).statable := by
  unfold PosixPath.joinpath
  split
  · rfl
  · have plain : dashboardDir.statable = true := by decide
    rw [PosixPath.statable] at plain ⊢
    rw [List.all_append, plain, Bool.true_and]
    rfl

theorem serveIndex_eq_ok_iff : serveIndex fs = .ok path ↔
    path = indexFile ∧ fs.isFile path = .ok true := by
  constructor
  · intro served
    unfold serveIndex at served
    rcases checked : fs.isFile indexFile with error | _ | _ <;>
      rw [checked] at served <;> cases served
    exact ⟨rfl, checked⟩
  · rintro ⟨rfl, checked⟩
    rw [serveIndex, checked]
    rfl

/-- What is served is the file of the path, or else the index. -/
theorem serveDashboard_cases (served : serveDashboard fs fullPath = .ok path) :
    (path = dashboardDir.joinpath fullPath ∨ path = indexFile) ∧
      fs.isFile path = .ok true := by
  unfold serveDashboard at served
  split at served
  · rcases checked : fs.isFile (dashboardDir.joinpath fullPath) with error | _ | _ <;>
      rw [checked] at served
    · cases served
    · rcases serveIndex_eq_ok_iff.mp served with ⟨same, found⟩
      exact ⟨.inr same, found⟩
    · cases served
      exact ⟨.inl rfl, checked⟩
  · rcases serveIndex_eq_ok_iff.mp served with ⟨same, found⟩
    exact ⟨.inr same, found⟩

theorem serveDashboard_of_isFile (found : fs.isFile (dashboardDir.joinpath fullPath) = .ok true)
    (nonempty : fullPath ≠ []) :
      serveDashboard fs fullPath = .ok (dashboardDir.joinpath fullPath) := by
  rw [serveDashboard, if_pos nonempty, found]
  rfl

/-- Parts that end in `..` lead to a directory. -/
theorem walk_ne_file {dir : fs.Dir} {parts : List Str}
    (names : parts.getLast?.all (· = py "..") = true) : fs.walk dir parts ≠ some (.file file) := by
  induction parts generalizing dir with
  | nil => simp [FileSystem.walk]
  | cons part rest ih =>
      rcases rest with _ | ⟨next, rest⟩
      · have up : part = py ".." := by simpa using names
        subst up
        rw [FileSystem.walk_up]
        simp [FileSystem.walk]
      · have later : ∀ dir, fs.walk dir (next :: rest) ≠ some (.file file) := fun dir =>
          ih (by simpa using names)
        by_cases up : part = py ".."
        · subst up
          rw [FileSystem.walk_up]
          exact later _
        · rcases found : fs.entry dir part with _ | sub | _ | _
          case some.directory =>
            rw [FileSystem.walk_into up found]
            exact later _
          all_goals simp [FileSystem.walk, up, found]

theorem index_harmless : isHarmless (.parse (py "index.html")) = true := by decide

/-- What is found for a harmless path lies in the directory of the dashboard. -/
theorem below_of_isHarmless (at_ : fs.resolve dashboardDir = some (.directory top))
    (links : fs.WithoutLinks top) {text : Str} (harmless : isHarmless (.parse text) = true)
    (found : fs.isFile (dashboardDir.joinpath text) = .ok true)
    (resolved : fs.resolve (dashboardDir.joinpath text) = some (.file file)) :
    fs.Below top (fs.folder file) := by
  rcases FileSystem.isFile_eq_true_iff.mp found with ⟨statable, -, -⟩
  rw [statable_joinpath] at statable
  simp only [isHarmless, statable, Bool.not_true, Bool.false_or, Bool.or_eq_true,
    Bool.and_eq_true, Bool.not_eq_true'] at harmless
  rcases harmless with names | ⟨relative, stays⟩
  · rcases absolute : (PosixPath.parse text).absolute with _ | _
    · rw [resolve_joinpath at_ absolute] at resolved
      exact absurd resolved (walk_ne_file names)
    · rw [PosixPath.joinpath, if_pos absolute] at resolved
      exact absurd resolved (walk_ne_file names)
  · rw [resolve_joinpath at_ relative] at resolved
    exact FileSystem.below_of_staysWithin links rfl stays resolved

/-! ### A file system to get lost in -/

namespace Maze

/-- The directories: on the way to the dashboard, in it, and on the way out of it. -/
inductive Place
  | root
  | lobby (depth : ℕ)
  | dashboard (names : List Str)
  | corridor (depth : ℕ)
  deriving DecidableEq

/-- The directory above; the dashboard lies at the far end of the corridor. -/
def parent (far : ℕ) : Place → Place
  | .root => .root
  | .lobby 0 => .root
  | .lobby (depth + 1) => .lobby depth
  | .dashboard [] => .corridor far
  | .dashboard (_ :: names) => .dashboard names
  | .corridor 0 => .root
  | .corridor (depth + 1) => .corridor depth

/-- So far from the end of the corridor, any name is a link towards it; there, it is a file. -/
def onward (place : Place) (name : Str) : ℕ → Node Place (Place × Str)
  | 0 => .file (place, name)
  | depth + 1 => .directory (.corridor depth)

def entry (far : ℕ) : Place → Str → Option (Node Place (Place × Str))
  | .root, name => some (onward .root name far)
  | .lobby depth, name =>
      if dashboardDir.parts[depth]? = some name then
        some (.directory (if depth = 3 then .dashboard [] else .lobby (depth + 1)))
      else none
  | .dashboard names, name => some (.directory (.dashboard (name :: names)))
  | .corridor depth, name => some (onward (.corridor depth) name depth)

theorem rooted (far : ℕ) (place : Place) : ∃ levels, (parent far)^[levels] place = .root := by
  have corridor : ∀ depth, ∃ levels, (parent far)^[levels] (.corridor depth) = .root := by
    intro depth
    induction depth with
    | zero => exact ⟨1, rfl⟩
    | succ depth ih =>
        rcases ih with ⟨levels, up⟩
        exact ⟨levels + 1, up⟩
  rcases place with _ | depth | names | depth
  · exact ⟨0, rfl⟩
  · induction depth with
    | zero => exact ⟨1, rfl⟩
    | succ depth ih =>
        rcases ih with ⟨levels, up⟩
        exact ⟨levels + 1, up⟩
  · induction names with
    | nil =>
        rcases corridor far with ⟨levels, up⟩
        exact ⟨levels + 1, up⟩
    | cons name names ih =>
        rcases ih with ⟨levels, up⟩
        exact ⟨levels + 1, up⟩
  · exact corridor depth

end Maze

/-- The dashboard and, so many steps from anywhere outside it, files of any name. -/
abbrev maze (far : ℕ) : FileSystem Exc where
  Dir := Maze.Place
  File := Maze.Place × Str
  root := .root
  cwd := .lobby 0
  parent := Maze.parent far
  rooted := Maze.rooted far
  parent_root := rfl
  folder := Prod.fst
  entry := Maze.entry far
  refuses := fun _ => none

namespace Maze

variable {far : ℕ}

/-- Outside the dashboard. -/
def Outside : Place → Prop
  | .dashboard _ => False
  | _ => True

theorem outside_parent {place : Place} (outside : Outside place) : Outside (parent far place) := by
  rcases place with _ | ⟨_ | depth⟩ | names | ⟨_ | depth⟩
  case dashboard => exact outside.elim
  all_goals trivial

/-- No directory outside lies below the dashboard. -/
theorem not_below_of_outside {place : Place} {names : List Str} (outside : Outside place) :
    ¬ (maze far).Below (.dashboard names) place := by
  rintro ⟨levels, up⟩
  have still : Outside ((maze far).parent^[levels] place) := by
    clear up
    induction levels generalizing place with
    | zero => exact outside
    | succ levels ih => exact ih (outside_parent outside)
  rw [up] at still
  exact still

theorem withoutLinks (far : ℕ) : (maze far).WithoutLinks (.dashboard []) := by
  constructor
  · intro dir sub name below found
    rcases dir with _ | depth | names | depth
    case dashboard =>
      cases found
      rfl
    all_goals exact absurd below (not_below_of_outside trivial)
  · intro dir file name below found
    rcases dir with _ | depth | names | depth
    case dashboard => cases found
    all_goals exact absurd below (not_below_of_outside trivial)

theorem resolve_dashboardDir (far : ℕ) :
    (maze far).resolve dashboardDir = some (.directory (.dashboard [])) := by
  rfl

/-- Whatever the parts are, as many of them as it takes lead along the corridor to its file. -/
theorem walk_corridor {parts : List Str} {depth : ℕ} (length : parts.length = depth + 1)
    (name : parts.getLast?.all (· = py "..") = false) :
    ∃ last, (maze far).walk (.corridor depth) parts = some (.file (.corridor 0, last)) := by
  induction depth generalizing parts with
  | zero =>
      rcases parts with _ | ⟨part, _ | _⟩ <;> simp at length
      have other : part ≠ py ".." := by simpa using name
      exact ⟨part, FileSystem.walk_file other rfl⟩
  | succ depth ih =>
      rcases parts with _ | ⟨part, _ | ⟨next, rest⟩⟩ <;> simp at length
      have later := ih (by simpa using length : (next :: rest).length = depth + 1)
        (by simpa using name)
      by_cases up : part = py ".."
      · subst up
        rw [FileSystem.walk_up]
        exact later
      · rw [@FileSystem.walk_into _ (maze far) (.corridor (depth + 1)) part
          (.corridor depth) up rfl]
        exact later

/-- From the root, the first name leads to the corridor, or is the file. -/
theorem walk_root {parts : List Str} (name : parts.getLast?.all (· = py "..") = false) :
    ∃ far place last, Outside place ∧
      (maze far).walk .root parts = some (.file (place, last)) := by
  induction parts with
  | nil => simp at name
  | cons part rest ih =>
      by_cases up : part = py ".."
      · subst up
        rcases rest with _ | ⟨next, rest⟩
        · simp at name
        · rcases ih (by simpa using name) with ⟨far, place, last, outside, walked⟩
          refine ⟨far, place, last, outside, ?_⟩
          rw [FileSystem.walk_up]
          exact walked
      · rcases rest with _ | ⟨next, rest⟩
        · exact ⟨0, .root, part, trivial, FileSystem.walk_file up rfl⟩
        · have length : (next :: rest).length = rest.length + 1 := rfl
          rcases @walk_corridor (rest.length + 1) _ _ length (by simpa using name) with
            ⟨last, walked⟩
          refine ⟨rest.length + 1, .corridor 0, last, trivial, ?_⟩
          rw [FileSystem.walk_into up rfl]
          exact walked

/-- From the dashboard, parts that lead above it lead to the corridor. -/
theorem walk_dashboard {parts names : List Str} (leaves : staysWithin names.length parts = false)
    (name : parts.getLast?.all (· = py "..") = false) :
    ∃ far last, (maze far).walk (.dashboard names) parts = some (.file (.corridor 0, last)) := by
  induction parts generalizing names with
  | nil => simp at name
  | cons part rest ih =>
      rcases rest with _ | ⟨next, rest⟩
      · have other : part ≠ py ".." := by simpa using name
        simp [staysWithin, other] at leaves
      · by_cases up : part = py ".."
        · subst up
          rcases names with _ | ⟨_, names⟩
          · have length : (next :: rest).length = rest.length + 1 := rfl
            rcases @walk_corridor rest.length _ _ length (by simpa using name) with ⟨last, walked⟩
            refine ⟨rest.length, last, ?_⟩
            rw [FileSystem.walk_up]
            exact walked
          · simp only [staysWithin, if_true, List.length_cons] at leaves
            rcases ih leaves (by simpa using name) with ⟨far, last, walked⟩
            refine ⟨far, last, ?_⟩
            rw [FileSystem.walk_up]
            exact walked
        · simp only [staysWithin, up, if_false] at leaves
          rcases @ih (part :: names) leaves (by simpa using name) with ⟨far, last, walked⟩
          refine ⟨far, last, ?_⟩
          rw [FileSystem.walk_into up rfl]
          exact walked

/-- For a path that is not harmless there is a file system in which it leads outside. -/
theorem leads_outside {text : Str} (harmful : isHarmless (.parse text) = false) :
    ∃ far place last, Outside place ∧ (maze far).resolve (dashboardDir.joinpath text) =
      some (.file (place, last)) := by
  simp only [isHarmless, Bool.or_eq_false_iff, Bool.and_eq_false_iff, Bool.not_eq_false'] at harmful
  rcases harmful with ⟨⟨-, name⟩, climbs⟩
  rcases absolute : (PosixPath.parse text).absolute with _ | _
  · have leaves : staysWithin 0 (PosixPath.parse text).parts = false := by
      simpa [absolute] using climbs
    rcases @walk_dashboard _ [] leaves name with ⟨far, last, walked⟩
    refine ⟨far, .corridor 0, last, trivial, ?_⟩
    rw [resolve_joinpath (resolve_dashboardDir far) absolute]
    exact walked
  · rcases walk_root name with ⟨far, place, last, outside, walked⟩
    refine ⟨far, place, last, outside, ?_⟩
    rw [PosixPath.joinpath, if_pos absolute, FileSystem.resolve, if_pos absolute]
    exact walked

end Maze

/-- The dashboard serves only its own directory for the harmless paths, and for no others. -/
theorem confined_iff (fullPath : Str) :
    Confined fullPath ↔ isHarmless (.parse fullPath) = true := by
  constructor
  · intro confined
    by_contra harmful
    rw [Bool.not_eq_true] at harmful
    rcases Maze.leads_outside harmful with ⟨far, place, last, outside, resolved⟩
    have statable : (PosixPath.parse fullPath).statable = true := by
      simp only [isHarmless, Bool.or_eq_false_iff, Bool.not_eq_false'] at harmful
      exact harmful.1.1
    have found : (maze far).isFile (dashboardDir.joinpath fullPath) = .ok true :=
      FileSystem.isFile_eq_true_iff.mpr
        ⟨(statable_joinpath fullPath).trans statable, rfl, _, resolved⟩
    have nonempty : fullPath ≠ [] := by
      rintro rfl
      exact Bool.false_ne_true (harmful.symm.trans (by decide))
    have below := confined (maze far) (.dashboard []) (Maze.resolve_dashboardDir far)
      (Maze.withoutLinks far) _ _ (serveDashboard_of_isFile found nonempty) resolved
    exact Maze.not_below_of_outside outside below
  · intro harmless fs top at_ links path file served resolved
    rcases serveDashboard_cases served with ⟨rfl | rfl, found⟩
    · exact below_of_isHarmless at_ links harmless found resolved
    · exact below_of_isHarmless at_ links index_harmless found resolved

namespace Sample

/-- In a file system in which `etc` holds `passwd`, this is what the request gets. -/
theorem absolute_path_escapes : ¬ Confined (py "/etc/passwd") := by
  intro confined
  have served : serveDashboard (maze 1) (py "/etc/passwd") =
      .ok ⟨true, [py "etc", py "passwd"]⟩ := by decide
  have outside : Maze.Outside (.corridor 0) := trivial
  exact Maze.not_below_of_outside outside (confined (maze 1) (.dashboard [])
    (Maze.resolve_dashboardDir 1) (Maze.withoutLinks 1) _ (.corridor 0, py "passwd") served rfl)

end Sample

end AgentOS
