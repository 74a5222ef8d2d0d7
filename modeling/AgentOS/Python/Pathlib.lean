import AgentOS.Python.Text
import Mathlib.Logic.Function.Iterate

/-!
# Paths

`pathlib` joins paths as texts, without a look at the file system and without collapsing
`..`. Only the operating system follows a path, part by part, and there `..` is the directory
above the one that was reached.
-/

namespace Python

/-- A `PurePosixPath`. -/
structure PosixPath where
  absolute : Bool
  parts : List Str
  deriving DecidableEq

namespace PosixPath

/-- `PurePosixPath(text)`: empty parts and `.` are dropped. -/
def parse (text : Str) : PosixPath where
  absolute := startswith text (py "/")
  parts := (splitSep 0x2F text).filter fun part => part ≠ [] ∧ part ≠ py "."

/-- `path / text`: an absolute text replaces the path. -/
def joinpath (path : PosixPath) (text : Str) : PosixPath :=
  if (parse text).absolute then parse text
  else ⟨path.absolute, path.parts ++ (parse text).parts⟩

/-- `os.stat` takes the text; it raises `ValueError` for a NUL and for most surrogates. -/
def statable (path : PosixPath) : Bool :=
  path.parts.all fun part => part.all fun c =>
    c ≠ 0 && (!isSurrogate c || (0xDC80 ≤ c.val && c.val ≤ 0xDCFF))

/-- The path cannot name anything but a directory. -/
def namesDirectory (path : PosixPath) : Bool :=
  path.parts.getLast?.all (· = py "..")

end PosixPath

/-- From so many directories down, the parts never lead above the directory at the top. -/
def staysWithin : ℕ → List Str → Bool
  | _, [] => true
  | depth, part :: rest =>
      if part = py ".." then
        match depth with
        | 0 => false
        | depth + 1 => staysWithin depth rest
      else staysWithin (depth + 1) rest

/-- What a name in a directory leads to. -/
inductive Node (Dir File : Type)
  | directory (dir : Dir)
  | file (file : File)
  /-- A device, a socket or a pipe. -/
  | special

/-- A file system as a path meets it: symbolic links have been followed. -/
structure FileSystem (ε : Type) where
  Dir : Type
  /-- The regular files. -/
  File : Type
  root : Dir
  /-- The working directory. -/
  cwd : Dir
  parent : Dir → Dir
  /-- Every directory lies below the root. -/
  rooted : ∀ dir, ∃ levels, parent^[levels] dir = root
  parent_root : parent root = root
  /-- The directory in which a file lies. -/
  folder : File → Dir
  entry : Dir → Str → Option (Node Dir File)
  /-- An error of `os.stat` that does not say that there is no such file. -/
  refuses : PosixPath → Option ε

namespace FileSystem

variable {ε : Type} (fs : FileSystem ε)

/-- Follow the parts from a directory. -/
def walk : fs.Dir → List Str → Option (Node fs.Dir fs.File)
  | dir, [] => some (.directory dir)
  | dir, part :: rest =>
      if part = py ".." then walk (fs.parent dir) rest
      else
        match fs.entry dir part with
        | some (.directory next) => walk next rest
        | found => if rest = [] then found else none

/-- Follow a path. -/
def resolve (path : PosixPath) : Option (Node fs.Dir fs.File) :=
  fs.walk (if path.absolute then fs.root else fs.cwd) path.parts

/-- `Path.is_file`. -/
def isFile (path : PosixPath) : Except ε Bool :=
  if path.statable then
    match fs.refuses path with
    | some error => .error error
    | none =>
        match fs.resolve path with
        | some (.file _) => .ok true
        | _ => .ok false
  else .ok false

/-- The directory lies in the tree of another one, or is that one. -/
def Below (top dir : fs.Dir) : Prop := ∃ levels, fs.parent^[levels] dir = top

/-- No entry in the tree of the directory is a symbolic link. -/
structure WithoutLinks (top : fs.Dir) : Prop where
  directory : ∀ {dir sub : fs.Dir} {name : Str}, fs.Below top dir →
    fs.entry dir name = some (.directory sub) → fs.parent sub = dir
  file : ∀ {dir : fs.Dir} {file : fs.File} {name : Str}, fs.Below top dir →
    fs.entry dir name = some (.file file) → fs.folder file = dir

variable {fs} {path : PosixPath} {top dir : fs.Dir} {file : fs.File} {part : Str}
  {parts rest : List Str}

theorem walk_up (dir : fs.Dir) (rest : List Str) :
    fs.walk dir (py ".." :: rest) = fs.walk (fs.parent dir) rest := by
  simp [walk]

theorem walk_into {next : fs.Dir} (name : part ≠ py "..")
    (found : fs.entry dir part = some (.directory next)) (rest : List Str) :
    fs.walk dir (part :: rest) = fs.walk next rest := by
  simp [walk, name, found]

theorem walk_file (name : part ≠ py "..") (found : fs.entry dir part = some (.file file)) :
    fs.walk dir [part] = some (.file file) := by
  simp [walk, name, found]

/-- A path is followed through the directory that its beginning names. -/
theorem walk_append {middle : fs.Dir} (reached : fs.walk dir parts = some (.directory middle))
    (rest : List Str) : fs.walk dir (parts ++ rest) = fs.walk middle rest := by
  induction parts generalizing dir with
  | nil =>
      cases reached
      rfl
  | cons part parts ih =>
      by_cases up : part = py ".."
      · subst up
        rw [walk_up] at reached
        rw [List.cons_append, walk_up]
        exact ih reached
      · rcases found : fs.entry dir part with _ | ⟨next⟩ | _ | _
        case some.directory =>
          rw [walk_into up found] at reached
          rw [List.cons_append, walk_into up found]
          exact ih reached
        all_goals simp [walk, up, found] at reached

theorem isFile_eq_true_iff : fs.isFile path = .ok true ↔
    path.statable = true ∧ fs.refuses path = none ∧
      ∃ file, fs.resolve path = some (.file file) := by
  unfold isFile
  by_cases statable : path.statable = true
  · rcases fs.refuses path with _ | error
    · rcases fs.resolve path with _ | _ | file | _ <;> simp [statable]
    · simp [statable]
  · simp [statable]

/-- Parts that stay within a directory without links lead to files in its tree. -/
theorem below_of_staysWithin (links : fs.WithoutLinks top) {depth : ℕ}
    (place : fs.parent^[depth] dir = top) (stays : staysWithin depth parts = true)
    (walked : fs.walk dir parts = some (.file file)) : fs.Below top (fs.folder file) := by
  induction parts generalizing depth dir with
  | nil => cases walked
  | cons part parts ih =>
      by_cases up : part = py ".."
      · subst up
        rw [walk_up] at walked
        rcases depth with _ | depth
        · simp [staysWithin] at stays
        · simp only [staysWithin, if_true] at stays
          have above : fs.parent^[depth] (fs.parent dir) = top := place
          exact ih above stays walked
      · simp only [staysWithin, up, if_false] at stays
        have below : fs.Below top dir := ⟨depth, place⟩
        rcases found : fs.entry dir part with _ | next | file' | _
        · simp [walk, up, found] at walked
        · rw [walk_into up found] at walked
          have inside : fs.parent^[depth + 1] next = top := by
            rw [Function.iterate_succ_apply, links.directory below found]
            exact place
          exact ih inside stays walked
        · simp only [walk, up, found, if_false, Option.ite_none_right_eq_some] at walked
          rcases walked with ⟨-, same⟩
          cases same
          rw [links.file below found]
          exact below
        · simp [walk, up, found] at walked

end FileSystem

end Python
