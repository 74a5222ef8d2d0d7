import AgentOS.Governance.Replay
import AgentOS.Policies.AutonomyPolicy
import AgentOS.Python.Words

/-!
# Command lines

A shell line may join many commands, each with a program of its own. The policy looks at one
word of the whole line, so that a line is accepted exactly when it opens with an allowed word,
whatever is joined to it.
-/

namespace AgentOS

open Python

/-- What may stand in a word: no blank, no newline, no metacharacter and no quote. -/
def isWordChar (c : CodePoint) : Bool := !(py " \t\n|&;()<>'\"\\`").contains c

/-- A word of a shell line. -/
structure ShellWord where
  text : Str
  nonempty : text ≠ []
  plain : ∀ c ∈ text, isWordChar c = true

/-- Blanks around words, perhaps none. -/
structure Blanks where
  text : Str
  blank : ∀ c ∈ text, c = 0x20 ∨ c = 0x09

/-- A further word of a command, with the blanks in front of it. -/
structure Argument where
  gap : Blanks
  separated : gap.text ≠ []
  word : ShellWord

/-- A program with its arguments, and the blanks around them. -/
structure SimpleCommand where
  before : Blanks
  program : ShellWord
  arguments : List Argument
  after : Blanks

/-- What joins two commands. -/
inductive Separator where
  | pipe
  | andIf
  | orIf
  | semicolon
  | background
  | newline

/-- A line of simple commands. -/
structure ShellLine where
  first : SimpleCommand
  others : List (Separator × SimpleCommand)

def Argument.text (argument : Argument) : Str := argument.gap.text ++ argument.word.text

/-- What stands behind the program. -/
def SimpleCommand.behind (command : SimpleCommand) : Str :=
  command.arguments.flatMap Argument.text ++ command.after.text

def SimpleCommand.text (command : SimpleCommand) : Str :=
  command.before.text ++ (command.program.text ++ command.behind)

def Separator.text : Separator → Str
  | pipe => py "|"
  | andIf => py "&&"
  | orIf => py "||"
  | semicolon => py ";"
  | background => py "&"
  | newline => py "\n"

namespace ShellLine

variable (line : ShellLine)

/-- What is joined to the first command. -/
def joined : Str := line.others.flatMap fun other => other.1.text ++ other.2.text

/-- The line as it is written. -/
def text : Str := line.first.text ++ line.joined

/-- The programs of the commands behind the first one. -/
def laterPrograms : List Str := line.others.map fun other => other.2.program.text

/-- The programs that running the line would start. -/
def programs : List Str := line.first.program.text :: line.laterPrograms

/-- The first program is a word for `split`: white space or nothing follows it. -/
def StandsApart : Prop :=
  (∀ c ∈ line.first.program.text, isSpace c = false) ∧
    ∀ c ∈ (line.first.behind ++ line.joined).head?, isSpace c = true

end ShellLine

/-- Behind white space the text opens with the word, which white space or nothing follows. -/
def OpensWith (text word : Str) : Prop :=
  ∃ white rest, text = white ++ (word ++ rest) ∧ (∀ c ∈ white, isSpace c = true) ∧
    (∀ c ∈ word, isSpace c = false) ∧ (rest = [] ∨ word ≠ [] ∧ ∀ c ∈ rest.head?, isSpace c = true)

/-- The word with which a text opens is the first one that `split` gives, if there is one. -/
theorem opensWith_iff {text word : Str} : OpensWith text word ↔ (split text).headD [] = word := by
  constructor
  · rintro ⟨white, rest, rfl, spaces, solid, ends⟩
    rw [split_spaces_append spaces]
    by_cases nonempty : word = []
    · rcases ends with rfl | ⟨filled, -⟩
      · rw [nonempty]
        rfl
      · exact absurd nonempty filled
    · have behind : ∀ c ∈ rest.head?, isSpace c = true := by
        rcases ends with rfl | ⟨-, behind⟩
        · exact nofun
        · exact behind
      rw [split_word_append nonempty solid behind, List.headD_cons]
  · rintro rfl
    rcases words_cases text with
      ⟨spaces, none⟩ | ⟨white, word, rest, shape, spaces, nonempty, solid, ends, words⟩
    · rw [none]
      exact ⟨text, [], (List.append_nil text).symm, spaces, nofun, .inl rfl⟩
    · rw [words, List.headD_cons]
      exact ⟨white, rest, shape, spaces, solid, .inr ⟨nonempty, ends⟩⟩

namespace ShellLine

variable {line : ShellLine}

theorem isSpace_of_blank {c : CodePoint} (blank : c = 0x20 ∨ c = 0x09) : isSpace c = true := by
  rcases blank with rfl | rfl <;> decide

/-- A first program that stands apart is the word with which the line opens. -/
theorem StandsApart.opensWith_iff (apart : line.StandsApart) {word : Str} :
    OpensWith line.text word ↔ line.first.program.text = word := by
  have blanks : ∀ c ∈ line.first.before.text, isSpace c = true :=
    fun c mem => isSpace_of_blank (line.first.before.blank c mem)
  rw [AgentOS.opensWith_iff, text, SimpleCommand.text, List.append_assoc, List.append_assoc,
    split_spaces_append blanks, split_word_append line.first.program.nonempty apart.1 apart.2,
    List.headD_cons]

/--
A program that is not allowed rides along: behind an allowed first program that stands apart, or
on a line that opens with an allowed word although its first program does not stand apart.
-/
def CarriesOther (allowed : List Str) (line : ShellLine) : Prop :=
  (line.StandsApart ∧ line.first.program.text ∈ allowed ∧
    ∃ program ∈ line.laterPrograms, program ∉ allowed) ∨
  (¬ line.StandsApart ∧ (∃ word ∈ allowed, OpensWith line.text word) ∧
    ∃ program ∈ line.programs, program ∉ allowed)

end ShellLine

namespace AutonomyPolicy

variable {policy : AutonomyPolicy}

/-- An allowlist accepts what opens with one of its entries. -/
theorem checkCommand_eq_ok_iff (host : Host) (allowlist : policy.commands.mode = py "allowlist")
    (command : Str) : policy.checkCommand host command = .ok () ↔
      ∃ word ∈ policy.commands.allowed, OpensWith command word := by
  have opens : OpensWith command (program command) := by
    rw [opensWith_iff, program, split_strip]
  rw [checkCommand, if_pos allowlist]
  split
  · rename_i allowed
    exact iff_of_true rfl ⟨_, allowed, opens⟩
  · rename_i unlisted
    refine iff_of_false nofun ?_
    rintro ⟨word, allowed, opensWith⟩
    rw [opensWith_iff] at opens opensWith
    exact unlisted (opens ▸ opensWith ▸ allowed)

/-- A line that is accepted starts no program outside the allowlist. -/
def ChecksWhole (host : Host) (policy : AutonomyPolicy) (line : ShellLine) : Prop :=
  policy.checkCommand host line.text = .ok () →
    ∀ program ∈ line.programs, program ∈ policy.commands.allowed

/-- A line is checked as a whole exactly when no other program rides along with what is read. -/
theorem checksWhole_iff (host : Host) (allowlist : policy.commands.mode = py "allowlist")
    (line : ShellLine) :
    ChecksWhole host policy line ↔ ¬ line.CarriesOther policy.commands.allowed := by
  rw [ChecksWhole, checkCommand_eq_ok_iff host allowlist, ShellLine.CarriesOther]
  by_cases apart : line.StandsApart
  · have opens : (∃ word ∈ policy.commands.allowed, OpensWith line.text word) ↔
        line.first.program.text ∈ policy.commands.allowed := by
      simp [apart.opensWith_iff]
    rw [opens, or_iff_left (fun glued => glued.1 apart), and_iff_right apart]
    constructor
    · rintro whole ⟨first, program, later, other⟩
      exact other (whole first program (List.mem_cons_of_mem _ later))
    · intro alone first program mem
      rcases List.mem_cons.mp mem with rfl | later
      · exact first
      · by_contra other
        exact alone ⟨first, program, later, other⟩
  · rw [or_iff_right (fun both => apart both.1), and_iff_right apart]
    constructor
    · rintro whole ⟨opens, program, mem, other⟩
      exact other (whole opens program mem)
    · intro alone opens program mem
      by_contra other
      exact alone ⟨opens, program, mem, other⟩

end AutonomyPolicy

namespace Sample

/-- A policy that allows nothing but `ls`. -/
def listingPolicy : AutonomyPolicy where
  commands := ⟨py "allowlist", [py "ls"], []⟩
  writeQuotas := ⟨50, 10⟩
  maxDurationSeconds := 3600
  sessionStart := 0

/-- A command without arguments, with a blank behind it or none. -/
def bareCommand (program : String) (nonempty : py program ≠ [])
    (plain : (py program).all isWordChar = true) (spaced : Bool) : SimpleCommand where
  before := ⟨[], nofun⟩
  program := ⟨py program, nonempty, List.all_eq_true.mp plain⟩
  arguments := []
  after := ⟨if spaced then [0x20] else [], by cases spaced <;> simp⟩

/-- `ls |rm`, or `ls|rm`. -/
def pipeline (spaced : Bool) : ShellLine where
  first := bareCommand "ls" (by decide) (by decide) spaced
  others := [(.pipe, bareCommand "rm" (by decide) (by decide) false)]

example : (pipeline true).text = py "ls |rm" := by decide

/-- Without the blank the whole is taken for a program, which is refused. -/
theorem tight_pipeline_refused :
    listingPolicy.commands.mode = py "allowlist" ∧
      AutonomyPolicy.ChecksWhole steadyHost listingPolicy (pipeline false) := by
  refine ⟨rfl, (AutonomyPolicy.checksWhole_iff steadyHost rfl (pipeline false)).mpr ?_⟩
  rintro (⟨apart, -⟩ | ⟨-, ⟨word, allowed, opens⟩, -⟩)
  · exact absurd (apart.2 0x7C rfl) (by decide)
  · have first : (split (pipeline false).text).headD [] = py "ls|rm" := by decide
    rw [opensWith_iff.mp opens] at first
    subst first
    revert allowed
    decide

/-- Behind the blank `rm` is not looked at. -/
theorem piped_program_accepted :
    ¬ ∀ (host : Host) (policy : AutonomyPolicy) (line : ShellLine),
      policy.commands.mode = py "allowlist" → AutonomyPolicy.ChecksWhole host policy line := by
  intro claim
  have accepted : listingPolicy.checkCommand steadyHost (pipeline true).text = .ok () := by decide
  have programs := claim steadyHost listingPolicy (pipeline true) rfl accepted (py "rm") (by decide)
  revert programs
  decide

end Sample

end AgentOS
