import AgentOS.Python.Re
import AgentOS.Security.Firewall

/-!
# Default patterns

The patterns that a firewall has without being given any, each beside what it compiles to, and
the firewall with the default block levels. A text is blocked when a match shows a critical or
high keyword.
-/

namespace AgentOS

open Python Lexing

/-- The text of a pattern and what it compiles to. -/
structure Hook where
  source : Str
  regex : Regex CodePoint

/-- `re.compile`. -/
def Hook.compile (hook : Hook) : Pattern where
  source := hook.source
  finditer text := (hook.regex.found text).map Prod.snd

namespace Hook

def isBlank (c : CodePoint) : Bool := c == 0x20

/-- The class `[A-Za-z_]`. -/
def isNameChar (c : CodePoint) : Bool :=
  (0x41 ≤ c.val && c.val ≤ 0x5A) || (0x61 ≤ c.val && c.val ≤ 0x7A) || c == 0x5F

/-- `\s*[=:]\s*\S+`, after the name of a credential. -/
def assignment : Regex CodePoint :=
  .seq (.many isSpace) (.seq (.one fun c => c == 0x3D || c == 0x3A)
    (.seq (.many isSpace) (plus fun c => !isSpace c)))

/-! Direct injection delimiters -/

def ignorePrevious : Hook where
  source := py "(?i)ignore previous instructions?"
  regex := phrase letterOf [[py "ignore previous instruction"], [py "s", py ""]]

def disregardPrevious : Hook where
  source := py "(?i)disregard (all )?previous"
  regex := phrase letterOf [[py "disregard "], [py "all ", py ""], [py "previous"]]

def forgetEverything : Hook where
  source := py "(?i)forget everything"
  regex := phrase letterOf [[py "forget everything"]]

def ignoreAbove : Hook where
  source := py ("(?i)ignore (the |your )?(above|prior|earlier) " ++
    "(instructions?|prompts?|context)")
  regex := phrase letterOf [[py "ignore "], [py "the ", py "your ", py ""],
    [py "above", py "prior", py "earlier"], [py " "],
    [py "instructions", py "instruction", py "prompts", py "prompt", py "context"]]

/-! Role override -/

def youAreNow : Hook where
  source := py "(?i)you are now (an? )?(?:attacker|hacker|malicious) "
  regex := phrase letterOf [[py "you are now "], [py "an ", py "a ", py ""],
    [py "attacker", py "hacker", py "malicious"], [py " "]]

def actAs : Hook where
  source := py "(?i)act as (a |an )?(?:system|admin|developer|attacker)"
  regex := phrase letterOf [[py "act as "], [py "a ", py "an ", py ""],
    [py "system", py "admin", py "developer", py "attacker"]]

def pretendToBe : Hook where
  source := py "(?i)pretend to be (a |an )?(?:system|admin|developer|attacker)"
  regex := phrase letterOf [[py "pretend to be "], [py "a ", py "an ", py ""],
    [py "system", py "admin", py "developer", py "attacker"]]

/-! Credential / PII exfiltration -/

def password : Hook where
  source := py "(?i)password\\s*[=:]\\s*\\S+"
  regex := .seq (phrase letterOf [[py "password"]]) assignment

def apiKey : Hook where
  source := py "(?i)api[_-]?key\\s*[=:]\\s*\\S+"
  regex := .seq (phrase letterOf [[py "api"], [py "_", py "-", py ""], [py "key"]]) assignment

def secret : Hook where
  source := py "(?i)(?:secret|token|credential)s?\\s*[=:]\\s*\\S+"
  regex := .seq (phrase letterOf [[py "secret", py "token", py "credential"], [py "s", py ""]])
    assignment

/-! Template injection markers -/

def templateMarker : Hook where
  source := py "\\\x7b\\\x7b[ ]*\\.?[A-Za-z_]+[ ]*\\\x7d\\\x7d"
  regex := .seq (literal id (py "\x7b\x7b")) (.seq (.many isBlank)
    (.seq (phrase id [[py ".", py ""]]) (.seq (plus isNameChar)
      (.seq (.many isBlank) (literal id (py "\x7d\x7d"))))))

def codeMarker : Hook where
  source := py "<\\?[ ]*(?:php|python|js|bash)[ ]*\\?>"
  regex := .seq (literal id (py "<?")) (.seq (.many isBlank)
    (.seq (phrase id [[py "php", py "python", py "js", py "bash"]])
      (.seq (.many isBlank) (literal id (py "?>")))))

def cdata : Hook where
  source := py "<\\!\\[CDATA"
  regex := phrase id [[py "<![CDATA"]]

/-! Encoded / obfuscated payloads -/

def encodedScript : Hook where
  source := py "%3Cscript%3E"
  regex := phrase id [[py "%3Cscript%3E"]]

def scriptTag : Hook where
  source := py "<script[\\s/>]"
  regex := .seq (literal id (py "<script")) (.one fun c => isSpace c || c == 0x2F || c == 0x3E)

def javascriptUrl : Hook where
  source := py "javascript:[ ]*"
  regex := .seq (literal id (py "javascript:")) (.many isBlank)

def dataUrl : Hook where
  source := py "data:text/html[;,]"
  regex := phrase id [[py "data:text/html"], [py ";", py ","]]

/-! Unicode-directionality tricks -/

def rightToLeftOverride : Hook where
  source := py "\\u202e"
  regex := phrase id [[[0x202E]]]

def leftToRightMark : Hook where
  source := py "\\u200e"
  regex := phrase id [[[0x200E]]]

def leftToRightOverride : Hook where
  source := py "\\u202d"
  regex := phrase id [[[0x202D]]]

def directInjection : List Hook :=
  [ignorePrevious, disregardPrevious, forgetEverything, ignoreAbove]

def roleOverride : List Hook := [youAreNow, actAs, pretendToBe]

def exfiltration : List Hook := [password, apiKey, secret]

def templateInjection : List Hook := [templateMarker, codeMarker, cdata]

def encodedPayloads : List Hook := [encodedScript, scriptTag, javascriptUrl, dataUrl]

def directionality : List Hook := [rightToLeftOverride, leftToRightMark, leftToRightOverride]

/-- `_DEFAULT_PATTERNS`. -/
def defaults : List Hook :=
  directInjection ++ roleOverride ++ exfiltration ++ templateInjection ++ encodedPayloads ++
    directionality

/-- Whether a search finds the pattern in a text. -/
def Finds (hook : Hook) (text : Str) : Prop := hook.regex.found text ≠ []

/-- A match whose first 80 characters hold a keyword in lower case. -/
def shows (keywords : List Str) (word : Str) : Bool :=
  keywords.any (contains (lower (word.take 80)))

/-- Whether a search finds a match that shows a keyword. -/
def Tells (hook : Hook) (keywords : List Str) (text : Str) : Prop :=
  ∃ entry ∈ hook.regex.found text, shows keywords entry.2 = true

end Hook

namespace SemanticFirewall

/-- `get_firewall`. -/
def getFirewall : SemanticFirewall where
  patterns := Hook.defaults.map Hook.compile
  blockLevels := [py "high", py "critical"]

/-- The keywords of the severities that are blocked. -/
def blockedKeywords : List Str := criticalKeywords ++ highKeywords

theorem classifySeverity_blocked_iff {matched : List Str} :
    classifySeverity matched ∈ [py "high", py "critical"] ↔
      ∃ snippet ∈ matched, blockedKeywords.any (contains (lower snippet)) = true := by
  have names : py "none" ∉ [py "high", py "critical"] ∧ py "medium" ∉ [py "high", py "critical"] ∧
      py "low" ∉ [py "high", py "critical"] := by simp [py]
  have split : (∃ snippet ∈ matched, blockedKeywords.any (contains (lower snippet)) = true) ↔
      ((matched.map lower).any fun text => criticalKeywords.any (contains text)) = true ∨
        ((matched.map lower).any fun text => highKeywords.any (contains text)) = true := by
    simp only [blockedKeywords, List.any_append, Bool.or_eq_true, List.any_map, List.any_eq_true,
      Function.comp_apply]
    constructor
    · rintro ⟨snippet, mem, held | held⟩
      · exact .inl ⟨snippet, mem, held⟩
      · exact .inr ⟨snippet, mem, held⟩
    · rintro (⟨snippet, mem, held⟩ | ⟨snippet, mem, held⟩)
      · exact ⟨snippet, mem, .inl held⟩
      · exact ⟨snippet, mem, .inr held⟩
  rw [split, classifySeverity]
  split_ifs with empty critical high medium
  · have none : matched = [] := by simpa using empty
    simp [none, names.1]
  · simp [critical]
  · simp [high]
  · simp [critical, high, names.2.1]
  · simp [critical, high, names.2.2]

/-- A text is blocked when some match shows a keyword of a blocked severity. -/
theorem scan_error_iff {text inputType : Str} :
    (∃ e, getFirewall.scan text inputType = .error e) ↔
      ∃ hook ∈ Hook.defaults, hook.Tells blockedKeywords text := by
  have blocks : (∃ e, getFirewall.scan text inputType = .error e) ↔
      classifySeverity (getFirewall.matchedSnippets text) ∈ [py "high", py "critical"] := by
    rw [scan]
    split
    · rename_i blocked
      exact ⟨fun _ => blocked.2, fun _ => ⟨_, rfl⟩⟩
    · rename_i passed
      simp only [reduceCtorEq, exists_false, false_iff]
      intro blocked
      refine passed ⟨?_, blocked⟩
      intro none
      rw [none, classifySeverity, List.isEmpty_nil, if_pos rfl] at blocked
      simp [py] at blocked
  rw [blocks, classifySeverity_blocked_iff]
  simp only [matchedSnippets, getFirewall, Hook.compile, List.flatMap_map, List.mem_flatMap,
    List.mem_map, List.map_map, Hook.Tells, Hook.shows]
  constructor
  · rintro ⟨_, ⟨hook, known, entry, reported, rfl⟩, held⟩
    exact ⟨hook, known, entry, reported, held⟩
  · rintro ⟨hook, known, entry, reported, held⟩
    exact ⟨_, ⟨hook, known, entry, reported, rfl⟩, held⟩

end SemanticFirewall

end AgentOS
