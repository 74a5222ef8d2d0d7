import AgentOS.Kernel.Exceptions
import AgentOS.Python.Casing
import AgentOS.Python.Numeral

/-!
# Semantic firewall

A text is searched with regular expressions; what they match decides the severity, and
the severity decides whether the text is blocked. A compiled pattern is its source and
the list of texts that `finditer` yields, which is the business of the regex engine.
-/

namespace AgentOS

open Python

/-- A compiled regular expression. -/
structure Pattern where
  source : Str
  finditer : Str → List Str

structure TaintScanResult where
  clean : Bool
  inputType : Str
  threatsFound : ℕ
  matchedPatterns : List Str
  severity : Str
  deriving DecidableEq

structure SemanticFirewall where
  patterns : List Pattern
  blockLevels : List Str

namespace SemanticFirewall

variable (firewall : SemanticFirewall)

def criticalKeywords : List Str :=
  [py "password", py "api_key", py "secret", py "token", py "credential", py "ignore previous",
   py "disregard", py "forget everything"]

def highKeywords : List Str :=
  [py "script", py "javascript", py "you are now", py "act as", py "pretend to be", py "system",
   py "admin"]

def mediumKeywords : List Str := [py "\x7b\x7b", py "<?", py "CDATA", py "\\u"]

/-- `_classify_severity`; the last tier is tested on the texts as they are. -/
def classifySeverity (matched : List Str) : Str :=
  let holds := fun (texts keywords : List Str) => texts.any fun text => keywords.any (contains text)
  if matched.isEmpty then py "none"
  else if holds (matched.map lower) criticalKeywords then py "critical"
  else if holds (matched.map lower) highKeywords then py "high"
  else if holds matched mediumKeywords then py "medium"
  else py "low"

/-- The matches of all patterns, each cut to 80 characters. -/
def matchedSnippets (text : Str) : List Str :=
  firewall.patterns.flatMap fun pattern => (pattern.finditer text).map (·.take 80)

def scan (text inputType : Str) : Except Exc TaintScanResult :=
  let matched := firewall.matchedSnippets text
  let severity := classifySeverity matched
  if matched ≠ [] ∧ severity ∈ firewall.blockLevels then
    .error ⟨.securityInterceptError,
      py "Semantic firewall intercepted " ++ strNat matched.length ++ py " threat(s) in " ++
        inputType ++ py " (severity=" ++ severity ++ py ").", none⟩
  else
    .ok { clean := matched.isEmpty, inputType, threatsFound := matched.length
          matchedPatterns := matched.take 10, severity }

end SemanticFirewall

end AgentOS
