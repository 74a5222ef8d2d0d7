import AgentOS.Kernel.Exceptions
import AgentOS.Python.Casing
import AgentOS.Python.Json

/-!
# RDF graphs and their translation to Cypher

A graph is the list of its triples in iteration order. `rdflib` and `pyshacl` are
third-party code: parsing, the conversion of a literal to its Python value and SHACL
validation are parameters, collected in `RdfLib`. The translation of a graph to Cypher
statements is `WriteGate._rdf_to_cypher_statements` with its helpers.
-/

namespace AgentOS

open Python

/-- An RDF term. -/
inductive Term where
  | uriRef (uri : Str)
  | bnode (label : Str)
  | literal (lexical : Str) (datatype : Option Str) (language : Option Str)
  deriving DecidableEq

/-- A triple in the order subject, predicate, object. -/
structure Triple where
  subject : Term
  predicate : Term
  object : Term
  deriving DecidableEq

/-- The triples of a graph in iteration order. -/
abbrev Graph := List Triple

namespace Graph

/-- `list(graph.subjects(predicate, object))`. -/
def subjects (graph : Graph) (predicate object : Term) : List Term :=
  (graph.filter fun triple => triple.predicate = predicate ∧ triple.object = object).map
    Triple.subject

/-- `list(graph.objects(subject, predicate))`. -/
def objects (graph : Graph) (subject predicate : Term) : List Term :=
  (graph.filter fun triple => triple.subject = subject ∧ triple.predicate = predicate).map
    Triple.object

/-- `graph.value(subject, predicate)`. -/
def value (graph : Graph) (subject predicate : Term) : Option Term :=
  (graph.objects subject predicate).head?

end Graph

/-- One `sh:ValidationResult` of the results graph, as terms. -/
structure ResultNode where
  focusNode : Option Term
  resultPath : Option Term
  resultMessage : Option Term
  resultSeverity : Option Term
  value : Option Term

/-- The behaviour of `rdflib` and `pyshacl`. -/
structure RdfLib where
  /-- `Graph().parse(data=..., format=...)`, or the text of the exception it raises. -/
  parse : Str → Str → Except Str Graph
  /-- The text of the exception for data that is no string. -/
  parseError : Json → Str
  /-- `str(term.value)` and `bool(term.value)` of a literal; `none` when `value` is `None`. -/
  literalValue : Str → Option Str → Option (Str × Bool)
  /-- `pyshacl.validate(data, shacl_graph=shapes)`: the verdict and the results. -/
  validate : Graph → Graph → Except Str (Bool × List ResultNode)

variable (rdf : RdfLib)

/-- `str(term)`: terms are strings, a literal is its lexical form. -/
def Term.str : Term → Str
  | uriRef uri => uri
  | bnode label => label
  | literal lexical _ _ => lexical

/-- `bool(term)`: a literal with a value is as true as the value. -/
def Term.truthy : Term → Bool
  | uriRef uri => uri ≠ []
  | bnode label => label ≠ []
  | literal lexical datatype _ =>
      match rdf.literalValue lexical datatype with
      | some (_, truth) => truth
      | none => lexical ≠ []

/-- `_rdf_term_to_str`: a literal is rendered by its Python value. -/
def rdfTermToStr : Term → Str
  | .uriRef uri => uri
  | .literal lexical datatype _ =>
      match rdf.literalValue lexical datatype with
      | some (text, _) => text
      | none => py "None"
  | .bnode label => label

/-- The class `[A-Z0-9_]` under `re.IGNORECASE`, with the four letters that fold into ASCII. -/
def isLabelChar (c : CodePoint) : Bool :=
  (0x41 ≤ c.val && c.val ≤ 0x5A) || (0x61 ≤ c.val && c.val ≤ 0x7A) ||
    (0x30 ≤ c.val && c.val ≤ 0x39) || c.val == 0x5F ||
    c.val == 0x130 || c.val == 0x131 || c.val == 0x17F || c.val == 0x212A

/-- `_sanitize_label`. -/
def sanitizeLabel (label : Str) : Str :=
  (upper (replaceChar 0x2D (py "_") label)).map fun c => if isLabelChar c then c else 0x5F

/-- `_sanitize_cypher_value`: five replacements, one after another. -/
def sanitizeCypherValue (value : Str) : Str :=
  replaceChar 0x0D [] <| replaceChar 0x0A [0x20] <| replaceChar 0 [] <|
    replaceChar 0x27 [0x5C, 0x27] <| replaceChar 0x5C [0x5C, 0x5C] value

/-- `pred_str.split("#")[-1] if "#" in pred_str else pred_str.split("/")[-1]`. -/
def localName (predicate : Str) : Str :=
  if contains predicate (py "#") then (splitSep 0x23 predicate).getLastD []
  else (splitSep 0x2F predicate).getLastD []

/-- The statement written for one triple. -/
def tripleToCypher (triple : Triple) : Str :=
  py "MERGE (a:`Resource` \x7buri: '" ++ sanitizeCypherValue (rdfTermToStr rdf triple.subject) ++
    py "'\x7d) MERGE (b:`Resource` \x7buri: '" ++
    sanitizeCypherValue (rdfTermToStr rdf triple.object) ++ py "'\x7d) MERGE (a)-[:`" ++
    sanitizeLabel (localName (rdfTermToStr rdf triple.predicate)) ++ py "`]->(b)"

/-- `_rdf_to_cypher_statements`. -/
def rdfToCypherStatements (graph : Graph) : List Str :=
  graph.map (tripleToCypher rdf)

end AgentOS
