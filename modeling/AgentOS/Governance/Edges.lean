import AgentOS.Governance.Cypher
import AgentOS.Governance.Replay
import AgentOS.Governance.ShaclValidator

/-!
# Written edges

The edge that a statement merges, read back from its tokens, and when two triples become
the same edge. The translation is a simplified one: a relationship is named after the local
name of the predicate alone, and a literal is a node like any other.
-/

namespace AgentOS

open Python Lexing

/-- An edge between two resources of the store, by their uris. -/
structure Edge where
  start : Str
  relationType : Str
  finish : Str
  deriving DecidableEq

def literalText : Token CodePoint → Option Str
  | .literal text => some text
  | _ => none

def nameText : Token CodePoint → Option Str
  | .name text => some text
  | _ => none

/-- The edge that a statement merges: its two literals, and the name after the two labels. -/
def writtenEdge (statement : Str) : Option Edge :=
  (cypher.lex statement).bind fun tokens =>
    match tokens.filterMap literalText, tokens.filterMap nameText with
    | [start, finish], [_, _, relationType] => some ⟨start, relationType, finish⟩
    | _, _ => none

/-- The text of a term: of a literal that of its Python value, if it has one. -/
def Term.rendered (rdf : RdfLib) : Term → Option Str
  | uriRef uri => some uri
  | bnode label => some label
  | literal lexical datatype _ => (rdf.literalValue lexical datatype).map Prod.fst

/-- The type of the relationship for a predicate. -/
def relationType (predicate : Str) : Str := sanitizeLabel (localName predicate)

@[simp]
theorem filterMap_literalText_symbols (text : String) :
    (symbols text).filterMap literalText = [] := by
  simp [symbols, literalText, List.filterMap_eq_nil_iff]

@[simp]
theorem filterMap_nameText_symbols (text : String) : (symbols text).filterMap nameText = [] := by
  simp [symbols, nameText, List.filterMap_eq_nil_iff]

theorem rdfTermToStr_of_rendered {rdf : RdfLib} {term : Term} {text : Str}
    (rendered : term.rendered rdf = some text) : rdfTermToStr rdf term = text := by
  cases term with
  | uriRef uri => exact Option.some.inj rendered
  | bnode label => exact Option.some.inj rendered
  | literal lexical datatype language =>
      obtain ⟨⟨value, truth⟩, known, rfl⟩ := Option.map_eq_some_iff.mp rendered
      simp only [rdfTermToStr, known]

theorem literals_mergeTemplate (subject object relation : Str) :
    (mergeTemplate subject object relation).filterMap literalText = [subject, object] := by
  simp only [mergeTemplate, List.filterMap_append, filterMap_literalText_symbols]
  rfl

theorem names_mergeTemplate (subject object relation : Str) :
    (mergeTemplate subject object relation).filterMap nameText =
      [py "Resource", py "Resource", relation] := by
  simp only [mergeTemplate, List.filterMap_append, filterMap_nameText_symbols]
  rfl

theorem writtenEdge_tripleToCypher (rdf : RdfLib) (triple : Triple) :
    writtenEdge (tripleToCypher rdf triple) =
      some ⟨cleaned (rdfTermToStr rdf triple.subject),
        relationType (rdfTermToStr rdf triple.predicate),
        cleaned (rdfTermToStr rdf triple.object)⟩ := by
  rw [writtenEdge, lex_tripleToCypher, Option.bind_some]
  simp only [literals_mergeTemplate, names_mergeTemplate, relationType]

/-- Every character has an upper-case form. -/
theorem upperChar_ne_nil (c : CodePoint) : upperChar c ≠ [] := by
  have images : ∀ entry ∈ upperExpansions, entry.2 ≠ [] := by decide
  unfold upperChar
  split
  · split <;> simp
  · split
    · rename_i image found
      obtain ⟨before, after, table, -⟩ := List.lookup_eq_some_iff.mp found
      have filled := images (c.val, image) (by simp [table])
      simpa using filled
    · unfold mapCase
      split <;> simp

/-- Only an empty local name gives an empty relationship type. -/
theorem relationType_ne_nil {predicate : Str} (named : localName predicate ≠ []) :
    relationType predicate ≠ [] := by
  obtain ⟨c, rest, split⟩ := List.exists_cons_of_ne_nil named
  obtain ⟨d, more, replaced⟩ : ∃ d more,
      replaceChar 0x2D (py "_") (localName predicate) = d :: more := by
    rw [split, replaceChar, List.flatMap_cons]
    split_ifs
    · exact ⟨0x5F, _, rfl⟩
    · exact ⟨c, _, rfl⟩
  obtain ⟨e, tail, raised⟩ := List.exists_cons_of_ne_nil (upperChar_ne_nil d)
  rw [relationType, sanitizeLabel, replaced, upper, List.flatMap_cons, raised]
  simp

/-- Text on one line, without NUL, is written as it is. -/
theorem cleaned_of_plain {text : Str} (plain : ∀ c ∈ text, c ≠ 0 ∧ c ≠ 0x0A ∧ c ≠ 0x0D) :
    cleaned text = text := by
  induction text with
  | nil => rfl
  | cons c text ih =>
      obtain ⟨nul, newline, carriage⟩ := plain c List.mem_cons_self
      have rest := ih fun d mem => plain d (List.mem_cons_of_mem _ mem)
      have first : cleaned [c] = [c] := by simp [cleaned, replaceChar, nul, newline, carriage]
      rw [cleaned_eq_flatMap] at rest ⊢
      rw [List.flatMap_cons, rest, first]
      rfl

/-- A capital ASCII letter, a digit or the underscore. -/
def isCapital (c : CodePoint) : Bool :=
  (0x41 ≤ c.val && c.val ≤ 0x5A) || (0x30 ≤ c.val && c.val ≤ 0x39) || c.val == 0x5F

/-- A local name of capitals, digits and underscores is kept. -/
theorem sanitizeLabel_of_capitals {label : Str} (capitals : ∀ c ∈ label, isCapital c = true) :
    sanitizeLabel label = label := by
  induction label with
  | nil => rfl
  | cons c label ih =>
      have rest := ih fun d mem => capitals d (List.mem_cons_of_mem _ mem)
      have capital := capitals c List.mem_cons_self
      simp only [isCapital, Bool.or_eq_true, Bool.and_eq_true, decide_eq_true_eq, beq_iff_eq]
        at capital
      have dash : c ≠ 0x2D := by
        rintro rfl
        revert capital
        decide
      have raised : upperChar c = [c] := by
        have small : ¬ (0x61 ≤ c.val ∧ c.val ≤ 0x7A) := by omega
        simp only [upperChar, small, if_false]
        rw [if_pos (by omega)]
      have letter : isLabelChar c = true := by
        simp only [isLabelChar, Bool.or_eq_true, Bool.and_eq_true, decide_eq_true_eq, beq_iff_eq]
        tauto
      simp only [sanitizeLabel, upper, replaceChar] at rest ⊢
      simp [dash, raised, letter, rest]

/-- Triples of plain texts are kept apart, as long as they differ in more than the namespace of
the predicate and the kind of a term. -/
theorem writtenEdge_inj_of_plain (rdf : RdfLib) {triple triple' : Triple}
    (same : writtenEdge (tripleToCypher rdf triple) = writtenEdge (tripleToCypher rdf triple'))
    (plain : ∀ term ∈ [triple.subject, triple.object, triple'.subject, triple'.object],
      ∀ c ∈ rdfTermToStr rdf term, c ≠ 0 ∧ c ≠ 0x0A ∧ c ≠ 0x0D)
    (capitals : ∀ term ∈ [triple.predicate, triple'.predicate],
      ∀ c ∈ localName (rdfTermToStr rdf term), isCapital c = true) :
    rdfTermToStr rdf triple.subject = rdfTermToStr rdf triple'.subject ∧
      localName (rdfTermToStr rdf triple.predicate) =
        localName (rdfTermToStr rdf triple'.predicate) ∧
      rdfTermToStr rdf triple.object = rdfTermToStr rdf triple'.object := by
  simp only [List.forall_mem_cons, List.not_mem_nil, false_implies, implies_true,
    and_true] at plain capitals
  obtain ⟨subject, object, subject', object'⟩ := plain
  rw [writtenEdge_tripleToCypher, writtenEdge_tripleToCypher, relationType, relationType,
    cleaned_of_plain subject, cleaned_of_plain object, cleaned_of_plain subject',
    cleaned_of_plain object', sanitizeLabel_of_capitals capitals.1,
    sanitizeLabel_of_capitals capitals.2] at same
  simpa only [Option.some.injEq, Edge.mk.injEq] using same

/-- Two triples whose terms have texts become one edge exactly when these texts agree after
cleaning and the local names of the predicates after sanitizing; a relationship type is empty
only for an empty local name. -/
theorem writtenEdge_eq_iff (rdf : RdfLib) {graph : Graph} {triple triple' : Triple}
    (mem : triple ∈ graph) (mem' : triple' ∈ graph) {subject predicate object : Str}
    {subject' predicate' object' : Str}
    (rendered : triple.subject.rendered rdf = some subject ∧
      triple.predicate.rendered rdf = some predicate ∧ triple.object.rendered rdf = some object)
    (rendered' : triple'.subject.rendered rdf = some subject' ∧
      triple'.predicate.rendered rdf = some predicate' ∧
      triple'.object.rendered rdf = some object') :
    tripleToCypher rdf triple ∈ rdfToCypherStatements rdf graph ∧
    tripleToCypher rdf triple' ∈ rdfToCypherStatements rdf graph ∧
    (writtenEdge (tripleToCypher rdf triple) = writtenEdge (tripleToCypher rdf triple') ↔
      cleaned subject = cleaned subject' ∧ cleaned object = cleaned object' ∧
        relationType predicate = relationType predicate') ∧
    (localName predicate ≠ [] → ∃ edge, writtenEdge (tripleToCypher rdf triple) = some edge ∧
      edge.relationType ≠ []) := by
  obtain ⟨subjectText, predicateText, objectText⟩ := rendered
  obtain ⟨subjectText', predicateText', objectText'⟩ := rendered'
  refine ⟨List.mem_map_of_mem mem, List.mem_map_of_mem mem', ?_, ?_⟩
  · rw [writtenEdge_tripleToCypher, writtenEdge_tripleToCypher,
      rdfTermToStr_of_rendered subjectText, rdfTermToStr_of_rendered predicateText,
      rdfTermToStr_of_rendered objectText, rdfTermToStr_of_rendered subjectText',
      rdfTermToStr_of_rendered predicateText', rdfTermToStr_of_rendered objectText']
    simp only [Option.some.injEq, Edge.mk.injEq]
    tauto
  · intro named
    rw [writtenEdge_tripleToCypher, rdfTermToStr_of_rendered predicateText]
    exact ⟨_, rfl, relationType_ne_nil named⟩

namespace Sample

/-- The same owner stated with the vocabularies of two departments. -/
def hrOwner : Triple :=
  ⟨.uriRef (py "urn:a"), .uriRef (py "http://hr.example/terms#owner"), .uriRef (py "urn:b")⟩

def financeOwner : Triple :=
  ⟨.uriRef (py "urn:a"), .uriRef (py "http://finance.example/terms#owner"), .uriRef (py "urn:b")⟩

/-- The vocabularies are lost: both triples are written as one edge. -/
theorem owners_become_one_edge :
    ¬ ∀ (rdf : RdfLib) (shapes graph : Graph) (report : SHACLValidationReport),
      shaclValidate rdf shapes graph = .ok report → report.isValid = true →
      (∀ triple ∈ graph, ∀ triple' ∈ graph,
        writtenEdge (tripleToCypher rdf triple) = writtenEdge (tripleToCypher rdf triple') →
          triple = triple') ∧
      ∀ triple ∈ graph, ∀ edge, writtenEdge (tripleToCypher rdf triple) = some edge →
        edge.relationType ≠ [] := by
  intro claim
  have apart := (claim rdf [] [hrOwner, financeOwner] ⟨true, []⟩ rfl rfl).1 hrOwner (by simp)
    financeOwner (by simp)
  have merged : writtenEdge (tripleToCypher rdf hrOwner) =
      writtenEdge (tripleToCypher rdf financeOwner) := by
    rw [writtenEdge_tripleToCypher, writtenEdge_tripleToCypher]
    decide
  exact absurd (apart merged) (by decide)

theorem owners_share_relation :
    tripleToCypher rdf hrOwner ∈ rdfToCypherStatements rdf [hrOwner, financeOwner] ∧
      writtenEdge (tripleToCypher rdf hrOwner) = writtenEdge (tripleToCypher rdf financeOwner) := by
  have mem : hrOwner ∈ [hrOwner, financeOwner] := by simp
  have mem' : financeOwner ∈ [hrOwner, financeOwner] := by simp
  have facts := writtenEdge_eq_iff rdf mem mem' ⟨rfl, rfl, rfl⟩ ⟨rfl, rfl, rfl⟩
  exact ⟨facts.1, facts.2.2.1.mpr ⟨rfl, rfl, by decide⟩⟩

end Sample

end AgentOS
