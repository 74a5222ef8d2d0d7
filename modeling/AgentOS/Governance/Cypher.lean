import AgentOS.Governance.Rdf
import AgentOS.Lexing.Quoted

/-!
# The written Cypher

Every statement of the translation lexes as one template with three `MERGE` clauses. What
comes from a term stays inside its literal, or inside the relationship name.
-/

namespace AgentOS

open Python Lexing

/-- Cypher quotes strings with an apostrophe, escapes with a backslash, and quotes names with
a backtick. -/
def cypher : Lexicon CodePoint := ⟨0x27, 0x5C, 0x60⟩

/-- The text as the characters of Cypher syntax. -/
def symbols (text : String) : List (Token CodePoint) := (py text).map .symbol

/-- Both nodes and the edge between them are merged. -/
def mergeTemplate (subject object relation : Str) : List (Token CodePoint) :=
  symbols "MERGE (a:" ++ [.name (py "Resource")] ++ symbols " \x7buri: " ++
    [.literal subject] ++ symbols "\x7d) MERGE (b:" ++ [.name (py "Resource")] ++
    symbols " \x7buri: " ++ [.literal object] ++ symbols "\x7d) MERGE (a)-[:" ++
    [.name relation] ++ symbols "]->(b)"

/-- The text of a term: a URI, a label, or the value of a literal, which may be `None`. -/
inductive Term.WrittenAs (rdf : RdfLib) : Term → Str → Prop
  | uriRef (uri : Str) : WrittenAs rdf (.uriRef uri) uri
  | bnode (label : Str) : WrittenAs rdf (.bnode label) label
  | value {lexical text : Str} {datatype : Option Str} {truth : Bool} (language : Option Str)
      (known : rdf.literalValue lexical datatype = some (text, truth)) :
      WrittenAs rdf (.literal lexical datatype language) text
  | valueless {lexical : Str} {datatype : Option Str} (language : Option Str)
      (unknown : rdf.literalValue lexical datatype = none) :
      WrittenAs rdf (.literal lexical datatype language) (py "None")

/-- A term's text without NUL and carriage returns, and on one line. -/
def cleaned (value : Str) : Str :=
  replaceChar 0x0D [] (replaceChar 0x0A [0x20] (replaceChar 0 [] value))

/-- What one character of a value is written as. -/
def sanitizedChar (c : CodePoint) : Str :=
  if c = 0x5C then [0x5C, 0x5C] else if c = 0x27 then [0x5C, 0x27] else cleaned [c]

theorem replaceChar_flatMap (old : CodePoint) (new text : Str) (encode : CodePoint → Str) :
    replaceChar old new (text.flatMap encode) =
      text.flatMap fun c => replaceChar old new (encode c) := by
  simp [replaceChar, List.flatMap_assoc]

theorem cleaned_eq_flatMap (value : Str) :
    cleaned value = value.flatMap fun c => cleaned [c] := by
  have single : value = value.flatMap fun c => [c] := by simp
  conv_lhs => rw [single]
  simp only [cleaned, replaceChar_flatMap]

/-- The five replacements work on every character alone. -/
theorem sanitizeCypherValue_eq_flatMap (value : Str) :
    sanitizeCypherValue value = value.flatMap sanitizedChar := by
  have single : value = value.flatMap fun c => [c] := by simp
  conv_lhs => rw [single]
  simp only [sanitizeCypherValue, replaceChar_flatMap]
  congr 1
  funext c
  by_cases backslash : c = 0x5C
  · subst backslash
    rfl
  · by_cases apostrophe : c = 0x27
    · subst apostrophe
      rfl
    · simp [sanitizedChar, cleaned, replaceChar, backslash, apostrophe]

/-- A cleaned character is dropped, a blank or the character itself. -/
theorem cleaned_singleton (c : CodePoint) :
    cleaned [c] = [] ∨ cleaned [c] = [0x20] ∨ cleaned [c] = [c] := by
  by_cases nul : c = 0
  · subst nul
    exact .inl rfl
  · by_cases newline : c = 0x0A
    · subst newline
      exact .inr (.inl rfl)
    · by_cases carriage : c = 0x0D
      · subst carriage
        exact .inl rfl
      · exact .inr (.inr (by simp [cleaned, replaceChar, nul, newline, carriage]))

/-- A written character is read as the cleaned character. -/
theorem reads_sanitizedChar (c : CodePoint) : cypher.Reads (sanitizedChar c) (cleaned [c]) := by
  by_cases backslash : c = 0x5C
  · subst backslash
    exact Lexicon.reads_escaped 0x5C
  · by_cases apostrophe : c = 0x27
    · subst apostrophe
      exact Lexicon.reads_escaped 0x27
    · have plain : sanitizedChar c = cleaned [c] := by
        simp [sanitizedChar, backslash, apostrophe]
      rw [plain]
      rcases cleaned_singleton c with dropped | blank | same
      · rw [dropped]
        exact Lexicon.reads_nil
      · rw [blank]
        exact Lexicon.reads_plain (by decide) (by decide)
      · rw [same]
        exact Lexicon.reads_plain apostrophe backslash

/-- A sanitized value is read inside a literal as the cleaned value. -/
theorem reads_sanitizeCypherValue (value : Str) :
    cypher.Reads (sanitizeCypherValue value) (cleaned value) := by
  rw [sanitizeCypherValue_eq_flatMap, cleaned_eq_flatMap]
  exact Lexicon.reads_flatMap reads_sanitizedChar value

/-- A sanitized label does not end its back-quoted name. -/
theorem backtick_not_mem_sanitizeLabel (label : Str) :
    (0x60 : CodePoint) ∉ sanitizeLabel label := by
  intro mem
  obtain ⟨c, -, written⟩ := List.mem_map.mp mem
  by_cases letter : isLabelChar c = true
  · rw [if_pos letter] at written
    subst written
    revert letter
    decide
  · rw [if_neg letter] at written
    revert written
    decide

/-- Fixed text of the template is read as symbols. -/
theorem lex_py (text : String) (plain : cypher.quote ∉ py text) (closed : cypher.tick ∉ py text)
    (rest : Str) :
    cypher.lex (py text ++ rest) = (cypher.lex rest).map (symbols text ++ ·) :=
  Lexicon.lex_symbols plain closed rest

theorem lex_backquoted {text : Str} (closed : (0x60 : CodePoint) ∉ text) (rest : Str) :
    cypher.lex (0x60 :: (text ++ 0x60 :: rest)) = (cypher.lex rest).map (.name text :: ·) :=
  Lexicon.lex_name closed (by decide) rest

theorem lex_quoted (value rest : Str) :
    cypher.lex (0x27 :: (sanitizeCypherValue value ++ 0x27 :: rest)) =
      (cypher.lex rest).map (.literal (cleaned value) :: ·) :=
  (reads_sanitizeCypherValue value).lex_literal (by decide) rest

/-- What is written for a triple lexes as the template. -/
theorem lex_tripleToCypher (rdf : RdfLib) (triple : Triple) :
    cypher.lex (tripleToCypher rdf triple) =
      some (mergeTemplate (cleaned (rdfTermToStr rdf triple.subject))
        (cleaned (rdfTermToStr rdf triple.object))
        (sanitizeLabel (localName (rdfTermToStr rdf triple.predicate)))) := by
  have first : py "MERGE (a:`Resource` \x7buri: '" =
      py "MERGE (a:" ++ 0x60 :: (py "Resource" ++ 0x60 :: (py " \x7buri: " ++ [0x27])) := by
    decide
  have second : py "'\x7d) MERGE (b:`Resource` \x7buri: '" =
      0x27 :: (py "\x7d) MERGE (b:" ++
        0x60 :: (py "Resource" ++ 0x60 :: (py " \x7buri: " ++ [0x27]))) := by
    decide
  have third : py "'\x7d) MERGE (a)-[:`" = 0x27 :: (py "\x7d) MERGE (a)-[:" ++ [0x60]) := by
    decide
  have last : py "`]->(b)" = 0x60 :: (py "]->(b)" ++ []) := by decide
  rw [tripleToCypher, first, second, third, last]
  have resource : (0x60 : CodePoint) ∉ py "Resource" := by decide
  have relation := backtick_not_mem_sanitizeLabel (localName (rdfTermToStr rdf triple.predicate))
  have start := lex_py "MERGE (a:" (by decide) (by decide)
  have uri := lex_py " \x7buri: " (by decide) (by decide)
  have middle := lex_py "\x7d) MERGE (b:" (by decide) (by decide)
  have arrow := lex_py "\x7d) MERGE (a)-[:" (by decide) (by decide)
  have head : cypher.lex (py "]->(b)") = some (symbols "]->(b)") := rfl
  simp only [List.append_assoc, List.cons_append, List.nil_append, start, uri, middle, arrow, head,
    lex_backquoted resource, lex_backquoted relation, lex_quoted, Option.map_some,
    mergeTemplate, List.append_nil]

theorem writtenAs_rdfTermToStr (rdf : RdfLib) (term : Term) :
    term.WrittenAs rdf (rdfTermToStr rdf term) := by
  cases term with
  | uriRef uri => exact .uriRef uri
  | bnode label => exact .bnode label
  | literal lexical datatype language =>
      rcases known : rdf.literalValue lexical datatype with _ | ⟨text, truth⟩
      · simp only [rdfTermToStr, known]
        exact .valueless language known
      · simp only [rdfTermToStr, known]
        exact .value language known

/--
The statement is the template for the triple: two literals that decode to the cleaned texts of
subject and object, and one relationship name without a backtick.
-/
def Encodes (rdf : RdfLib) (triple : Triple) (statement : Str) : Prop :=
  ∃ subject predicate object, triple.subject.WrittenAs rdf subject ∧
    triple.predicate.WrittenAs rdf predicate ∧ triple.object.WrittenAs rdf object ∧
    cypher.lex statement = some (mergeTemplate (cleaned subject) (cleaned object)
      (sanitizeLabel (localName predicate))) ∧
    (0x60 : CodePoint) ∉ sanitizeLabel (localName predicate)

/-- One statement is written for each triple, and it encodes nothing but the triple. -/
theorem lex_rdfToCypherStatements (rdf : RdfLib) (graph : Graph) :
    List.Forall₂ (Encodes rdf) graph (rdfToCypherStatements rdf graph) := by
  rw [rdfToCypherStatements, List.forall₂_map_right_iff, List.forall₂_same]
  intro triple _
  exact ⟨_, _, _, writtenAs_rdfTermToStr rdf triple.subject,
    writtenAs_rdfTermToStr rdf triple.predicate, writtenAs_rdfTermToStr rdf triple.object,
    lex_tripleToCypher rdf triple, backtick_not_mem_sanitizeLabel _⟩

end AgentOS
