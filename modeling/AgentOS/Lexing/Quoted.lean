import Mathlib.Data.List.Basic

/-!
# Quoted tokens

The lexical level of a query language: a string literal stands between quotes, where an
escape character keeps the next one as it is; a quoted name ends at the next tick; every
other character is a symbol of its own. A piece of text is read inside a literal as some
decoded text when the lexer is still inside the literal after it.
-/

namespace Lexing

/-- The three characters with a meaning for the lexer. -/
structure Lexicon (α : Type) where
  quote : α
  escape : α
  tick : α

inductive Token (α : Type)
  | symbol (char : α)
  | literal (text : List α)
  | name (text : List α)
  deriving DecidableEq

/-- Where the lexer is, with what it has read of an open token. -/
inductive Mode (α : Type)
  | outside
  | inLiteral (read : List α)
  | escaped (read : List α)
  | inName (read : List α)

namespace Lexicon

variable {α : Type} [DecidableEq α] (lexicon : Lexicon α)

/-- The tokens of a text from a mode on; there are none if a token is left open. -/
def lexFrom : Mode α → List α → Option (List (Token α))
  | .outside, [] => some []
  | .outside, char :: rest =>
      if char = lexicon.quote then lexFrom (.inLiteral []) rest
      else if char = lexicon.tick then lexFrom (.inName []) rest
      else (lexFrom .outside rest).map (.symbol char :: ·)
  | .inLiteral read, char :: rest =>
      if char = lexicon.escape then lexFrom (.escaped read) rest
      else if char = lexicon.quote then (lexFrom .outside rest).map (.literal read :: ·)
      else lexFrom (.inLiteral (read ++ [char])) rest
  | .escaped read, char :: rest => lexFrom (.inLiteral (read ++ [char])) rest
  | .inName read, char :: rest =>
      if char = lexicon.tick then (lexFrom .outside rest).map (.name read :: ·)
      else lexFrom (.inName (read ++ [char])) rest
  | _, [] => none

/-- The tokens of a text. -/
def lex (text : List α) : Option (List (Token α)) := lexicon.lexFrom .outside text

/-- Inside a literal the piece is read as the decoded text. -/
def Reads (piece decoded : List α) : Prop :=
  ∀ read rest, lexicon.lexFrom (.inLiteral read) (piece ++ rest) =
    lexicon.lexFrom (.inLiteral (read ++ decoded)) rest

variable {lexicon}

theorem reads_nil : lexicon.Reads [] [] := by
  intro read rest
  simp

theorem Reads.append {piece piece' decoded decoded' : List α} (reads : lexicon.Reads piece decoded)
    (reads' : lexicon.Reads piece' decoded') :
    lexicon.Reads (piece ++ piece') (decoded ++ decoded') := by
  intro read rest
  rw [List.append_assoc, reads, reads', List.append_assoc]

theorem reads_plain {char : α} (notQuote : char ≠ lexicon.quote)
    (notEscape : char ≠ lexicon.escape) : lexicon.Reads [char] [char] := by
  intro read rest
  simp [lexFrom, notQuote, notEscape]

/-- An escaped character is read as it is, whatever it is. -/
theorem reads_escaped (char : α) : lexicon.Reads [lexicon.escape, char] [char] := by
  intro read rest
  simp [lexFrom]

/-- A text encoded character by character is read as it decodes character by character. -/
theorem reads_flatMap {β : Type} {encode decode : β → List α}
    (each : ∀ char, lexicon.Reads (encode char) (decode char)) (text : List β) :
    lexicon.Reads (text.flatMap encode) (text.flatMap decode) := by
  induction text with
  | nil => exact reads_nil
  | cons char text ih =>
      simp only [List.flatMap_cons]
      exact (each char).append ih

/-- A piece between quotes is one literal. -/
theorem Reads.lex_literal {piece decoded : List α} (reads : lexicon.Reads piece decoded)
    (distinct : lexicon.quote ≠ lexicon.escape) (rest : List α) :
    lexicon.lex (lexicon.quote :: (piece ++ lexicon.quote :: rest)) =
      (lexicon.lex rest).map (.literal decoded :: ·) := by
  simp [lex, lexFrom, reads [] _, distinct]

theorem lexFrom_name {text : List α} (closed : lexicon.tick ∉ text) (read rest : List α) :
    lexicon.lexFrom (.inName read) (text ++ lexicon.tick :: rest) =
      (lexicon.lex rest).map (.name (read ++ text) :: ·) := by
  induction text generalizing read with
  | nil => simp [lex, lexFrom]
  | cons char text ih =>
      simp only [List.mem_cons, not_or] at closed
      simp [lexFrom, Ne.symm closed.1, ih closed.2]

/-- A text without a tick is one name between ticks. -/
theorem lex_name {text : List α} (closed : lexicon.tick ∉ text)
    (distinct : lexicon.tick ≠ lexicon.quote) (rest : List α) :
    lexicon.lex (lexicon.tick :: (text ++ lexicon.tick :: rest)) =
      (lexicon.lex rest).map (.name text :: ·) := by
  simp [lex, lexFrom, distinct, lexFrom_name closed]

/-- Text without a quote and a tick is symbols only. -/
theorem lex_symbols {text : List α} (plain : lexicon.quote ∉ text) (open' : lexicon.tick ∉ text)
    (rest : List α) :
    lexicon.lex (text ++ rest) = (lexicon.lex rest).map (text.map Token.symbol ++ ·) := by
  induction text with
  | nil => simp
  | cons char text ih =>
      simp only [List.mem_cons, not_or] at plain open'
      have tail := ih plain.2 open'.2
      simp only [lex] at tail ⊢
      simp [lexFrom, Ne.symm plain.1, Ne.symm open'.1, tail, Function.comp_def]

end Lexicon

end Lexing
