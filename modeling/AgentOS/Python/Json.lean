import AgentOS.Python.Dict
import AgentOS.Python.Numeral
import Mathlib.Data.Rat.Defs

/-!
# JSON values

The value tree that `json.loads` returns and that run data and request bodies are
made of. An object lists each of its keys once, as the decoded `dict` does.
-/

namespace Python

/-- A JSON value. -/
inductive Json where
  | null
  | bool (value : Bool)
  | int (value : ℤ)
  | float (value : ℚ)
  | str (text : Str)
  | arr (items : List Json)
  | obj (fields : List (Str × Json))
  deriving Inhabited

namespace Json

/-- `bool(value)`. -/
def truthy : Json → Bool
  | null => false
  | bool value => value
  | int value => value ≠ 0
  | float value => value ≠ 0
  | str text => text ≠ []
  | arr items => !items.isEmpty
  | obj fields => !fields.isEmpty

/-- `type(value).__name__`. -/
def typeName : Json → Str
  | null => py "NoneType"
  | bool _ => py "bool"
  | int _ => py "int"
  | float _ => py "float"
  | str _ => py "str"
  | arr _ => py "list"
  | obj _ => py "dict"

/-- `value == text` for a string `text`: equal to no value of another type. -/
def isStr (value : Json) (text : Str) : Bool :=
  match value with
  | str other => other = text
  | _ => false

mutual

/-- Whether every string of the value has a UTF-8 encoding. -/
def encodable : Json → Bool
  | str text => Python.encodable text
  | arr items => encodableItems items
  | obj fields => encodableFields fields
  | _ => true

/-- `encodable` of every item. -/
def encodableItems : List Json → Bool
  | [] => true
  | item :: rest => item.encodable && encodableItems rest

/-- `encodable` of every key and value. -/
def encodableFields : List (Str × Json) → Bool
  | [] => true
  | (key, value) :: rest => Python.encodable key && value.encodable && encodableFields rest

end

/-- `value[key]` of an object, or `None`. -/
def get? (value : Json) (key : Str) : Option Json :=
  match value with
  | obj fields => fields.lookup key
  | _ => none

/-- A string field that may be missing or null. -/
def optional : Option Str → Json
  | some text => str text
  | none => null

/-- A hexadecimal digit. -/
def hexDigit (digit : ℕ) : CodePoint :=
  Fin.ofNat _ (if digit < 10 then 0x30 + digit else 0x57 + digit)

/-- One character of a string literal of `json.dumps(..., ensure_ascii=False)`. -/
def escapeChar (c : CodePoint) : Str :=
  if c = 0x22 then py "\\\""
  else if c = 0x5C then py "\\\\"
  else if c = 0x0A then py "\\n"
  else if c = 0x0D then py "\\r"
  else if c = 0x09 then py "\\t"
  else if c = 0x0C then py "\\f"
  else if c = 0x08 then py "\\b"
  else if c.val < 0x20 then py "\\u00" ++ [hexDigit (c.val / 16), hexDigit (c.val % 16)]
  else [c]

def quote (text : Str) : Str := 0x22 :: (text.flatMap escapeChar ++ [0x22])

section Dumps

variable (strFloat : ℚ → Str)

mutual

/-- `json.dumps(value, ensure_ascii=False)`. -/
def dumps : Json → Str
  | null => py "null"
  | bool true => py "true"
  | bool false => py "false"
  | int value => strInt value
  | float value => strFloat value
  | str text => quote text
  | arr items => py "[" ++ (dumpsItems items ++ py "]")
  | obj fields => py "\x7b" ++ (dumpsFields fields ++ py "\x7d")

/-- The items of a list, separated by commas. -/
def dumpsItems : List Json → Str
  | [] => []
  | item :: rest =>
      item.dumps ++ ((if rest.isEmpty then [] else py ", ") ++ dumpsItems rest)

/-- The entries of a dictionary, separated by commas. -/
def dumpsFields : List (Str × Json) → Str
  | [] => []
  | (key, value) :: rest =>
      quote key ++ (py ": " ++ (value.dumps ++
        ((if rest.isEmpty then [] else py ", ") ++ dumpsFields rest)))

end

end Dumps

theorem encodable_hexDigit {digit : ℕ} (small : digit < 16) :
    isSurrogate (hexDigit digit) = false := by
  unfold hexDigit isSurrogate
  simp only [Fin.ofNat]
  split <;> simp <;> omega

theorem encodable_escapeChar {c : CodePoint} (plain : isSurrogate c = false) :
    Python.encodable (escapeChar c) = true := by
  unfold escapeChar
  repeat' split
  case isFalse.isFalse.isFalse.isFalse.isFalse.isFalse.isFalse.isTrue =>
    have high : isSurrogate (hexDigit (c.val / 16)) = false := encodable_hexDigit (by omega)
    have low : isSurrogate (hexDigit (c.val % 16)) = false := encodable_hexDigit (by omega)
    rw [encodable_append, encodable_cons, encodable_cons, high, low]
    rfl
  case isFalse.isFalse.isFalse.isFalse.isFalse.isFalse.isFalse.isFalse =>
    rw [encodable_cons, plain]
    rfl
  all_goals decide

theorem encodable_quote {text : Str} (plain : Python.encodable text = true) :
    Python.encodable (quote text) = true := by
  have escaped : Python.encodable (text.flatMap escapeChar) = true := by
    induction text with
    | nil => rfl
    | cons c rest ih =>
        rw [encodable_cons, Bool.and_eq_true, Bool.not_eq_true'] at plain
        rw [List.flatMap_cons, encodable_append, encodable_escapeChar plain.1, ih plain.2]
        rfl
  rw [quote, encodable_cons, encodable_append, escaped]
  rfl

mutual

/-- A value without lone surrogates is written without any. -/
theorem encodable_dumps {strFloat : ℚ → Str}
    (floats : ∀ value, Python.encodable (strFloat value) = true) :
    ∀ {value : Json}, value.encodable = true → Python.encodable (value.dumps strFloat) = true
  | null, _ => rfl
  | bool true, _ => rfl
  | bool false, _ => rfl
  | int value, _ => encodable_strInt value
  | float value, _ => floats value
  | str text, plain => encodable_quote plain
  | arr items, plain => by
      have inner := encodable_dumpsItems floats plain
      rw [dumps, encodable_append, encodable_append, inner]
      rfl
  | obj fields, plain => by
      have inner := encodable_dumpsFields floats plain
      rw [dumps, encodable_append, encodable_append, inner]
      rfl

theorem encodable_dumpsItems {strFloat : ℚ → Str}
    (floats : ∀ value, Python.encodable (strFloat value) = true) :
    ∀ {items : List Json}, encodableItems items = true →
      Python.encodable (dumpsItems strFloat items) = true
  | [], _ => rfl
  | item :: rest, plain => by
      rw [encodableItems, Bool.and_eq_true] at plain
      rw [dumpsItems, encodable_append, encodable_append, encodable_dumps floats plain.1,
        encodable_dumpsItems floats plain.2]
      split <;> rfl

theorem encodable_dumpsFields {strFloat : ℚ → Str}
    (floats : ∀ value, Python.encodable (strFloat value) = true) :
    ∀ {fields : List (Str × Json)}, encodableFields fields = true →
      Python.encodable (dumpsFields strFloat fields) = true
  | [], _ => rfl
  | (key, value) :: rest, plain => by
      rw [encodableFields, Bool.and_eq_true, Bool.and_eq_true] at plain
      rw [dumpsFields, encodable_append, encodable_append, encodable_append, encodable_append,
        encodable_quote plain.1.1, encodable_dumps floats plain.1.2,
        encodable_dumpsFields floats plain.2]
      split <;> rfl

end

end Json

end Python
