import AgentOS.Python.Text
import Mathlib.Data.Nat.Digits.Defs
import Mathlib.Data.Nat.Digits.Lemmas

/-!
# Integers as Python strings

`str(n)` writes the canonical decimal numeral. `int(text)` reads more than it writes:
white space around the numeral, a sign, single underscores between digits and the
decimal digits of every script are accepted, so that many texts denote one integer.
-/

namespace Python

/-- The zeros of the 66 runs of ten decimal digits in Unicode 14. -/
def decimalZeros : List ℕ :=
  [48, 1632, 1776, 1984, 2406, 2534, 2662, 2790, 2918, 3046, 3174, 3302, 3430, 3558, 3664, 3792,
   3872, 4160, 4240, 6112, 6160, 6470, 6608, 6784, 6800, 6992, 7088, 7232, 7248, 42528, 43216,
   43264, 43472, 43504, 43600, 44016, 65296, 66720, 68912, 69734, 69872, 69942, 70096, 70384,
   70736, 70864, 71248, 71360, 71472, 71904, 72016, 72784, 73040, 73120, 92768, 92864, 93008,
   120782, 120792, 120802, 120812, 120822, 123200, 123632, 125264, 130032]

/-- `unicodedata.decimal`. -/
def decimalDigit (c : CodePoint) : Option ℕ :=
  (decimalZeros.find? fun first => first ≤ c.val && c.val < first + 10).map (c.val - ·)

/-- White space around a numeral; the ASCII separators 28 to 31 do not count. -/
def isNumeralSpace (c : CodePoint) : Bool :=
  (9 ≤ c.val && c.val ≤ 13) || c.val == 32 || (0x80 ≤ c.val && isSpace c)

/-- Digits with single underscores between them; the flag says that a digit came last. -/
def readDigits : Bool → Str → Option (List ℕ)
  | true, [] => some []
  | false, [] => none
  | afterDigit, c :: rest =>
      match decimalDigit c with
      | some digit => (readDigits true rest).map (digit :: ·)
      | none => if c = 95 ∧ afterDigit then readDigits false rest else none

/-- An unsigned numeral of at most 4300 digits, the interpreter's limit. -/
def readNat (text : Str) : Option ℕ :=
  match readDigits false text with
  | some digits => if digits.length ≤ 4300 then some (Nat.ofDigits 10 digits.reverse) else none
  | none => none

/-- `int(text)`; `none` is a `ValueError`. -/
def int (text : Str) : Option ℤ :=
  match (text.dropWhile isNumeralSpace).rdropWhile isNumeralSpace with
  | c :: rest =>
      if c = 43 then (readNat rest).map Int.ofNat
      else if c = 45 then (readNat rest).map fun n => -(n : ℤ)
      else (readNat (c :: rest)).map Int.ofNat
  | [] => none

/-- The decimal digits of a natural number, least significant first; zero has one digit. -/
def decimalDigits (n : ℕ) : List ℕ :=
  if n = 0 then [0] else Nat.digits 10 n

/-- The numeral of a natural number. -/
def strNat (n : ℕ) : Str :=
  (decimalDigits n).reverse.map fun digit => Fin.ofNat _ (48 + digit)

/-- `str(n)` of an integer. -/
def strInt (n : ℤ) : Str :=
  if n < 0 then 45 :: strNat n.natAbs else strNat n.natAbs

theorem decimalDigits_lt {n digit : ℕ} (mem : digit ∈ decimalDigits n) : digit < 10 := by
  unfold decimalDigits at mem
  split at mem
  · simp_all
  · exact Nat.digits_lt_base (by norm_num) mem

/-- The value read back from a numeral of ASCII digits. -/
theorem ofDigits_strNat (n : ℕ) :
    Nat.ofDigits 10 ((strNat n).map (fun c => c.val - 48)).reverse = n := by
  have digits : ((strNat n).map (fun c => c.val - 48)).reverse = decimalDigits n := by
    rw [strNat, List.map_map, List.map_reverse, List.reverse_reverse]
    conv_rhs => rw [← List.map_id (decimalDigits n)]
    apply List.map_congr_left
    intro digit mem
    have small := decimalDigits_lt mem
    simp only [Function.comp_apply, Fin.ofNat, id_eq]
    omega
  rw [digits]
  unfold decimalDigits
  split
  · simp_all
  · exact Nat.ofDigits_digits 10 n

theorem strNat_injective : Function.Injective strNat := by
  intro left right same
  rw [← ofDigits_strNat left, ← ofDigits_strNat right, same]

theorem digit_of_mem_strNat {n : ℕ} {c : CodePoint} (mem : c ∈ strNat n) :
    48 ≤ c.val ∧ c.val ≤ 57 := by
  simp only [strNat, List.mem_map, List.mem_reverse] at mem
  obtain ⟨digit, digitMem, rfl⟩ := mem
  have small := decimalDigits_lt digitMem
  simp only [Fin.ofNat]
  omega

/-- A numeral is never the sign of another one. -/
theorem minus_not_mem_strNat (n : ℕ) : (45 : CodePoint) ∉ strNat n := by
  intro mem
  exact absurd (digit_of_mem_strNat mem).1 (by decide)

/-- Different integers have different numerals. -/
theorem strInt_injective : Function.Injective strInt := by
  intro left right same
  unfold strInt at same
  split at same <;> split at same
  · have := strNat_injective (List.cons.inj same).2
    omega
  · exact absurd (same ▸ List.mem_cons_self) (minus_not_mem_strNat _)
  · exact absurd (same.symm ▸ List.mem_cons_self) (minus_not_mem_strNat _)
  · have := strNat_injective same
    omega

/-- A numeral contains no colon. -/
theorem colon_not_mem_strInt (n : ℤ) : (58 : CodePoint) ∉ strInt n := by
  have digits : (58 : CodePoint) ∉ strNat n.natAbs := by
    intro mem
    exact absurd (digit_of_mem_strNat mem).2 (by decide)
  unfold strInt
  split
  · simp [digits]
  · exact digits

theorem encodable_strInt (n : ℤ) : encodable (strInt n) = true := by
  have digits : encodable (strNat n.natAbs) = true := by
    apply encodable_of_ascii
    intro c mem
    have digit := digit_of_mem_strNat mem
    omega
  unfold strInt
  split
  · rw [encodable_cons, digits]
    rfl
  · exact digits

theorem decimalDigit_ascii {c : CodePoint} (low : 48 ≤ c.val) (high : c.val ≤ 57) :
    decimalDigit c = some (c.val - 48) := by
  have below : c.val < 48 + 10 := by omega
  simp [decimalDigit, decimalZeros, low, below]

/-- ASCII digits are read one by one. -/
theorem readDigits_ascii {text : Str} (digits : ∀ c ∈ text, 48 ≤ c.val ∧ c.val ≤ 57) :
    readDigits true text = some (text.map fun c => c.val - 48) := by
  induction text with
  | nil => rfl
  | cons c rest ih =>
      have first := digits c List.mem_cons_self
      have others := ih fun c mem => digits c (List.mem_cons_of_mem _ mem)
      simp [readDigits, decimalDigit_ascii first.1 first.2, others]

theorem decimalDigits_ne_nil (n : ℕ) : decimalDigits n ≠ [] := by
  unfold decimalDigits
  split
  · simp
  · exact Nat.digits_ne_nil_iff_ne_zero.mpr (by assumption)

theorem strNat_ne_nil (n : ℕ) : strNat n ≠ [] := by
  simp [strNat, decimalDigits_ne_nil]

theorem length_strNat_le {n count : ℕ} (positive : 0 < count) (small : n < 10 ^ count) :
    (strNat n).length ≤ count := by
  rw [strNat, List.length_map, List.length_reverse, decimalDigits]
  split
  · exact positive
  · exact (Nat.digits_length_le_iff (by norm_num) n).mpr small

theorem readNat_strNat {n count : ℕ} (positive : 0 < count) (short : count ≤ 4300)
    (small : n < 10 ^ count) : readNat (strNat n) = some n := by
  have digits : ∀ c ∈ strNat n, 48 ≤ c.val ∧ c.val ≤ 57 := fun c mem => digit_of_mem_strNat mem
  have fits := (length_strNat_le positive small).trans short
  have read : readDigits false (strNat n) = some ((strNat n).map fun c => c.val - 48) := by
    rcases shape : strNat n with _ | ⟨c, rest⟩
    · exact absurd shape (strNat_ne_nil n)
    · rw [shape] at digits
      have first := digits c List.mem_cons_self
      have others := readDigits_ascii fun c mem => digits c (List.mem_cons_of_mem _ mem)
      simp [readDigits, decimalDigit_ascii first.1 first.2, others]
  simp only [readNat, read, List.length_map, fits, if_true, ofDigits_strNat]

/-- Reading gives back every integer that is written with at most 4300 digits. -/
theorem int_strInt {n : ℤ} {count : ℕ} (positive : 0 < count) (short : count ≤ 4300)
    (small : n.natAbs < 10 ^ count) : int (strInt n) = some n := by
  have spaceless : ∀ c ∈ strInt n, isNumeralSpace c = false := by
    intro c mem
    have printed : c = 45 ∨ 48 ≤ c.val ∧ c.val ≤ 57 := by
      unfold strInt at mem
      split at mem
      · exact (List.mem_cons.mp mem).imp_right digit_of_mem_strNat
      · exact .inr (digit_of_mem_strNat mem)
    rcases printed with rfl | digit
    · decide
    · simp [isNumeralSpace]
      omega
  have trimmed : ((strInt n).dropWhile isNumeralSpace).rdropWhile isNumeralSpace = strInt n := by
    have front : (strInt n).dropWhile isNumeralSpace = strInt n := by
      rw [List.dropWhile_eq_self_iff]
      intro nonempty
      simp [spaceless _ (List.getElem_mem nonempty)]
    rw [front, List.rdropWhile_eq_self_iff]
    intro nonempty
    simp [spaceless _ (List.getLast_mem nonempty)]
  have read := readNat_strNat positive short small
  unfold int
  rw [trimmed]
  by_cases negative : n < 0
  · simp [strInt, negative, read, abs_of_neg negative]
  · have shape : strInt n = strNat n.natAbs := if_neg negative
    rw [shape]
    rcases digits : strNat n.natAbs with _ | ⟨c, rest⟩
    · exact absurd digits (strNat_ne_nil _)
    · have first := digit_of_mem_strNat (n := n.natAbs) (c := c) (by simp [digits])
      have noPlus : c ≠ 43 := by
        rintro rfl
        exact absurd first.1 (by decide)
      have noMinus : c ≠ 45 := by
        rintro rfl
        exact absurd first.1 (by decide)
      rw [digits] at read
      simp [noPlus, noMinus, read, abs_of_nonneg (not_lt.mp negative)]

example : int (py " +1_000 ") = some 1000 := by decide

example : int (py "1__0") = none := by decide

end Python
