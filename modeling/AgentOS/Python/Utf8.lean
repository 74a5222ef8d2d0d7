import AgentOS.Python.Casing

/-!
# Decoding UTF-8

`bytes.decode("utf-8", errors="replace")`. A sequence that is broken off is replaced as a whole,
and the decoder resumes at the byte that broke it off. So text of ASCII characters comes through
wherever it stands.
-/

namespace Python

/-- A byte of a `bytes` object. -/
abbrev Byte := Fin 256

/-- The code point of the same number. -/
def ofByte (b : Byte) : CodePoint := ⟨b.val, b.isLt.trans (by decide)⟩

/-- The replacement character. -/
def replacement : CodePoint := 0xFFFD

/-- Where the decoder stands between two bytes. -/
inductive Utf8State
  /-- Between two characters. -/
  | start
  /-- In a character of which more continuation bytes follow after the next one. -/
  | owes (value more low high : ℕ) (continuation : 0x80 ≤ low)

namespace Utf8State

/-- The first byte of a character. -/
def lead (b : Byte) : Str × Utf8State :=
  if b.val < 0x80 then ([ofByte b], start)
  else if 0xC2 ≤ b.val ∧ b.val ≤ 0xDF then ([], owes (b.val % 0x20) 0 0x80 0xBF (by decide))
  else if b.val = 0xE0 then ([], owes 0 1 0xA0 0xBF (by decide))
  else if b.val = 0xED then ([], owes 0xD 1 0x80 0x9F (by decide))
  else if 0xE1 ≤ b.val ∧ b.val ≤ 0xEF then ([], owes (b.val % 0x10) 1 0x80 0xBF (by decide))
  else if b.val = 0xF0 then ([], owes 0 2 0x90 0xBF (by decide))
  else if b.val = 0xF4 then ([], owes 4 2 0x80 0x8F (by decide))
  else if 0xF1 ≤ b.val ∧ b.val ≤ 0xF3 then ([], owes (b.val % 8) 2 0x80 0xBF (by decide))
  else ([replacement], start)

/-- What stands for a character that is broken off. -/
def flush : Utf8State → Str
  | start => []
  | owes .. => [replacement]

/-- One byte. -/
def step : Utf8State → Byte → Str × Utf8State
  | start, b => lead b
  | owes value more low high _, b =>
      if low ≤ b.val ∧ b.val ≤ high then
        match more with
        | 0 => ([Fin.ofNat _ (value * 0x40 + b.val % 0x40)], start)
        | more + 1 => ([], owes (value * 0x40 + b.val % 0x40) more 0x80 0xBF (by decide))
      else (replacement :: (lead b).1, (lead b).2)

/-- The text decoded from a state on. -/
def decode (state : Utf8State) : List Byte → Str
  | [] => state.flush
  | b :: rest => (state.step b).1 ++ (state.step b).2.decode rest

/-- The text of the bytes that have been decoded, and the state after them. -/
def feed (state : Utf8State) : List Byte → Str × Utf8State
  | [] => ([], state)
  | b :: rest =>
      ((state.step b).1 ++ ((state.step b).2.feed rest).1, ((state.step b).2.feed rest).2)

end Utf8State

/-- `bytes.decode("utf-8", errors="replace")`. -/
def decodeReplace (bytes : List Byte) : Str := Utf8State.start.decode bytes

namespace Utf8State

theorem decode_append (state : Utf8State) (bytes rest : List Byte) :
    state.decode (bytes ++ rest) = (state.feed bytes).1 ++ (state.feed bytes).2.decode rest := by
  induction bytes generalizing state with
  | nil => rfl
  | cons b bytes ih => simp [decode, feed, ih]

/-- No state takes an ASCII character for a continuation byte. -/
theorem step_ascii (state : Utf8State) {b : Byte} (ascii : b.val < 0x80) :
    state.step b = (state.flush ++ [ofByte b], start) := by
  rcases state with _ | ⟨value, more, low, high, continuation⟩
  · simp [step, lead, flush, ascii]
  · have other : ¬ (low ≤ b.val ∧ b.val ≤ high) := by omega
    simp [step, lead, flush, ascii, other]

/-- An ASCII text is decoded as it stands, behind whatever was broken off before it. -/
theorem decode_ascii (state : Utf8State) {text : List Byte} (ascii : ∀ b ∈ text, b.val < 0x80)
    (nonempty : text ≠ []) (rest : List Byte) :
    state.decode (text ++ rest) =
      state.flush ++ text.map ofByte ++ start.decode rest := by
  induction text generalizing state with
  | nil => exact absurd rfl nonempty
  | cons b text ih =>
      have here := step_ascii state (ascii b List.mem_cons_self)
      rw [List.cons_append, decode, here]
      rcases text with _ | ⟨next, text⟩
      · simp
      · have later := ih start (fun c mem => ascii c (List.mem_cons_of_mem _ mem)) (by simp)
        rw [later]
        simp [flush]

end Utf8State

/-- ASCII text between any bytes is found in the decoded text. -/
theorem decodeReplace_ascii {text : List Byte} (ascii : ∀ b ∈ text, b.val < 0x80)
    (nonempty : text ≠ []) (before rest : List Byte) :
    text.map ofByte <:+: decodeReplace (before ++ text ++ rest) := by
  rw [decodeReplace, List.append_assoc, Utf8State.decode_append,
    Utf8State.decode_ascii _ ascii nonempty, ← List.append_assoc, ← List.append_assoc]
  exact ⟨_, _, rfl⟩

example : decodeReplace [0x61, 0xE2, 0x82, 0x62, 0xE2, 0x82, 0xAC] = py "a\uFFFDb€" := by decide

/-! ### ASCII letters -/

/-- An ASCII capital as its small letter; every other character as it is. -/
def asciiLower (c : ℕ) : ℕ := if 0x41 ≤ c ∧ c ≤ 0x5A then c + 0x20 else c

theorem lower_ascii {text : Str} (ascii : ∀ c ∈ text, c.val < 0x80) :
    lower text = text.map fun c => Fin.ofNat _ (asciiLower c.val) := by
  induction text with
  | nil => rfl
  | cons c text ih =>
      have small := ascii c List.mem_cons_self
      have here : lowerChar c = [Fin.ofNat _ (asciiLower c.val)] := by
        unfold lowerChar asciiLower
        rw [if_pos small]
        split <;> simp
      have rest := ih fun d mem => ascii d (List.mem_cons_of_mem _ mem)
      rw [lower] at rest ⊢
      rw [List.flatMap_cons, here, rest]
      rfl

theorem lower_infix {part text : Str} (within : part <:+: text) : lower part <:+: lower text := by
  rcases within with ⟨before, after, rfl⟩
  rw [lower_append, lower_append]
  exact ⟨_, _, rfl⟩

end Python
