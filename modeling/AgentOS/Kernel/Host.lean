import AgentOS.Cooperative.Coroutine
import AgentOS.Kernel.Exceptions
import AgentOS.Python.Json
import Mathlib.Algebra.Order.Floor.Ring
import Mathlib.Data.Rat.Floor

/-!
# The host

What the runtime takes from the interpreter and the machine: clocks, cryptographic
digests and the texts of built-in values and exceptions. A clock is the sequence of its
readings; the tick of a state counts the readings and the outcomes of external calls so
far, so that nothing is assumed about the time that passes between two of them. Floating
point time is an exact rational.
-/

namespace AgentOS

open Python Cooperative

/-- The digits of `hexdigest()`. -/
def isHexDigit (c : CodePoint) : Bool :=
  (0x30 ≤ c.val && c.val ≤ 0x39) || (0x61 ≤ c.val && c.val ≤ 0x66)

/-- A digest in the form of `hexdigest()`. -/
structure HexDigest where
  text : Str
  hex : text.all isHexDigit = true

/-- The clocks, digests and renderings of the host. -/
structure Host where
  monotonic : ℕ → ℚ
  time : ℕ → ℚ
  /-- The monotonic clock counts from the boot of the machine and never goes back. -/
  monotonic_nonneg : ∀ tick, 0 ≤ monotonic tick
  monotonic_mono : Monotone monotonic
  /-- It counts nanoseconds in 64 bits. -/
  monotonic_lt : ∀ tick, monotonic tick < 2 ^ 34
  sha256 : Str → HexDigest
  hmacSha256 : Str → Str → HexDigest
  /-- `repr(text)`. -/
  repr : Str → Str
  /-- `str(value)` of a float, which is ASCII. -/
  strFloat : ℚ → Str
  strFloat_encodable : ∀ value, encodable (strFloat value) = true
  /-- A float with a fixed number of decimals. -/
  fixed : ℕ → ℚ → Str
  /-- The text of the `UnicodeEncodeError` for a text. -/
  encodeError : Str → Str
  /-- The text of the `ValueError` of `int` for a text. -/
  intError : Str → Str
  /-- `str(value)`. -/
  strValue : Json → Str
  /-- `template.format_map(data)`. -/
  formatMap : Str → Dict Str Json → Except Exc Str
  /-- `print(text)` may fail with the stream. -/
  print : Str → ℕ → Except Exc Unit
  /-- `str(uuid.uuid4())`. -/
  uuid4 : ℕ → Str
  /-- `datetime.fromtimestamp(time, utc).isoformat()`, which is ASCII. -/
  isoFormat : ℚ → Str
  isoFormat_encodable : ∀ time, encodable (isoFormat time) = true
  /-- The text that SQLite makes of a REAL in a TEXT column. -/
  sqliteReal : ℚ → Str

/-- A state together with the number of readings and outcomes taken so far. -/
structure Timed (σ : Type) where
  tick : ℕ
  state : σ

namespace Timed

variable {σ τ α : Type}

/-- The part of a larger state. -/
def part (get : τ → σ) (whole : Timed τ) : Timed σ := ⟨whole.tick, get whole.state⟩

/-- Replaces the part of a larger state. -/
def setPart (put : σ → τ → τ) (inner : Timed σ) (whole : Timed τ) : Timed τ :=
  ⟨inner.tick, put inner.state whole.state⟩

/-- The next outcome of an external source. -/
def draw (source : ℕ → α) : Action Exc (Timed σ) α := fun world =>
  (.ok (source world.tick), { world with tick := world.tick + 1 })

/-- The next outcome of an external source that may raise. -/
def outcome (source : ℕ → Except Exc α) : Action Exc (Timed σ) α := fun world =>
  (source world.tick, { world with tick := world.tick + 1 })

/-- Reads the state. -/
def view (read : σ → α) : Action Exc (Timed σ) α := Action.read fun world => read world.state

/-- Changes the state. -/
def modify (change : σ → σ) : Action Exc (Timed σ) Unit :=
  Action.update fun world => { world with state := change world.state }

@[simp]
theorem draw_apply (source : ℕ → α) (world : Timed σ) :
    draw source world = (.ok (source world.tick), { world with tick := world.tick + 1 }) := rfl

/-- An awaited operation of an external source, and what follows it. -/
theorem run_outcome_bind {β : Type} (source : ℕ → Except Exc α) (rest : α → Coro Exc (Timed σ) β)
    (world : Timed σ) :
    (Coro.sync (outcome source) >>= rest).run world =
      match source world.tick with
      | .ok value => (rest value).run ⟨world.tick + 1, world.state⟩
      | .error exc => (.error exc, ⟨world.tick + 1, world.state⟩) := by
  rw [Coro.run_bind, Coro.run_sync, outcome]
  rcases source world.tick with exc | value <;> rfl

@[simp]
theorem view_apply (read : σ → α) (world : Timed σ) :
    view read world = (.ok (read world.state), world) := rfl

@[simp]
theorem modify_apply (change : σ → σ) (world : Timed σ) :
    modify change world = (.ok (), { world with state := change world.state }) := rfl

theorem keeps_draw {κ : Type} {view : σ → κ} (source : ℕ → α) :
    (draw source).Keeps fun world : Timed σ => view world.state :=
  fun _ => rfl

theorem keeps_view {κ : Type} {view : σ → κ} (read : σ → α) :
    (Timed.view read).Keeps fun world : Timed σ => view world.state :=
  fun _ => rfl

theorem keeps_modify {κ : Type} {view : σ → κ} {change : σ → σ}
    (stable : ∀ state, view (change state) = view state) :
    (modify change).Keeps fun world : Timed σ => view world.state :=
  fun world => stable world.state

end Timed

namespace Host

variable (host : Host) {σ : Type}

/-- `time.monotonic()`. -/
def readMonotonic : Action Exc (Timed σ) ℚ := Timed.draw host.monotonic

/-- `time.time()`. -/
def readTime : Action Exc (Timed σ) ℚ := Timed.draw host.time

/-- `text.encode("utf-8")`, of which only success matters: a text stands for its bytes. -/
def encode (text : Str) : Except Exc Str :=
  if encodable text then .ok text
  else .error (.builtin "UnicodeEncodeError" (host.encodeError text))

/-- `int(text)`, or the `ValueError` it raises. -/
def parseInt (text : Str) : Except Exc ℤ :=
  match int text with
  | some value => .ok value
  | none => .error (.builtin "ValueError" (host.intError text))

/-- `str` of a list of strings. -/
def reprList (items : List Str) : Str := py "[" ++ join (py ", ") (items.map host.repr) ++ py "]"

end Host

/-- `int(value)` of a float rounds towards zero. -/
def truncate (value : ℚ) : ℤ := if 0 ≤ value then ⌊value⌋ else ⌈value⌉

/-- A result that raises when it is an exception. -/
def ofExcept {σ α : Type} : Except Exc α → Action Exc σ α
  | .ok value => pure value
  | .error exc => throw exc

/-- `if refused: raise exc`. -/
def raiseIf {σ : Type} (refused : Prop) [Decidable refused] (exc : Exc) : Action Exc σ Unit :=
  if refused then throw exc else pure ()

theorem raiseIf_apply {σ : Type} (refused : Prop) [Decidable refused] (exc : Exc) (state : σ) :
    raiseIf refused exc state = (if refused then .error exc else .ok (), state) := by
  unfold raiseIf
  split <;> rfl

@[simp]
theorem ofExcept_apply {σ α : Type} (result : Except Exc α) (state : σ) :
    ofExcept result state = (result, state) := by
  cases result <;> rfl

theorem raiseIf_eq_ok_iff {σ : Type} {refused : Prop} [Decidable refused] {exc : Exc}
    {state final : σ} {value : Unit} :
    raiseIf refused exc state = (.ok value, final) ↔ ¬ refused ∧ final = state := by
  rw [raiseIf_apply]
  split <;> simp_all [eq_comm]

theorem keeps_ofExcept {σ α κ : Type} {view : σ → κ} (result : Except Exc α) :
    (ofExcept result : Action Exc σ α).Keeps view := by
  intro state
  rw [ofExcept_apply]

theorem keeps_raiseIf {σ κ : Type} {view : σ → κ} (refused : Prop) [Decidable refused]
    (exc : Exc) : (raiseIf refused exc : Action Exc σ Unit).Keeps view := by
  intro state
  rw [raiseIf_apply]

namespace Host

variable {host : Host} {σ : Type}

@[simp]
theorem readMonotonic_apply (world : Timed σ) :
    host.readMonotonic world =
      (.ok (host.monotonic world.tick), { world with tick := world.tick + 1 }) := rfl

@[simp]
theorem readTime_apply (world : Timed σ) :
    host.readTime world = (.ok (host.time world.tick), { world with tick := world.tick + 1 }) :=
  rfl

theorem encode_eq_ok_iff {text bytes : Str} :
    host.encode text = .ok bytes ↔ encodable text = true ∧ bytes = text := by
  unfold Host.encode
  split <;> rename_i encodes
  · simp [encodes, eq_comm]
  · simp [encodes]

theorem parseInt_eq_ok_iff {text : Str} {value : ℤ} :
    host.parseInt text = .ok value ↔ int text = some value := by
  unfold Host.parseInt
  rcases int text with _ | parsed <;> simp

end Host

/-- A block during which the clock gives the readings. -/
def Timed.during (host : Host) (readings : ℕ → ℚ) {σ α : Type}
    (body : Host → Action Exc (Timed σ) α) : Action Exc σ α := fun state =>
  let outcome := body { host with time := readings } ⟨0, state⟩
  (outcome.1, outcome.2.state)

theorem HexDigest.ascii (digest : HexDigest) {c : CodePoint} (mem : c ∈ digest.text) :
    c.val < 0x80 := by
  have digit := List.all_eq_true.mp digest.hex c mem
  simp only [isHexDigit, Bool.or_eq_true, Bool.and_eq_true, decide_eq_true_eq] at digit
  omega

theorem HexDigest.encodable (digest : HexDigest) : encodable digest.text = true :=
  encodable_of_ascii fun _ mem => digest.ascii mem

theorem HexDigest.colon_not_mem (digest : HexDigest) : (58 : CodePoint) ∉ digest.text := by
  intro mem
  have digit := List.all_eq_true.mp digest.hex _ mem
  revert digit
  decide

end AgentOS
