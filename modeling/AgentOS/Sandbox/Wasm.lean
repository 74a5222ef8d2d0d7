import AgentOS.Python.Dict
import AgentOS.Python.Text

/-!
# Linear memory of WebAssembly

A machine runs the code of a module in a store. Memory grows with `memory.grow` only, up to the
maximum that the module declares and up to the limit of the store, if the store has one. A store
with a limit runs a module like a store without one until it first refuses memory because of it.

`run` and `instantiate` stand for the runtime `wasmtime`, of which no more is assumed than this;
what the code of a module does is up to the machine.
-/

namespace Wasm

open Python

/-- The bytes of a page. -/
def pageSize : ℕ := 0x10000

/-- The pages that 32 bits can address. -/
def maxPages : ℕ := 0x10000

/-- The bytes of some memories. -/
def bytesOf (pages : List ℕ) : ℕ := pages.sum * pageSize

/-- A memory that a module declares, in pages. -/
structure MemoryType where
  minimum : ℕ
  maximum : ℕ
  minimum_le : minimum ≤ maximum
  /-- The maximum of a declaration without one. -/
  maximum_le : maximum ≤ maxPages

/-- What a machine does next. -/
inductive Instruction (State Value : Type)
  | advance (next : State)
  /-- `memory.grow`, which answers with the old size or fails. -/
  | memoryGrow (memory delta : ℕ) (resume : Option ℕ → State)
  | finish (results : List Value)
  | trap (message : Str)

/-- How code runs. A step takes one unit of fuel; what takes none is part of the step before it. -/
structure Machine where
  State : Type
  Value : Type
  /-- What a host passes as an argument. -/
  Arg : Type
  step : State → Instruction State Value

/-- What a module exports. -/
inductive Export (machine : Machine)
  | func (enter : List machine.Arg → Except Str machine.State)
  | other

/-- A compiled module. -/
structure Module (machine : Machine) where
  imports : List Str
  memories : List MemoryType
  /-- The start function. -/
  start : Option machine.State
  exports : Dict Str (Export machine)

/-- A store: what fuel is left, and the limit on the bytes of its memories. -/
structure Store where
  fuel : ℕ
  limit : Option ℤ

/-- `Store(engine)`. -/
def Store.new : Store := ⟨0, none⟩

/-- `store.set_fuel(fuel)`. -/
def Store.setFuel (fuel : ℕ) (store : Store) : Store := { store with fuel := fuel }

/-- `store.set_limits(...)` with a limit on the memories. -/
def Store.setLimit (limit : ℤ) (store : Store) : Store := { store with limit := some limit }

/-- The limit admits memories of these sizes. It is one on all of them together, where the
`memory_size` of `set_limits` is one on each. -/
def admits (limit : Option ℤ) (pages : List ℕ) : Bool := limit.all ((bytesOf pages : ℤ) ≤ ·)

@[simp] theorem admits_some_iff {limit : ℤ} {pages : List ℕ} :
    admits (some limit) pages = true ↔ (bytesOf pages : ℤ) ≤ limit := by
  simp [admits]

@[simp] theorem admits_none (pages : List ℕ) : admits none pages = true := rfl

/-- What some code did in a store. -/
structure Run (α : Type) where
  /-- The results, or the message of a trap. -/
  result : Except Str α
  fuel : ℕ
  /-- The memories at the end. -/
  pages : List ℕ
  /-- The memories whenever there were new ones. -/
  moments : List (List ℕ)
  /-- Whether the limit of the store stood in the way. -/
  refused : Bool

namespace Run

variable {α : Type}

/-- Before the run there were these memories. -/
def holding (pages : List ℕ) (run : Run α) : Run α := { run with moments := pages :: run.moments }

/-- Before the run the store refused memory. -/
def refusing (run : Run α) : Run α := { run with refused := true }

end Run

variable {machine : Machine}

/-- The memories after a `memory.grow` that the declared maximum admits. -/
def grown (types : List MemoryType) (pages : List ℕ) (memory delta : ℕ) : Option (List ℕ) :=
  match types[memory]?, pages[memory]? with
  | some type, some size =>
      if size + delta ≤ type.maximum then some (pages.set memory (size + delta)) else none
  | _, _ => none

/-- Run code until it finishes, traps or is out of fuel. -/
def run (types : List MemoryType) (limit : Option ℤ) :
    ℕ → machine.State → List ℕ → Run (List machine.Value)
  | 0, _, pages => ⟨.error (py "wasm trap: all fuel consumed by WebAssembly"), 0, pages, [], false⟩
  | fuel + 1, state, pages =>
      match machine.step state with
      | .advance next => run types limit fuel next pages
      | .finish results => ⟨.ok results, fuel, pages, [], false⟩
      | .trap message => ⟨.error message, fuel, pages, [], false⟩
      | .memoryGrow memory delta resume =>
          match grown types pages memory delta with
          | none => run types limit fuel (resume none) pages
          | some larger =>
              if admits limit larger then
                (run types limit fuel (resume pages[memory]?) larger).holding larger
              else (run types limit fuel (resume none) pages).refusing

/-- `linker.instantiate(store, module)` for a module without imports. -/
def instantiate (store : Store) (module : Module machine) : Run (List machine.Value) :=
  let pages := module.memories.map MemoryType.minimum
  if admits store.limit pages then
    match module.start with
    | none => ⟨.ok [], store.fuel, pages, [pages], false⟩
    | some state => (run module.memories store.limit store.fuel state pages).holding pages
  else ⟨.error (py "memory minimum size exceeds memory limits"), store.fuel, [], [], true⟩

/-- What the code asks for, as far as its fuel goes and its memories grow, is within the limit. -/
def AsksWithin (types : List MemoryType) (limit : ℤ) : ℕ → machine.State → List ℕ → Prop
  | 0, _, _ => True
  | fuel + 1, state, pages =>
      match machine.step state with
      | .advance next => AsksWithin types limit fuel next pages
      | .finish _ => True
      | .trap _ => True
      | .memoryGrow memory delta resume =>
          match grown types pages memory delta with
          | none => AsksWithin types limit fuel (resume none) pages
          | some larger =>
              (bytesOf larger : ℤ) ≤ limit ∧
                AsksWithin types limit fuel (resume pages[memory]?) larger

variable {types : List MemoryType} {limit : ℤ}

/-- A store with the limit refuses nothing exactly when nothing is asked for beyond it. -/
theorem run_refused_iff (types : List MemoryType) (limit : ℤ) (fuel : ℕ) (state : machine.State)
    (pages : List ℕ) :
    (run types (some limit) fuel state pages).refused = false ↔
      AsksWithin types limit fuel state pages := by
  induction fuel generalizing state pages with
  | zero => exact ⟨fun _ => trivial, fun _ => rfl⟩
  | succ fuel ih =>
      unfold run AsksWithin
      rcases machine.step state with next | ⟨memory, delta, resume⟩ | results | message
      · exact ih next pages
      · dsimp only
        rcases grown types pages memory delta with _ | larger
        · exact ih _ _
        · dsimp only
          by_cases within : (bytesOf larger : ℤ) ≤ limit
          · rw [if_pos (admits_some_iff.mpr within), and_iff_right within]
            exact ih _ _
          · rw [if_neg (mt admits_some_iff.mp within)]
            constructor
            · intro granted
              cases granted
            · exact fun asks => absurd asks.1 within
      · exact ⟨fun _ => trivial, fun _ => rfl⟩
      · exact ⟨fun _ => trivial, fun _ => rfl⟩

/-- The same of an instantiation, which asks for the memories that are declared. -/
theorem instantiate_refused_iff (fuel : ℕ) (limit : ℤ) (module : Module machine) :
    (instantiate ⟨fuel, some limit⟩ module).refused = false ↔
      (bytesOf (module.memories.map MemoryType.minimum) : ℤ) ≤ limit ∧
        ∀ state, module.start = some state → AsksWithin module.memories limit fuel state
          (module.memories.map MemoryType.minimum) := by
  unfold instantiate
  dsimp only
  by_cases within : (bytesOf (module.memories.map MemoryType.minimum) : ℤ) ≤ limit
  · rw [if_pos (admits_some_iff.mpr within), and_iff_right within]
    rcases module.start with _ | state
    · exact ⟨fun _ _ starts => (nomatch starts), fun _ => rfl⟩
    · refine (run_refused_iff _ _ _ _ _).trans ?_
      constructor
      · rintro asks _ ⟨⟩
        exact asks
      · exact fun asks => asks state rfl
  · rw [if_neg (mt admits_some_iff.mp within)]
    constructor
    · intro granted
      cases granted
    · exact fun asks => absurd asks.1 within

/-- In a store with a limit no moment is beyond it. -/
theorem run_within (types : List MemoryType) (limit : ℤ) (fuel : ℕ) (state : machine.State)
    (pages : List ℕ) : ∀ moment ∈ (run types (some limit) fuel state pages).moments,
      (bytesOf moment : ℤ) ≤ limit := by
  induction fuel generalizing state pages with
  | zero => simp [run]
  | succ fuel ih =>
      unfold run
      rcases machine.step state with next | ⟨memory, delta, resume⟩ | results | message
      · exact ih next pages
      · dsimp only
        rcases grown types pages memory delta with _ | larger
        · exact ih _ _
        · dsimp only
          split
          · rename_i within
            intro moment mem
            rcases List.mem_cons.mp mem with rfl | mem
            · exact admits_some_iff.mp within
            · exact ih _ _ moment mem
          · exact ih _ _
      · simp
      · simp

/-- What the limit makes of a run: nothing, or else the run goes beyond it without the limit. -/
theorem run_limited (types : List MemoryType) (limit : ℤ) (fuel : ℕ) (state : machine.State)
    (pages : List ℕ) :
    ((run types (some limit) fuel state pages).refused = false ∧
      run types (some limit) fuel state pages = run types none fuel state pages) ∨
    ((run types (some limit) fuel state pages).refused = true ∧
      ∃ moment ∈ (run types none fuel state pages).moments, limit < (bytesOf moment : ℤ)) := by
  induction fuel generalizing state pages with
  | zero => exact .inl ⟨rfl, rfl⟩
  | succ fuel ih =>
      unfold run
      rcases machine.step state with next | ⟨memory, delta, resume⟩ | results | message
      · exact ih next pages
      · dsimp only
        rcases grown types pages memory delta with _ | larger
        · exact ih _ _
        · dsimp only
          rw [if_pos (admits_none larger)]
          by_cases within : (bytesOf larger : ℤ) ≤ limit
          · rw [if_pos (admits_some_iff.mpr within)]
            rcases ih (resume pages[memory]?) larger with
              ⟨granted, same⟩ | ⟨refused, moment, mem, above⟩
            · exact .inl ⟨granted, by rw [same]⟩
            · exact .inr ⟨refused, moment, List.mem_cons_of_mem _ mem, above⟩
          · rw [if_neg (mt admits_some_iff.mp within)]
            exact .inr ⟨rfl, larger, List.mem_cons_self, not_le.mp within⟩
      · exact .inl ⟨rfl, rfl⟩
      · exact .inl ⟨rfl, rfl⟩

/-- Without the limit a run stays within it exactly when the limit would refuse nothing. -/
theorem run_within_iff (types : List MemoryType) (limit : ℤ) (fuel : ℕ) (state : machine.State)
    (pages : List ℕ) :
    (∀ moment ∈ (run types none fuel state pages).moments, (bytesOf moment : ℤ) ≤ limit) ↔
      (run types (some limit) fuel state pages).refused = false := by
  have within := run_within types limit fuel state pages
  rcases run_limited types limit fuel state pages with
    ⟨granted, same⟩ | ⟨refused, moment, mem, above⟩
  · rw [same] at within
    exact ⟨fun _ => granted, fun _ => within⟩
  · constructor
    · intro bounded
      exact absurd (bounded moment mem) (not_le.mpr above)
    · intro granted
      rw [refused] at granted
      cases granted

/-- What the limit makes of an instantiation. -/
theorem instantiate_limited (fuel : ℕ) (limit : ℤ) (module : Module machine) :
    ((instantiate ⟨fuel, some limit⟩ module).refused = false ∧
      instantiate ⟨fuel, some limit⟩ module = instantiate ⟨fuel, none⟩ module ∧
      ∀ moment ∈ (instantiate ⟨fuel, none⟩ module).moments, (bytesOf moment : ℤ) ≤ limit) ∨
    ((instantiate ⟨fuel, some limit⟩ module).refused = true ∧
      ∃ moment ∈ (instantiate ⟨fuel, none⟩ module).moments, limit < (bytesOf moment : ℤ)) := by
  let pages := module.memories.map MemoryType.minimum
  unfold instantiate
  dsimp only
  rw [if_pos (admits_none pages)]
  by_cases within : (bytesOf pages : ℤ) ≤ limit
  · rw [if_pos (admits_some_iff.mpr within)]
    rcases module.start with _ | state
    · exact .inl ⟨rfl, rfl, by simpa using within⟩
    · dsimp only
      have start := run_within_iff module.memories limit fuel state pages
      rcases run_limited module.memories limit fuel state pages with
        ⟨granted, same⟩ | ⟨refused, moment, mem, above⟩
      · refine .inl ⟨granted, by rw [same], fun moment mem => ?_⟩
        rcases List.mem_cons.mp mem with rfl | mem
        · exact within
        · exact start.mpr granted moment mem
      · exact .inr ⟨refused, moment, List.mem_cons_of_mem _ mem, above⟩
  · rw [if_neg (mt admits_some_iff.mp within)]
    refine .inr ⟨rfl, pages, ?_, not_le.mp within⟩
    rcases module.start with _ | state <;> exact List.mem_cons_self

end Wasm
