import AgentOS.Kernel.Host

/-!
# Neo4j client

The batch write of `Neo4jClient` over the official driver. Every operation of the driver
is awaited, so that other tasks run between any two of them. The driver is third-party
code: whether an operation succeeds and what the counters of a statement report are
outcomes of the driver. A transaction takes effect when its commit succeeds and at no
other moment.
-/

namespace AgentOS

open Python Cooperative

/-- `summary.counters` of a consumed result. -/
structure Counters where
  nodesCreated : ℕ
  relationshipsCreated : ℕ

/-- The outcomes of the operations of the driver. -/
structure Neo4jDriver where
  beginTransaction : ℕ → Except Exc Unit
  run : Str → ℕ → Except Exc Unit
  consume : Str → ℕ → Except Exc Counters
  commit : ℕ → Except Exc Unit
  /-- `tx.closed()` after a failure. -/
  closed : ℕ → Bool
  rollback : ℕ → Except Exc Unit

/-- The committed transactions, oldest first, each with its statements in order. -/
abbrev Database := List (List Str)

namespace Neo4jDriver

variable (driver : Neo4jDriver) {σ : Type}

/-- The loop of `execute_write_batch` over the remaining statements. -/
def runStatements : List Str → ℕ → Coro Exc (Timed σ) ℕ
  | [], totalWritten => pure totalWritten
  | cypher :: rest, totalWritten =>
      if strip cypher = [] then runStatements rest totalWritten
      else do
        Coro.sync (Timed.outcome (driver.run cypher))
        let counters ← Coro.sync (Timed.outcome (driver.consume cypher))
        runStatements rest (totalWritten + counters.nodesCreated + counters.relationshipsCreated)

/-- The statements that `execute_write_batch` runs. -/
def runnable (statements : List Str) : List Str := statements.filter fun cypher => strip cypher ≠ []

/-- `await tx.commit()` of a transaction that holds the statements. -/
def commitStatements (record : List Str → σ → σ) (statements : List Str) :
    Coro Exc (Timed σ) Unit :=
  Coro.sync do
    Timed.outcome driver.commit
    Timed.modify (record statements)

/-- The `finally` of `transaction()` on the way of an exception. -/
def rollbackOpen (exc : Exc) : Coro Exc (Timed σ) ℕ := do
  let closed ← Coro.sync (Timed.draw driver.closed)
  if closed then throw exc
  else do
    Coro.sync (Timed.outcome driver.rollback)
    throw exc

/-- `execute_write_batch`; `record` adds a committed transaction to the database. -/
def executeWriteBatch (record : List Str → σ → σ) (statements : List Str) :
    Coro Exc (Timed σ) ℕ := do
  Coro.sync (Timed.outcome driver.beginTransaction)
  tryCatch
    (do
      let totalWritten ← driver.runStatements statements 0
      driver.commitStatements record (runnable statements)
      pure totalWritten)
    driver.rollbackOpen

/-- Every statement is run and consumed, from the tick on. -/
def runsAll : List Str → ℕ → Bool
  | [], _ => true
  | cypher :: rest, tick =>
      (driver.run cypher tick).isOk && (driver.consume cypher (tick + 1)).isOk &&
        runsAll rest (tick + 2)

/-- Every operation of the batch write succeeds, from the tick on. -/
def commits (statements : List Str) (tick : ℕ) : Bool :=
  (driver.beginTransaction tick).isOk && driver.runsAll (runnable statements) (tick + 1) &&
    (driver.commit (tick + 1 + 2 * (runnable statements).length)).isOk

/-- The nodes and relationships that the statements report, run and consumed from the tick on. -/
def created : List Str → ℕ → ℕ
  | [], _ => 0
  | cypher :: rest, tick =>
      (match driver.consume cypher (tick + 1) with
        | .ok counters => counters.nodesCreated + counters.relationshipsCreated
        | .error _ => 0) + created rest (tick + 2)

theorem runStatements_cases (statements : List Str) (totalWritten : ℕ) (world : Timed σ) :
    (driver.runsAll (runnable statements) world.tick = true ∧ ∃ written,
      (driver.runStatements statements totalWritten).run world =
        (.ok written, ⟨world.tick + 2 * (runnable statements).length, world.state⟩)) ∨
    (driver.runsAll (runnable statements) world.tick = false ∧ ∃ exc tick,
      (driver.runStatements statements totalWritten).run world =
        (.error exc, ⟨tick, world.state⟩)) := by
  induction statements generalizing totalWritten world with
  | nil => exact .inl ⟨rfl, totalWritten, rfl⟩
  | cons cypher rest ih =>
      by_cases blank : strip cypher = []
      · have same : runnable (cypher :: rest) = runnable rest := by simp [runnable, blank]
        rw [runStatements, if_pos blank, same]
        exact ih totalWritten world
      · have kept : runnable (cypher :: rest) = cypher :: runnable rest := by
          simp [runnable, blank]
        rw [runStatements, if_neg blank, kept]
        rw [Timed.run_outcome_bind]
        rcases ran : driver.run cypher world.tick with exc | ⟨⟩
        · exact .inr ⟨by simp [runsAll, ran, Except.isOk, Except.toBool], exc, _, rfl⟩
        dsimp only
        rw [Timed.run_outcome_bind]
        rcases consumed : driver.consume cypher (world.tick + 1) with exc | counters
        · exact .inr ⟨by simp [runsAll, consumed, Except.isOk, Except.toBool], exc, _, rfl⟩
        have more : driver.runsAll (cypher :: runnable rest) world.tick =
            driver.runsAll (runnable rest) (world.tick + 2) := by
          simp [runsAll, ran, consumed, Except.isOk, Except.toBool]
        have later : world.tick + 2 * (cypher :: runnable rest).length =
            world.tick + 2 + 2 * (runnable rest).length := by
          rw [List.length_cons]
          omega
        rw [more, later]
        exact ih _ ⟨world.tick + 2, world.state⟩

theorem rollbackOpen_run (exc : Exc) (world : Timed σ) :
    ∃ exc' tick, (driver.rollbackOpen exc).run world = (.error exc', ⟨tick, world.state⟩) := by
  have looked : (Coro.sync (Timed.draw driver.closed)).run world =
      (.ok (driver.closed world.tick), ⟨world.tick + 1, world.state⟩) := Coro.run_sync _ _
  rw [rollbackOpen, Coro.run_bind_of_ok looked]
  split
  · exact ⟨exc, _, rfl⟩
  · rw [Timed.run_outcome_bind]
    rcases driver.rollback (world.tick + 1) with exc' | ⟨⟩
    · exact ⟨exc', _, rfl⟩
    · exact ⟨exc, _, rfl⟩

theorem commitStatements_run (record : List Str → σ → σ) (statements : List Str)
    (world : Timed σ) :
    (driver.commitStatements record statements).run world =
      match driver.commit world.tick with
      | .ok _ => (.ok (), ⟨world.tick + 1, record statements world.state⟩)
      | .error exc => (.error exc, ⟨world.tick + 1, world.state⟩) := by
  rw [commitStatements, Coro.run_sync, Action.bind_apply, Timed.outcome]
  rcases driver.commit world.tick with exc | ⟨⟩ <;> rfl

/-- A batch write takes effect when all its operations succeed, and raises otherwise. -/
theorem executeWriteBatch_cases (record : List Str → σ → σ) (statements : List Str)
    (world : Timed σ) :
    (driver.commits statements world.tick = true ∧ ∃ written tick,
      (driver.executeWriteBatch record statements).run world =
        (.ok written, ⟨tick, record (runnable statements) world.state⟩)) ∨
    (driver.commits statements world.tick = false ∧ ∃ exc tick,
      (driver.executeWriteBatch record statements).run world =
        (.error exc, ⟨tick, world.state⟩)) := by
  rw [executeWriteBatch, Timed.run_outcome_bind]
  rcases began : driver.beginTransaction world.tick with exc | ⟨⟩
  · exact .inr ⟨by simp [commits, began, Except.isOk, Except.toBool], exc, _, rfl⟩
  dsimp only
  rw [Coro.run_tryCatch]
  rcases driver.runStatements_cases statements 0 (⟨world.tick + 1, world.state⟩ : Timed σ) with
    ⟨all, written, ran⟩ | ⟨failed, exc, tick, ran⟩
  · rw [Coro.run_bind_of_ok ran, Coro.run_bind, commitStatements_run]
    rcases committed : driver.commit (world.tick + 1 + 2 * (runnable statements).length) with
      exc | ⟨⟩
    · rcases driver.rollbackOpen_run exc (⟨_, world.state⟩ : Timed σ) with ⟨exc', tick, rolled⟩
      exact .inr ⟨by simp [commits, committed, Except.isOk, Except.toBool], exc', tick, rolled⟩
    · exact .inl ⟨by simp [commits, began, all, committed, Except.isOk, Except.toBool], written, _,
        rfl⟩
  · rw [Coro.run_bind_of_error ran]
    rcases driver.rollbackOpen_run exc (⟨tick, world.state⟩ : Timed σ) with ⟨exc', tick', rolled⟩
    exact .inr ⟨by simp [commits, failed], exc', tick', rolled⟩

/-- The loop adds up what the statements report. -/
theorem runStatements_written {statements : List Str} {totalWritten written : ℕ}
    {world final : Timed σ}
    (ran : (driver.runStatements statements totalWritten).run world = (.ok written, final)) :
    written = totalWritten + driver.created (runnable statements) world.tick := by
  induction statements generalizing totalWritten world with
  | nil =>
      cases ran
      rfl
  | cons cypher rest ih =>
      by_cases blank : strip cypher = []
      · have same : runnable (cypher :: rest) = runnable rest := by simp [runnable, blank]
        rw [runStatements, if_pos blank] at ran
        rw [same]
        exact ih ran
      · have kept : runnable (cypher :: rest) = cypher :: runnable rest := by
          simp [runnable, blank]
        rw [runStatements, if_neg blank, Timed.run_outcome_bind] at ran
        rcases began : driver.run cypher world.tick with exc | ⟨⟩ <;> rw [began] at ran
        · cases ran
        dsimp only at ran
        rw [Timed.run_outcome_bind] at ran
        rcases consumed : driver.consume cypher (world.tick + 1) with exc | counters <;>
          rw [consumed] at ran
        · cases ran
        have rest := ih ran
        rw [kept, created, consumed, rest]
        simp only [Nat.add_assoc]

/-- The number that a batch write returns is what its statements report. -/
theorem executeWriteBatch_written {record : List Str → σ → σ} {statements : List Str} {written : ℕ}
    {world final : Timed σ}
    (ran : (driver.executeWriteBatch record statements).run world = (.ok written, final)) :
    written = driver.created (runnable statements) (world.tick + 1) := by
  rw [executeWriteBatch, Timed.run_outcome_bind] at ran
  rcases began : driver.beginTransaction world.tick with exc | ⟨⟩ <;> rw [began] at ran
  · cases ran
  dsimp only at ran
  rw [Coro.run_tryCatch] at ran
  rcases body : (do
      let totalWritten ← driver.runStatements statements 0
      driver.commitStatements record (runnable statements)
      pure totalWritten : Coro Exc (Timed σ) ℕ).run ⟨world.tick + 1, world.state⟩ with
    ⟨exc | total, middle⟩ <;> rw [body] at ran
  · rcases driver.rollbackOpen_run exc middle with ⟨exc', tick, rolled⟩
    cases rolled.symm.trans ran
  · cases ran
    rcases Coro.run_bind_eq_ok_iff.mp body with ⟨totalWritten, ready, looped, last⟩
    rcases Coro.run_bind_eq_ok_iff.mp last with ⟨⟨⟩, _, _, returned⟩
    cases returned
    simpa using runStatements_written driver looped

variable {driver} {step : Timed σ → Timed σ → Prop}

theorem runStatements_follows (reads : ∀ world : Timed σ, step world ⟨world.tick + 1, world.state⟩)
    (statements : List Str) (totalWritten : ℕ) :
    (driver.runStatements statements totalWritten).Follows step := by
  have operation : ∀ {α : Type} (source : ℕ → Except Exc α),
      (Coro.sync (Timed.outcome (σ := σ) source)).Follows step :=
    fun source => Coro.follows_sync fun world => .single (reads world)
  induction statements generalizing totalWritten with
  | nil => exact Coro.follows_pure _
  | cons cypher rest ih =>
      unfold runStatements
      split
      · exact ih totalWritten
      · apply Coro.follows_bind (operation _)
        intro _
        apply Coro.follows_bind (operation _)
        intro counters
        exact ih _

/-- A batch write takes readings and at most one step that records the batch. -/
theorem executeWriteBatch_followsFrom {record : List Str → σ → σ} {statements : List Str}
    {origin : Timed σ} (reads : ∀ world : Timed σ, step world ⟨world.tick + 1, world.state⟩)
    (records : ∀ world, Relation.ReflTransGen step origin world →
      step world ⟨world.tick, record (runnable statements) world.state⟩) :
    (driver.executeWriteBatch record statements).FollowsFrom step origin := by
  have operation : ∀ {α : Type} (source : ℕ → Except Exc α),
      (Coro.sync (Timed.outcome (σ := σ) source)).Follows step :=
    fun source => Coro.follows_sync fun world => .single (reads world)
  have reading : (Coro.sync (Timed.draw (σ := σ) driver.closed)).Follows step :=
    Coro.follows_sync fun world => .single (reads world)
  apply Coro.followsFrom_bind (operation _ origin)
  rintro ⟨⟩ state since
  apply Coro.followsFrom_tryCatch
  · apply Coro.followsFrom_bind (runStatements_follows reads _ _ state)
    intro totalWritten later moved
    refine Coro.followsFrom_bind ?_ fun _ _ _ => Coro.follows_pure _ _
    intro world movedOn
    refine ⟨?_, Coro.followsFrom_done _ _⟩
    have reached := (since.trans moved).trans movedOn
    simp only [Action.bind_apply, Timed.outcome]
    rcases driver.commit world.tick with exc | ⟨⟩
    · exact .single (reads world)
    · have read := reads world
      exact .tail (.single read) (records _ (reached.tail read))
  · intro exc
    apply Coro.follows_bind reading
    intro closed
    split
    · exact Coro.follows_throw _
    · exact Coro.follows_bind (operation _) fun _ => Coro.follows_throw _

end Neo4jDriver

end AgentOS
