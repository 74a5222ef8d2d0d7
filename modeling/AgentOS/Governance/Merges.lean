import AgentOS.Governance.Authorisation
import AgentOS.Governance.Edges
import AgentOS.Merging.Bag

/-!
# Merged batches

What the statements of a batch do to a database in which no two resources have one uri. A
`MERGE` creates a resource or a relationship exactly when it is absent, so that a batch leaves
the same database and reports the same number in whatever order the graph is iterated, and
nothing is left to do for the batch that is written again.
-/

namespace AgentOS

open Python Cooperative Merging

/-- What a statement can create: a resource with its uri, or a relationship of two resources. -/
inductive Element where
  | resource (uri : Str)
  | relationship (edge : Edge)
  deriving DecidableEq

/-- The resources and the relationships of a database; there may be parallel relationships. -/
@[ext]
structure GraphStore where
  elements : Multiset Element
  /-- The constraint `n10s_unique_uri`. -/
  unique : ∀ uri, elements.count (.resource uri) ≤ 1
  closed : ∀ edge, .relationship edge ∈ elements →
    .resource edge.start ∈ elements ∧ .resource edge.finish ∈ elements

/-- What a statement merges, in order. -/
def Edge.elements (edge : Edge) : List Element :=
  [.resource edge.start, .resource edge.finish, .relationship edge]

namespace GraphStore

variable (store : GraphStore)

/-- `MERGE (a) MERGE (b) MERGE (a)-[]->(b)`. -/
def mergeEdge (edge : Edge) : GraphStore where
  elements := (mergeAll edge.elements store.elements).2
  unique := by
    intro uri
    rw [count_mergeAll]
    split
    · exact store.unique uri
    · split <;> omega
  closed := by
    intro other mem
    simp only [mem_mergeAll, Edge.elements, List.mem_cons, List.not_mem_nil, or_false,
      reduceCtorEq, false_or, Element.relationship.injEq, Element.resource.injEq] at mem ⊢
    rcases mem with rfl | known
    · exact ⟨.inl (.inl rfl), .inl (.inr rfl)⟩
    · exact ⟨.inr (store.closed other known).1, .inr (store.closed other known).2⟩

/-- What the summary of `mergeEdge` counts. -/
def edgeCounters (edge : Edge) : Counters :=
  let start := merge (.resource edge.start) store.elements
  let finish := merge (.resource edge.finish) start.2
  ⟨start.1 + finish.1, (merge (.relationship edge) finish.2).1⟩

/-- The database after a statement; one that merges no edge is none of the translation. -/
def exec (cypher : Str) : GraphStore :=
  match writtenEdge cypher with
  | some edge => store.mergeEdge edge
  | none => store

/-- `summary.counters` of the statement. -/
def counters (cypher : Str) : Counters :=
  match writtenEdge cypher with
  | some edge => store.edgeCounters edge
  | none => ⟨0, 0⟩

/-- The database after the statements of a batch. -/
def execAll (statements : List Str) (store : GraphStore) : GraphStore :=
  statements.foldl exec store

/-- The nodes and relationships that the statements create, one after another. -/
def createdBy : List Str → GraphStore → ℕ
  | [], _ => 0
  | cypher :: rest, store =>
      (store.counters cypher).nodesCreated + (store.counters cypher).relationshipsCreated +
        createdBy rest (store.exec cypher)

end GraphStore

/-- The edge that is written for a triple. -/
def Triple.edge (rdf : RdfLib) (triple : Triple) : Edge where
  start := cleaned (rdfTermToStr rdf triple.subject)
  relationType := relationType (rdfTermToStr rdf triple.predicate)
  finish := cleaned (rdfTermToStr rdf triple.object)

/-- What the statements of a graph merge, in its order. -/
def Graph.elements (rdf : RdfLib) (graph : Graph) : List Element :=
  graph.flatMap fun triple => (triple.edge rdf).elements

namespace GraphStore

variable {store : GraphStore}

theorem edgeCounters_sum (store : GraphStore) (edge : Edge) :
    (store.edgeCounters edge).nodesCreated + (store.edgeCounters edge).relationshipsCreated =
      (mergeAll edge.elements store.elements).1 := by
  simp only [edgeCounters, Edge.elements, mergeAll, Nat.add_zero, Nat.add_assoc]

/-- The statements of a graph merge the elements of its edges. -/
theorem execAll_translation (rdf : RdfLib) (graph : Graph) (store : GraphStore) :
    mergeAll (graph.elements rdf) store.elements =
      (createdBy (rdfToCypherStatements rdf graph) store,
        (execAll (rdfToCypherStatements rdf graph) store).elements) := by
  induction graph generalizing store with
  | nil => rfl
  | cons triple graph ih =>
      have written : writtenEdge (tripleToCypher rdf triple) = some (triple.edge rdf) :=
        writtenEdge_tripleToCypher rdf triple
      have merged : store.exec (tripleToCypher rdf triple) = store.mergeEdge (triple.edge rdf) := by
        simp only [exec, written]
      have counted : store.counters (tripleToCypher rdf triple) =
          store.edgeCounters (triple.edge rdf) := by
        simp only [counters, written]
      have later := ih (store.mergeEdge (triple.edge rdf))
      rw [Graph.elements, List.flatMap_cons, mergeAll_append]
      change ((mergeAll (triple.edge rdf).elements store.elements).1 +
          (mergeAll (Graph.elements rdf graph) (store.mergeEdge (triple.edge rdf)).elements).1,
          (mergeAll (Graph.elements rdf graph) (store.mergeEdge (triple.edge rdf)).elements).2) = _
      rw [later]
      simp only [rdfToCypherStatements, List.map_cons, createdBy, execAll, List.foldl_cons, counted,
        merged, edgeCounters_sum]

end GraphStore

namespace Neo4jDriver

open GraphStore

variable {driver : Neo4jDriver} {statements : List Str} {store : GraphStore} {tick : ℕ}

/-- Each summary counts what its statement creates in the database that the earlier ones leave. -/
def Reports (driver : Neo4jDriver) : List Str → GraphStore → ℕ → Prop
  | [], _, _ => True
  | cypher :: rest, store, tick =>
      driver.consume cypher (tick + 1) = .ok (store.counters cypher) ∧
        driver.Reports rest (store.exec cypher) (tick + 2)

/-- From the tick on the batch write is carried out, and its summaries are right. -/
structure Serves (driver : Neo4jDriver) (statements : List Str) (store : GraphStore)
    (tick : ℕ) : Prop where
  commits : driver.commits statements tick = true
  reports : driver.Reports (runnable statements) store (tick + 1)

theorem created_of_reports (reports : driver.Reports statements store tick) :
    driver.created statements tick = createdBy statements store := by
  induction statements generalizing store tick with
  | nil => rfl
  | cons cypher rest ih =>
      rcases reports with ⟨counted, later⟩
      simp only [created, createdBy, counted, ih later]

/-- A batch write that is carried out leaves and reports what its statements do. -/
theorem executeWriteBatch_of_serves (serves : driver.Serves statements store tick) :
    ∃ ended, (driver.executeWriteBatch execAll statements).run ⟨tick, store⟩ =
      (.ok (createdBy (runnable statements) store),
        ⟨ended, execAll (runnable statements) store⟩) := by
  rcases driver.executeWriteBatch_cases execAll statements ⟨tick, store⟩ with
    ⟨-, written, ended, ran⟩ | ⟨failed, -⟩
  · have counted : written = createdBy (runnable statements) store := by
      rw [driver.executeWriteBatch_written ran, created_of_reports serves.reports]
    subst counted
    exact ⟨ended, ran⟩
  · cases serves.commits.symm.trans failed

/-- The batch write of a graph returns with the number and leaves the database. -/
def Writes (driver : Neo4jDriver) (rdf : RdfLib) (graph : Graph) (start : Timed GraphStore)
    (written : ℕ) (final : GraphStore) : Prop :=
  ∃ ended, (driver.executeWriteBatch execAll (rdfToCypherStatements rdf graph)).run start =
    (.ok written, ⟨ended, final⟩)

/-- What a batch write does to the database is that its elements are merged. -/
theorem writes_of_serves {rdf : RdfLib} {graph : Graph} {written : ℕ} {final : GraphStore}
    (serves : driver.Serves (rdfToCypherStatements rdf graph) store tick)
    (merged : mergeAll (graph.elements rdf) store.elements = (written, final.elements)) :
    driver.Writes rdf graph ⟨tick, store⟩ written final := by
  rcases executeWriteBatch_of_serves serves with ⟨ended, ran⟩
  rw [WriteGate.runnable_translation] at ran
  rw [execAll_translation, Prod.mk.injEq] at merged
  rcases merged with ⟨counted, left⟩
  rw [counted, GraphStore.ext left] at ran
  exact ⟨ended, ran⟩

end Neo4jDriver

namespace GraphStore

open Neo4jDriver

/-- The batch writes of a graph to a database report one number and lead to one database. -/
structure Settles (store : GraphStore) (rdf : RdfLib) (graph : Graph) (written : ℕ)
    (final : GraphStore) : Prop where
  /-- In whatever order the triples come. -/
  ordered : ∀ (driver : Neo4jDriver) (order : Graph) (tick : ℕ), graph.Perm order →
    driver.Serves (rdfToCypherStatements rdf order) store tick →
    driver.Writes rdf order ⟨tick, store⟩ written final
  /-- The same batch creates nothing when it is written again. -/
  again : ∀ (driver : Neo4jDriver) (order : Graph) (tick : ℕ), graph.Perm order →
    driver.Serves (rdfToCypherStatements rdf order) final tick →
    driver.Writes rdf order ⟨tick, final⟩ 0 final
  /-- Whatever came of an attempt, the write that repeats it leads to the same database. -/
  repeated : ∀ (attempt : Neo4jDriver) (order : Graph) (tick : ℕ) (outcome : Except Exc ℕ)
    (ended : ℕ) (between : GraphStore), graph.Perm order →
    (attempt.executeWriteBatch execAll (rdfToCypherStatements rdf order)).run
      ⟨tick, store⟩ = (outcome, ⟨ended, between⟩) →
    ∀ (driver : Neo4jDriver) (order : Graph) (tick : ℕ), graph.Perm order →
      driver.Serves (rdfToCypherStatements rdf order) between tick →
      ∃ created, driver.Writes rdf order ⟨tick, between⟩ created final

/-- The database that the batch of a graph leaves, in the order of the graph. -/
def writtenBy (store : GraphStore) (rdf : RdfLib) (graph : Graph) : GraphStore :=
  execAll (rdfToCypherStatements rdf graph) store

variable {rdf : RdfLib} {graph order : Graph}

/-- In every order the same elements are merged. -/
theorem mergeAll_order (perm : graph.Perm order) (store : GraphStore) :
    mergeAll (order.elements rdf) store.elements =
      (createdBy (rdfToCypherStatements rdf graph) store,
        (store.writtenBy rdf graph).elements) := by
  rw [writtenBy, ← execAll_translation]
  exact mergeAll_perm (perm.symm.flatMap_right _) store.elements

/-- Every element of the batch is in the database that it leaves. -/
theorem mergeAll_writtenBy (perm : graph.Perm order) (store : GraphStore) :
    mergeAll (order.elements rdf) (store.writtenBy rdf graph).elements =
      (0, (store.writtenBy rdf graph).elements) := by
  have left : (mergeAll (order.elements rdf) store.elements).2 =
      (store.writtenBy rdf graph).elements := congrArg Prod.snd (mergeAll_order perm store)
  rw [← left]
  exact mergeAll_again (order.elements rdf) store.elements

/-- An attempt leaves the database as it was or as the batch leaves it. -/
theorem attempt_cases (perm : graph.Perm order) {attempt : Neo4jDriver} {tick ended : ℕ}
    {outcome : Except Exc ℕ} {between : GraphStore}
    (ran : (attempt.executeWriteBatch execAll (rdfToCypherStatements rdf order)).run
      ⟨tick, store⟩ = (outcome, ⟨ended, between⟩)) :
    between = store ∨ between = store.writtenBy rdf graph := by
  rcases attempt.executeWriteBatch_cases execAll (rdfToCypherStatements rdf order) ⟨tick, store⟩
    with ⟨-, _, _, committed⟩ | ⟨-, _, _, kept⟩
  · right
    cases committed.symm.trans ran
    rw [WriteGate.runnable_translation]
    apply GraphStore.ext
    have merged := (execAll_translation rdf order store).symm.trans (mergeAll_order perm store)
    exact congrArg Prod.snd merged
  · left
    cases kept.symm.trans ran
    rfl

/-- Batch writes do not depend on the order of the graph, and a repeated one does no harm. -/
theorem batchWrites_settle (rdf : RdfLib) (graph : Graph) (store : GraphStore) :
    ∃ written final, store.Settles rdf graph written final := by
  refine ⟨createdBy (rdfToCypherStatements rdf graph) store, store.writtenBy rdf graph, ?_⟩
  have ordered : ∀ (driver : Neo4jDriver) (order : Graph) (tick : ℕ), graph.Perm order →
      driver.Serves (rdfToCypherStatements rdf order) store tick →
      driver.Writes rdf order ⟨tick, store⟩ (createdBy (rdfToCypherStatements rdf graph) store)
        (store.writtenBy rdf graph) :=
    fun _ _ _ perm serves => writes_of_serves serves (mergeAll_order perm store)
  have again : ∀ (driver : Neo4jDriver) (order : Graph) (tick : ℕ), graph.Perm order →
      driver.Serves (rdfToCypherStatements rdf order) (store.writtenBy rdf graph) tick →
      driver.Writes rdf order ⟨tick, store.writtenBy rdf graph⟩ 0 (store.writtenBy rdf graph) :=
    fun _ _ _ perm serves => writes_of_serves serves (mergeAll_writtenBy perm store)
  refine ⟨ordered, again, ?_⟩
  intro attempt first tick outcome ended between perm ran driver order tick' perm' serves
  rcases attempt_cases perm ran with rfl | rfl
  · exact ⟨_, ordered driver order tick' perm' serves⟩
  · exact ⟨_, again driver order tick' perm' serves⟩

/-- A driver that carries the statements out on the database, from the tick on. -/
def carryingOut (store : GraphStore) (statements : List Str) (start : ℕ) : Neo4jDriver where
  beginTransaction _ := .ok ()
  run _ _ := .ok ()
  consume cypher tick :=
    .ok ((execAll (statements.take ((tick - start - 2) / 2)) store).counters cypher)
  commit _ := .ok ()
  closed _ := true
  rollback _ := .ok ()

theorem carryingOut_runsAll (statements : List Str) (store : GraphStore) (all : List Str)
    (start tick : ℕ) : (store.carryingOut all start).runsAll statements tick = true := by
  induction statements generalizing tick with
  | nil => rfl
  | cons cypher rest ih => exact ih (tick + 2)

theorem carryingOut_reports (store : GraphStore) (start : ℕ) (done rest : List Str) :
    (store.carryingOut (done ++ rest) start).Reports rest (execAll done store)
      (start + 1 + 2 * done.length) := by
  induction rest generalizing done with
  | nil => trivial
  | cons cypher rest ih =>
      have index : (start + 1 + 2 * done.length + 1 - start - 2) / 2 = done.length := by omega
      have later := ih (done ++ [cypher])
      have next : start + 1 + 2 * (done ++ [cypher]).length =
          start + 1 + 2 * done.length + 2 := by
        rw [List.length_append, List.length_singleton]
        omega
      rw [List.append_assoc, List.singleton_append, execAll, List.foldl_append, next] at later
      refine ⟨?_, later⟩
      simp only [carryingOut, index, List.take_left]

/-- There is a driver that serves a batch. -/
theorem carryingOut_serves (store : GraphStore) (statements : List Str) (tick : ℕ) :
    (store.carryingOut (runnable statements) tick).Serves statements store tick where
  commits := by
    rw [commits, carryingOut_runsAll]
    rfl
  reports := carryingOut_reports store tick [] (runnable statements)

end GraphStore

namespace Sample

/-- A resource that owns itself. -/
def selfOwner : Triple :=
  ⟨.uriRef (py "urn:a"), .uriRef (py "http://hr.example/terms#owner"), .uriRef (py "urn:a")⟩

/-- A database without a resource. -/
def emptyStore : GraphStore where
  elements := 0
  unique _ := by simp
  closed _ mem := by simp at mem

open GraphStore Neo4jDriver in
/-- Two resources and two relationships are created, the self-loop first or last. -/
theorem reversed_batch_settles :
    ∃ (final : GraphStore) (driver reversed again : Neo4jDriver),
      driver.Writes rdf [hrOwner, selfOwner] ⟨0, emptyStore⟩ 4 final ∧
      reversed.Writes rdf [selfOwner, hrOwner] ⟨0, emptyStore⟩ 4 final ∧
      again.Writes rdf [selfOwner, hrOwner] ⟨9, final⟩ 0 final := by
  rcases batchWrites_settle rdf [hrOwner, selfOwner] emptyStore with ⟨written, final, settled⟩
  have kept : List.Perm [hrOwner, selfOwner] [hrOwner, selfOwner] := .refl _
  have swapped : List.Perm [hrOwner, selfOwner] [selfOwner, hrOwner] := .swap _ _ _
  have first := settled.ordered _ _ 0 kept (carryingOut_serves _ _ _)
  have second := settled.ordered _ _ 0 swapped (carryingOut_serves _ _ _)
  have third := settled.again _ _ 9 swapped (carryingOut_serves _ _ _)
  have four : written = 4 := by
    rcases first with ⟨ended, ran⟩
    rw [executeWriteBatch_written _ ran, created_of_reports (carryingOut_serves _ _ 0).reports,
      WriteGate.runnable_translation]
    have merged := execAll_translation rdf [hrOwner, selfOwner] emptyStore
    have counted :
        (mergeAll (Graph.elements rdf [hrOwner, selfOwner]) emptyStore.elements).1 = 4 := by decide
    rwa [merged] at counted
  rw [four] at first second
  exact ⟨final, _, _, _, first, second, third⟩

end Sample

end AgentOS
