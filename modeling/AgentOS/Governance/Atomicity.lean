import AgentOS.Governance.Authorisation
import AgentOS.Governance.GovernedWrite

/-!
# A governed write is all or nothing

Whatever fails, and wherever in the batch it fails, a governed write that raises leaves
the database as it was. One that returns has committed every statement of the translated
graph in one transaction, and reports how much they created.
-/

namespace AgentOS

open Python Cooperative

namespace WriteGate

variable (host : Host) (rdf : RdfLib) (gate : WriteGate)

/-- A write takes effect as a whole when it returns, and not at all when it raises. -/
structure AllOrNothing (domainName dataRdf nonce rdfFormat : Str) (world : GateWorld) : Prop where
  nothing : ∀ exc final,
    (gate.executeGovernedWrite host rdf domainName dataRdf nonce rdfFormat).run world =
      (.error exc, final) → final.state.database = world.state.database
  all : ∀ client result final, gate.neo4jClient = some client →
    (gate.executeGovernedWrite host rdf domainName dataRdf nonce rdfFormat).run world =
      (.ok result, final) →
    ∃ graph, rdf.parse dataRdf rdfFormat = .ok graph ∧
      final.state.database = world.state.database ++ [rdfToCypherStatements rdf graph] ∧
      result.recordsWritten = some (client.created (rdfToCypherStatements rdf graph)
        ((gate.countedWorld host world).tick + 6))

variable {host rdf gate} {domainName dataRdf nonce rdfFormat : Str} {world final : GateWorld}

theorem writeResult_records {clock : ℕ → ℚ} {recordsWritten : Option ℕ} {result : WriteResult}
    (returned : writeResult host clock domainName dataRdf recordsWritten world =
      (.ok result, final)) : result.recordsWritten = recordsWritten := by
  simp only [writeResult, Action.bind_eq_ok_iff, Action.pure_apply, Prod.mk.injEq,
    Except.ok.injEq] at returned
  rcases returned with ⟨_, _, _, _, _, _, _, _, _, rfl, _⟩
  rfl

/-- The number in the result is the one that the batch write returned. -/
theorem completeWrite_records {client : Neo4jDriver} (online : gate.neo4jClient = some client)
    {statements : List Str} {result : WriteResult}
    (returned : (gate.completeWrite host domainName dataRdf statements).run world =
      (.ok result, final)) :
    result.recordsWritten =
      some (client.created (Neo4jDriver.runnable statements) (world.tick + 1)) := by
  simp only [completeWrite, online] at returned
  rcases Coro.run_bind_eq_ok_iff.mp returned with ⟨written, middle, ran, stamped⟩
  rw [Coro.run_sync] at stamped
  rw [writeResult_records stamped, client.executeWriteBatch_written ran]

theorem executeGovernedWrite_records {client : Neo4jDriver}
    (online : gate.neo4jClient = some client) {result : WriteResult}
    (returned : (gate.executeGovernedWrite host rdf domainName dataRdf nonce rdfFormat).run world =
      (.ok result, final)) :
    ∃ graph, rdf.parse dataRdf rdfFormat = .ok graph ∧
      result.recordsWritten = some (client.created (rdfToCypherStatements rdf graph)
        ((gate.countedWorld host world).tick + 6)) := by
  rcases executeGovernedWrite_cases host rdf gate domainName dataRdf nonce rdfFormat world with
    ⟨-, exc, ready, raised, -⟩ | ⟨_, _, _, graph, ready, authorizes, tick, -, ran⟩
  · cases raised.symm.trans returned
  · refine ⟨graph, authorizes.conforms.1, ?_⟩
    have completed := ran.symm.trans returned
    rw [completeWrite_records online completed, runnable_translation, tick]

/-- Every governed write is all or nothing. -/
theorem executeGovernedWrite_allOrNothing (host : Host) (rdf : RdfLib) (gate : WriteGate)
    (domainName dataRdf nonce rdfFormat : Str) (world : GateWorld) :
    AllOrNothing host rdf gate domainName dataRdf nonce rdfFormat world := by
  constructor
  · intro exc final raised
    rcases client : gate.neo4jClient with _ | driver
    · have kept := executeGovernedWrite_offline host rdf client domainName dataRdf nonce rdfFormat
        world
      rwa [raised] at kept
    · rcases executeGovernedWrite_online host rdf client domainName dataRdf nonce rdfFormat world
        with ⟨_, _, _, _, ran, _⟩ | ⟨_, _, _, ran, kept⟩
      · cases ran.symm.trans raised
      · cases ran.symm.trans raised
        exact kept
  · intro client result final online returned
    rcases executeGovernedWrite_records online returned with ⟨graph, parsed, records⟩
    refine ⟨graph, parsed, ?_, records⟩
    rcases executeGovernedWrite_online host rdf online domainName dataRdf nonce rdfFormat world with
      ⟨graph', commits, _, _, ran, written⟩ | ⟨_, _, _, ran, _⟩
    · cases ran.symm.trans returned
      rcases commits.1 with ⟨_, _, _, authorizes⟩
      cases parsed.symm.trans authorizes.conforms.1
      rw [written, runnable_translation]
    · cases ran.symm.trans returned

end WriteGate

end AgentOS
