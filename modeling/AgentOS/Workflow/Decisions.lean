import AgentOS.Workflow.SopRun

/-!
# Recorded decisions

What `insert_feedback` does with a decision on a run: it is recorded when its values can be
bound and the run has no decision yet, and otherwise the call raises and records nothing.
-/

namespace AgentOS

open Python Cooperative

namespace FeedbackTable

variable {host : Host}

/-- The decisions on the trace after one more was recorded. -/
theorem rowsOf_append (traceId : Str) (table : FeedbackTable) (record : FeedbackRecord) :
    rowsOf traceId (table ++ [record]) =
      if record.traceId = traceId then rowsOf traceId table ++ [record]
      else rowsOf traceId table := by
  simp only [rowsOf, List.filter_append]
  split <;> simp [*]

theorem insert_cases (record : FeedbackRecord) (table : FeedbackTable) :
    (rowsOf record.traceId table = [] ∧ insert record table = .ok (table ++ [record])) ∨
    (rowsOf record.traceId table ≠ [] ∧ ∃ exc, insert record table = .error exc) := by
  unfold insert
  split
  · rename_i empty
    exact .inl ⟨List.isEmpty_iff.mp empty, rfl⟩
  · rename_i taken
    refine .inr ⟨?_, _, rfl⟩
    intro empty
    exact taken (List.isEmpty_iff.mpr empty)

theorem bindText_optional_eq_ok_iff {parameter : ℕ} {text bound : Option Str} :
    bindText host parameter (.optional text) = .ok bound ↔
      (Json.optional text).encodable = true ∧ bound = text := by
  rcases text with _ | text
  · constructor
    · rintro ⟨⟩
      exact ⟨rfl, rfl⟩
    · rintro ⟨-, rfl⟩
      rfl
  · simp only [bindText, Json.optional, Host.encode, Json.encodable]
    split
    · rename_i plain
      simp only [Except.map, Except.ok.injEq, plain, true_and]
      exact eq_comm
    · rename_i foreign
      simp [Except.map, foreign]

/-- The texts of a record have encodings. -/
def Bindable (traceId reviewer decision output : Str) (reason : Option Str) : Prop :=
  encodable traceId = true ∧ encodable reviewer = true ∧ encodable decision = true ∧
    (Json.optional reason).encodable = true ∧ encodable output = true

/-- Texts are bound as they are exactly when they have encodings. -/
theorem bindRecord_cases (host : Host) (traceId reviewer decision output : Str)
    (reason : Option Str) (time : ℚ) :
    Bindable traceId reviewer decision output reason ∧
      bindRecord host traceId (.str reviewer) decision (.optional reason) output
        (host.isoFormat time) =
        .ok ⟨traceId, reviewer, decision, reason, output, host.isoFormat time⟩ ∨
    ¬ Bindable traceId reviewer decision output reason ∧
      ∃ exc, bindRecord host traceId (.str reviewer) decision (.optional reason) output
        (host.isoFormat time) = .error exc := by
  have timed := host.isoFormat_encodable time
  rcases bound : bindRecord host traceId (.str reviewer) decision (.optional reason) output
    (host.isoFormat time) with exc | record
  · refine .inr ⟨?_, exc, rfl⟩
    rintro ⟨trace, who, what, why, said⟩
    rcases reason with _ | reason <;> simp only [Json.optional, Json.encodable] at why <;>
      simp [bindRecord, Host.encode, Json.optional, bindText, bind, Except.bind, pure, Except.pure,
        Except.map, trace, who, what, why, said, timed] at bound
  · left
    simp only [bindRecord, bind, Except.bind, pure, Except.pure] at bound
    repeat' split at bound
    all_goals cases bound
    have who := (@bindText_optional_eq_ok_iff host 2 (some reviewer) _).mp
      ‹bindText host 2 (.str reviewer) = _›
    have why := bindText_optional_eq_ok_iff.mp ‹bindText host 4 (.optional reason) = _›
    have plain : encodable reviewer = true := who.1
    simp_all [Host.encode_eq_ok_iff, Bindable]

/-- A record of texts is inserted exactly when it is the first of its trace and can be bound. -/
theorem insertFeedback_texts (host : Host) (traceId reviewer decision output : Str)
    (reason : Option Str) (time : ℚ) (table : FeedbackTable) :
    (Bindable traceId reviewer decision output reason ∧ rowsOf traceId table = []) ∧
      insertFeedback host traceId (.str reviewer) decision (.optional reason) output
        (host.isoFormat time) table =
        .ok (table ++ [⟨traceId, reviewer, decision, reason, output, host.isoFormat time⟩]) ∨
    ¬ (Bindable traceId reviewer decision output reason ∧ rowsOf traceId table = []) ∧
      ∃ exc, insertFeedback host traceId (.str reviewer) decision (.optional reason) output
        (host.isoFormat time) table = .error exc := by
  unfold insertFeedback
  rcases bindRecord_cases host traceId reviewer decision output reason time with
    ⟨bindable, bound⟩ | ⟨foreign, exc, refused⟩
  · simp only [bound, bind, Except.bind]
    rcases insert_cases
      ⟨traceId, reviewer, decision, reason, output, host.isoFormat time⟩ table with
      ⟨fresh, inserted⟩ | ⟨taken, exc, refused⟩
    · exact .inl ⟨⟨bindable, fresh⟩, inserted⟩
    · exact .inr ⟨fun both => taken both.2, exc, refused⟩
  · simp only [refused, bind, Except.bind]
    exact .inr ⟨fun both => foreign both.1, exc, rfl⟩

/-- What is bound to a TEXT column has an encoding. -/
theorem encodable_of_bindText {parameter : ℕ} {value : Json} {text : Option Str}
    (bound : bindText host parameter value = .ok text) : value.encodable = true := by
  rcases value with _ | _ | _ | _ | text | _ | _
  case str =>
    have read : bindText host parameter (.optional (some text)) = .ok _ := bound
    exact (bindText_optional_eq_ok_iff.mp read).1
  case arr => cases bound
  case obj => cases bound
  all_goals rfl

theorem bindRecord_ok {traceId decision output timestamp : Str} {reviewer reason : Json}
    {record : FeedbackRecord}
    (bound : bindRecord host traceId reviewer decision reason output timestamp = .ok record) :
    record.traceId = traceId ∧ record.decision = decision ∧ reviewer.encodable = true ∧
      reason.encodable = true := by
  simp only [bindRecord, bind, Except.bind, pure, Except.pure] at bound
  repeat' split at bound
  all_goals cases bound
  have who := encodable_of_bindText ‹bindText host 2 reviewer = _›
  have why := encodable_of_bindText ‹bindText host 4 reason = _›
  simp_all [Host.encode_eq_ok_iff]

/-- A decision that is inserted is the first of its trace, and its row is appended. -/
theorem insertFeedback_ok {traceId decision output timestamp : Str} {reviewer reason : Json}
    {table table' : FeedbackTable}
    (inserted : insertFeedback host traceId reviewer decision reason output timestamp table =
      .ok table') :
    rowsOf traceId table = [] ∧
      ∃ record, bindRecord host traceId reviewer decision reason output timestamp = .ok record ∧
        table' = table ++ [record] := by
  rcases bound : bindRecord host traceId reviewer decision reason output timestamp with exc | record
  · simp [insertFeedback, bound, bind, Except.bind] at inserted
  · have named := (bindRecord_ok bound).1
    simp only [insertFeedback, bound, bind, Except.bind] at inserted
    rcases insert_cases record table with ⟨fresh, appended⟩ | ⟨-, exc, refused⟩
    · rw [appended] at inserted
      cases inserted
      exact ⟨named ▸ fresh, record, rfl, rfl⟩
    · rw [refused] at inserted
      cases inserted

end FeedbackTable

theorem encodable_of_isDecision {decision : Str} (decided : isDecision decision = true) :
    encodable decision = true := by
  simp only [isDecision, decide_eq_true_eq] at decided
  rcases decided with rfl | rfl <;> decide

/-- The text that is recorded as the output of a stored run has an encoding. -/
theorem originalOutput_encodable (host : Host) {ctx : SOPRunContext}
    (encoded : ctx.toJson.encodable = true) : encodable (ctx.originalOutput host) = true := by
  have items : ∀ {entries : List (Dict Str Json)},
      Json.encodableItems (entries.map fun entry => .obj entry.entries) = true →
      ∀ entry ∈ entries, Json.encodableFields entry.entries = true := by
    intro entries
    induction entries with
    | nil => simp
    | cons first rest ih =>
        intro encoded
        simp only [List.map_cons, Json.encodableItems, Json.encodable, Bool.and_eq_true] at encoded
        intro entry mem
        rcases List.mem_cons.mp mem with rfl | mem
        · exact encoded.1
        · exact ih encoded.2 entry mem
  have fields : ∀ {fields : List (Str × Json)}, Json.encodableFields fields = true →
      ∀ entry ∈ fields, entry.2.encodable = true := by
    intro fields
    induction fields with
    | nil => simp
    | cons first rest ih =>
        intro encoded
        simp only [Json.encodableFields, Bool.and_eq_true] at encoded
        intro entry mem
        rcases List.mem_cons.mp mem with rfl | mem
        · exact encoded.1.2
        · exact ih encoded.2 entry mem
  rcases (SOPRunContext.toJson_encodable_iff ctx).mp encoded with ⟨-, -, -, -, -, -, -, -, results⟩
  unfold SOPRunContext.originalOutput
  rcases last : ctx.stepResults.getLast? with _ | entry
  · rfl
  · apply Json.encodable_dumps host.strFloat_encodable
    have mem : entry ∈ ctx.stepResults := List.mem_of_getLast? last
    rcases found : entry.get? (py "result") with _ | value
    · rfl
    · exact fields (items results entry mem) (py "result", value) (Dict.mem_of_get? found)

namespace SOPEngine

variable {ctx : SOPRunContext} {world : EngineWorld}

/-- An answered context can be stored when it could before and the answer has an encoding. -/
theorem answer_encodable (plain : ctx.toJson.encodable = true) {decision : Str}
    {reason approverId : Json} (what : encodable decision = true) (why : reason.encodable = true)
    (who : approverId.encodable = true) :
    (ctx.answer decision reason approverId).toJson.encodable = true := by
  rcases (SOPRunContext.toJson_encodable_iff ctx).mp plain with
    ⟨runId, sopId, data, step, -, -, -, errors, results⟩
  exact (SOPRunContext.toJson_encodable_iff _).mpr
    ⟨runId, sopId, data, step, what, why, who, errors, results⟩

/-- A decision is stamped with the time and inserted, or the insertion raises. -/
theorem insertFeedback_apply (host : Host) (ctx : SOPRunContext) {decision : Str}
    (decided : isDecision decision = true) (reason approverId : Json) (world : EngineWorld) :
    insertFeedback host ctx decision reason approverId world =
      match FeedbackTable.insertFeedback host ctx.runId approverId decision reason
        (ctx.originalOutput host) (host.isoFormat (host.time world.tick)) world.state.feedback with
      | .ok table => (.ok (), ⟨world.tick + 1, world.state.setFeedback table⟩)
      | .error exc => (.error exc, ⟨world.tick + 1, world.state⟩) := by
  simp only [insertFeedback, raiseIf, decided, Bool.true_eq_false, if_false, Action.bind_apply,
    Action.pure_apply, Host.readTime_apply, Timed.view_apply, ofExcept_apply]
  rcases FeedbackTable.insertFeedback host ctx.runId approverId decision reason
    (ctx.originalOutput host) (host.isoFormat (host.time world.tick)) world.state.feedback with
    exc | table <;> rfl

/-- A recorded decision is the first on the run, and its row is the only one afterwards. -/
theorem insertFeedback_recorded {host : Host} {decision : Str} {reason approverId : Json}
    {recorded : EngineWorld}
    (inserted : insertFeedback host ctx decision reason approverId world = (.ok (), recorded)) :
    FeedbackTable.rowsOf ctx.runId world.state.feedback = [] ∧
      (∃ record, record.decision = decision ∧
        FeedbackTable.rowsOf ctx.runId recorded.state.feedback = [record]) ∧
      reason.encodable = true ∧ approverId.encodable = true ∧
      recorded.state.runs = world.state.runs ∧ recorded.state.history = world.state.history := by
  by_cases decided : isDecision decision = true
  · rw [insertFeedback_apply host ctx decided] at inserted
    rcases table : FeedbackTable.insertFeedback host ctx.runId approverId decision reason
      (ctx.originalOutput host) (host.isoFormat (host.time world.tick)) world.state.feedback with
      exc | table'
    · rw [table] at inserted
      cases inserted
    · rw [table] at inserted
      cases inserted
      rcases FeedbackTable.insertFeedback_ok table with ⟨fresh, record, bound, rfl⟩
      rcases FeedbackTable.bindRecord_ok bound with ⟨named, decides, who, why⟩
      refine ⟨fresh, ⟨record, decides, ?_⟩, why, who, rfl, rfl⟩
      simp [EngineState.setFeedback, FeedbackTable.rowsOf_append, named, fresh]
  · have undecided : isDecision decision = false := by simpa using decided
    simp [insertFeedback, raiseIf, undecided, Action.bind_apply] at inserted

/-- The row for a decision on the run. -/
def decisionRow (host : Host) (ctx : SOPRunContext) (decision : Str) (reason : Option Str)
    (approverId : Str) (world : EngineWorld) : FeedbackRecord where
  traceId := ctx.runId
  reviewer := approverId
  decision := decision
  reason := reason
  originalAgentOutput := ctx.originalOutput host
  timestamp := host.isoFormat (host.time world.tick)

/-- The run has no decision yet, and the texts of the answer have encodings. -/
def Recordable (ctx : SOPRunContext) (reason : Option Str) (approverId : Str)
    (feedback : FeedbackTable) : Prop :=
  FeedbackTable.rowsOf ctx.runId feedback = [] ∧ (Json.optional reason).encodable = true ∧
    encodable approverId = true

/-- A decision is recorded exactly when it is the first on the run and its texts have encodings. -/
theorem insertFeedback_cases (host : Host) (world : EngineWorld) {decision : Str}
    (decided : isDecision decision = true) (reason : Option Str) (approverId : Str)
    (plain : ctx.toJson.encodable = true) :
    (Recordable ctx reason approverId world.state.feedback ∧
      insertFeedback host (ctx.answer decision (.optional reason) (.str approverId)) decision
        (.optional reason) (.str approverId) world =
        (.ok (), ⟨world.tick + 1, world.state.setFeedback (world.state.feedback ++
          [decisionRow host ctx decision reason approverId world])⟩)) ∨
    (¬ Recordable ctx reason approverId world.state.feedback ∧ ∃ exc,
      insertFeedback host (ctx.answer decision (.optional reason) (.str approverId)) decision
        (.optional reason) (.str approverId) world =
        (.error exc, ⟨world.tick + 1, world.state⟩)) := by
  have trace := ((SOPRunContext.toJson_encodable_iff ctx).mp plain).1
  have said := originalOutput_encodable host plain
  have what := encodable_of_isDecision decided
  have bindable : FeedbackTable.Bindable ctx.runId approverId decision (ctx.originalOutput host)
      reason ↔ (Json.optional reason).encodable = true ∧ encodable approverId = true := by
    simp [FeedbackTable.Bindable, trace, what, said, and_comm]
  rw [insertFeedback_apply host _ decided]
  have named : (ctx.answer decision (.optional reason) (.str approverId)).runId = ctx.runId := rfl
  have output : (ctx.answer decision (.optional reason) (.str approverId)).originalOutput host =
      ctx.originalOutput host := rfl
  rw [named, output]
  rcases FeedbackTable.insertFeedback_texts host ctx.runId approverId decision
    (ctx.originalOutput host) reason (host.time world.tick) world.state.feedback with
    ⟨⟨texts, fresh⟩, inserted⟩ | ⟨foreign, exc, refused⟩
  · rw [inserted]
    exact .inl ⟨⟨fresh, bindable.mp texts⟩, rfl⟩
  · rw [refused]
    exact .inr ⟨fun all => foreign ⟨bindable.mpr all.2, all.1⟩, exc, rfl⟩

end SOPEngine

end AgentOS
