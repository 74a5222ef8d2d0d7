import AgentOS.Cooperative.Transcript
import AgentOS.Cooperative.Window
import AgentOS.Governance.Replay
import AgentOS.Policies.AutonomyPolicy

/-!
# Quota windows

The write quota over whole runs: the calls come at times that never go back, and the pruned
timestamps still count every accepted call of the last minute.
-/

namespace AgentOS

open Python Cooperative

namespace AutonomyPolicy

variable (host : Host) (policy : AutonomyPolicy)

/-- `check_write_quota` called at a time. -/
def checkAt (now : ℚ) : Action Exc WriteQuotaState Unit :=
  Timed.during host (fun _ => now) policy.checkWriteQuota

/-- The counters of a new policy. -/
def freshQuota : WriteQuotaState := ⟨0, []⟩

/-- The times of the accepted calls. -/
def accepted (log : List (ℚ × Except Exc Unit)) : List ℚ :=
  (log.filter fun entry => entry.2.isOk).map Prod.fst

/-- The times of the accepted calls of a run. -/
def acceptedTimes (times : List ℚ) : List ℚ :=
  accepted (transcript (policy.checkAt host) times freshQuota)

/-- Fewer calls than both quotas allow were accepted so far. -/
def Permits (earlier : List ℚ) (now : ℚ) : Prop :=
  (earlier.length : ℤ) < policy.writeQuotas.maxOperationsPerSession ∧
    ((earlier.filter fun time => now - 60 < time ∧ time ≤ now).length : ℤ) <
      policy.writeQuotas.maxOperationsPerMinute

/-- The counters know the accepted calls: all of them by number, the last minute by time. -/
structure Counts (log : List (ℚ × Except Exc Unit)) (quota : WriteQuotaState) : Prop where
  total : quota.writeCount = (accepted log).length
  minute : ∀ now, (∀ entry ∈ log, entry.1 ≤ now) →
    Retains id (now - 60) quota.writeTimestamps (accepted log)

variable {host policy} {log : List (ℚ × Except Exc Unit)} {quota : WriteQuotaState} {now : ℚ}

theorem recent_eq_since : recent now quota = since id (now - 60) quota.writeTimestamps := rfl

theorem accepted_concat (answer : Except Exc Unit) : accepted (log ++ [(now, answer)]) =
    accepted log ++ if answer.isOk then [now] else [] := by
  rcases answer with _ | _ <;> simp [accepted, Except.isOk, Except.toBool]

theorem accepted_le (before : ∀ entry ∈ log, entry.1 ≤ now) :
    ∀ time ∈ accepted log, time ≤ now := by
  intro time mem
  obtain ⟨entry, kept, rfl⟩ := List.mem_map.mp mem
  exact before entry (List.mem_filter.mp kept).1

/-- What the counters say about a call at a time no earlier than all calls so far. -/
theorem Counts.withinQuota_iff (counts : Counts log quota) (before : ∀ entry ∈ log, entry.1 ≤ now) :
    policy.withinQuota now quota ↔ policy.Permits (accepted log) now := by
  have window : recent now quota =
      (accepted log).filter fun time => now - 60 < time ∧ time ≤ now := by
    rw [recent_eq_since, (counts.minute now before).since_eq, since]
    apply List.filter_congr
    intro time mem
    simp [accepted_le before time mem]
  rw [withinQuota, Permits, window, counts.total]

/-- The answer of a call, and what is counted after it. -/
theorem checkAt_cases (host : Host) (policy : AutonomyPolicy) (now : ℚ)
    (quota : WriteQuotaState) :
    (policy.withinQuota now quota ∧
      policy.checkAt host now quota = (.ok (), counted now quota)) ∨
    (¬ policy.withinQuota now quota ∧ ∃ exc, policy.checkAt host now quota =
      (.error exc, if policy.writeQuotas.maxOperationsPerSession ≤ quota.writeCount then quota
        else ⟨quota.writeCount, recent now quota⟩)) := by
  simp only [checkAt, Timed.during]
  rcases checkWriteQuota_apply { host with time := fun _ => now } policy ⟨0, quota⟩ with
    ⟨session, exc, same⟩ | ⟨room, minute, exc, same⟩ | ⟨within, same⟩
  · right
    rw [same, if_pos session]
    exact ⟨fun within => absurd session (not_le.mpr within.1), exc, rfl⟩
  · right
    rw [same, if_neg (not_le.mpr room)]
    exact ⟨fun within => absurd minute (not_le.mpr within.2), exc, rfl⟩
  · left
    rw [same]
    exact ⟨within, rfl⟩

/-- A call keeps the counters in step with the accepted calls. -/
theorem Counts.checkAt (counts : Counts log quota) (before : ∀ entry ∈ log, entry.1 ≤ now) :
    Counts (log ++ [(now, (policy.checkAt host now quota).1)])
      (policy.checkAt host now quota).2 := by
  have pruned := (counts.minute now before).prune
  rw [← recent_eq_since] at pruned
  have late : ∀ {answer : Except Exc Unit} {later : ℚ},
      (∀ entry ∈ log ++ [(now, answer)], entry.1 ≤ later) → now - 60 ≤ later - 60 := by
    intro answer later after
    have last := after (now, answer) (by simp)
    simpa using last
  rcases checkAt_cases host policy now quota with ⟨-, same⟩ | ⟨-, exc, same⟩
  · rw [same]
    refine ⟨?_, ?_⟩
    · simp [accepted_concat, counted, counts.total, Except.isOk, Except.toBool]
    · intro later after
      rw [accepted_concat]
      exact (pruned.append [now]).mono (late after)
  · rw [same]
    have unchanged : accepted (log ++ [(now, .error exc)]) = accepted log := by
      simp [accepted_concat, Except.isOk, Except.toBool]
    dsimp only
    split
    · refine ⟨by rw [unchanged, counts.total], ?_⟩
      intro later after
      rw [unchanged]
      exact (counts.minute now before).mono (late after)
    · refine ⟨by rw [unchanged, counts.total], ?_⟩
      intro later after
      rw [unchanged]
      exact pruned.mono (late after)

/-- Every accepted call found room in the minute behind it. -/
theorem admitted_after {times : List ℚ} (ordered : times.Pairwise (· ≤ ·)) :
    AdmittedBelow (· - 60) policy.writeQuotas.maxOperationsPerMinute
      (policy.acceptedTimes host times) := by
  have start : Counts [] freshQuota ∧ AdmittedBelow (· - 60)
      policy.writeQuotas.maxOperationsPerMinute (accepted []) :=
    ⟨⟨rfl, fun _ _ => retains_refl⟩, admittedBelow_nil _ _⟩
  have run := holds_after (policy.checkAt host) (· ≤ ·)
    (fun log quota => Counts log quota ∧
      AdmittedBelow (· - 60) policy.writeQuotas.maxOperationsPerMinute (accepted log))
    start ?_ ordered
  · exact run.2
  · rintro log quota now ⟨counts, admitted⟩ before
    refine ⟨counts.checkAt before, ?_⟩
    rw [accepted_concat]
    rcases checkAt_cases host policy now quota with ⟨within, same⟩ | ⟨-, exc, same⟩
    · rw [same]
      apply admitted.append
      rw [← (counts.minute now before).since_eq]
      exact within.2
    · rw [same]
      simpa [Except.isOk, Except.toBool] using admitted

theorem counts_after {times : List ℚ} (ordered : times.Pairwise (· ≤ ·)) :
    Counts (transcript (policy.checkAt host) times freshQuota)
      (after (policy.checkAt host) times freshQuota) := by
  refine holds_after _ (· ≤ ·) _ ?_ ?_ ordered
  · exact ⟨rfl, fun _ _ => retains_refl⟩
  · intro log quota now counts before
    exact counts.checkAt before

theorem checkAt_eq_ok_iff {now : ℚ} {quota : WriteQuotaState} :
    (policy.checkAt host now quota).1 = .ok () ↔ policy.withinQuota now quota := by
  rcases checkAt_cases host policy now quota with ⟨within, same⟩ | ⟨beyond, exc, same⟩
  · simp [same, within]
  · simp [same, beyond]

/-- The counters give the same answers from the time on. -/
def Alike (now : ℚ) (quota quota' : WriteQuotaState) : Prop :=
  quota.writeCount = quota'.writeCount ∧
    ∀ later, now ≤ later → recent later quota = recent later quota'

theorem recent_recent {now later : ℚ} (ordered : now ≤ later) (quota : WriteQuotaState) :
    recent later ⟨quota.writeCount, recent now quota⟩ = recent later quota := by
  simp only [recent_eq_since]
  exact since_since (by linarith) _

theorem Alike.withinQuota_iff {now later : ℚ} {quota quota' : WriteQuotaState}
    (alike : Alike now quota quota') (ordered : now ≤ later) :
    policy.withinQuota later quota ↔ policy.withinQuota later quota' := by
  rw [withinQuota, withinQuota, alike.1, alike.2 later ordered]

/-- A refused call leaves counters that answer like those before it. -/
theorem alike_of_refused {now : ℚ} {quota : WriteQuotaState}
    (refused : (policy.checkAt host now quota).1 ≠ .ok ()) :
    Alike now (policy.checkAt host now quota).2 quota := by
  rcases checkAt_cases host policy now quota with ⟨-, same⟩ | ⟨-, exc, same⟩
  · exact absurd (by rw [same]) refused
  · rw [same]
    dsimp only
    split
    · exact ⟨rfl, fun _ _ => rfl⟩
    · exact ⟨rfl, fun later ordered => recent_recent ordered quota⟩

/-- The answer, its message included, depends on the number of writes and the last minute. -/
theorem checkAt_answer (now : ℚ) (quota : WriteQuotaState) :
    (policy.checkAt host now ⟨quota.writeCount, recent now quota⟩).1 =
      (policy.checkAt host now quota).1 := by
  have same := recent_recent (le_refl now) quota
  simp only [recent] at same
  simp only [checkAt, Timed.during, checkWriteQuota, Action.bind_apply, Host.readTime_apply,
    Timed.view_apply, raiseIf_apply, Timed.modify_apply, recent]
  by_cases session : policy.writeQuotas.maxOperationsPerSession ≤ quota.writeCount
  · simp only [session, if_true]
  · simp only [session, if_false, same]

theorem Alike.checkAt {now later : ℚ} {quota quota' : WriteQuotaState}
    (alike : Alike now quota quota') (ordered : now ≤ later) :
    (policy.checkAt host later quota).1 = (policy.checkAt host later quota').1 ∧
      Alike now (policy.checkAt host later quota).2 (policy.checkAt host later quota').2 := by
  have answers : (policy.checkAt host later quota).1 = (policy.checkAt host later quota').1 := by
    rw [← checkAt_answer later quota, ← checkAt_answer later quota', alike.1,
      alike.2 later ordered]
  refine ⟨answers, ?_⟩
  have minute := alike.2 later ordered
  rcases checkAt_cases host policy later quota with ⟨within, same⟩ | ⟨beyond, exc, same⟩ <;>
    rcases checkAt_cases host policy later quota' with ⟨within', same'⟩ | ⟨beyond', exc', same'⟩
  · rw [same, same', counted, counted, alike.1, minute]
    exact ⟨rfl, fun _ _ => rfl⟩
  · exact absurd ((alike.withinQuota_iff ordered).mp within) beyond'
  · exact absurd ((alike.withinQuota_iff ordered).mpr within') beyond
  · rw [same, same', alike.1, minute]
    dsimp only
    split
    · exact alike
    · exact ⟨rfl, fun _ _ => rfl⟩

/-- The write quotas hold on every window of a run, and a refused call leaves no trace. -/
theorem writeQuota_windows {times : List ℚ} (ordered : times.Pairwise (· ≤ ·)) :
    (∀ before now rest, times = before ++ now :: rest →
      ((policy.checkAt host now (after (policy.checkAt host) before freshQuota)).1 = .ok () ↔
        policy.Permits (policy.acceptedTimes host before) now)) ∧
    (∀ start, (((policy.acceptedTimes host times).filter
        fun time => start ≤ time ∧ time < start + 60).length : ℤ) ≤
      max 0 policy.writeQuotas.maxOperationsPerMinute) ∧
    (∀ start, (((policy.acceptedTimes host times).filter
        fun time => start < time ∧ time ≤ start + 60).length : ℤ) ≤
      max 0 policy.writeQuotas.maxOperationsPerMinute) ∧
    (∀ before now rest, times = before ++ now :: rest →
      (policy.checkAt host now (after (policy.checkAt host) before freshQuota)).1 ≠ .ok () →
      transcript (policy.checkAt host) rest
          (after (policy.checkAt host) (before ++ [now]) freshQuota) =
        transcript (policy.checkAt host) rest (after (policy.checkAt host) before freshQuota)) := by
  refine ⟨?_, ?_, ?_, ?_⟩
  · rintro before now rest rfl
    obtain ⟨first, -, next⟩ := List.pairwise_append.mp ordered
    rw [checkAt_eq_ok_iff]
    apply (counts_after first).withinQuota_iff
    intro entry mem
    exact next _ (mem_of_mem_transcript _ mem) now List.mem_cons_self
  · intro start
    apply (admitted_after ordered).window_le
    intro early late inside inside'
    simp only [decide_eq_true_eq] at inside inside'
    linarith [inside.1, inside'.2]
  · intro start
    apply (admitted_after ordered).window_le
    intro early late inside inside'
    simp only [decide_eq_true_eq] at inside inside'
    linarith [inside.1, inside'.2]
  · rintro before now rest rfl refused
    obtain ⟨-, last, -⟩ := List.pairwise_append.mp ordered
    rw [after_append]
    apply transcript_congr (policy.checkAt host) (now ≤ ·) (Alike now)
    · exact fun later quota quota' late alike => alike.checkAt late
    · exact fun later mem => List.rel_of_pairwise_cons last mem
    · exact alike_of_refused refused

end AutonomyPolicy

namespace Sample

/-- Two writes in a minute and three in a session. -/
def smallQuota : AutonomyPolicy where
  commands := ⟨py "allowlist", [], []⟩
  writeQuotas := ⟨3, 2⟩
  maxDurationSeconds := 3600
  sessionStart := 0

/-- The third call within the minute is refused, the one a minute after the first is not. -/
example : smallQuota.acceptedTimes steadyHost [0, 30, 59, 60, 90] = [0, 30, 60] := by
  decide +kernel

theorem small_quota_windows : List.Pairwise (· ≤ ·) [(0 : ℚ), 30, 59, 60, 90] ∧
    ∀ start, (((smallQuota.acceptedTimes steadyHost [0, 30, 59, 60, 90]).filter
      fun time => start ≤ time ∧ time < start + 60).length : ℤ) ≤
        max 0 smallQuota.writeQuotas.maxOperationsPerMinute := by
  have ordered : List.Pairwise (· ≤ ·) [(0 : ℚ), 30, 59, 60, 90] := by decide
  exact ⟨ordered, (AutonomyPolicy.writeQuota_windows ordered).2.1⟩

end Sample

end AgentOS
