import AgentOS.Cooperative.EventLog
import Mathlib.Data.List.Induction
import Mathlib.Order.Lattice
import Mathlib.Tactic.Linarith

/-!
# Sliding windows

Entries with time stamps of which only those after a cutoff count. A list that was pruned
up to a cutoff still knows every entry of its history that a later cutoff lets count. A
limit on the window behind every admitted stamp is a limit on all windows of that width.
-/

namespace Cooperative

variable {α τ : Type} [LinearOrder τ] (stamp : α → τ)

/-- The entries after the cutoff. -/
def since (cutoff : τ) (entries : List α) : List α :=
  entries.filter fun entry => cutoff < stamp entry

/-- The kept entries are those of the history, as far as they are after the cutoff. -/
def Retains (cutoff : τ) (kept history : List α) : Prop :=
  ∀ later, cutoff ≤ later → since stamp later kept = since stamp later history

variable {stamp} {cutoff later : τ} {kept history : List α}

@[simp]
theorem since_nil : since stamp cutoff [] = [] := rfl

@[simp]
theorem since_append (entries entries' : List α) :
    since stamp cutoff (entries ++ entries') =
      since stamp cutoff entries ++ since stamp cutoff entries' :=
  List.filter_append ..

theorem mem_since {entries : List α} {entry : α} :
    entry ∈ since stamp cutoff entries ↔ entry ∈ entries ∧ cutoff < stamp entry := by
  simp [since]

/-- A cutoff forgets what an earlier one has dropped. -/
theorem since_since (ordered : cutoff ≤ later) (entries : List α) :
    since stamp later (since stamp cutoff entries) = since stamp later entries := by
  simp only [since, List.filter_filter]
  apply List.filter_congr
  intro entry _
  by_cases young : later < stamp entry
  · simp [young, ordered.trans_lt young]
  · simp [young]

theorem since_eq_nil {entries : List α} (old : ∀ entry ∈ entries, stamp entry ≤ cutoff) :
    since stamp cutoff entries = [] := by
  simp only [since, List.filter_eq_nil_iff, decide_eq_true_eq, not_lt]
  exact old

theorem retains_refl : Retains stamp cutoff history history :=
  fun _ _ => rfl

theorem Retains.since_eq (retains : Retains stamp cutoff kept history) :
    since stamp cutoff kept = since stamp cutoff history :=
  retains cutoff le_rfl

theorem Retains.mono (retains : Retains stamp cutoff kept history) (ordered : cutoff ≤ later) :
    Retains stamp later kept history :=
  fun latest bound => retains latest (ordered.trans bound)

/-- Pruning up to the cutoff loses nothing that counts. -/
theorem Retains.prune (retains : Retains stamp cutoff kept history) :
    Retains stamp cutoff (since stamp cutoff kept) history := by
  intro latest bound
  rw [since_since bound, retains latest bound]

theorem Retains.append (retains : Retains stamp cutoff kept history) (entries : List α) :
    Retains stamp cutoff (kept ++ entries) (history ++ entries) := by
  intro latest bound
  rw [since_append, since_append, retains latest bound]

/-- Entries that are all too old may be dropped at once. -/
theorem Retains.wipe (retains : Retains stamp cutoff kept history)
    (old : ∀ entry ∈ kept, stamp entry ≤ cutoff) : Retains stamp cutoff [] history := by
  intro latest bound
  rw [← retains latest bound, since_nil, since_eq_nil]
  intro entry mem
  exact (old entry mem).trans bound

/-- Stamps each of which was admitted with fewer than the limit in the window behind it. -/
def AdmittedBelow (start : τ → τ) (limit : ℤ) (stamps : List τ) : Prop :=
  ∀ before now rest, stamps = before ++ now :: rest →
    ((since id (start now) before).length : ℤ) < limit

/-- No window reaches further back than the one behind its last stamp. -/
def Spans (start : τ → τ) (window : τ → Bool) : Prop :=
  ∀ early late, window early → window late → start late < early

theorem admittedBelow_nil (start : τ → τ) (limit : ℤ) : AdmittedBelow start limit [] := by
  intro before now rest split
  simp at split

theorem AdmittedBelow.append {start : τ → τ} {limit : ℤ} {stamps : List τ} {now : τ}
    (admitted : AdmittedBelow start limit stamps)
    (room : ((since id (start now) stamps).length : ℤ) < limit) :
    AdmittedBelow start limit (stamps ++ [now]) := by
  intro before now' rest split
  rcases concat_eq_append_cons_iff.mp split with ⟨rfl, rfl, rfl⟩ | ⟨rest', rfl, rfl⟩
  · exact room
  · exact admitted before now' rest' rfl

/-- A limit on the windows behind the stamps limits every window. -/
theorem AdmittedBelow.window_le {start : τ → τ} {limit : ℤ} {stamps : List τ}
    (admitted : AdmittedBelow start limit stamps) {window : τ → Bool}
    (spans : Spans start window) : ((stamps.filter window).length : ℤ) ≤ max 0 limit := by
  induction stamps using List.reverseRecOn with
  | nil => simp
  | append_singleton stamps now ih =>
      have earlier : AdmittedBelow start limit stamps := by
        intro before now' rest split
        apply admitted before now' (rest ++ [now])
        simp [split]
      rcases inside : window now with _ | _
      · have same : (stamps ++ [now]).filter window = stamps.filter window := by
          simp [List.filter_append, inside]
        rw [same]
        exact ih earlier
      · have behind : ((stamps.filter window).length : ℤ) ≤
            (since id (start now) stamps).length := by
          have covered : stamps.filter window =
              (since id (start now) stamps).filter window := by
            rw [since, List.filter_filter]
            apply List.filter_congr
            intro early _
            rcases early_in : window early with _ | _
            · rfl
            · simp [spans early now early_in inside]
          rw [covered]
          exact_mod_cast List.length_filter_le _ _
        have below := admitted stamps now [] rfl
        simp only [List.filter_append, List.length_append, List.filter_cons, inside, if_true,
          List.filter_nil, List.length_singleton]
        push_cast
        have capped := le_max_right 0 limit
        omega

end Cooperative
