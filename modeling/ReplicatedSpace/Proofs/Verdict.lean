import ReplicatedSpace.Attempt

/-!
What verdicts say. An attempt that is decided early has succeeded; one that fails has waited for all
results, and its error is that of the failure that came first.
-/
namespace ReplicatedSpace

theorem Operation.ne_read_of_isOrdered {operation : Operation}
    (ordered : operation.isOrdered = true) : operation ≠ .read := by
  intro read
  rw [read] at ordered
  cases ordered

theorem Operation.isOrdered_of_ne {operation : Operation} (changes : operation ≠ .read)
    (everywhere : operation ≠ .getState) : operation.isOrdered = true := by
  cases operation with
  | put | take => rfl
  | read => exact absurd rfl changes
  | getState => exact absurd rfl everywhere

namespace Collector

variable {α : Type} {collector : Collector α}

theorem successes_of_no_failure (none : collector.failures = []) :
    collector.results = collector.successes.map .ok := by
  unfold failures at none
  unfold successes
  generalize collector.results = results at none ⊢
  induction results with
  | nil => rfl
  | cons first rest ih =>
    cases first with
    | error failure => cases none
    | ok payload => simpa using ih none

end Collector

namespace Attempt

variable {attempt : Attempt} {expected : Nat} {collector : Collector Outcome}
  {result : Except Error Outcome}

theorem readOver?_of_no_success (attempt : Attempt) (none : collector.successes = [])
    (thresholds : List Nat) (last? : Option ReplicaFailure) :
    attempt.readOver? collector thresholds last? =
      if ∀ threshold ∈ thresholds, threshold ≤ collector.counted then
        some (.error (attempt.firstFailure
          (if thresholds = [] then last? else collector.failures.head?)))
      else .none := by
  induction thresholds generalizing last? with
  | nil => simp [readOver?]
  | cons threshold thresholds ih =>
    rw [readOver?]
    by_cases reached : threshold ≤ collector.counted
    · simp only [Collector.reaches, reached, Collector.snapshot, none, List.head?_nil, ih,
        List.forall_mem_cons, decide_true, if_true, true_and, ite_self, reduceCtorEq, if_false]
    · simp [Collector.reaches, reached]

theorem readOver?_of_success (attempt : Attempt) {outcome : Outcome}
    (first : collector.successes.head? = some outcome) {threshold : Nat}
    (reached : threshold ≤ collector.counted) (thresholds : List Nat)
    (last? : Option ReplicaFailure) :
    attempt.readOver? collector (threshold :: thresholds) last? = some (.ok outcome) := by
  simp [readOver?, Collector.reaches, reached, Collector.snapshot, first]

theorem readVerdict?_of_success (attempt : Attempt) {outcome : Outcome}
    (whole : collector.results.length = collector.counted) (positive : 0 < expected)
    (first : collector.successes.head? = some outcome) :
    attempt.readVerdict? expected collector = some (.ok outcome) := by
  obtain ⟨rest, rfl⟩ := Nat.exists_eq_add_one.mpr positive
  apply attempt.readOver?_of_success first
  rw [← whole]
  refine List.length_pos_iff.mpr fun none => ?_
  rw [Collector.successes, none] at first
  cases first

theorem forall_range'_le {count bound : Nat} :
    (∀ threshold ∈ List.range' 1 count, threshold ≤ bound) ↔ count ≤ bound := by
  simp only [List.mem_range'_1]
  constructor
  · intro each
    rcases Nat.eq_zero_or_pos count with none | some
    · exact none ▸ Nat.zero_le _
    · exact each count (by omega)
  · omega

theorem readVerdict?_of_no_success (attempt : Attempt) (expected : Nat)
    (none : collector.successes = []) :
    attempt.readVerdict? expected collector =
      if collector.reaches expected then
        some (.error (attempt.firstFailure
          (if expected = 0 then .none else collector.failures.head?)))
      else .none := by
  simp only [readVerdict?, attempt.readOver?_of_no_success none, forall_range'_le,
    Collector.reaches, decide_eq_true_eq, List.range'_eq_nil_iff]

theorem readVerdict?_cases_of_success (attempt : Attempt) (expected : Nat) {outcome : Outcome}
    (first : collector.successes.head? = some outcome) :
    expected = 0 ∧ attempt.readVerdict? expected collector =
        some (.error (attempt.firstFailure none)) ∨
      0 < expected ∧ attempt.readVerdict? expected collector =
        if collector.reaches 1 then some (.ok outcome) else none := by
  cases expected with
  | zero => exact .inl ⟨rfl, rfl⟩
  | succ rest =>
    refine .inr ⟨Nat.succ_pos _, ?_⟩
    simp [readVerdict?, List.range'_succ, readOver?, Collector.snapshot, first]

theorem verdict?_cases (attempt : Attempt) (expected : Nat) (collector : Collector Outcome) :
    attempt.operation = .read ∧
        attempt.verdict? expected collector = attempt.readVerdict? expected collector ∨
      attempt.operation ≠ .read ∧
        attempt.verdict? expected collector = attempt.jointVerdict? expected collector := by
  unfold verdict?
  split <;> simp_all

theorem verdict?_isSome (reaches : collector.reaches expected = true) :
    (attempt.verdict? expected collector).isSome = true := by
  rcases attempt.verdict?_cases expected collector with ⟨_, same⟩ | ⟨_, same⟩
  · rw [same]
    cases successes : collector.successes with
    | nil => rw [attempt.readVerdict?_of_no_success _ successes, if_pos reaches]; rfl
    | cons outcome rest =>
      have first : collector.successes.head? = some outcome := successes ▸ rfl
      rcases attempt.readVerdict?_cases_of_success expected first with ⟨_, same⟩ | ⟨some_, same⟩
      · rw [same]; rfl
      · have one : collector.reaches 1 = true :=
          decide_eq_true (Nat.le_trans some_ (of_decide_eq_true reaches))
        rw [same, if_pos one]; rfl
  · rw [same, jointVerdict?, if_pos reaches]
    rfl

theorem error_of_readVerdict? {error : Error}
    (verdict : attempt.readVerdict? expected collector = some (.error error)) :
    collector.reaches expected = true ∧ ∃ failure?, error = attempt.firstFailure failure? ∧
      (0 < expected → failure? = collector.failures.head?) := by
  cases successes : collector.successes with
  | nil =>
    rw [attempt.readVerdict?_of_no_success _ successes] at verdict
    split at verdict
    · rename_i reaches
      cases verdict
      exact ⟨reaches, _, rfl, fun some_ => if_neg (Nat.pos_iff_ne_zero.mp some_)⟩
    · cases verdict
  | cons outcome rest =>
    have first : collector.successes.head? = some outcome := successes ▸ rfl
    rcases attempt.readVerdict?_cases_of_success expected first with ⟨none, same⟩ | ⟨_, same⟩
    · rw [same] at verdict
      cases verdict
      subst none
      exact ⟨rfl, none, rfl, fun some_ => absurd some_ (Nat.lt_irrefl 0)⟩
    · rw [same] at verdict
      split at verdict <;> cases verdict

theorem reaches_of_verdict? (verdict : attempt.verdict? expected collector = some result)
    (late : attempt.operation ≠ .read ∨ ∃ error, result = .error error) :
    collector.reaches expected = true := by
  rcases attempt.verdict?_cases expected collector with ⟨read, same⟩ | ⟨_, same⟩
  · obtain ⟨error, failed⟩ := late.resolve_left (fun other => other read)
    exact (error_of_readVerdict? (same.symm.trans (failed ▸ verdict))).1
  · rw [same, jointVerdict?] at verdict
    split at verdict
    · assumption
    · cases verdict

theorem error_of_verdict? {error : Error}
    (verdict : attempt.verdict? expected collector = some (.error error)) :
    ∃ failure?, error = attempt.firstFailure failure? ∧
      (0 < expected → failure? = collector.failures.head?) := by
  rcases attempt.verdict?_cases expected collector with ⟨_, same⟩ | ⟨_, same⟩
  · exact (error_of_readVerdict? (same.symm.trans verdict)).2
  · rw [same, jointVerdict?] at verdict
    split at verdict
    · split at verdict <;> cases verdict
      exact ⟨_, rfl, fun _ => rfl⟩
    · cases verdict

theorem verdict?_ordered (ordered : attempt.operation.isOrdered = true)
    (reaches : collector.reaches expected = true) (some_ : collector.results ≠ []) :
    (∃ failure rest, collector.failures = failure :: rest ∧
      attempt.verdict? expected collector = some (.error (attempt.failure failure.message))) ∨
    ∃ outcome rest, collector.failures = [] ∧ collector.successes = outcome :: rest ∧
      attempt.verdict? expected collector =
        some (.ok (if attempt.operation = .put then .done else outcome)) := by
  have joint : attempt.verdict? expected collector = attempt.jointVerdict? expected collector := by
    rcases attempt.verdict?_cases expected collector with ⟨read, _⟩ | ⟨_, same⟩
    · rw [read] at ordered
      cases ordered
    · exact same
  rw [joint, jointVerdict?, if_pos reaches]
  cases failures : collector.failures with
  | cons failure rest => exact .inl ⟨failure, rest, rfl, rfl⟩
  | nil =>
    cases successes : collector.successes with
    | nil =>
      rw [Collector.successes_of_no_failure failures, successes] at some_
      exact absurd rfl some_
    | cons outcome rest =>
      refine .inr ⟨outcome, rest, rfl, rfl, ?_⟩
      cases operation : attempt.operation with
      | put | take => rfl
      | read | getState => rw [operation] at ordered; cases ordered

end Attempt
end ReplicatedSpace
