import ReplicatedSpace.Proofs.Replies
import ReplicatedSpace.Proofs.Tally

/-!
Operations in vain. Where there are always replicas and numbers, and every call fails, an operation
makes all the attempts that it may and then ends, in every run.
-/
namespace ReplicatedSpace

/-- Where all that came back are failures, the attempt has failed. -/
theorem Attempt.verdict_of_failures {attempt : Attempt} {expected : Nat}
    {collector : Collector Outcome} {result : Except Error Outcome}
    (failed : ∀ each ∈ collector.results, ∃ failure, each = .error failure)
    (called : collector.reaches expected = true → collector.results ≠ [])
    (verdict : attempt.verdict? expected collector = some result) :
    ∃ failure?, result = .error (attempt.firstFailure failure?) := by
  have successes : collector.successes = [] := by
    refine List.filterMap_eq_nil_iff.mpr fun each present => ?_
    obtain ⟨failure, same⟩ := failed each present
    rw [same]
  cases result with
  | error error =>
    obtain ⟨failure?, told, _⟩ := Attempt.error_of_verdict? verdict
    exact ⟨failure?, congrArg Except.error told⟩
  | ok outcome =>
    rcases attempt.verdict?_cases expected collector with ⟨_, same⟩ | ⟨late, same⟩
    · rw [same, attempt.readVerdict?_of_no_success _ successes] at verdict
      split at verdict <;> cases verdict
    · have all := called (Attempt.reaches_of_verdict? verdict (.inl late))
      have failures : collector.failures ≠ [] := by
        intro none
        rw [Collector.successes_of_no_failure none, successes] at all
        exact all rfl
      rw [same, Attempt.jointVerdict?] at verdict
      split at verdict
      · cases seen : collector.failures with
        | nil => exact absurd seen failures
        | cons failure rest =>
          rw [seen] at verdict
          cases verdict
      · cases verdict

/-- There are always replicas and numbers, and every call fails. -/
def World.failing : World := fun question answer =>
  match question, answer with
  | .lookup .., answer => ∃ replicas, answer = .ok replicas ∧ replicas ≠ []
  | .next _, answer => ∃ number, answer = .ok number
  | .arrival call, reply => ∃ failure, call.result reply.ending = .error failure

namespace Timeline

variable {world : World} {settings : List Settings} {before timeline later : Timeline}
  {index : Nat} {coordinator known final : Coordinator} {task : Task} {effect : Effect}
  {events : List Event} {operation : Operation} {argument : String} {retries : UInt32}
  {first : List Replica} {activity : Activity} {start time : Nat} {result : Except Error Outcome}

/-- An operation that every replica may fail ends when no retry is left. -/
theorem Executes.fails (wellFormed : operation.check argument = .ok ())
    (shared : operation ≠ .getState) (reached : timeline.Reached .failing settings)
    (executes : Executes before index operation argument retries first timeline
      ⟨coordinator, .busy task⟩)
    (does : Does .failing before index timeline coordinator task effect events
      ⟨final, .finished result time⟩ later) :
    task.retriesLeft = 0 ∧ ∃ reason, result =
      .error (.replicaOperationFailure operation argument task.attempt.ordinal reason) := by
  obtain ⟨asked, argued⟩ :
      task.attempt.operation = operation ∧ task.attempt.argument = argument := by
    cases executes <;> exact ⟨rfl, rfl⟩
  have engaged := does.engaged
  have deed := does.deed
  generalize ended : (⟨final, .finished result time⟩ : Client) = client at deed
  cases deed with
  | refused stage refused =>
    cases executes with
    | waiting => cases wellFormed.symm.trans refused
    | opened _ _ _ place =>
      rcases place with ⟨same, _⟩ | ⟨_, same, _⟩ <;> cases same.symm.trans stage
    | _ => cases stage
  | unnumbered stage ordered admitted =>
    obtain ⟨number, impossible⟩ := admitted
    cases impossible
  | lost stage unknown admitted cause ends =>
    obtain ⟨replicas, given, some_⟩ := admitted
    rcases cause with none | ⟨none, _⟩
    · cases given.symm.trans none
    · cases given.symm.trans none
      exact absurd rfl some_
  | astray stage state missing => exact absurd (asked.symm.trans state) shared
  | decided stage opened verdict ends =>
    rename_i round expected collector result'
    rw [Engaged, stage] at engaged
    have failed (each : CallResult Outcome) (present : each ∈ collector.results) :
        ∃ failure, each = .error failure := by
      obtain ⟨call, _, reply, ⟨failure, fails⟩, same⟩ := reached.collects opened present
      exact ⟨failure, same.symm.trans fails⟩
    have called (all : collector.reaches expected = true) : collector.results ≠ [] := by
      intro none
      have enough : expected ≤ collector.counted := of_decide_eq_true all
      rw [← does.balanced.whole opened, none] at enough
      exact absurd enough (Nat.not_le_of_lt engaged.positive)
    obtain ⟨failure?, rfl⟩ := Attempt.verdict_of_failures failed called verdict
    cases ends with
    | final final => cases final _ rfl
    | spent retryable spent =>
      cases ended
      rw [← asked, ← argued]
      exact ⟨spent, _, rfl⟩
    | again => cases ended
  | _ => cases ended

theorem Course.fails_at_last (wellFormed : operation.check argument = .ok ())
    (shared : operation ≠ .getState) (reached : before.Reached .failing settings)
    (free : before.Free index) (found : before.clients[index]? = some ⟨coordinator, activity⟩)
    (course : Course .failing index (before.submit index operation argument retries start) later)
    (ended : later.clients[index]? = some ⟨final, .finished result time⟩) :
    ∃ reason, result = .error (.replicaOperationFailure operation argument
      (UInt32.ofNat (retries.toNat + 1)) reason) := by
  induction course with
  | refl =>
    have inside := (List.getElem?_eq_some_iff.mp found).1
    rw [submit_eq found, List.getElem?_set_self inside] at ended
    cases ended
  | tail course beside ih =>
    obtain ⟨reached', onward, earlier, at', executes⟩ :=
      Course.executes reached free found wellFormed course
    rcases Beside.cases reached' onward beside with
      ⟨_, task, effect, events, client', busy, after, does⟩ | ⟨middle, _, _, unmoved, unmoved'⟩
    · cases at'.symm.trans busy
      cases ended.symm.trans after
      obtain ⟨spent, reason, same⟩ := executes.fails wellFormed shared reached' does
      obtain ⟨used, sum, ordinal⟩ := Course.counters reached free found course busy
      rw [spent, UInt32.toNat_zero] at sum
      rw [same, ordinal, ← sum]
      exact ⟨reason, rfl⟩
    · rw [unmoved'.client, unmoved.client] at ended
      exact ih ended

/-- Where all calls fail, an operation makes all the attempts that it may, and the number that its
error tells is theirs as far as the counter goes. -/
theorem Course.fails (wellFormed : operation.check argument = .ok ())
    (shared : operation ≠ .getState) (reached : before.Reached .failing settings)
    (free : before.Free index) (found : before.clients[index]? = some ⟨coordinator, activity⟩)
    (course : Course .failing index (before.submit index operation argument retries start) later)
    (ended : later.clients[index]? = some ⟨final, .finished result time⟩) :
    (attemptsOf (later.account before index)).length = retries.toNat + 1 ∧ ∃ reason,
      result = .error (.replicaOperationFailure operation argument
        (UInt32.ofNat (retries.toNat + 1)) reason) := by
  obtain ⟨reason, same⟩ := course.fails_at_last wellFormed shared reached free found ended
  obtain ⟨_, _, client, found', executes⟩ := course.executes reached free found wellFormed
  cases found'.symm.trans ended
  cases executes with
  | finished told _ _ _ _ last =>
    refine ⟨?_, reason, same⟩
    rw [told.attempts, List.length_cons, last _ same rfl]

theorem Reached.run_fails {σ : Type} {environment : Environment σ}
    (keeps : environment.Keeps .failing) (wellFormed : operation.check argument = .ok ())
    (shared : operation ≠ .getState) (reached : before.Reached .failing settings)
    (free : before.Free index) (found : before.clients[index]? = some ⟨coordinator, activity⟩)
    (retries : UInt32) (start : Nat) (state : σ) :
    let later := ((before.submit index operation argument retries start).run environment state).1
    (attemptsOf (later.account before index)).length = retries.toNat + 1 ∧ ∃ reason time,
      later.result? index = some (.error (.replicaOperationFailure operation argument
        (UInt32.ofNat (retries.toNat + 1)) reason), time) := by
  intro later
  have submitted := reached.requests (.operation free operation argument retries start)
  have course : Course .failing index (before.submit index operation argument retries start)
      later :=
    Relation.ReflTransGen.mono (fun _ _ moves => Or.inl moves) _ _ (submitted.run_path keeps state)
  obtain ⟨_, _, client, found', executes⟩ := course.executes reached free found wellFormed
  have idle := submitted.run_isBusy keeps state found'
  cases executes with
  | finished =>
    obtain ⟨made, reason, same⟩ := course.fails wellFormed shared reached free found found'
    have ended := result?_of_found found'
    rw [same] at ended
    exact ⟨made, reason, _, ended⟩
  | _ => cases idle

end Timeline
end ReplicatedSpace
