import ReplicatedSpace.Proofs.Lifetime

/-!
Discoveries that fail. An attempt for which no replicas are found asks neither the sequencer nor a
replica, and knows nobody in the end. The operation ends with it, unless the name server reports
that replicas have failed and there are retries left.
-/
namespace ReplicatedSpace

/-- An attempt asked the name server once, and got no further than an error. -/
structure Trail.Fruitless (trail : Trail) (error : Error) : Prop where
  lookups : trail.lookups = 1
  answers : trail.answers = []
  calls : trail.calls = []
  outcome : trail.outcome? = some (.error error)

section

variable {coordinator : Coordinator} {task : Task} {now : Nat} {events account : List Event}
  {client : Client} {result : Except Error Outcome} {error : Error} {operation : Operation}
  {argument : String} {retries : UInt32} {done : List Trail}

theorem Concludes.unknown (ends : Concludes now coordinator task result events client)
    (inStep : coordinator.InStep) (unknown : coordinator.replicas.entries = []) :
    client.coordinator.replicas.entries = [] ∧ client.coordinator.stagger.delays = [] := by
  cases ends with
  | final => exact ⟨unknown, inStep.delays_eq_nil unknown⟩
  | spent | again => exact ⟨rfl, rfl⟩

theorem Concludes.finished (ends : Concludes now coordinator task (.error error) events client)
    (stops : error.isRetryable = false ∨ task.retriesLeft = 0) :
    client.activity = .finished (.error error) now := by
  cases ends with
  | final | spent => rfl
  | again retryable left =>
    rcases stops with once | spent
    · cases once.symm.trans retryable
    · exact absurd spent left

theorem Told.fruitless (told : Told operation argument retries account done) (ordinal : UInt32)
    (service : String) (qualifier : Option String)
    (ends : Concludes now coordinator task (.error error) events client) :
    ∃ latest : Trail, latest.Fruitless error ∧
      attemptsOf ((Event.attempt ordinal :: .lookup service qualifier :: events).reverse ++
        account) = latest :: done := by
  have asked := (told.attempt ordinal).extend [.lookup service qualifier]
    (by simp [Event.isWithin])
  have told' := asked.extend events.reverse ends.isWithin
  obtain ⟨lookups, _, answers, calls, outcome⟩ := Timeline.views_of_concludes ends
    ⟨some (operation, argument), [.lookup service qualifier, .attempt ordinal]⟩
  refine ⟨_, ⟨lookups, answers, calls, outcome⟩, ?_⟩
  rw [List.reverse_cons, List.reverse_cons, List.append_assoc, List.append_assoc]
  exact told'.attempts

end

namespace Timeline

variable {world : World} {settings : List Settings} {before : Timeline} {index : Nat}
  {coordinator : Coordinator}

/-- An attempt for which no replicas are found comes to nothing but an error, and nobody is known
after it. Unless this is the error of a replica and there are retries left, the operation ends with
it, and nothing more happens to the client. -/
theorem operation_ends_without_replicas {activity : Activity}
    (reached : before.Reached world settings) (free : before.Free index)
    (found : before.clients[index]? = some ⟨coordinator, activity⟩)
    (operation : Operation) (argument : String) (retries : UInt32) (start : Nat)
    {middle : Timeline} {service : String} {qualifier : Option String}
    {resume : (Question.lookup service qualifier).Answer → Timeline}
    (course : Course world index (before.submit index operation argument retries start) middle)
    (asks : middle.proceed? index = some (.asks (.lookup service qualifier) resume))
    {answer : Except Error (List Replica)} {error : Error}
    (admitted : world (.lookup service qualifier) answer)
    (cause : answer = .error error ∨ answer = .ok [] ∧
      error = .noReplicasFound service (qualifier.getD "")) :
    ∃ (latest : Trail) (older : List Trail) (left : Client),
      attemptsOf (middle.account before index) = older ∧
      attemptsOf ((resume answer).account before index) = latest :: older ∧
      latest.Fruitless error ∧
      (resume answer).clients[index]? = some left ∧
      left.coordinator.replicas.entries = [] ∧ left.coordinator.stagger.delays = [] ∧
      (resume answer).pending before index = [] ∧
      (error.isRetryable = false ∨ older.length = retries.toNat →
        left.activity = .finished (.error error) middle.now ∧
        ∀ later, Course world index (resume answer) later →
          later.clients[index]? = some left ∧
          later.account before index = (resume answer).account before index ∧
          later.pending before index = []) := by
  obtain ⟨known, task, busy, inquires⟩ := inquires_of_asks asks
  cases inquires with
  | lookup stage unknown =>
    obtain ⟨reached', onward, executes⟩ :=
      Course.begun reached free found course busy (by simp [stage])
    have moves : middle.Moves world _ := .client asks (.answered _ admitted)
    obtain ⟨events, left, ends, same⟩ := middle.discover_lost index known task cause
    let news := .attempt task.attempt.ordinal :: .lookup known.service known.qualifier :: events
    have form : _ = (middle.carry index .quiet).enact index news left := same
    have deeds := (Deed.lost stage unknown admitted cause ends).isDeed
    have account : ((middle.carry index .quiet).enact index news left).account before index =
        news.reverse ++ middle.account before index := account_enact onward deeds
    have inStep := (reached'.scheduled busy).inStep
    obtain ⟨entries, delays⟩ := ends.unknown inStep (List.isEmpty_iff.mp unknown)
    rw [form] at moves ⊢
    cases executes with
    | discovering told failed nobody budget quiet =>
      rename_i ordinal retriesLeft done
      obtain ⟨latest, fruitless, attempts⟩ :=
        told.fruitless ordinal known.service known.qualifier ends
      have inside := (List.getElem?_eq_some_iff.mp busy).1
      refine ⟨latest, done, left, told.attempts, (congrArg attemptsOf account).trans attempts,
        fruitless, by simp [enact, inside], entries, delays, quiet, fun last => ?_⟩
      have stops : error.isRetryable = false ∨ retriesLeft = 0 :=
        last.imp_right fun all => UInt32.toNat_inj.mp (by rw [UInt32.toNat_zero]; omega)
      have finished := ends.finished stops
      have idle : left.isBusy = false := by rw [Client.isBusy, finished]
      refine ⟨finished, fun later course' => ?_⟩
      obtain ⟨rests, same, quiet'⟩ :=
        Course.rests_after reached' onward busy moves deeds (.inl rfl) idle quiet course'
      exact ⟨rests, same.trans account.symm, quiet'⟩
    | opened _ _ _ place =>
      rcases place with ⟨same, _⟩ | ⟨_, same, _⟩ <;> cases same.symm.trans stage
    | _ => cases stage

/-- A put for which the name server has no replicas is over, whatever retries are left. -/
theorem put_ends_where_nobody_is_found : ∃ (ended : Timeline) (latest : Trail) (left : Client),
    ended.clients[0]? = some left ∧ left.coordinator.replicas.entries = [] ∧
      left.activity = .finished (.error (.noReplicasFound "TupleSpaces" "")) 0 ∧
      attemptsOf (ended.account (opening [.standard]) 0) = [latest] ∧
      latest.Fruitless (.noReplicasFound "TupleSpaces" "") := by
  have idle : (opening [.standard]).Free 0 := fun client found => by cases found; rfl
  have start : Course .any 0 ((opening [.standard]).submit 0 .put "<a>" 1 0) _ := .refl
  have begun := start.goes (rfl : proceed? _ 0 = _)
  obtain ⟨latest, older, left, none, attempts, fruitless, found, unknown, _, _, ends⟩ :=
    @operation_ends_without_replicas .any [.standard] _ 0 _ _ .opening idle rfl .put "<a>" 1 0 _ _ _
      _ begun (rfl : proceed? _ 0 = some (.asks (.lookup _ _) _)) (.ok []) _ trivial
      (.inr ⟨rfl, rfl⟩)
  obtain ⟨finished, _⟩ := ends (.inl rfl)
  subst none
  exact ⟨_, latest, left, found, unknown, finished, attempts, fruitless⟩

/-- The name server reports that replicas have failed, and the client asks it again: the operation
succeeds at its second attempt. -/
theorem replica_error_of_lookup_is_retried : ∃ (middle later : Timeline)
    (resume : (Question.lookup "TupleSpaces" none).Answer → Timeline),
    Course .any 0 ((opening [.standard]).submit 0 .getState "A" 1 0) middle ∧
      middle.proceed? 0 = some (.asks (.lookup "TupleSpaces" none) resume) ∧
      Course .any 0 (resume (.error (.replicaOperationFailure .read "<x>" 1 "down"))) later ∧
      later.result? 0 = some (.ok (.state ["<a>"]), 0) ∧
      (attemptsOf (later.account (opening [.standard]) 0)).map Trail.lookups = [1, 1] := by
  have start : Course .any 0 ((opening [.standard]).submit 0 .getState "A" 1 0) _ := .refl
  have begun := start.goes (rfl : proceed? _ 0 = _)
  let known : Coordinator := .ofSettings .standard
  let middle := ((opening [.standard]).submit 0 .getState "A" 1 0).begin 0 known
    ⟨⟨.getState, "A", 1⟩, 1, .waiting 0⟩
  let failed := (middle.log 0 (.attempt 1)).discover 0 known
    ⟨⟨.getState, "A", 1⟩, 1, .discovering⟩ (.error (.replicaOperationFailure .read "<x>" 1 "down"))
  have again : Course .any 0 failed failed := .refl
  have found := again.learns (rfl : proceed? _ 0 = some (.asks (.lookup _ _) _))
    (.ok [⟨"a:1", "A"⟩]) trivial
  have sent := found.goes (rfl : proceed? _ 0 = _)
  let call : Call := ⟨0, 0, 0, ⟨"a:1", "A"⟩, .state⟩
  have returned := sent.arrives (rfl : fire? _ = some (.asks (.arrival call) _))
    (⟨0, .answered ["<a>"]⟩ : Reply (List String)) trivial
  have ended := returned.goes (rfl : proceed? _ 0 = _)
  exact ⟨_, _, _, begun, rfl, ended, rfl, rfl⟩

end Timeline
end ReplicatedSpace
