import ReplicatedSpace.Proofs.Lifetime

/-!
Operations whose argument turns out to be wrong. Either it is refused before anything is asked, or
it names a stranger, nobody among the replicas that the latest attempt knows. That attempt calls
nobody, and what the client has got to know is all that is left of it.
-/
namespace ReplicatedSpace

/-- The name server never finds fault with an argument. What a sequencer or a replica reports is
told as a failure of theirs. -/
def World.Blameless (world : World) : Prop :=
  ∀ service qualifier fault, ¬ world (.lookup service qualifier) (.error (.invalidArgument fault))

/-- Nobody finds fault with an argument, and anything else may be answered. -/
def World.uncritical : World := fun question answer =>
  match question, answer with
  | .lookup .., answer | .next _, answer => ∀ fault, answer ≠ .error (.invalidArgument fault)
  | _, _ => True

theorem World.blameless_uncritical : uncritical.Blameless :=
  fun _ _ fault possible => possible fault rfl

theorem Coordinator.InStep.install_self {coordinator : Coordinator} (inStep : coordinator.InStep) :
    coordinator.install coordinator.replicas.entries = coordinator := by
  have installed := inStep.install coordinator.replicas.entries
  have same : (coordinator.install coordinator.replicas.entries).stagger = coordinator.stagger := by
    apply Stagger.ext_delay?
    intro place
    cases listed : coordinator.replicas.get? place with
    | some replica => exact (installed.delay listed).trans (inStep.delay listed).symm
    | none =>
      have outside : coordinator.replicas.size ≤ place := List.getElem?_eq_none_iff.mp listed
      have none {stagger : Stagger} (size : stagger.size = coordinator.replicas.size) :
          stagger.delay? place = none :=
        List.getElem?_eq_none (Nat.le_trans (Nat.le_of_eq size) outside)
      rw [none inStep.size, none installed.size]
  exact congrArg (fun stagger => { coordinator with stagger }) same

namespace Timeline

variable {world : World} {settings : List Settings} {before timeline later : Timeline}
  {index : Nat} {client : Client} {coordinator known final : Coordinator} {task : Task}
  {effect : Effect} {events : List Event} {operation : Operation} {argument : String}
  {retries : UInt32} {start : Nat} {activity : Activity} {fault : ArgumentFault} {time : Nat}
  {first : List Replica} {latest : Trail} {older : List Trail}

theorem Deed.install (deed : Deed world timeline coordinator task effect events client)
    (unordered : task.attempt.operation.isOrdered = false) (replicas : List Replica) :
    client.coordinator.install replicas = coordinator.install replicas := by
  cases deed with
  | found => rfl
  | unnumbered _ ordered =>
    rw [unordered] at ordered
    cases ordered
  | lost _ _ _ _ ends | decided _ _ _ ends => cases ends <;> rfl
  | _ => rfl

/-- The latest attempt of an operation knows replicas and finds nobody with the qualifier that was
asked for among them. -/
structure Strayed (timeline before : Timeline) (index : Nat) (argument : String) (retries : UInt32)
    (first entries : List Replica) (latest : Trail) (older : List Trail) : Prop where
  told : Told .getState argument retries (timeline.account before index) (latest :: older)
  failed : timeline.Failed index .getState argument first older
  lookups : latest.lookups = if Trail.initialAfter first older = [] then 1 else 0
  known : latest.known (Trail.initialAfter first older) = some entries
  nonempty : entries ≠ []
  strangers : ∀ replica ∈ entries, replica.qualifier ≠ argument
  answers : latest.answers = []
  calls : latest.calls = []
  pending : timeline.pending before index = []

theorem Strayed.unmoved {entries : List Replica} (balanced : timeline.Balanced)
    (strayed : timeline.Strayed before index argument retries first entries latest older)
    (unmoved : Unmoved before index timeline later) :
    later.Strayed before index argument retries first entries latest older := by
  obtain ⟨account, pending⟩ := unmoved.quiet strayed.pending
  exact { strayed with
    told := account ▸ strayed.told
    failed := strayed.failed.kept balanced unmoved.onward
    pending }

theorem Executes.operation_eq
    (executes : Executes before index operation argument retries first timeline
      ⟨coordinator, .busy task⟩) : task.attempt.operation = operation := by
  cases executes <;> rfl

/-- An operation that has begun finds its argument wrong only when it asks for the state of a
stranger. -/
theorem Executes.strays (blameless : world.Blameless)
    (wellFormed : operation.check argument = .ok ())
    (executes : Executes before index operation argument retries first timeline
      ⟨coordinator, .busy task⟩)
    (does : Does world before index timeline coordinator task effect events
      ⟨final, .finished (.error (.invalidArgument fault)) time⟩ later) :
    operation = .getState ∧ fault = .unknownQualifier argument ∧ ∃ latest older,
      later.Strayed before index argument retries first final.replicas.entries latest older := by
  have account := does.account
  have pending := does.pending
  have engaged := does.engaged
  have deed := does.deed
  generalize result : (.error (.invalidArgument fault) : Except Error Outcome) = ending at deed
  cases deed with
  | refused stage refused =>
    cases executes with
    | waiting => cases wellFormed.symm.trans refused
    | opened _ _ _ place =>
      rcases place with ⟨same, _⟩ | ⟨_, same, _⟩ <;> cases same.symm.trans stage
    | _ => cases stage
  | unnumbered stage ordered admitted =>
    rename_i error
    obtain ⟨reason, told, _⟩ := error.asOrdering_cases
    rw [told] at result
    cases result
  | lost stage unknown admitted cause ends =>
    cases ends with
    | final =>
      cases result
      rcases cause with same | ⟨_, same⟩
      · exact absurd (same ▸ admitted) (blameless _ _ fault)
      · cases same
    | spent retryable =>
      cases result
      cases retryable
  | decided stage opened verdict ends =>
    cases ends with
    | final =>
      subst result
      obtain ⟨_, told, _⟩ := Attempt.error_of_verdict? verdict
      cases told
    | spent retryable =>
      cases result
      cases retryable
  | astray stage state missing =>
    rw [Engaged, stage] at engaged
    cases executes with
    | @opened _ _ _ _ answers trail _ told failed opened place budget quiet =>
      cases result
      dsimp only at state missing
      subst state
      have none : ∀ replica ∈ coordinator.replicas.entries, replica.qualifier ≠ argument := by
        rw [ReplicaSet.find?_eq] at missing
        intro replica present
        simpa using List.find?_eq_none.mp missing replica present
      let ended : Event := .ended (.error (.invalidArgument (.unknownQualifier argument)))
      have told' := told.extend [ended] (by simp [Event.isWithin, ended])
      have unasked : answers = [] := by
        rcases place with ⟨_, same⟩ | ⟨_, same, _⟩
        · exact same
        · cases same.symm.trans stage
      exact ⟨rfl, rfl, trail.extend [ended], _, {
        told := by rw [account]; exact told'
        failed := failed.kept does.balanced does.onward
        lookups := opened.lookups
        known := opened.known
        nonempty := engaged
        strangers := none
        answers := opened.answers.trans unasked
        calls := opened.calls
        pending := (pending (.inl rfl)).trans quiet }⟩
    | _ => cases stage

theorem Course.install (reached : before.Reached world settings) (free : before.Free index)
    (found : before.clients[index]? = some ⟨coordinator, activity⟩)
    (wellFormed : operation.check argument = .ok ()) (unordered : operation.isOrdered = false)
    (course : Course world index (before.submit index operation argument retries start) later)
    (found' : later.clients[index]? = some client) (replicas : List Replica) :
    client.coordinator.install replicas = coordinator.install replicas := by
  induction course generalizing client with
  | refl =>
    have inside := (List.getElem?_eq_some_iff.mp found).1
    rw [submit_eq found, List.getElem?_set_self inside] at found'
    cases found'
    rfl
  | tail course beside ih =>
    obtain ⟨reached', onward, earlier, at', executes⟩ :=
      Course.executes reached free found wellFormed course
    rcases Beside.cases reached' onward beside with
      ⟨known, task, effect, events, client', busy, after, does⟩ |
      ⟨middle, _, _, unmoved, unmoved'⟩
    · cases at'.symm.trans busy
      cases found'.symm.trans after
      have unordered' : task.attempt.operation.isOrdered = false :=
        executes.operation_eq ▸ unordered
      exact (Deed.install does.deed unordered' replicas).trans (ih busy)
    · rw [unmoved'.client, unmoved.client] at found'
      exact ih found'

/-- An operation that has begun and found its argument wrong has asked for the state of a
stranger. -/
theorem Course.strays (blameless : world.Blameless) (reached : before.Reached world settings)
    (free : before.Free index) (found : before.clients[index]? = some ⟨coordinator, activity⟩)
    (wellFormed : operation.check argument = .ok ())
    (course : Course world index (before.submit index operation argument retries start) later)
    (ended : later.clients[index]? =
      some ⟨final, .finished (.error (.invalidArgument fault)) time⟩) :
    operation = .getState ∧ fault = .unknownQualifier argument ∧ ∃ latest older,
      later.Strayed before index argument retries coordinator.replicas.entries
        final.replicas.entries latest older := by
  induction course with
  | refl =>
    have inside := (List.getElem?_eq_some_iff.mp found).1
    rw [submit_eq found, List.getElem?_set_self inside] at ended
    cases ended
  | tail course beside ih =>
    obtain ⟨reached', onward, client, found', executes⟩ :=
      Course.executes reached free found wellFormed course
    rcases Beside.cases reached' onward beside with
      ⟨known, task, effect, events, client', busy, after, does⟩ |
      ⟨middle, balanced, balanced', unmoved, unmoved'⟩
    · cases found'.symm.trans busy
      cases ended.symm.trans after
      exact executes.strays blameless wellFormed does
    · rw [unmoved'.client, unmoved.client] at ended
      obtain ⟨state, stranger, latest, older, strayed⟩ := ih ended
      exact ⟨state, stranger, latest, older,
        (strayed.unmoved balanced unmoved).unmoved balanced' unmoved'⟩

theorem Failed.answers (failed : timeline.Failed index operation argument first older)
    (unordered : operation.isOrdered = false) : ∀ trail ∈ older, trail.answers = [] := by
  induction failed with
  | none => simp
  | more _ attempted _ _ ih =>
    intro trail present
    rcases List.mem_cons.mp present with here | there
    · subst here
      apply List.eq_nil_of_length_eq_zero
      simpa [unordered] using attempted.answers
    · exact ih trail there

/-- Where the name server finds no fault with arguments, an operation ends with a wrong argument in
two ways. Either the argument is refused: nobody is asked or called, and all is as it was. Or it is
the qualifier of a stranger whose state is asked for. Then no number is asked for, and the latest
attempt calls nobody; each attempt before it failed, with all its calls arrived. All that has
changed are the replicas and their delays; nothing has if they were known and this was the first
attempt. -/
theorem invalid_argument_refused_or_strayed (blameless : world.Blameless)
    (reached : before.Reached world settings) (free : before.Free index)
    (found : before.clients[index]? = some ⟨coordinator, activity⟩)
    (course : Course world index (before.submit index operation argument retries start) later)
    (ended : later.clients[index]? =
      some ⟨final, .finished (.error (.invalidArgument fault)) time⟩) :
    operation.check argument = .error (.invalidArgument fault) ∧
        later.account before index =
          [.ended (.error (.invalidArgument fault)), .begun operation argument retries] ∧
        later.pending before index = [] ∧ final = coordinator ∨
      operation.check argument = .ok () ∧ operation = .getState ∧
        fault = .unknownQualifier argument ∧ ∃ latest older,
        later.Strayed before index argument retries coordinator.replicas.entries
          final.replicas.entries latest older ∧
        (∀ trail ∈ latest :: older, trail.answers = []) ∧
        final = coordinator.install final.replicas.entries ∧
        (coordinator.replicas.entries ≠ [] → older = [] →
          latest.lookups = 0 ∧ final = coordinator) := by
  cases check : operation.check argument with
  | error error =>
    obtain ⟨quiet, activity', found', stands⟩ :=
      Course.refused_quietly reached free found check course
    cases found'.symm.trans ended
    rcases stands with ⟨busy, _⟩ | ⟨_, same, account⟩
    · cases busy
    · cases same
      exact .inl ⟨rfl, account, quiet, rfl⟩
  | ok accepted =>
    obtain ⟨state, stranger, latest, older, strayed⟩ :=
      Course.strays blameless reached free found check course ended
    subst state
    have submitted := reached.requests (.operation free .getState argument retries start)
    have inStep := ((submitted.course course).scheduled ended).inStep
    have installed : final = coordinator.install final.replicas.entries := by
      rw [← Course.install reached free found check rfl course ended]
      exact inStep.install_self.symm
    refine .inr ⟨rfl, rfl, stranger, latest, older, strayed, ?_, installed, ?_⟩
    · intro trail present
      rcases List.mem_cons.mp present with here | there
      · exact here ▸ strayed.answers
      · exact strayed.failed.answers rfl trail there
    · intro known alone
      subst alone
      have lookups := strayed.lookups
      have same := strayed.known
      rw [Trail.initialAfter, if_neg known] at lookups
      rw [Trail.initialAfter, Trail.known, if_neg known] at same
      refine ⟨lookups, ?_⟩
      rw [installed, ← Option.some.inj same]
      exact (reached.scheduled found).inStep.install_self

/-- A client that knew nobody has asked for the state of a stranger, and knows somebody now. -/
theorem stranger_of_fresh_client : ∃ (later : Timeline) (final : Coordinator) (latest : Trail)
    (older : List Trail),
    later.clients[0]? =
      some ⟨final, .finished (.error (.invalidArgument (.unknownQualifier "B"))) 0⟩ ∧
    later.Strayed (opening [.standard]) 0 "B" 1 [] [⟨"a:1", "A"⟩] latest older ∧
    final = (Coordinator.ofSettings .standard).install [⟨"a:1", "A"⟩] := by
  have idle : (opening [.standard]).Free 0 := fun client found => by cases found; rfl
  have start : Course .uncritical 0 ((opening [.standard]).submit 0 .getState "B" 1 0) _ := .refl
  have known := (start.goes (rfl : proceed? _ 0 = _)).learns
    (rfl : proceed? _ 0 = some (.asks (.lookup _ _) _)) (.ok [⟨"a:1", "A"⟩]) nofun
  have ended := known.goes (rfl : proceed? _ 0 = _)
  rcases @invalid_argument_refused_or_strayed .uncritical [.standard] _ _ 0 _ _ .getState "B" 1 0
    _ _ _ World.blameless_uncritical .opening idle rfl ended rfl with
    ⟨refused, _⟩ | ⟨_, _, _, latest, older, strayed, _, installed, _⟩
  · exact absurd refused (by decide +kernel)
  · exact ⟨_, _, latest, older, rfl, strayed, installed⟩

/-- The replicas have failed a client that asks for the state of one of them, and when it has looked
for others, that one has become a stranger. The argument is wrong now, after two lookups and a call,
and the client knows somebody. -/
theorem replica_becomes_stranger : ∃ (later : Timeline) (final : Coordinator) (call : Call),
    World.uncritical.Blameless ∧
    Course .uncritical 0 ((opening [.standard]).submit 0 .getState "B" 1 0) later ∧
    later.clients[0]? =
      some ⟨final, .finished (.error (.invalidArgument (.unknownQualifier "B"))) 0⟩ ∧
    (attemptsOf (later.account (opening [.standard]) 0)).map Trail.lookups = [1, 1] ∧
    (attemptsOf (later.account (opening [.standard]) 0)).map Trail.calls = [[], [call]] ∧
    (opening [.standard]).clients[0]? = some ⟨.ofSettings .standard, .idle⟩ ∧
    final ≠ .ofSettings .standard := by
  have start : Course .uncritical 0 ((opening [.standard]).submit 0 .getState "B" 1 0) _ := .refl
  have found := (start.goes (rfl : proceed? _ 0 = _)).learns
    (rfl : proceed? _ 0 = some (.asks (.lookup _ _) _)) (.ok [⟨"b:1", "B"⟩]) nofun
  have sent := found.goes (rfl : proceed? _ 0 = _)
  let call : Call := ⟨0, 0, 0, ⟨"b:1", "B"⟩, .state⟩
  have failed := sent.arrives (rfl : fire? _ = some (.asks (.arrival call) _))
    (⟨0, .failed (.transport "down")⟩ : Reply (List String)) trivial
  have again := failed.goes (rfl : proceed? _ 0 = _)
  have known := again.learns (rfl : proceed? _ 0 = some (.asks (.lookup _ _) _))
    (.ok [⟨"a:1", "A"⟩]) nofun
  have ended := known.goes (rfl : proceed? _ 0 = _)
  exact ⟨_, _, call, World.blameless_uncritical, ended, rfl, rfl, rfl, rfl, by decide⟩

end Timeline
end ReplicatedSpace
