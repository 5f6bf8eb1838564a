import ReplicatedSpace.Proofs.Retrying

/-!
A client over all its time. What holds of a coordinator and of all that has happened to its client
is kept by what the client does, by calls that arrive, and by delays that its user sets; nothing
else touches either. A client asks the name server and the sequencer at one place each, and once it
is done with an operation it stays as it is.
-/
namespace ReplicatedSpace

theorem Coordinator.setDelay_kept {coordinator changed : Coordinator} {qualifier : String}
    {delay : Span} (set : coordinator.setDelay qualifier delay = .ok changed) :
    changed.handle = coordinator.handle ∧ changed.replicas = coordinator.replicas := by
  rw [setDelay_eq] at set
  split at set
  · cases set
  · cases set
    exact ⟨rfl, rfl⟩

namespace Timeline

variable {world : World} {settings : List Settings} {before timeline later : Timeline}
  {index : Nat} {client : Client} {coordinator : Coordinator} {task : Task}

theorem Deed.overrides {effect : Effect} {events : List Event}
    (deed : Deed world timeline coordinator task effect events client) :
    client.coordinator.overrides = coordinator.overrides := by
  rcases deed.coordinator with same | same | ⟨replicas, same⟩ | ⟨handle, same⟩ <;>
    rw [same] <;> rfl

/-- What the own user of a client does changes nothing, or sets a delay and is logged. -/
theorem Requests.own (onward : before.Onward timeline)
    (requests : timeline.Requests index later) (found : later.clients[index]? = some client) :
    ∃ earlier, timeline.clients[index]? = some earlier ∧
      (client.coordinator = earlier.coordinator ∧
          later.account before index = timeline.account before index ∨
        ∃ qualifier delay, earlier.coordinator.setDelay qualifier delay = .ok client.coordinator ∧
          later.account before index =
            .delaySet qualifier delay :: timeline.account before index) := by
  cases requests with
  | operation free operation argument retries start =>
    have account : (timeline.submit index operation argument retries start).account before index =
        timeline.account before index := by
      obtain ⟨clients, turns, same⟩ := timeline.submit_books index operation argument retries start
      rw [same]
      exact account_of_past index onward (List.nil_append _).symm
    rcases client?_of_submit found with same | ⟨_, earlier, own, renewed⟩
    · exact ⟨client, same, .inl ⟨rfl, account⟩⟩
    · exact ⟨earlier, own, .inl ⟨by rw [renewed], account⟩⟩
  | delay free qualifier delay =>
    cases own : timeline.clients[index]? with
    | none =>
      have same : timeline.requestDelay index qualifier delay = timeline := by
        simp [requestDelay, setDelay, own]
      rw [same, own] at found
      cases found
    | some earlier =>
      rcases timeline.setDelay_cases index own qualifier delay with
        ⟨_, same⟩ | ⟨changed, set, same⟩
      · rw [same] at found ⊢
        cases own.symm.trans found
        exact ⟨client, rfl, .inl ⟨rfl, rfl⟩⟩
      · have inside := (List.getElem?_eq_some_iff.mp own).1
        rw [same] at found ⊢
        simp only [setClient, log, List.getElem?_set_self inside] at found
        cases found
        refine ⟨earlier, rfl, .inr ⟨qualifier, delay, set, ?_⟩⟩
        have past : ((timeline.log index (.delaySet qualifier delay)).setClient index
            { earlier with coordinator := changed }).past =
              ⟨timeline.now, index, .delaySet qualifier delay⟩ :: timeline.past := rfl
        rw [account_of_moment index onward past]
        simp [Moment.eventOf?]

/-- What holds of a coordinator that knows nothing and of an empty account, and is kept by each
deed of the client, by calls that arrive, and by delays that are set, holds wherever a client has
come to. -/
theorem Reached.account_induction {motive : List Event → Coordinator → Prop}
    (begins : ∀ own : Settings, motive [] (.ofSettings own))
    (deeds : ∀ timeline coordinator task effect events client account,
      timeline.Reached world settings →
      timeline.clients[index]? = some ⟨coordinator, .busy task⟩ →
      Deed world timeline coordinator task effect events client →
      motive account coordinator → motive (events.reverse ++ account) client.coordinator)
    (arrivals : ∀ coordinator account call,
      motive account coordinator → motive (.arrived call :: account) coordinator)
    (delays : ∀ coordinator changed account qualifier delay,
      coordinator.setDelay qualifier delay = .ok changed → motive account coordinator →
        motive (.delaySet qualifier delay :: account) changed)
    (reached : timeline.Reached world settings) (found : timeline.clients[index]? = some client) :
    motive (timeline.account (Timeline.opening settings) index) client.coordinator := by
  have stays {timeline later : Timeline} {coordinator : Coordinator}
      (unmoved : Unmoved (Timeline.opening settings) index timeline later)
      (holds : motive (timeline.account (Timeline.opening settings) index) coordinator) :
      motive (later.account (Timeline.opening settings) index) coordinator := by
    cases unmoved.adds with
    | nothing account => exact account ▸ holds
    | arrival call account => exact account ▸ arrivals coordinator _ call holds
  induction reached generalizing client with
  | opening =>
    rw [account_of_opening]
    simp only [Timeline.opening, List.getElem?_map, Option.map_eq_some_iff] at found
    obtain ⟨own, _, same⟩ := found
    subst same
    exact begins own
  | moves reached moves ih =>
    rcases reached.cases reached.onward moves with
      ⟨coordinator, task, effect, events, client', busy, found', does⟩ |
      ⟨middle, _, _, unmoved, unmoved'⟩
    · cases found.symm.trans found'
      rw [does.account]
      exact deeds _ _ _ _ _ _ _ reached busy does.deed (ih busy)
    · rw [unmoved'.client, unmoved.client] at found
      exact stays unmoved' (stays unmoved (ih found))
  | requests reached requests ih =>
    rename_i mover
    by_cases own : mover = index
    · subst own
      obtain ⟨earlier, found', ⟨same, account⟩ | ⟨qualifier, delay, set, account⟩⟩ :=
        requests.own reached.onward found
      · rw [same, account]
        exact ih found'
      · rw [account]
        exact delays _ _ _ _ _ set (ih found')
    · have unmoved := requests.unmoved reached.onward own
      rw [unmoved.client] at found
      exact stays unmoved (ih found)

theorem result?_of_found {result : Except Error Outcome} {time : Nat}
    (found : timeline.clients[index]? = some ⟨coordinator, .finished result time⟩) :
    timeline.result? index = some (result, time) := by
  rw [result?, found]

/-- While its user waits, either a client does something, or something happens while it does
nothing. -/
theorem Beside.cases (reached : timeline.Reached world settings) (onward : before.Onward timeline)
    (beside : Beside world index timeline later) :
    (∃ coordinator task effect events client,
      timeline.clients[index]? = some ⟨coordinator, .busy task⟩ ∧
      later.clients[index]? = some client ∧
      Does world before index timeline coordinator task effect events client later) ∨
    ∃ middle, timeline.Balanced ∧ middle.Balanced ∧ Unmoved before index timeline middle ∧
      Unmoved before index middle later := by
  rcases beside with moves | ⟨mover, other, requests⟩
  · exact reached.cases onward moves
  · have balanced := reached.balanced
    exact .inr ⟨timeline, balanced, balanced, ⟨rfl, .refl _, .nothing rfl (.refl _)⟩,
      requests.unmoved onward other⟩

theorem Reached.course (reached : timeline.Reached world settings)
    (course : Course world index timeline later) : later.Reached world settings := by
  induction course with
  | refl => exact reached
  | tail _ beside ih =>
    rcases beside with moves | ⟨_, _, requests⟩
    · exact ih.moves moves
    · exact ih.requests requests

theorem Course.onward (course : Course world index timeline later) : timeline.Onward later := by
  induction course with
  | refl => exact .refl _
  | tail _ beside ih =>
    rcases beside with moves | ⟨_, _, requests⟩
    · exact ih.trans moves.onward
    · exact ih.trans requests.onward

theorem Unmoved.quiet (unmoved : Unmoved before index timeline later)
    (none : timeline.pending before index = []) :
    later.account before index = timeline.account before index ∧
      later.pending before index = [] := by
  cases unmoved.adds with
  | nothing account pending => exact ⟨account, (none ▸ pending).eq_nil⟩
  | arrival call _ taken =>
    rw [none] at taken
    exact absurd taken.length_eq (by simp)

/-- A client that is at no operation, with no call pending, stays as it is, and nothing more happens
to it. -/
theorem Course.rests (reached : timeline.Reached world settings) (onward : before.Onward timeline)
    (found : timeline.clients[index]? = some client) (idle : client.isBusy = false)
    (none : timeline.pending before index = []) (course : Course world index timeline later) :
    later.clients[index]? = some client ∧
      later.account before index = timeline.account before index ∧
      later.pending before index = [] := by
  induction course with
  | refl => exact ⟨found, rfl, none⟩
  | tail course beside ih =>
    obtain ⟨found', account, none'⟩ := ih
    rcases Beside.cases (reached.course course) (onward.trans (Course.onward course)) beside with
      ⟨coordinator, task, _, _, _, busy, _⟩ | ⟨middle, _, _, unmoved, unmoved'⟩
    · cases found'.symm.trans busy
      cases idle
    · obtain ⟨account', quiet⟩ := unmoved.quiet none'
      obtain ⟨account'', quiet'⟩ := unmoved'.quiet quiet
      exact ⟨(unmoved'.client.trans unmoved.client).trans found',
        (account''.trans account').trans account, quiet'⟩

theorem Course.rests_after {effect : Effect} {events : List Event} {earlier : Client}
    (reached : timeline.Reached world settings) (onward : before.Onward timeline)
    (found : timeline.clients[index]? = some earlier)
    (moves : timeline.Moves world ((timeline.carry index effect).enact index events client))
    (deeds : ∀ event ∈ events, event.isDeed = true) (silent : effect = .quiet ∨ effect = .renewal)
    (idle : client.isBusy = false) (none : timeline.pending before index = [])
    (course : Course world index ((timeline.carry index effect).enact index events client) later) :
    later.clients[index]? = some client ∧
      later.account before index = events.reverse ++ timeline.account before index ∧
      later.pending before index = [] := by
  have inside := (List.getElem?_eq_some_iff.mp found).1
  have here : ((timeline.carry index effect).enact index events client).clients[index]? =
      some client := by
    simp [enact, inside]
  have quiet : ((timeline.carry index effect).enact index events client).pending before index =
      [] := by
    rcases silent with same | same
    · rw [same]
      exact none
    · rw [same]
      exact none
  obtain ⟨found', account, quiet'⟩ :=
    course.rests (reached.moves moves) (onward.trans moves.onward) here idle quiet
  exact ⟨found', account.trans (account_enact onward deeds), quiet'⟩

variable {operation : Operation} {argument : String} {retries : UInt32} {start : Nat}
  {activity : Activity}

/-- An operation whose argument is refused ends with that and does nothing else, and its coordinator
stays as it was. -/
theorem Course.refused_quietly {error : Error} (reached : before.Reached world settings)
    (free : before.Free index) (found : before.clients[index]? = some ⟨coordinator, activity⟩)
    (refused : operation.check argument = .error error)
    (course : Course world index (before.submit index operation argument retries start) later) :
    later.pending before index = [] ∧
    ∃ activity', later.clients[index]? = some ⟨coordinator, activity'⟩ ∧
      (activity' = .busy ⟨⟨operation, argument, 1⟩, retries, .waiting start⟩ ∧
          later.account before index = [] ∨
        ∃ time, activity' = .finished (.error error) time ∧ later.account before index =
          [.ended (.error error), .begun operation argument retries]) := by
  have requests := Requests.operation free operation argument retries start
  have submitted := reached.requests requests
  induction course with
  | refl =>
    have inside := (List.getElem?_eq_some_iff.mp found).1
    have waits : Executes before index operation argument retries coordinator.replicas.entries
        (before.submit index operation argument retries start)
        ⟨coordinator, .busy ⟨⟨operation, argument, 1⟩, retries, .waiting start⟩⟩ := by
      apply Executes.submitted reached.balanced
      · rw [submit_eq found]
      · rw [submit_eq found]
        rfl
    cases waits with
    | waiting _ account pending =>
      refine ⟨pending, _, ?_, .inl ⟨rfl, account⟩⟩
      rw [submit_eq found]
      simp [inside]
    | opened _ _ _ place => rcases place with ⟨same, _⟩ | ⟨_, same, _⟩ <;> cases same
  | tail course beside ih =>
    obtain ⟨quiet, activity', found', stands⟩ := ih
    have onward := requests.onward.trans (Course.onward course)
    rcases Beside.cases (submitted.course course) onward beside with
      ⟨coordinator', task, effect, events, client, busy, after, does⟩ |
      ⟨middle, _, _, unmoved, unmoved'⟩
    · cases found'.symm.trans busy
      rcases stands with ⟨same, none⟩ | ⟨time, same, _⟩
      · cases same
        have account := does.account
        have pending := does.pending
        have deed := does.deed
        cases deed with
        | refused _ refused' =>
          cases refused.symm.trans refused'
          refine ⟨(pending (.inl rfl)).trans quiet, _, after, .inr ⟨_, rfl, ?_⟩⟩
          rw [account, none]
          rfl
        | began _ accepted => cases refused.symm.trans accepted
        | sent sends => cases sends <;> contradiction
        | _ => contradiction
      · cases same
    · obtain ⟨account, quiet⟩ := unmoved.quiet quiet
      obtain ⟨account', quiet⟩ := unmoved'.quiet quiet
      rw [account', account]
      exact ⟨quiet, activity', (unmoved'.client.trans unmoved.client).trans found', stands⟩

theorem Course.refused {error : Error} (reached : before.Reached world settings)
    (free : before.Free index) (found : before.clients[index]? = some ⟨coordinator, activity⟩)
    (refused : operation.check argument = .error error)
    (course : Course world index (before.submit index operation argument retries start) later) :
    ∃ activity', later.clients[index]? = some ⟨coordinator, activity'⟩ ∧
      (activity' = .busy ⟨⟨operation, argument, 1⟩, retries, .waiting start⟩ ∨
        ∃ time, activity' = .finished (.error error) time) := by
  obtain ⟨_, activity', found', stands⟩ := course.refused_quietly reached free found refused
  refine ⟨activity', found', ?_⟩
  rcases stands with ⟨same, _⟩ | ⟨time, same, _⟩
  · exact .inl same
  · exact .inr ⟨time, same⟩

/-- An operation that has begun has an argument that is one, and its client is at one of its
stages. -/
theorem Course.begun (reached : before.Reached world settings) (free : before.Free index)
    (found : before.clients[index]? = some ⟨coordinator, activity⟩)
    (course : Course world index (before.submit index operation argument retries start) later)
    {known : Coordinator} (busy : later.clients[index]? = some ⟨known, .busy task⟩)
    (begun : ∀ start, task.stage ≠ .waiting start) :
    later.Reached world settings ∧ before.Onward later ∧
      before.Executes index operation argument retries coordinator.replicas.entries later
        ⟨known, .busy task⟩ := by
  cases check : operation.check argument with
  | ok =>
    obtain ⟨reached', onward, client, found', executes⟩ :=
      Course.executes reached free found check course
    cases found'.symm.trans busy
    exact ⟨reached', onward, executes⟩
  | error error =>
    obtain ⟨activity', found', stands⟩ := Course.refused reached free found check course
    cases found'.symm.trans busy
    rcases stands with same | ⟨time, same⟩
    · cases same
      exact absurd rfl (begun start)
    · cases same

/-- A client asks the name server when it knows no replicas, and the sequencer when it does. -/
inductive Inquires (timeline : Timeline) (index : Nat) (coordinator : Coordinator) (task : Task) :
    Step → Prop
  | lookup (stage : task.stage = .discovering) (unknown : coordinator.replicas.isEmpty = true) :
      Inquires timeline index coordinator task
        (.asks (.lookup coordinator.service coordinator.qualifier)
          ((timeline.log index (.attempt task.attempt.ordinal)).discover index coordinator task))
  | next (stage : task.stage = .ready) (ordered : task.attempt.operation.isOrdered = true) :
      Inquires timeline index coordinator task
        (.asks (.next coordinator.handle) (timeline.order index coordinator task))

theorem inquires_of_asks {question : Question} {resume : question.Answer → Timeline}
    (asks : timeline.proceed? index = some (.asks question resume)) :
    ∃ coordinator task, timeline.clients[index]? = some ⟨coordinator, .busy task⟩ ∧
      Inquires timeline index coordinator task (.asks question resume) := by
  unfold proceed? at asks
  split at asks
  · rename_i coordinator task found
    refine ⟨coordinator, task, found, ?_⟩
    split at asks
    · split at asks <;> cases asks
    · rename_i stage
      unfold attempt at asks
      dsimp only at asks
      split at asks <;> cases asks
      exact .lookup stage ‹_›
    · rename_i stage
      unfold engage at asks
      split at asks
      · rename_i operation
        cases asks
        exact .next stage (by rw [operation]; rfl)
      · rename_i operation
        cases asks
        exact .next stage (by rw [operation]; rfl)
      · cases asks
      · split at asks <;> cases asks
    · cases asks
    · obtain ⟨_, _, same⟩ := Option.map_eq_some_iff.mp asks
      cases same
  · cases asks

end Timeline
end ReplicatedSpace
