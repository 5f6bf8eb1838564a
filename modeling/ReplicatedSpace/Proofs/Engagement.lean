import ReplicatedSpace.Proofs.Ledger
import ReplicatedSpace.Proofs.Order
import ReplicatedSpace.Proofs.Schedule
import ReplicatedSpace.Proofs.Verdict

/-!
What a client at a stage of its operation can count on. One that waits for results has asked every
replica that it has to ask, once each, so their results decide its attempt; and one that could wait
for ever does not exist.
-/
namespace ReplicatedSpace

/-- The replicas that an operation asks, of those that are known. -/
def Operation.targets (operation : Operation) (argument : String) (known : List Replica) :
    List Replica :=
  match operation with
  | .getState => (known.find? (·.qualifier = argument)).toList
  | .put | .read | .take => known

/-- What an operation asks a replica: just what it is to do, with its argument, and with a number if
it changes the space. A question about the state has no argument. -/
structure Request.Fits (request : Request) (operation : Operation) (argument : String) : Prop where
  number : request.number?.isSome = operation.isOrdered
  argument : request.argument? = if operation = .getState then none else some argument
  operation : request.operation = operation

@[simp] theorem Request.number?_numbered (operation : Operation) (argument : String)
    (number : SequenceNumber) : (numbered operation argument number).number? = some number := by
  cases operation <;> rfl

theorem Request.fits_numbered {operation : Operation} (ordered : operation.isOrdered = true)
    (argument : String) (number : SequenceNumber) :
    (Request.numbered operation argument number).Fits operation argument := by
  cases operation with
  | put | take => exact ⟨rfl, rfl, rfl⟩
  | read | getState => cases ordered

namespace Request.Fits

variable {request : Request} {operation : Operation} {argument : String}

theorem argument_of_isOrdered (fits : request.Fits operation argument)
    (ordered : operation.isOrdered = true) : request.argument? = some argument := by
  cases operation with
  | put | take => exact fits.argument
  | read | getState => cases ordered

theorem exists_number (fits : request.Fits operation argument)
    (ordered : operation.isOrdered = true) : ∃ number, request.number? = some number :=
  Option.isSome_iff_exists.mp (fits.number.trans ordered)

theorem number?_eq_none (fits : request.Fits operation argument)
    (unordered : operation.isOrdered = false) : request.number? = none :=
  Option.isSome_eq_false_iff.mp (fits.number.trans unordered) |> Option.isNone_iff_eq_none.mp

theorem eq_numbered (fits : request.Fits operation argument) {number : SequenceNumber}
    (carries : request.number? = some number) : request = .numbered operation argument number := by
  obtain ⟨_, text, own⟩ := fits
  cases request with
  | put | take =>
    cases own
    cases text
    cases carries
    rfl
  | read | state => cases carries

theorem eq_state (fits : request.Fits .getState argument) : request = .state := by
  cases request with
  | state => rfl
  | put | read | take => cases fits.operation

end Request.Fits

namespace Coordinator

variable {coordinator : Coordinator} {task : Task} {request : Request}
  {plan : List (Replica × Span)} {expected : Nat}

theorem InStep.replicas_plan (inStep : coordinator.InStep) :
    (coordinator.plan.map (·.1)).Perm coordinator.replicas.entries := by
  have lengths : coordinator.replicas.entries.length ≤ coordinator.stagger.delays.length :=
    Nat.le_of_eq inStep.size.symm
  refine ((plan_perm inStep.size).map _).trans (.of_eq ?_)
  exact List.map_fst_zip lengths

theorem Sends.replicas (sends : coordinator.Sends task request plan expected)
    (inStep : coordinator.InStep)
    (ordered : ∀ number, task.stage = .sending number → task.attempt.operation.isOrdered = true) :
    (plan.map (·.1)).Perm (task.attempt.operation.targets task.attempt.argument
        coordinator.replicas.entries) ∧
      expected = plan.length ∧ request.Fits task.attempt.operation task.attempt.argument := by
  have size : coordinator.replicas.size = coordinator.plan.length := by
    have same := inStep.replicas_plan.length_eq
    rw [List.length_map] at same
    exact same.symm
  cases sends with
  | ordered stage =>
    refine ⟨?_, size, ?_⟩
    · cases operation : task.attempt.operation with
      | getState => rw [operation] at ordered; cases ordered _ stage
      | _ => exact inStep.replicas_plan
    · exact Request.fits_numbered (ordered _ stage) _ _
  | read stage read =>
    rw [read]
    exact ⟨inStep.replicas_plan, size, rfl, rfl, rfl⟩
  | state stage state found =>
    rw [state]
    rw [ReplicaSet.find?_eq] at found
    exact ⟨by simp [Operation.targets, found], rfl, rfl, rfl, rfl⟩

end Coordinator

namespace Timeline

variable {world : World} {settings : List Settings} {timeline later : Timeline} {index : Nat}
  {coordinator : Coordinator} {task : Task}

/-- The calls of a round are those that a client waits for at an attempt. -/
structure Awaits (timeline : Timeline) (index : Nat) (coordinator : Coordinator)
    (attempt : Attempt) (round expected : Nat) : Prop where
  opened : round < timeline.rounds.length
  replicas : ((timeline.sentIn round).map Call.replica).Perm
    (attempt.operation.targets attempt.argument coordinator.replicas.entries)
  count : (timeline.sentIn round).length = expected
  positive : 0 < expected
  own : ∀ call ∈ timeline.sentIn round, call.client = index ∧
    call.request.Fits attempt.operation attempt.argument

theorem Awaits.onward {attempt : Attempt} {round expected : Nat}
    (awaits : timeline.Awaits index coordinator attempt round expected)
    (onward : timeline.Onward later) : later.Awaits index coordinator attempt round expected where
  opened := Nat.lt_of_lt_of_le awaits.opened onward.rounds
  replicas := ((onward.sentIn awaits.opened).map _).trans awaits.replicas
  count := (onward.sentIn awaits.opened).length_eq.trans awaits.count
  positive := awaits.positive
  own call present := awaits.own call ((onward.sentIn awaits.opened).subset present)

theorem Awaits.enough {attempt : Attempt} {round expected : Nat} {collector : Collector Outcome}
    {result : Except Error Outcome} (balanced : timeline.Balanced)
    (opened : timeline.rounds[round]? = some collector)
    (verdict : attempt.verdict? expected collector = some result)
    (late : attempt.operation ≠ .read ∨ ∃ error, result = .error error) :
    expected ≤ (timeline.returnsIn round).length := by
  have reaches := Attempt.reaches_of_verdict? verdict late
  exact (balanced.collected opened).2 ▸ of_decide_eq_true reaches

theorem Awaits.underWay_eq_nil {attempt : Attempt} {round expected : Nat}
    {collector : Collector Outcome} {result : Except Error Outcome} (balanced : timeline.Balanced)
    (awaits : timeline.Awaits index coordinator attempt round expected)
    (opened : timeline.rounds[round]? = some collector)
    (verdict : attempt.verdict? expected collector = some result)
    (late : attempt.operation ≠ .read ∨ ∃ error, result = .error error) :
    timeline.underWay round = [] := by
  have enough := Awaits.enough balanced opened verdict late
  exact balanced.underWay_eq_nil (awaits.count ▸ enough)

/-- What a client at a stage can count on. -/
def Engaged (timeline : Timeline) (index : Nat) (coordinator : Coordinator) (task : Task) : Prop :=
  match task.stage with
  | .waiting _ | .discovering => True
  | .ready => coordinator.replicas.entries ≠ []
  | .sending _ =>
    coordinator.replicas.entries ≠ [] ∧ task.attempt.operation.isOrdered = true
  | .collecting round expected => timeline.Awaits index coordinator task.attempt round expected

theorem Engaged.onward (engaged : timeline.Engaged index coordinator task)
    (onward : timeline.Onward later) : later.Engaged index coordinator task := by
  unfold Engaged at engaged ⊢
  cases stage : task.stage with
  | collecting round expected =>
    rw [stage] at engaged
    exact Awaits.onward engaged onward
  | _ => rw [stage] at engaged; exact engaged

theorem Engaged.isOrdered (engaged : timeline.Engaged index coordinator task)
    (number : SequenceNumber) (stage : task.stage = .sending number) :
    task.attempt.operation.isOrdered = true := by
  rw [Engaged, stage] at engaged
  exact engaged.2

theorem Engaged.awaits {request : Request} {plan : List (Replica × Span)} {expected : Nat}
    (balanced : timeline.Balanced) (inStep : coordinator.InStep)
    (engaged : timeline.Engaged index coordinator task)
    (sends : coordinator.Sends task request plan expected) :
    (timeline.dispatch index request plan).Awaits index coordinator task.attempt
      timeline.rounds.length expected := by
  obtain ⟨replicas, same, fits⟩ := sends.replicas inStep engaged.isOrdered
  have sent := balanced.sentIn_dispatch index request plan
  have count : ((timeline.dispatch index request plan).sentIn timeline.rounds.length).length =
      expected := by
    rw [sent.length_eq, length_volleyCalls, same]
  refine ⟨by simp [dispatch_eq], ?_, count, ?_, ?_⟩
  · refine (sent.map _).trans ?_
    rw [replica_volleyCalls]
    exact replicas
  · cases sends with
    | ordered stage =>
      rw [Engaged, stage] at engaged
      exact List.length_pos_iff.mpr engaged.1
    | read stage =>
      rw [Engaged, stage] at engaged
      exact List.length_pos_iff.mpr engaged
    | state => exact Nat.one_pos
  · intro call present
    obtain ⟨own, _, asked⟩ := mem_volleyCalls (sent.subset present)
    exact ⟨own, asked ▸ fits⟩

/-- From one stage a client gets only to stages that it can count on. -/
theorem Engaged.of_deed {effect : Effect} {events : List Event} {client : Client}
    (balanced : timeline.Balanced) (inStep : coordinator.InStep)
    (engaged : timeline.Engaged index coordinator task)
    (deed : Deed world timeline coordinator task effect events client)
    {task' : Task} (busy : client.activity = .busy task') :
    ((timeline.carry index effect).enact index events client).Engaged index client.coordinator
      task' := by
  cases deed with
  | refused | unnumbered | astray => cases busy
  | began stage accepted => cases busy; exact trivial
  | known stage known =>
    cases busy
    exact List.isEmpty_eq_false_iff.mp known
  | found stage unknown admitted some => cases busy; exact some
  | lost stage unknown admitted cause ends =>
    cases ends with
    | final | spent => cases busy
    | again => cases busy; exact trivial
  | numbered stage ordered =>
    cases busy
    rw [Engaged, stage] at engaged
    exact ⟨engaged, ordered⟩
  | sent sends =>
    cases busy
    exact (Engaged.awaits balanced inStep engaged sends).onward (onward_enact (by simp))
  | decided stage opened verdict ends =>
    cases ends with
    | final | spent => cases busy
    | again => cases busy; exact trivial

theorem Requests.turns {mover : Nat} (requests : timeline.Requests mover later)
    (listed : index ∈ timeline.turns) : index ∈ later.turns := by
  cases requests with
  | operation free operation argument retries start =>
    unfold submit
    split
    · by_cases here : index = mover
      · simp [busy, setClient, here]
      · simp [busy, setClient, here, listed]
    · exact listed
  | delay free qualifier delay =>
    rcases timeline.requestDelay_books mover qualifier delay with same | ⟨clients, same⟩
    · rw [same]
      exact listed
    · rw [same]
      exact listed

theorem Moves.turns (moves : timeline.Moves world later) : later.turns = timeline.turns := by
  cases moves with
  | client proceeds leads =>
    obtain ⟨_, _, effect, _, _, _, _, same⟩ := deed_of_proceed? proceeds leads
    rw [same]
    cases effect <;> simp [enact, carry, dispatch_eq]
  | flight fires leads =>
    have hops {first second : Timeline} (hop : first.Hop world second) :
        second.turns = first.turns := by cases hop <;> rfl
    cases lands_of_fire? fires leads with
    | once hop => exact hops hop
    | twice hop hop' _ => exact (hops hop').trans (hops hop)
  | clock => rfl
  | shuffle => rfl

theorem Reached.engaged (reached : timeline.Reached world settings)
    (found : timeline.clients[index]? = some ⟨coordinator, .busy task⟩) :
    index ∈ timeline.turns ∧ timeline.Engaged index coordinator task := by
  induction reached generalizing index coordinator task with
  | opening =>
    simp [Timeline.opening] at found
  | moves reached moves ih =>
    rcases moves.client? found with found | ⟨coordinator', task', effect, events, busy, deed, same⟩
    · obtain ⟨listed, engaged⟩ := ih found
      exact ⟨moves.turns ▸ listed, engaged.onward moves.onward⟩
    · obtain ⟨listed, engaged⟩ := ih busy
      have engaged' := engaged.of_deed reached.balanced (reached.scheduled busy).inStep deed rfl
      exact ⟨moves.turns ▸ listed, same ▸ engaged'⟩
  | requests reached requests ih =>
    rcases requests.client? found with found | ⟨_, earlier, own, free, ⟨listed, started⟩ | kept⟩
    · obtain ⟨listed, engaged⟩ := ih found
      exact ⟨requests.turns listed, engaged.onward requests.onward⟩
    · obtain ⟨_, _, _, _, started⟩ := started
      cases started
      exact ⟨listed, trivial⟩
    · rw [Client.isBusy, ← kept] at free
      cases free

end Timeline
end ReplicatedSpace
