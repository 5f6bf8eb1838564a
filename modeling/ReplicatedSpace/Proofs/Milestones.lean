import ReplicatedSpace.Proofs.Futures
import ReplicatedSpace.Proofs.Unanimity

/-!
The milestones of what a user asks for: an operation begins and ends, a delay is set. Where there is
one client, an operation that it is asked for while it rests passes its two milestones once and
leaves it at rest, as a delay that is set and time that passes do.
-/
namespace ReplicatedSpace

/-- What there is one of for each operation or delay that a user asks for. -/
def Event.isMilestone : Event → Bool
  | .begun .. | .ended _ | .delaySet .. => true
  | .attempt _ | .lookup .. | .discovered _ | .next .. | .reset .. | .arrived _ | .completed .. |
    .attemptFailed .. | .invalidated _ | .retrying => false

theorem Event.isMilestone_of_quiet {event : Event} (call : event.isDeed = false)
    (unset : ∀ qualifier delay, event ≠ .delaySet qualifier delay) :
    event.isMilestone = false := by
  cases event with
  | delaySet qualifier delay => exact absurd rfl (unset qualifier delay)
  | arrived call | completed call result => rfl
  | _ => cases call

/-- The milestones among moments, of which the latest comes first. -/
def milestonesOf (moments : List Moment) : List Event :=
  (moments.reverse.map (·.event)).filter Event.isMilestone

theorem milestonesOf_append (later earlier : List Moment) :
    milestonesOf (later ++ earlier) = milestonesOf earlier ++ milestonesOf later := by
  simp [milestonesOf]

theorem milestonesOf_eq_nil {moments : List Moment}
    (quiet : ∀ moment ∈ moments, moment.event.isMilestone = false) : milestonesOf moments = [] := by
  unfold milestonesOf
  rw [List.filter_eq_nil_iff]
  intro event present
  obtain ⟨moment, among, same⟩ := List.mem_map.mp present
  rw [← same, quiet moment (List.mem_reverse.mp among)]
  exact Bool.false_ne_true

namespace Timeline

/-- The milestones passed since an earlier time. -/
def milestonesSince (timeline earlier : Timeline) : List Event :=
  ((timeline.since earlier).map (·.event)).filter Event.isMilestone

theorem milestonesSince_of_past {timeline later : Timeline} {moments : List Moment}
    (past : later.past = moments ++ timeline.past) :
    later.milestonesSince timeline = milestonesOf moments := by
  rw [milestonesSince, since_of_past past, milestonesOf]

variable {world : World} {before timeline later : Timeline}
  {operation : Operation} {argument : String} {retries : UInt32}

/-- How far an operation that was asked for has come, by the milestones that it has passed. -/
inductive Passed (operation : Operation) (argument : String) (retries : UInt32) :
    Activity → List Event → Prop
  | asked (start : Nat) : Passed operation argument retries
      (.busy ⟨⟨operation, argument, 1⟩, retries, .waiting start⟩) []
  | begun {task : Task} (started : ∀ start, task.stage ≠ .waiting start) :
      Passed operation argument retries (.busy task) [.begun operation argument retries]
  | ended {result : Except Error Outcome} {time : Nat} :
      Passed operation argument retries (.finished result time)
        [.begun operation argument retries, .ended result]

theorem Passed.of_finished {result : Except Error Outcome} {time : Nat} {events : List Event}
    (passed : Passed operation argument retries (.finished result time) events) :
    events = [.begun operation argument retries, .ended result] := by
  cases passed
  rfl

private theorem passed_of_concludes (operation : Operation) (argument : String)
    (retries : UInt32) {now : Nat} {coordinator : Coordinator} {task : Task}
    {result : Except Error Outcome} {events : List Event} {client : Client}
    (ends : Concludes now coordinator task result events client) :
    Passed operation argument retries client.activity
      (.begun operation argument retries :: events.filter Event.isMilestone) := by
  cases ends with
  | final | spent => exact .ended
  | again => exact .begun (fun start => by simp [Task.again])

theorem Deed.passes {coordinator : Coordinator} {task : Task} {effect : Effect}
    {events earlier : List Event} {client : Client}
    (passed : Passed operation argument retries (.busy task) earlier)
    (deed : Deed world timeline coordinator task effect events client) :
    Passed operation argument retries client.activity
      (earlier ++ events.filter Event.isMilestone) := by
  cases passed with
  | asked start =>
    cases deed with
    | refused => exact .ended
    | began => exact .begun (fun start => by simp)
    | sent sends => cases sends <;> contradiction
    | _ => contradiction
  | begun started =>
    cases deed with
    | refused stage | began stage => exact absurd stage (started _)
    | lost _ _ _ _ ends | decided _ _ _ ends =>
      have passes := passed_of_concludes operation argument retries ends
      exact passes
    | unnumbered | astray => exact .ended
    | known | found | numbered | sent => exact .begun (fun start => by simp)

theorem Lands.milestones (lands : timeline.Lands world later) :
    later.clients = timeline.clients ∧
      ∃ moments, later.past = moments ++ timeline.past ∧ milestonesOf moments = [] := by
  obtain ⟨clients, moments, past, quiet⟩ := lands.past
  refine ⟨clients, moments, past, milestonesOf_eq_nil fun moment present => ?_⟩
  obtain ⟨call, unset⟩ := quiet moment present
  exact Event.isMilestone_of_quiet call unset

/-- The only client is at an operation that it was asked for since an earlier time. -/
structure Pursues (before : Timeline) (operation : Operation) (argument : String)
    (retries : UInt32) (timeline : Timeline) (client : Client) (moments : List Moment) :
    Prop where
  alone : timeline.clients = [client]
  past : timeline.past = moments ++ before.past
  passed : Passed operation argument retries client.activity (milestonesOf moments)

theorem Moves.pursues {client : Client} {moments : List Moment}
    (pursues : Pursues before operation argument retries timeline client moments)
    (moves : timeline.Moves world later) :
    ∃ client moments, Pursues before operation argument retries later client moments := by
  obtain ⟨alone, past, passed⟩ := pursues
  cases moves with
  | client proceeds leads =>
    rename_i mover step
    obtain ⟨coordinator, task, effect, events, changed, busy, deed, same⟩ :=
      deed_of_proceed? proceeds leads
    rw [alone, List.getElem?_singleton] at busy
    split at busy
    · rename_i own
      cases busy
      have milestones : milestonesOf
          (events.map fun event => (⟨timeline.now, mover, event⟩ : Moment)).reverse =
            events.filter Event.isMilestone := by
        simp [milestonesOf, Function.comp_def]
      refine ⟨changed, (events.map fun event => ⟨timeline.now, mover, event⟩).reverse ++ moments,
        ?_, ?_, ?_⟩
      · simp [same, enact, alone, own]
      · simp [same, enact, past]
      · rw [milestonesOf_append, milestones]
        exact deed.passes passed
    · cases busy
  | flight fires leads =>
    obtain ⟨clients, news, grown, none⟩ := (lands_of_fire? fires leads).milestones
    refine ⟨client, news ++ moments, clients.trans alone, ?_, ?_⟩
    · rw [grown, past, List.append_assoc]
    · rw [milestonesOf_append, none, List.append_nil]
      exact passed
  | clock | shuffle => exact ⟨client, moments, alone, past, passed⟩

theorem Path.pursues {client : Client} {moments : List Moment}
    (pursues : Pursues before operation argument retries timeline client moments)
    (path : timeline.Path world later) :
    ∃ client moments, Pursues before operation argument retries later client moments := by
  induction path with
  | refl => exact ⟨client, moments, pursues⟩
  | tail _ moves ih =>
    obtain ⟨client, moments, pursues⟩ := ih
    exact moves.pursues pursues

variable {settings : Settings} {client : Client}

/-- A timeline of one client that is at no operation. -/
structure Rests (settings : Settings) (timeline : Timeline) (client : Client) : Prop where
  reached : timeline.Reached .any [settings]
  alone : timeline.clients = [client]
  idle : client.isBusy = false

theorem Rests.found (rests : timeline.Rests settings client) :
    timeline.clients[Session.client]? = some client := by
  rw [rests.alone]
  rfl

theorem Rests.free (rests : timeline.Rests settings client) : timeline.Free Session.client := by
  intro other found
  cases rests.found.symm.trans found
  exact rests.idle

section Environment

variable {σ : Type}

/-- The only client does what it is asked for once, to its end, and rests again. -/
theorem Rests.execute (rests : timeline.Rests settings client) (environment : Environment σ)
    (state : σ) (operation : Operation) (argument : String) (retries : UInt32) :
    let after := (timeline.execute environment state Session.client operation argument retries).1
    ∃ coordinator result time,
      after.Rests settings ⟨coordinator, .finished result time⟩ ∧
      after.milestonesSince timeline = [.begun operation argument retries, .ended result] := by
  let asked := timeline.submit Session.client operation argument retries timeline.now
  have reached : asked.Reached .any [settings] :=
    rests.reached.requests (.operation rests.free operation argument retries timeline.now)
  have keeps : environment.Keeps .any := fun _ _ => trivial
  have begins : Pursues timeline operation argument retries asked
      ⟨client.coordinator, .busy ⟨⟨operation, argument, 1⟩, retries, .waiting timeline.now⟩⟩
      [] := by
    have same : asked = _ := submit_eq rests.found operation argument retries timeline.now
    refine ⟨?_, ?_, .asked timeline.now⟩
    · rw [same, rests.alone]
      rfl
    · rw [same]
      rfl
  have path := reached.run_path keeps state
  obtain ⟨⟨coordinator, activity⟩, moments, alone, past, passed⟩ := Path.pursues begins path
  have found : (asked.run environment state).1.clients[Session.client]? =
      some ⟨coordinator, activity⟩ := by
    rw [alone]
    rfl
  have idle := reached.run_isBusy keeps state found
  cases activity with
  | idle => cases passed
  | busy task => cases idle
  | finished result time =>
    refine ⟨coordinator, result, time, ⟨reached.path path, alone, idle⟩, ?_⟩
    exact (milestonesSince_of_past past).trans passed.of_finished

theorem Rests.elapse (rests : timeline.Rests settings client) (environment : Environment σ)
    (state : σ) (millis : Nat) :
    let after := (timeline.elapse environment state millis).1
    after.Rests settings client ∧ after.milestonesSince timeline = [] := by
  have keeps : environment.Keeps .any := fun _ _ => trivial
  let time := timeline.now + millis
  have drains : (timeline.drain environment state time).1.clients = timeline.clients ∧
      ∃ moments, (timeline.drain environment state time).1.past = moments ++ timeline.past ∧
        milestonesOf moments = [] := by
    refine drain_induction keeps time (motive := fun timeline last =>
      last.clients = timeline.clients ∧
        ∃ moments, last.past = moments ++ timeline.past ∧ milestonesOf moments = []) ?_ ?_ state
      timeline
    · intro timeline _
      exact ⟨rfl, [], rfl, rfl⟩
    · intro timeline step later last _ fires leads ih
      obtain ⟨clients, news, grown, none'⟩ := (lands_of_fire? fires leads).milestones
      obtain ⟨clients', moments, past, none⟩ := ih
      refine ⟨clients'.trans clients, moments ++ news, ?_, ?_⟩
      · rw [past, grown, List.append_assoc]
      · rw [milestonesOf_append, none, none', List.append_nil]
  obtain ⟨clients, moments, past, none⟩ := drains
  have future := (rests.reached.elapse_future keeps state millis).1
  exact ⟨⟨rests.reached.future future, clients.trans rests.alone, rests.idle⟩,
    (milestonesSince_of_past past).trans none⟩

theorem Rests.setDelay (rests : timeline.Rests settings client) {qualifier : String}
    {delay : Span} {changed : Coordinator}
    (sets : client.coordinator.setDelay qualifier delay = .ok changed) :
    ((timeline.log Session.client (.delaySet qualifier delay)).setClient Session.client
      { client with coordinator := changed }).Rests settings
        { client with coordinator := changed } := by
  have reached := rests.reached.requests (.delay rests.free qualifier delay)
  have same : timeline.requestDelay Session.client qualifier delay =
      (timeline.log Session.client (.delaySet qualifier delay)).setClient Session.client
        { client with coordinator := changed } := by
    simp [requestDelay, Timeline.setDelay, rests.found, sets, Except.map]
  rw [same] at reached
  refine ⟨reached, ?_, rests.idle⟩
  simp [setClient, log, rests.alone, Session.client]

end Environment

end Timeline

end ReplicatedSpace
