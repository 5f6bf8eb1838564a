import ReplicatedSpace.Proofs.Progress
import ReplicatedSpace.Session
import ReplicatedSpace.Timeline.Script

/-!
An operation that changes the space succeeds at every replica or fails. What the replicas reply
decides the attempt before its calls have even arrived: when it ends, how, and with whose failure or
tuple.
-/
namespace ReplicatedSpace

/-- The reply to each call. -/
abbrev Replies := (call : Call) → Reply call.operation.Answer

/-- The answers that an environment gives. -/
def Environment.answers {σ : Type} (environment : Environment σ) : World :=
  fun question answer => ∃ state, (environment state question).1 = answer

theorem Environment.keeps_answers {σ : Type} (environment : Environment σ) :
    environment.Keeps environment.answers :=
  fun state _ => ⟨state, rfl⟩

theorem Environment.faithful_answers {σ : Type} (environment : Environment σ) {replies : Replies}
    {round : Nat} (faithful : ∀ state (call : Call), call.round = round →
      (environment state (.arrival call)).1 = replies call)
    (call : Call) (reply : Reply call.operation.Answer) (own : call.round = round)
    (given : environment.answers (.arrival call) reply) : reply = replies call := by
  obtain ⟨state, same⟩ := given
  exact same ▸ faithful state call own

/-- How a call comes back with these replies, and when. -/
def Flight.outlook (replies : Replies) (flight : Flight) : Return :=
  match flight.leg with
  | .outbound =>
    ⟨flight.due + (replies flight.call).latency, flight.call,
      flight.call.result (replies flight.call).ending⟩
  | .inbound result => ⟨flight.due, flight.call, result⟩

@[simp] theorem Flight.call_outlook (replies : Replies) (flight : Flight) :
    (flight.outlook replies).call = flight.call := by
  unfold outlook
  split <;> rfl

theorem Flight.due_le_outlook (replies : Replies) (flight : Flight) :
    flight.due ≤ (flight.outlook replies).time := by
  unfold outlook
  split
  · exact Nat.le_add_right ..
  · exact Nat.le_refl _

/-- The fault of a call that ends so and fails: that of the reply, or that the call has broken down.
-/
def Ending.fault? {α : Type} : Ending α → Option CallFault
  | answered _ => none
  | failed fault => some fault
  | crashed text =>
    some (.transport ("call aborted: task # panicked with message " ++ Text.quoted text))

/-- The tuple that a replica answers with to whoever reads or takes. -/
def Operation.tuple? : (operation : Operation) → Ending operation.Answer → Option String
  | .read, .answered tuple | .take, .answered tuple => some tuple
  | _, _ => none

theorem Call.result_eq_ok_iff (call : Call) (ending : Ending call.operation.Answer) :
    (∃ outcome, call.result ending = .ok outcome) ↔ ∃ value, ending = .answered value := by
  cases ending with
  | answered value => exact ⟨fun _ => ⟨value, rfl⟩, fun _ => ⟨_, rfl⟩⟩
  | failed | crashed =>
    constructor
    · rintro ⟨_, same⟩; cases same
    · rintro ⟨_, same⟩; cases same

theorem Call.result_eq_error_iff {call : Call} {operation : Operation}
    (own : call.operation = operation) (ending : Ending call.operation.Answer)
    (failure : ReplicaFailure) : call.result ending = .error failure ↔
      ∃ fault, ending.fault? = some fault ∧ failure = ⟨operation, call.replica, fault⟩ := by
  subst own
  cases ending with
  | answered value =>
    constructor
    · intro same; cases same
    · rintro ⟨_, none, _⟩; cases none
  | failed fault | crashed text =>
    constructor
    · intro same
      cases same
      exact ⟨_, rfl, rfl⟩
    · rintro ⟨_, same, rfl⟩
      cases same
      rfl

theorem Call.tuple?_of_result {call : Call} {ending : Ending call.operation.Answer}
    {outcome : Outcome} (asks : call.operation = .read ∨ call.operation = .take)
    (succeeded : call.result ending = .ok outcome) :
    ∃ text, call.operation.tuple? ending = some text ∧ outcome = .tuple text := by
  obtain ⟨ticket, client, round, replica, request⟩ := call
  cases request with
  | read | take =>
    cases ending with
    | answered value => cases succeeded; exact ⟨value, rfl, rfl⟩
    | failed | crashed => cases succeeded
  | put | state => rcases asks with asks | asks <;> cases asks

/-- How an attempt of a client ended, and when, if that is what happened. -/
def Moment.decision? (index : Nat) (moment : Moment) : Option (Nat × Except Error Outcome) :=
  if moment.client = index then
    match moment.event with
    | .attemptFailed _ error => some (moment.time, .error error)
    | .ended result => some (moment.time, result)
    | _ => none
  else none

/-- What comes first is the least of its kind. -/
theorem Return.first_of_filterMap {β : Type} (pick : CallResult Outcome → Option β)
    {backs : List Return} (chronological : backs.Pairwise (·.time ≥ ·.time)) {first : β}
    {rest : List β}
    (found : (backs.map Return.result).reverse.filterMap pick = first :: rest) :
    ∃ back ∈ backs, pick back.result = some first ∧
      ∀ other ∈ backs, (pick other.result).isSome = true → back.time ≤ other.time := by
  induction backs generalizing rest with
  | nil => cases found
  | cons latest earlier ih =>
    obtain ⟨after, chronological⟩ := List.pairwise_cons.mp chronological
    rw [List.map_cons, List.reverse_cons, List.filterMap_append] at found
    cases before : (earlier.map Return.result).reverse.filterMap pick with
    | nil =>
      have none := List.filterMap_eq_nil_iff.mp before
      rw [before, List.nil_append, List.filterMap_cons] at found
      split at found
      · cases found
      · rename_i picked
        cases found
        refine ⟨latest, List.mem_cons_self, picked, fun other present some => ?_⟩
        rcases List.mem_cons.mp present with same | present
        · exact same ▸ Nat.le_refl _
        · have listed : other.result ∈ (earlier.map Return.result).reverse :=
            List.mem_reverse.mpr (List.mem_map_of_mem present)
          rw [none _ listed] at some
          cases some
    | cons first' rest' =>
      rw [before, List.cons_append] at found
      cases found
      obtain ⟨back, present, picked, least⟩ := ih chronological before
      refine ⟨back, List.mem_cons_of_mem _ present, picked, fun other among some => ?_⟩
      rcases List.mem_cons.mp among with same | among
      · subst same
        exact after back present
      · exact least other among some

namespace Timeline

variable {world : World} {settings : List Settings} {timeline later sent : Timeline} {index : Nat}
  {coordinator : Coordinator} {task : Task} {replies : Replies} {round expected : Nat}

theorem since_of_past {moments : List Moment} (past : later.past = moments ++ timeline.past) :
    later.since timeline = moments.reverse := by
  simp [since, past]

/-- How the attempt that a client was at earlier ended, and when. -/
def decision? (timeline earlier : Timeline) (index : Nat) : Option (Nat × Except Error Outcome) :=
  (timeline.since earlier).findSome? (·.decision? index)

/-- What has come back in a round and what will. -/
def outlook (timeline : Timeline) (replies : Replies) (round : Nat) : List Return :=
  (timeline.flights.map (·.outlook replies) ++ timeline.returns).filter (·.call.round = round)

/-- What is to come does not change when a call gets somewhere. -/
theorem Hop.outlook (balanced : timeline.Balanced)
    (faithful : ∀ (call : Call) reply, call.round = round → world (.arrival call) reply →
      reply = replies call)
    (hop : timeline.Hop world later) :
    (later.outlook replies round).Perm (timeline.outlook replies round) := by
  cases hop with
  | arrives first leg admitted same inOrder =>
    rename_i flight rest flights reply
    let back : Flight := ⟨max timeline.now flight.due + reply.latency, flight.call,
      .inbound (flight.call.result reply.ending)⟩
    have before : timeline.outlook replies round =
        (flight.outlook replies :: (rest.map (·.outlook replies) ++ timeline.returns)).filter
          (·.call.round = round) := by
      simp [Timeline.outlook, first]
    have after : (flights.map (·.outlook replies)).Perm
        (back.outlook replies :: rest.map (·.outlook replies)) := same.map _
    refine ((after.append_right _).filter _).trans (.of_eq ?_)
    rw [before, List.cons_append, List.filter_cons, List.filter_cons]
    by_cases own : flight.call.round = round
    · have same : back.outlook replies = flight.outlook replies := by
        have reply := faithful flight.call reply own admitted
        subst reply
        simp only [Flight.outlook, back, leg, balanced.now_reach first]
      rw [same]
      rfl
    · simp [own, back]
      rfl
  | returns first leg =>
    rename_i flight rest result
    have own : flight.outlook replies = ⟨max timeline.now flight.due, flight.call, result⟩ := by
      simp only [Flight.outlook, leg, balanced.now_reach first]
    have before : timeline.outlook replies round =
        (flight.outlook replies :: (rest.map (·.outlook replies) ++ timeline.returns)).filter
          (·.call.round = round) := by
      simp [Timeline.outlook, first]
    rw [before, own]
    exact List.perm_middle.filter _

theorem outlook_carry (timeline : Timeline) (mover : Nat) (effect : Effect)
    (opened : round < timeline.rounds.length) :
    ((timeline.carry mover effect).outlook replies round).Perm
      (timeline.outlook replies round) := by
  cases effect with
  | quiet | renewal => exact .refl _
  | volley request plan =>
    have flights : (timeline.carry mover (.volley request plan)).flights.Perm
        (timeline.volley mover request plan ++ timeline.flights) := by
      rw [carry, dispatch_eq]
      exact Flight.foldl_enqueue_perm ..
    have returns : (timeline.carry mover (.volley request plan)).returns = timeline.returns :=
      returns_dispatch
    have others : ((timeline.volley mover request plan).map (·.outlook replies)).filter
        (·.call.round = round) = [] := by
      refine List.filter_eq_nil_iff.mpr fun back present => ?_
      obtain ⟨flight, inside, same⟩ := List.mem_map.mp present
      have own := (mem_volley inside).2.2.2.1
      subst same
      simp only [Flight.call_outlook, own, decide_eq_true_eq]
      omega
    refine (((flights.map _).append_right _).filter _).trans (.of_eq ?_)
    rw [returns, List.map_append, List.append_assoc, List.filter_append, others, List.nil_append]
    rfl

theorem outlook_enact {mover : Nat} {events : List Event} {client : Client}
    (deeds : ∀ event ∈ events, event.isDeed = true) :
    (timeline.enact mover events client).outlook replies round =
      timeline.outlook replies round := by
  unfold outlook
  rw [returns_enact deeds]
  rfl

/-- A client is still at the attempt whose calls it sent, and the last of them has not been back for
any time. -/
structure Underway (settings : List Settings) (sent : Timeline) (index : Nat)
    (coordinator : Coordinator) (task : Task) (replies : Replies) (round : Nat)
    (timeline : Timeline) : Prop where
  reached : timeline.Reached .any settings
  found : timeline.clients[index]? = some ⟨coordinator, .busy task⟩
  undecided : ∃ moments, timeline.past = moments ++ sent.past ∧
    ∀ moment ∈ moments, moment.decision? index = none
  outlook : (timeline.outlook replies round).Perm (sent.outlook replies round)
  inTime : ∃ back ∈ sent.outlook replies round, timeline.now ≤ back.time

theorem Underway.awaits
    (underway : Underway settings sent index coordinator task replies round timeline)
    (stage : task.stage = .collecting round expected) :
    timeline.Awaits index coordinator task.attempt round expected := by
  have engaged := (underway.reached.engaged underway.found).2
  rw [Engaged, stage] at engaged
  exact engaged

theorem Underway.in_time
    (underway : Underway settings sent index coordinator task replies round timeline)
    (stage : task.stage = .collecting round expected) (blocked : ¬ timeline.Enabled task)
    {time : Nat} (clear : ∀ flight ∈ timeline.flights, time ≤ flight.due) :
    ∃ back ∈ sent.outlook replies round, time ≤ back.time := by
  have some : timeline.underWay round ≠ [] := fun none =>
    blocked ((underway.awaits stage).enabled underway.reached.balanced stage none)
  obtain ⟨call, present⟩ := List.exists_mem_of_ne_nil _ some
  obtain ⟨flight, inside, same, own⟩ := exists_flight_of_underWay present
  refine ⟨flight.outlook replies, underway.outlook.subset (List.mem_filter.mpr ⟨?_, ?_⟩),
    Nat.le_trans (clear flight inside) (flight.due_le_outlook replies)⟩
  · exact List.mem_append_left _ (List.mem_map_of_mem inside)
  · simp [same, own]

/-- The client's attempt has come to its verdict. -/
def Decides (index : Nat) (coordinator : Coordinator) (task : Task) (round expected : Nat)
    (timeline later : Timeline) : Prop :=
  ∃ collector result events client, timeline.rounds[round]? = some collector ∧
    task.attempt.verdict? expected collector = some result ∧
    Concludes timeline.now coordinator task result events client ∧
    later.past =
      (events.map fun event => ⟨timeline.now, index, event⟩).reverse ++ timeline.past ∧
    later.clients = timeline.clients.set index client

private theorem decision?_of_isDeed {moment : Moment} (other : moment.event.isDeed = false) :
    moment.decision? index = none := by
  unfold Moment.decision?
  split
  · split
    · rename_i same; rw [same] at other; cases other
    · rename_i same; rw [same] at other; cases other
    · rfl
  · rfl

theorem Underway.fire {step : Step}
    (underway : Underway settings sent index coordinator task replies round timeline)
    (stage : task.stage = .collecting round expected)
    (faithful : ∀ (call : Call) reply, call.round = round → world (.arrival call) reply →
      reply = replies call)
    (fires : timeline.fire? = some step) (leads : step.Leads world later)
    (cause : timeline.isDueBy timeline.now = true ∨ timeline.proceedFirst? = none) :
    Underway settings sent index coordinator task replies round later := by
  have balanced := underway.reached.balanced
  have lands := lands_of_fire? fires leads
  obtain ⟨clients, moments, past, others⟩ := lands.past
  obtain ⟨flight, rest, first, now⟩ := lands.now
  refine ⟨underway.reached.moves ((Moves.flight fires leads).mono fun _ _ _ => trivial),
    clients ▸ underway.found, ?_, ?_, ?_⟩
  · obtain ⟨earlier, before, undecided⟩ := underway.undecided
    refine ⟨moments ++ earlier, by rw [past, before, List.append_assoc], fun moment present => ?_⟩
    rcases List.mem_append.mp present with new | old
    · exact decision?_of_isDeed (others moment new).1
    · exact undecided moment old
  · refine .trans ?_ underway.outlook
    cases lands with
    | once hop => exact hop.outlook balanced faithful
    | twice hop hop' _ =>
      exact (hop'.outlook (hop.balanced balanced) faithful).trans (hop.outlook balanced faithful)
  · rw [now]
    rcases cause with due | nobody
    · rw [isDueBy, first] at due
      rw [Nat.max_eq_left (of_decide_eq_true due)]
      exact underway.inTime
    · have listed := (underway.reached.engaged underway.found).1
      refine underway.in_time stage (not_enabled nobody listed underway.found)
        fun other present => ?_
      have inOrder := balanced.inOrder
      rw [first] at inOrder present
      have ahead := balanced.ahead other (first ▸ present)
      rcases List.mem_cons.mp present with same | present
      · subst same; omega
      · have := (List.pairwise_cons.mp inOrder).1 other present
        omega

theorem Underway.client {step : Step} {mover time : Nat}
    (underway : Underway settings sent index coordinator task replies round timeline)
    (stage : task.stage = .collecting round expected)
    (proceeds : { timeline with now := time, settled := true }.proceed? mover = some step)
    (leads : step.Leads world later) (onward : timeline.now ≤ time)
    (cause : time = timeline.now ∨
      timeline.proceedFirst? = none ∧ timeline.isDueBy time = false) :
    Underway settings sent index coordinator task replies round later ∨
      Decides index coordinator task round expected timeline later := by
  have balanced := underway.reached.balanced
  have listed := (underway.reached.engaged underway.found).1
  have clear (flight : Flight) (present : flight ∈ timeline.flights) : time ≤ flight.due := by
    rcases cause with same | ⟨_, clear⟩
    · exact same ▸ balanced.ahead flight present
    · exact Nat.le_of_lt (due_of_isDueBy balanced.inOrder clear flight present)
  have reached : later.Reached .any settings :=
    (underway.reached.moves (.clock timeline true onward clear)).moves
      ((Moves.client proceeds leads).mono fun _ _ _ => trivial)
  obtain ⟨coordinator', task', effect, events, client, busy, deed, same⟩ :=
    deed_of_proceed? proceeds leads
  subst same
  by_cases here : mover = index
  · subst here
    cases underway.found.symm.trans busy
    obtain ⟨quiet, collector, result, opened, verdict, ends⟩ := deed.of_collecting stage
    subst quiet
    have same : time = timeline.now := by
      refine cause.resolve_right fun ⟨nobody, _⟩ => not_enabled nobody listed underway.found ?_
      rw [Enabled, stage]
      exact ⟨collector, result, opened, verdict⟩
    subst same
    exact .inr ⟨collector, result, events, client, opened, verdict, ends, rfl, rfl⟩
  · refine .inl ⟨reached, ?_, ?_, ?_, ?_⟩
    · simp only [enact, carry_clients, List.getElem?_set_ne here]
      exact underway.found
    · obtain ⟨earlier, before, undecided⟩ := underway.undecided
      refine ⟨_, by rw [enact, carry_past, before, List.append_assoc], fun moment present => ?_⟩
      rcases List.mem_append.mp present with new | old
      · obtain ⟨event, _, own⟩ := List.mem_map.mp (List.mem_reverse.mp new)
        subst own
        simp [Moment.decision?, here]
      · exact undecided moment old
    · rw [outlook_enact deed.isDeed]
      let awoken : Timeline := { timeline with now := time, settled := true }
      exact (awoken.outlook_carry mover effect (underway.awaits stage).opened).trans
        underway.outlook
    · simp only [enact, carry_now]
      rcases cause with same | ⟨nobody, _⟩
      · exact same ▸ underway.inTime
      · exact underway.in_time stage (not_enabled nobody listed underway.found) clear

/-- A run from where the calls were sent comes to the verdict on the attempt, and what each step
keeps while the client waits holds until then. -/
theorem Underway.run_keeping {σ : Type} {environment : Environment σ} (Holds : Timeline → Prop)
    (underway : Underway settings sent index coordinator task replies round timeline)
    (holds : Holds timeline) (stage : task.stage = .collecting round expected)
    (keeps : environment.Keeps world)
    (faithful : ∀ (call : Call) reply, call.round = round → world (.arrival call) reply →
      reply = replies call)
    (kept : ∀ timeline step later,
      Underway settings sent index coordinator task replies round timeline →
      timeline.step? = some step → step.Leads world later → Holds timeline → Holds later)
    (state : σ) :
    ∃ middle decided,
      Underway settings sent index coordinator task replies round middle ∧ Holds middle ∧
      Decides index coordinator task round expected middle decided ∧
      ∃ moments, (timeline.run environment state).1.past = moments ++ decided.past := by
  refine (run_induction keeps (motive := fun timeline last =>
    (timeline.Balanced → ∃ moments, last.past = moments ++ timeline.past) ∧
    (Underway settings sent index coordinator task replies round timeline → Holds timeline →
      ∃ middle decided,
        Underway settings sent index coordinator task replies round middle ∧ Holds middle ∧
        Decides index coordinator task round expected middle decided ∧
        ∃ moments, last.past = moments ++ decided.past)) ?_ ?_ state timeline).2 underway holds
  · refine fun timeline stands => ⟨fun _ => ⟨[], rfl⟩, fun underway => ?_⟩
    have next := underway.reached.step?_isSome underway.found
    rw [stands] at next
    cases next
  · intro timeline step later last next leads ⟨grows, ih⟩
    constructor
    · intro balanced
      have path := path_of_step? balanced next leads
      obtain ⟨moments, past⟩ := grows (path.balanced balanced)
      obtain ⟨moments', past'⟩ := path.onward.log
      exact ⟨moments ++ moments', by rw [past, past', List.append_assoc]⟩
    · intro underway holds
      have balanced := (path_of_step? underway.reached.balanced next leads).balanced
        underway.reached.balanced
      have holds' := kept timeline step later underway next leads holds
      rcases step?_cases next with ⟨fires, cause⟩ | ⟨mover, time, proceeds, onward, cause⟩
      · exact ih (underway.fire stage faithful fires leads cause) holds'
      · rcases underway.client stage proceeds leads onward cause with still | decides
        · exact ih still holds'
        · exact ⟨timeline, later, underway, holds, decides, grows balanced⟩

theorem Underway.run {σ : Type} {environment : Environment σ}
    (underway : Underway settings sent index coordinator task replies round timeline)
    (stage : task.stage = .collecting round expected)
    (keeps : environment.Keeps world)
    (faithful : ∀ (call : Call) reply, call.round = round → world (.arrival call) reply →
      reply = replies call) (state : σ) :
    ∃ middle decided,
      Underway settings sent index coordinator task replies round middle ∧
      Decides index coordinator task round expected middle decided ∧
      ∃ moments, (timeline.run environment state).1.past = moments ++ decided.past := by
  obtain ⟨middle, decided, underway', _, decides, log⟩ := underway.run_keeping (fun _ => True)
    trivial stage keeps faithful (fun _ _ _ _ _ _ _ => trivial) state
  exact ⟨middle, decided, underway', decides, log⟩

theorem outlook_eq_returnsIn (all : timeline.underWay round = []) :
    timeline.outlook replies round = timeline.returnsIn round := by
  have none : (timeline.flights.map (·.outlook replies)).filter (·.call.round = round) = [] := by
    refine List.filter_eq_nil_iff.mpr fun back present => ?_
    obtain ⟨flight, inside, same⟩ := List.mem_map.mp present
    subst same
    intro own
    simp only [Flight.call_outlook, decide_eq_true_eq] at own
    have flying := mem_underWay_of_flight inside
    rw [own, all] at flying
    cases flying
  rw [outlook, List.filter_append, none, List.nil_append]
  rfl

/-- What is to come in a round is what its calls come to. -/
theorem outlook_dispatch (balanced : timeline.Balanced) {request : Request}
    {plan : List (Replica × Span)} :
    ((timeline.dispatch index request plan).outlook replies timeline.rounds.length).Perm
      ((timeline.volley index request plan).map (·.outlook replies)) := by
  have flights : (timeline.dispatch index request plan).flights.Perm
      (timeline.volley index request plan ++ timeline.flights) := by
    rw [dispatch_eq]
    exact Flight.foldl_enqueue_perm ..
  have new : ((timeline.volley index request plan).map (·.outlook replies)).filter
      (·.call.round = timeline.rounds.length) =
        (timeline.volley index request plan).map (·.outlook replies) := by
    refine List.filter_eq_self.mpr fun back present => ?_
    obtain ⟨flight, inside, same⟩ := List.mem_map.mp present
    subst same
    simp [(mem_volley inside).2.2.2.1]
  have old : (timeline.flights.map (·.outlook replies)).filter
      (·.call.round = timeline.rounds.length) = [] := by
    refine List.filter_eq_nil_iff.mpr fun back present => ?_
    obtain ⟨flight, inside, same⟩ := List.mem_map.mp present
    have opened := balanced.round_lt_of_flight inside
    subst same
    simp only [Flight.call_outlook, decide_eq_true_eq]
    omega
  have none := balanced.returnsIn_eq_nil (Nat.le_refl timeline.rounds.length)
  refine (((flights.map _).append_right _).filter _).trans (.of_eq ?_)
  rw [returns_dispatch, List.map_append, List.filter_append, List.filter_append, new, old]
  rw [returnsIn] at none
  rw [none, List.append_nil, List.append_nil]

theorem of_mem_outlook_volley {request : Request} {plan : List (Replica × Span)} {back : Return}
    (present : back ∈ (timeline.volley index request plan).map (·.outlook replies)) :
    timeline.now ≤ back.time ∧ back.call.request = request ∧
      back.result = back.call.result (replies back.call).ending ∧
      ∃ delay, (back.call.replica, delay) ∈ plan ∧
        back.time = timeline.now + timeline.timer.wait delay + (replies back.call).latency := by
  obtain ⟨flight, inside, same⟩ := List.mem_map.mp present
  obtain ⟨leg, due, _, _, asked⟩ := mem_volley inside
  have later := flight.due_le_outlook replies
  subst same
  refine ⟨Nat.le_trans due later, by rw [Flight.call_outlook, asked], ?_, ?_⟩
  · rw [Flight.call_outlook]
    simp only [Flight.outlook, leg]
  · obtain ⟨⟨⟨replica, delay⟩, ticket⟩, planned, set⟩ := List.mem_map.mp inside
    subst set
    exact ⟨delay, List.fst_mem_of_mem_zipIdx planned, rfl⟩

theorem ok_iff_of_mem_outlook_volley {request : Request} {plan : List (Replica × Span)}
    {back : Return}
    (present : back ∈ (timeline.volley index request plan).map (·.outlook replies)) :
    (∃ outcome, back.result = .ok outcome) ↔
      ∃ value, (replies back.call).ending = .answered value := by
  obtain ⟨_, _, ends, _⟩ := of_mem_outlook_volley present
  rw [ends]
  exact Call.result_eq_ok_iff ..

theorem error_iff_of_mem_outlook_volley {request : Request} {plan : List (Replica × Span)}
    {back : Return} (present : back ∈ (timeline.volley index request plan).map (·.outlook replies))
    (failure : ReplicaFailure) :
    back.result = .error failure ↔ ∃ fault, (replies back.call).ending.fault? = some fault ∧
      failure = ⟨request.operation, back.call.replica, fault⟩ := by
  obtain ⟨_, asked, ends, _⟩ := of_mem_outlook_volley present
  rw [ends]
  exact Call.result_eq_error_iff (congrArg Request.operation asked) _ failure

theorem replicas_outlook_volley (inStep : coordinator.InStep) (timeline : Timeline) (index : Nat)
    (request : Request) (replies : Replies) :
    (((timeline.volley index request coordinator.plan).map (·.outlook replies)).map
      (·.call.replica)).Perm coordinator.replicas.entries := by
  refine .trans (.of_eq ?_) inStep.replicas_plan
  rw [← timeline.replica_volleyCalls index request]
  simp [volleyCalls]

theorem Underway.start {request : Request} {plan : List (Replica × Span)}
    (balanced : timeline.Balanced) (inside : index < timeline.clients.length)
    (form : sent = (timeline.dispatch index request plan).enact index []
      ⟨coordinator, .busy task⟩)
    (reached : sent.Reached .any settings) (some : plan ≠ []) :
    (sent.outlook replies timeline.rounds.length).Perm
        ((timeline.volley index request plan).map (·.outlook replies)) ∧
      Underway settings sent index coordinator task replies timeline.rounds.length sent := by
  have outlook : (sent.outlook replies timeline.rounds.length).Perm
      ((timeline.volley index request plan).map (·.outlook replies)) := by
    rw [form, outlook_enact (by simp)]
    exact outlook_dispatch balanced
  refine ⟨outlook, reached, ?_, ⟨[], rfl, by simp⟩, .refl _, ?_⟩
  · rw [form]
    simp [enact, dispatch_eq, inside]
  · have nonempty : (timeline.volley index request plan).map (·.outlook replies) ≠ [] := by
      simp [volley, some]
    obtain ⟨back, present⟩ := List.exists_mem_of_ne_nil _ nonempty
    refine ⟨back, outlook.symm.subset present, ?_⟩
    rw [form]
    simpa [enact, dispatch_eq] using (of_mem_outlook_volley present).1

/-- A client that has sent a call to each replica is at the attempt that they belong to. -/
theorem Reached.underway_sent {request : Request} {earlier : Task}
    (reached : timeline.Reached world settings)
    (found : timeline.clients[index]? = some ⟨coordinator, .busy earlier⟩)
    (known : coordinator.replicas.entries ≠ [])
    (sends : timeline.proceed? index = some (.moved sent))
    (form : sent = (timeline.dispatch index request coordinator.plan).enact index []
      ⟨coordinator, .busy task⟩) :
    let backs := (timeline.volley index request coordinator.plan).map (Flight.outlook replies)
    (backs.map (·.call.replica)).Perm coordinator.replicas.entries ∧ backs ≠ [] ∧
      (sent.outlook replies timeline.rounds.length).Perm backs ∧
      Underway settings sent index coordinator task replies timeline.rounds.length sent := by
  intro backs
  have inStep := (reached.scheduled found).inStep
  have replicas : (backs.map (·.call.replica)).Perm coordinator.replicas.entries :=
    replicas_outlook_volley inStep timeline index request replies
  have nonempty : backs ≠ [] := by
    intro none
    rw [none] at replicas
    exact known replicas.nil_eq.symm
  have planned : coordinator.plan ≠ [] := by
    intro none
    have empty := inStep.replicas_plan
    rw [none] at empty
    exact known empty.nil_eq.symm
  have any : sent.Reached .any settings :=
    (reached.mono fun _ _ _ => trivial).moves (.client sends (.moved sent))
  exact ⟨replicas, nonempty, Underway.start reached.balanced
    (List.getElem?_eq_some_iff.mp found).1 form any planned⟩

/-- The first success in a collector is the first that came back. -/
theorem Balanced.first_success (balanced : timeline.Balanced) {collector : Collector Outcome}
    (opened : timeline.rounds[round]? = some collector) {outcome : Outcome} {rest : List Outcome}
    (successes : collector.successes = outcome :: rest) :
    ∃ back ∈ timeline.returnsIn round, back.result = .ok outcome ∧
      ∀ other ∈ timeline.returnsIn round, (∃ outcome, other.result = .ok outcome) →
        back.time ≤ other.time := by
  rw [Collector.successes, balanced.results_eq opened] at successes
  obtain ⟨back, present, picked, least⟩ :=
    Return.first_of_filterMap _ (balanced.chronologicalIn round) successes
  refine ⟨back, present, ?_, ?_⟩
  · split at picked <;> cases picked
    assumption
  · rintro other among ⟨outcome', result⟩
    exact least other among (by rw [result]; rfl)

/-- The first failure in a collector is the first that came back. -/
theorem Balanced.first_failure (balanced : timeline.Balanced) {collector : Collector Outcome}
    (opened : timeline.rounds[round]? = some collector) {failure : ReplicaFailure}
    {rest : List ReplicaFailure} (failures : collector.failures = failure :: rest) :
    ∃ back ∈ timeline.returnsIn round, back.result = .error failure ∧
      ∀ other ∈ timeline.returnsIn round, (∃ failure, other.result = .error failure) →
        back.time ≤ other.time := by
  rw [Collector.failures, balanced.results_eq opened] at failures
  obtain ⟨back, present, picked, least⟩ :=
    Return.first_of_filterMap _ (balanced.chronologicalIn round) failures
  refine ⟨back, present, ?_, ?_⟩
  · split at picked <;> cases picked
    assumption
  · rintro other among ⟨failure', result⟩
    exact least other among (by rw [result]; rfl)

/-- The verdict on an attempt that changes the space, from what its calls come to. -/
theorem Decides.ordered {backs : List Return}
    (underway : Underway settings sent index coordinator task replies round timeline)
    (stage : task.stage = .collecting round expected)
    (ordered : task.attempt.operation.isOrdered = true)
    (same : (sent.outlook replies round).Perm backs)
    (decides : Decides index coordinator task round expected timeline later) :
    (∀ back ∈ backs, back ∈ timeline.returns ∧ back.time ≤ timeline.now) ∧
    (∃ back ∈ backs, back.time = timeline.now) ∧
    ∃ result events client, Concludes timeline.now coordinator task result events client ∧
      later.past = (events.map fun event => ⟨timeline.now, index, event⟩).reverse ++ timeline.past ∧
      ((∃ back ∈ backs, ∃ failure, back.result = .error failure ∧
          (∀ other ∈ backs, (∃ failure, other.result = .error failure) → back.time ≤ other.time) ∧
          result = .error (task.attempt.failure failure.message)) ∨
        (∀ back ∈ backs, ∃ outcome, back.result = .ok outcome) ∧
          ∃ back ∈ backs, ∃ outcome, back.result = .ok outcome ∧
            (∀ other ∈ backs, back.time ≤ other.time) ∧
            result = .ok (if task.attempt.operation = .put then .done else outcome)) := by
  obtain ⟨collector, result, events, client, opened, verdict, ends, past, _⟩ := decides
  have balanced := underway.reached.balanced
  have awaits := underway.awaits stage
  have late := Operation.ne_read_of_isOrdered ordered
  have reaches := Attempt.reaches_of_verdict? verdict (.inl late)
  have enough := Awaits.enough balanced opened verdict (.inl late)
  have all := awaits.underWay_eq_nil balanced opened verdict (.inl late)
  have backs_perm : (timeline.returnsIn round).Perm backs :=
    outlook_eq_returnsIn all ▸ underway.outlook.trans same
  have elapsed (back : Return) (present : back ∈ backs) :
      back ∈ timeline.returns ∧ back.time ≤ timeline.now := by
    have returned := (List.mem_filter.mp (backs_perm.symm.subset present)).1
    exact ⟨returned, balanced.elapsed back returned⟩
  refine ⟨elapsed, ?_, result, events, client, ends, past, ?_⟩
  · obtain ⟨back, present, late⟩ := underway.inTime
    have present := same.subset present
    exact ⟨back, present, Nat.le_antisymm (elapsed back present).2 late⟩
  · have some : collector.results ≠ [] := by
      intro none
      rw [balanced.results_eq opened] at none
      have := awaits.positive
      simp only [List.reverse_eq_nil_iff, List.map_eq_nil_iff] at none
      rw [none, List.length_nil] at enough
      omega
    rcases Attempt.verdict?_ordered ordered reaches some with
      ⟨failure, rest, failures, decided⟩ | ⟨outcome, rest, failures, successes, decided⟩
    · cases decided.symm.trans verdict
      obtain ⟨back, present, failed, least⟩ := balanced.first_failure opened failures
      refine .inl ⟨back, backs_perm.subset present, failure, failed, ?_, rfl⟩
      intro other among
      exact least other (backs_perm.symm.subset among)
    · cases decided.symm.trans verdict
      have succeeded (back : Return) (present : back ∈ backs) :
          ∃ outcome, back.result = .ok outcome := by
        have listed := balanced.mem_results opened (backs_perm.symm.subset present)
        rw [Collector.successes_of_no_failure failures] at listed
        obtain ⟨outcome, _, same⟩ := List.mem_map.mp listed
        exact ⟨outcome, same.symm⟩
      obtain ⟨back, present, own, least⟩ := balanced.first_success opened successes
      refine .inr ⟨succeeded, back, backs_perm.subset present, outcome, own, ?_, rfl⟩
      intro other among
      exact least other (backs_perm.symm.subset among) (succeeded other among)

private theorem decision?_of_concludes {now : Nat} {result : Except Error Outcome}
    {events : List Event} {client : Client}
    (ends : Concludes now coordinator task result events client) (moments : List Moment) :
    (events.map (fun event => (⟨now, index, event⟩ : Moment)) ++ moments).findSome?
      (·.decision? index) = some (now, result) := by
  cases ends <;> simp [Moment.decision?]

theorem Underway.decision {middle decided last : Timeline} {result : Except Error Outcome}
    {events : List Event} {client : Client} {moments : List Moment}
    (underway : Underway settings sent index coordinator task replies round middle)
    (ends : Concludes middle.now coordinator task result events client)
    (past : decided.past =
      (events.map fun event => ⟨middle.now, index, event⟩).reverse ++ middle.past)
    (past' : last.past = moments ++ decided.past) :
    last.decision? sent index = some (middle.now, result) := by
  obtain ⟨earlier, before, undecided⟩ := underway.undecided
  have all : last.past = (moments ++
      ((events.map fun event => (⟨middle.now, index, event⟩ : Moment)).reverse ++ earlier)) ++
        sent.past := by
    rw [past', past, before]
    simp only [List.append_assoc]
  have since := since_of_past all
  have quiet : earlier.reverse.findSome? (·.decision? index) = none := by
    refine List.findSome?_eq_none_iff.mpr fun moment present => ?_
    exact undecided moment (List.mem_reverse.mp present)
  rw [decision?, since, List.reverse_append, List.reverse_append, List.reverse_reverse,
    List.append_assoc, List.findSome?_append, quiet, Option.none_or]
  exact decision?_of_concludes ends _

theorem returns_of_past {moments : List Moment} (past : later.past = moments ++ timeline.past)
    {back : Return} (present : back ∈ timeline.returns) : back ∈ later.returns := by
  unfold returns
  rw [past, List.filterMap_append]
  exact List.mem_append_right _ present

/-- An attempt to put or take, from where it sends its calls. One call goes to each replica, with
the operation's argument and the number of the attempt, and is back when its delay and its latency
are over. What the replicas reply decides the attempt: it ends when the last call is back and not
before; it succeeds just when every replica answers; otherwise its error tells of the replica and
the fault of the reply that came back first among those that failed, and a tuple that is taken is
that of the answer that came back first. -/
theorem ordered_attempt_all_or_nothing {σ : Type} {environment : Environment σ}
    {number : SequenceNumber} (reached : timeline.Reached world settings)
    (found : timeline.clients[index]? = some ⟨coordinator, .busy task⟩)
    (stage : task.stage = .sending number)
    (sends : timeline.proceed? index = some (.moved sent))
    (faithful : ∀ state (call : Call), call.round = timeline.rounds.length →
      (environment state (.arrival call)).1 = replies call) (state : σ) :
    ∃ request : Request, request.operation = task.attempt.operation ∧
      request.argument? = some task.attempt.argument ∧ request.number? = some number ∧
    let backs := (timeline.volley index request coordinator.plan).map (Flight.outlook replies)
    (backs.map (·.call.replica)).Perm coordinator.replicas.entries ∧ backs ≠ [] ∧
    (∀ back ∈ backs, ∃ delay, (back.call.replica, delay) ∈ coordinator.plan ∧
      back.time = timeline.now + timeline.timer.wait delay + (replies back.call).latency) ∧
    let last := (sent.run environment state).1
    ∃ time result, last.decision? sent index = some (time, result) ∧
      (∀ back ∈ backs, back ∈ last.returns ∧ back.time ≤ time) ∧
      (∃ back ∈ backs, back.time = time) ∧
      ((∃ outcome, result = .ok outcome) ↔
        ∀ back ∈ backs, ∃ value, (replies back.call).ending = .answered value) ∧
      (∀ error, result = .error error → ∃ back ∈ backs, ∃ fault,
        (replies back.call).ending.fault? = some fault ∧
        (∀ other ∈ backs, (replies other.call).ending.fault? ≠ none → back.time ≤ other.time) ∧
        error = .replicaOperationFailure task.attempt.operation task.attempt.argument
          task.attempt.ordinal
          (⟨task.attempt.operation, back.call.replica, fault⟩ : ReplicaFailure).message) ∧
      ∀ outcome, result = .ok outcome →
        (task.attempt.operation = .put → outcome = .done) ∧
        (task.attempt.operation = .take → ∃ back ∈ backs, ∃ text,
          back.call.operation.tuple? (replies back.call).ending = some text ∧
          (∀ other ∈ backs, back.time ≤ other.time) ∧ outcome = .tuple text) := by
  let request := Request.numbered task.attempt.operation task.attempt.argument number
  let round := timeline.rounds.length
  let sending : Task := { task with stage := .collecting round coordinator.replicas.size }
  have known := (reached.engaged found).2
  rw [Engaged, stage] at known
  obtain ⟨discovered, ordered⟩ := known
  have fits : request.Fits task.attempt.operation task.attempt.argument :=
    Request.fits_numbered ordered _ _
  have form : sent = (timeline.dispatch index request coordinator.plan).enact index []
      ⟨coordinator, .busy sending⟩ := by
    simp only [proceed?, found, stage, Option.some.injEq, Step.moved.injEq] at sends
    exact sends.symm
  refine ⟨request, fits.operation, fits.argument_of_isOrdered ordered,
    Request.number?_numbered .., ?_⟩
  intro backs
  obtain ⟨replicas, nonempty, outlook, underway⟩ :=
    reached.underway_sent found discovered sends form
  have answered (back : Return) (present : back ∈ backs) : (∃ outcome, back.result = .ok outcome) ↔
      ∃ value, (replies back.call).ending = .answered value :=
    ok_iff_of_mem_outlook_volley present
  have faulty (back : Return) (present : back ∈ backs) (failure : ReplicaFailure) :
      back.result = .error failure ↔ ∃ fault, (replies back.call).ending.fault? = some fault ∧
        failure = ⟨task.attempt.operation, back.call.replica, fault⟩ :=
    fits.operation ▸ error_iff_of_mem_outlook_volley present failure
  obtain ⟨middle, decided, underway', decides, moments, past⟩ :=
    underway.run rfl environment.keeps_answers (environment.faithful_answers faithful) state
  obtain ⟨elapsed, last, result, events, client, ends, past', verdict⟩ :=
    decides.ordered underway' rfl ordered outlook
  have decision := underway'.decision ends past' past
  refine ⟨replicas, nonempty, fun back present => (of_mem_outlook_volley present).2.2.2, middle.now,
    result, decision, ?_, last, ?_, ?_, ?_⟩
  · intro back present
    obtain ⟨returned, time⟩ := elapsed back present
    exact ⟨returns_of_past past (returns_of_past past' returned), time⟩
  · rcases verdict with ⟨back, present, failure, failed, _, same⟩ | ⟨succeeded, _, _, _, _, _, same⟩
    · refine ⟨fun success => ?_, fun all => ?_⟩
      · obtain ⟨outcome, impossible⟩ := success
        cases impossible.symm.trans same
      · obtain ⟨outcome, impossible⟩ := (answered back present).mpr (all back present)
        cases impossible.symm.trans failed
    · exact ⟨fun _ back present => (answered back present).mp (succeeded back present),
        fun _ => ⟨_, same⟩⟩
  · intro error failing
    rcases verdict with ⟨back, present, failure, failed, least, same⟩ | ⟨_, _, _, _, _, _, same⟩
    · cases failing.symm.trans same
      obtain ⟨fault, given, rfl⟩ := (faulty back present failure).mp failed
      refine ⟨back, present, fault, given, fun other among failed => ?_, rfl⟩
      obtain ⟨fault', given'⟩ := Option.ne_none_iff_exists'.mp failed
      exact least other among ⟨_, (faulty other among _).mpr ⟨fault', given', rfl⟩⟩
    · cases failing.symm.trans same
  · intro outcome success
    rcases verdict with ⟨_, _, _, _, _, same⟩ | ⟨_, back, present, outcome', succeeded, least, same⟩
    · cases success.symm.trans same
    · cases success.symm.trans same
      refine ⟨fun put => if_pos put, fun take => ?_⟩
      obtain ⟨_, asked, ends, _⟩ := of_mem_outlook_volley present
      have operation := (congrArg Request.operation asked).trans (fits.operation.trans take)
      obtain ⟨text, tuple, same⟩ :=
        Call.tuple?_of_result (.inr operation) (ends.symm.trans succeeded)
      have other : task.attempt.operation ≠ .put := by
        rw [take]
        decide
      exact ⟨back, present, text, tuple, least, by rw [if_neg other, same]⟩

/-- One of two replicas is down. -/
theorem put_fails_without_replica :
    let down : ReplyLine := ⟨5, none, some (.status 500 "down"), none, []⟩
    let replies : Replies := fun call =>
      (if call.replica.qualifier = "B" then down else .plain).reply call.request
    let environment : Environment Unit := .fixed (.ok []) (.ok ⟨1⟩) replies
    ∃ timeline sent : Timeline, timeline.Reached .any [.standard] ∧
      timeline.proceed? 0 = some (.moved sent) ∧
      ∃ time reason, (sent.run environment ()).1.decision? sent 0 =
        some (time, .error (.replicaOperationFailure .put "<a>" 1 reason)) := by
  intro down replies environment
  have idle : (opening [.standard]).Free 0 := fun client found => by cases found; rfl
  have asked : Reached .any [.standard] _ :=
    Reached.opening.requests (.operation idle .put "<a>" 1 0)
  have begun := asked.goes (rfl : proceed? _ 0 = _)
  have known := begun.learns (rfl : proceed? _ 0 = some (.asks (.lookup _ _) _))
    (.ok [⟨"a:1", "A"⟩, ⟨"b:1", "B"⟩]) trivial
  have numbered := known.learns (rfl : proceed? _ 0 = some (.asks (.next _) _)) (.ok ⟨7⟩) trivial
  obtain ⟨request, _, _, _, replicas, _, _, time, result, decision, _, _, unanimous, failing, _⟩ :=
    @ordered_attempt_all_or_nothing _ _ _ _ 0 _ _ replies _ environment ⟨7⟩ numbered rfl rfl rfl
      (fun _ _ _ => rfl) ()
  refine ⟨_, _, numbered, rfl, time, ?_⟩
  have listed := replicas.symm.subset (List.mem_cons_of_mem _ (List.mem_singleton.mpr rfl))
  obtain ⟨back, present, same⟩ := List.mem_map.mp listed
  cases result with
  | ok outcome =>
    obtain ⟨value, impossible⟩ := unanimous.mp ⟨outcome, rfl⟩ back present
    have lost : (replies back.call).ending = .failed (.status 500 "down") := by
      simp [replies, same, ReplyLine.reply, down]
    cases impossible.symm.trans lost
  | error error =>
    obtain ⟨_, _, fault, _, _, same⟩ := failing error rfl
    exact ⟨_, same ▸ decision⟩

end Timeline
end ReplicatedSpace
