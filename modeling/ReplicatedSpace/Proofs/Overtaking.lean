import ReplicatedSpace.Proofs.Futures
import ReplicatedSpace.Proofs.Numbers

/-!
No ordered call is overtaken. A client at an operation that changes the space goes on when all its
calls are back, so that none is under way while it is at anything else; and as long as the sequencer
gives it ever greater numbers, its calls arrive in the order of these.
-/
namespace ReplicatedSpace

/-- The number that a client was given, if that is what happened. -/
def Moment.obtainedBy? (index : Nat) (moment : Moment) : Option SequenceNumber :=
  if moment.client = index then moment.event.obtained? else none

theorem Moment.obtainedBy?_of_isDeed {index : Nat} {moment : Moment}
    (other : moment.event.isDeed = false) : moment.obtainedBy? index = none := by
  unfold obtainedBy?
  split
  · cases event : moment.event with
    | next => rw [event] at other; cases other
    | _ => rfl
  · rfl

/-- The number of a client's call, if it has one. -/
def Call.numberOf? (index : Nat) (call : Call) : Option SequenceNumber :=
  if call.client = index then call.request.number? else none

theorem Call.numberOf?_eq_some_iff {index : Nat} {call : Call} {number : SequenceNumber} :
    call.numberOf? index = some number ↔
      call.client = index ∧ call.request.number? = some number := by
  unfold numberOf?
  by_cases own : call.client = index <;> simp [own]

theorem Request.Fits.isOrdered {request : Request} {operation : Operation} {argument : String}
    (fits : request.Fits operation argument) {number : SequenceNumber}
    (carries : request.number? = some number) : operation.isOrdered = true := by
  by_contra other
  rw [fits.number?_eq_none (Bool.eq_false_iff.mpr other)] at carries
  cases carries

namespace Timeline

variable {world : World} {settings : List Settings} {timeline later : Timeline} {index : Nat}
  {coordinator : Coordinator} {task : Task} {round expected : Nat}

/-- The numbers that a client was given, the latest first. -/
def obtainedBy (timeline : Timeline) (index : Nat) : List SequenceNumber :=
  timeline.past.filterMap (Moment.obtainedBy? index)

/-- The numbers of a client's calls in the order in which they arrived, the latest first. -/
def arrivedNumbers (timeline : Timeline) (index : Nat) : List SequenceNumber :=
  timeline.arrivals.filterMap (Call.numberOf? index)

/-- An attempt to put or take ends, and any attempt is followed by another one, only when all its
calls are back. -/
theorem Moves.underWay_eq_nil (reached : timeline.Reached world settings)
    (moves : timeline.Moves world later) {client : Client}
    (found : timeline.clients[index]? = some ⟨coordinator, .busy task⟩)
    (stage : task.stage = .collecting round expected)
    (found' : later.clients[index]? = some client) (ended : client.activity ≠ .busy task)
    (late : task.attempt.operation.isOrdered = true ∨ client.isBusy = true) :
    later.underWay round = [] := by
  rcases moves.client? found' with same | ⟨_, _, effect, events, busy, deed, same⟩
  · cases found.symm.trans same
    exact absurd rfl ended
  · cases found.symm.trans busy
    obtain ⟨quiet, collector, result, opened, verdict, ends⟩ := deed.of_collecting stage
    subst quiet
    have engaged := (reached.engaged found).2
    rw [Engaged, stage] at engaged
    have late : task.attempt.operation ≠ .read ∨ ∃ error, result = .error error := by
      rcases late with ordered | busy
      · exact .inl (Operation.ne_read_of_isOrdered ordered)
      · cases ends with
        | final | spent => cases busy
        | again => exact .inr ⟨_, rfl⟩
    have none := Awaits.underWay_eq_nil reached.balanced engaged opened verdict late
    rw [same]
    exact none

/-- A client waits for all its calls under way that have a number, which is the latest that it was
given. -/
structure Attended (index : Nat) (timeline : Timeline) : Prop where
  awaited : ∀ flight ∈ timeline.flights, ∀ number, flight.call.numberOf? index = some number →
    (timeline.obtainedBy index).head? = some number ∧ ∃ coordinator task expected,
      timeline.clients[index]? = some ⟨coordinator, .busy task⟩ ∧
      task.stage = .collecting flight.call.round expected
  given : ∀ coordinator task number,
    timeline.clients[index]? = some ⟨coordinator, .busy task⟩ → task.stage = .sending number →
      (timeline.obtainedBy index).head? = some number
  sent : ∀ call ∈ timeline.sent, ∀ number, call.numberOf? index = some number →
    number ∈ timeline.obtainedBy index

theorem Attended.aside (attended : timeline.Attended index)
    (client : later.clients[index]? = timeline.clients[index]?)
    (numbers : later.obtainedBy index = timeline.obtainedBy index)
    (flights : ∀ flight ∈ later.flights, flight.call.client = index →
      ∃ earlier ∈ timeline.flights, earlier.call = flight.call)
    (sent : ∀ call ∈ later.sent, call.client = index → call ∈ timeline.sent) :
    later.Attended index := by
  constructor
  · intro flight present number carries
    obtain ⟨earlier, present', same⟩ :=
      flights flight present (Call.numberOf?_eq_some_iff.mp carries).1
    rw [numbers, client, ← same]
    exact attended.awaited earlier present' number (same ▸ carries)
  · rw [numbers, client]
    exact attended.given
  · intro call present number carries
    rw [numbers]
    exact attended.sent call (sent call present (Call.numberOf?_eq_some_iff.mp carries).1) number
      carries

theorem Attended.plain
    (plain : ∀ flight ∈ later.flights, flight.call.numberOf? index = none)
    (given : ∀ coordinator task number,
      later.clients[index]? = some ⟨coordinator, .busy task⟩ → task.stage = .sending number →
        (later.obtainedBy index).head? = some number)
    (sent : ∀ call ∈ later.sent, ∀ number, call.numberOf? index = some number →
      number ∈ later.obtainedBy index) : later.Attended index := by
  refine ⟨?_, given, sent⟩
  intro flight present number carries
  rw [plain flight present] at carries
  cases carries

theorem obtainedBy_of_past {moments : List Moment} (past : later.past = moments ++ timeline.past)
    (silent : ∀ moment ∈ moments, moment.obtainedBy? index = none) :
    later.obtainedBy index = timeline.obtainedBy index := by
  unfold obtainedBy
  rw [past, List.filterMap_append, List.filterMap_eq_nil_iff.mpr silent, List.nil_append]

theorem obtainedBy_enact (timeline : Timeline) (events : List Event) (client : Client) :
    (timeline.enact index events client).obtainedBy index =
      (events.filterMap Event.obtained?).reverse ++ timeline.obtainedBy index := by
  have own (moment : Moment) (here : moment.client = index) :
      moment.obtainedBy? index = moment.event.obtained? := if_pos here
  unfold obtainedBy enact
  rw [List.filterMap_append, List.filterMap_reverse, List.filterMap_map]
  congr 2
  apply List.filterMap_congr
  intro event _
  exact own ⟨timeline.now, index, event⟩ rfl

theorem obtainedBy_carry (timeline : Timeline) (mover : Nat) (effect : Effect) :
    (timeline.carry mover effect).obtainedBy index = timeline.obtainedBy index := by
  unfold obtainedBy
  rw [carry_past]

theorem mem_flights_carry {mover : Nat} {effect : Effect} {flight : Flight}
    (present : flight ∈ (timeline.carry mover effect).flights) :
    flight ∈ timeline.flights ∨ ∃ request plan, effect = .volley request plan ∧
      flight ∈ timeline.volley mover request plan := by
  cases effect with
  | quiet | renewal => exact .inl present
  | volley request plan =>
    rw [carry, dispatch_eq] at present
    rcases List.mem_append.mp ((Flight.foldl_enqueue_perm ..).subset present) with new | old
    · exact .inr ⟨request, plan, rfl, new⟩
    · exact .inl old

theorem mem_sent_carry {mover : Nat} {effect : Effect} {call : Call}
    (present : call ∈ (timeline.carry mover effect).sent) :
    call ∈ timeline.sent ∨ ∃ request plan, effect = .volley request plan ∧
      call ∈ timeline.volleyCalls mover request plan := by
  cases effect with
  | quiet | renewal => exact .inl present
  | volley request plan =>
    rcases List.mem_append.mp (sent_dispatch.subset present) with new | old
    · exact .inr ⟨request, plan, rfl, new⟩
    · exact .inl old

/-- When a client does something, none of its calls under way has a number: if there are any, its
attempt has its verdict, and at an ordered operation it has waited for all of them. -/
theorem Attended.without_numbers {effect : Effect} {events : List Event} {client : Client}
    (attended : timeline.Attended index) (balanced : timeline.Balanced)
    (found : timeline.clients[index]? = some ⟨coordinator, .busy task⟩)
    (engaged : timeline.Engaged index coordinator task)
    (deed : Deed world timeline coordinator task effect events client) :
    ∀ flight ∈ timeline.flights, flight.call.numberOf? index = none := by
  intro flight present
  cases carries : flight.call.numberOf? index with
  | none => rfl
  | some number =>
    obtain ⟨_, _, _, expected, busy, stage⟩ := attended.awaited flight present number carries
    cases found.symm.trans busy
    obtain ⟨_, collector, result, opened, verdict, _⟩ := deed.of_collecting stage
    rw [Engaged, stage] at engaged
    have out := mem_underWay_of_flight present
    have inside : flight.call ∈ timeline.sentIn flight.call.round :=
      (balanced.sentIn_perm _).symm.subset (List.mem_append_left _ out)
    have fits := (engaged.own flight.call inside).2
    have ordered := fits.isOrdered (Call.numberOf?_eq_some_iff.mp carries).2
    have late := Operation.ne_read_of_isOrdered ordered
    rw [Awaits.underWay_eq_nil balanced engaged opened verdict (.inl late)] at out
    cases out

theorem Attended.volley {request : Request} {plan : List (Replica × Span)} {call : Call}
    {number : SequenceNumber} (attended : timeline.Attended index)
    (found : timeline.clients[index]? = some ⟨coordinator, .busy task⟩)
    (sends : coordinator.Sends task request plan expected)
    (present : call ∈ timeline.volleyCalls index request plan)
    (carries : call.numberOf? index = some number) :
    (timeline.obtainedBy index).head? = some number := by
  have asked := (mem_volleyCalls present).2.2
  have carries := (Call.numberOf?_eq_some_iff.mp carries).2
  rw [asked] at carries
  cases sends with
  | ordered stage =>
    rw [Request.number?_numbered] at carries
    cases carries
    exact attended.given coordinator task _ found stage
  | read | state => cases carries

/-- Whatever a client does, it waits for its calls with a number. -/
theorem Attended.deed {effect : Effect} {events : List Event} {client : Client}
    (attended : timeline.Attended index) (balanced : timeline.Balanced)
    (found : timeline.clients[index]? = some ⟨coordinator, .busy task⟩)
    (engaged : timeline.Engaged index coordinator task)
    (deed : Deed world timeline coordinator task effect events client) :
    ((timeline.carry index effect).enact index events client).Attended index := by
  have plain := attended.without_numbers balanced found engaged deed
  have inside := (List.getElem?_eq_some_iff.mp found).1
  have here : ((timeline.carry index effect).enact index events client).clients[index]? =
      some client := by
    simp [enact, inside]
  have numbers : ((timeline.carry index effect).enact index events client).obtainedBy index =
      (events.filterMap Event.obtained?).reverse ++ timeline.obtainedBy index := by
    rw [obtainedBy_enact, obtainedBy_carry]
  have sent : ((timeline.carry index effect).enact index events client).sent =
      (timeline.carry index effect).sent := sent_enact deed.isDeed
  constructor
  · intro flight present number carries
    rcases mem_flights_carry present with old | ⟨request, plan, same, new⟩
    · rw [plain flight old] at carries
      cases carries
    · subst same
      cases deed with
      | sent sends =>
        rename_i expected
        have head := attended.volley found sends (List.mem_map_of_mem new) carries
        rw [numbers, here]
        refine ⟨head, coordinator, _, expected, rfl, ?_⟩
        rw [(mem_volley new).2.2.2.1]
  · intro coordinator' task' number busy stage
    rw [here] at busy
    cases busy
    rw [numbers]
    cases deed with
    | numbered => cases stage; rfl
    | began | known | found | sent => cases stage
    | lost _ _ _ _ ends | decided _ _ _ ends =>
      generalize own : (⟨coordinator', .busy task'⟩ : Client) = client at ends
      cases ends with
      | final | spent => cases own
      | again => cases own; cases stage
  · intro call present number carries
    rw [sent] at present
    rw [numbers]
    apply List.mem_append_right
    rcases mem_sent_carry present with old | ⟨request, plan, same, new⟩
    · exact attended.sent call old number carries
    · subst same
      cases deed with
      | sent sends => exact List.mem_of_head? (attended.volley found sends new carries)

theorem Hop.call_of_flight (hop : timeline.Hop world later) :
    ∀ flight ∈ later.flights, ∃ earlier ∈ timeline.flights, earlier.call = flight.call := by
  intro flight present
  cases hop with
  | arrives first leg admitted same inOrder =>
    rename_i out rest flights reply
    rw [first]
    rcases List.mem_cons.mp (same.subset present) with here | there
    · exact ⟨out, List.mem_cons_self, by rw [here]⟩
    · exact ⟨flight, List.mem_cons_of_mem _ there, rfl⟩
  | returns first leg =>
    rw [first]
    exact ⟨flight, List.mem_cons_of_mem _ present, rfl⟩

theorem Hop.obtainedBy (hop : timeline.Hop world later) :
    later.obtainedBy index = timeline.obtainedBy index := by
  obtain ⟨_, moment, past, other, _⟩ := hop.past
  have past : later.past = [moment] ++ timeline.past := past
  apply obtainedBy_of_past past
  intro each present
  rw [List.mem_singleton.mp present]
  exact Moment.obtainedBy?_of_isDeed other

theorem Hop.attended (attended : timeline.Attended index) (hop : timeline.Hop world later) :
    later.Attended index := by
  apply attended.aside
  · rw [hop.past.1]
  · exact hop.obtainedBy
  · intro flight present _
    exact hop.call_of_flight flight present
  · intro call present _
    exact hop.sent.subset present

theorem Attended.other {mover : Nat} {effect : Effect} {events : List Event} {client : Client}
    (attended : timeline.Attended index) (other : mover ≠ index)
    (deeds : ∀ event ∈ events, event.isDeed = true) :
    ((timeline.carry mover effect).enact mover events client).Attended index := by
  apply attended.aside
  · simp only [enact, carry_clients, List.getElem?_set_ne other]
  · have past : ((timeline.carry mover effect).enact mover events client).past =
        (events.map fun event => ⟨timeline.now, mover, event⟩).reverse ++ timeline.past := by
      rw [enact, carry_past, carry_now]
    apply obtainedBy_of_past past
    intro moment present
    obtain ⟨event, _, same⟩ := List.mem_map.mp (List.mem_reverse.mp present)
    rw [← same]
    exact if_neg other
  · intro flight present own
    rcases mem_flights_carry present with old | ⟨request, plan, _, new⟩
    · exact ⟨flight, old, rfl⟩
    · exact absurd ((mem_volley new).2.2.1.symm.trans own) other
  · intro call present own
    rw [sent_enact deeds] at present
    rcases mem_sent_carry present with old | ⟨request, plan, _, new⟩
    · exact old
    · exact absurd ((mem_volleyCalls new).1.symm.trans own) other

theorem Moves.attended (reached : timeline.Reached world settings)
    (attended : timeline.Attended index) (moves : timeline.Moves world later) :
    later.Attended index := by
  cases moves with
  | client proceeds leads =>
    rename_i mover step
    obtain ⟨coordinator, task, effect, events, client, busy, deed, same⟩ :=
      deed_of_proceed? proceeds leads
    rw [same]
    by_cases here : mover = index
    · subst here
      exact attended.deed reached.balanced busy (reached.engaged busy).2 deed
    · exact attended.other here deed.isDeed
  | flight fires leads =>
    cases lands_of_fire? fires leads with
    | once hop => exact hop.attended attended
    | twice hop hop' _ => exact hop'.attended (hop.attended attended)
  | clock => exact ⟨attended.awaited, attended.given, attended.sent⟩
  | shuffle same inOrder =>
    refine attended.aside rfl rfl ?_ ?_
    · intro flight present _
      exact ⟨flight, same.subset present, rfl⟩
    · intro call present _
      exact ((same.filterMap _).append_right _).subset present

theorem Requests.calls {mover : Nat} (requests : timeline.Requests mover later) (index : Nat) :
    later.flights = timeline.flights ∧ later.arrivals = timeline.arrivals ∧
      later.obtainedBy index = timeline.obtainedBy index := by
  cases requests with
  | operation free operation argument retries start =>
    obtain ⟨clients, turns, same⟩ := timeline.submit_books mover operation argument retries start
    rw [same]
    exact ⟨rfl, rfl, rfl⟩
  | delay free qualifier delay =>
    rcases timeline.requestDelay_books mover qualifier delay with same | ⟨clients, same⟩
    · rw [same]
      exact ⟨rfl, rfl, rfl⟩
    · rw [same]
      refine ⟨rfl, rfl, ?_⟩
      have past : { timeline.log mover (.delaySet qualifier delay) with clients }.past =
          [⟨timeline.now, mover, .delaySet qualifier delay⟩] ++ timeline.past := rfl
      apply obtainedBy_of_past past
      intro moment present
      rw [List.mem_singleton.mp present]
      exact Moment.obtainedBy?_of_isDeed rfl

theorem Requests.attended {mover : Nat} (attended : timeline.Attended index)
    (requests : timeline.Requests mover later) : later.Attended index := by
  obtain ⟨flights, arrivals, numbers⟩ := requests.calls index
  have sent : later.sent = timeline.sent := by
    unfold Timeline.sent outbound
    rw [flights, arrivals]
  by_cases own : mover = index
  · subst own
    have free : timeline.Free mover := by cases requests <;> assumption
    have idle {coordinator : Coordinator} {task : Task} :
        timeline.clients[mover]? ≠ some ⟨coordinator, .busy task⟩ := by
      intro found
      cases free _ found
    constructor
    · intro flight present number carries
      rw [flights] at present
      obtain ⟨_, _, _, _, busy, _⟩ := attended.awaited flight present number carries
      exact absurd busy idle
    · intro coordinator task number found stage
      rcases requests.client? found with same | ⟨_, earlier, _, rests, ⟨_, started⟩ | kept⟩
      · exact absurd same idle
      · obtain ⟨_, _, _, _, started⟩ := started
        cases started
        cases stage
      · rw [Client.isBusy, ← kept] at rests
        cases rests
    · rw [sent, numbers]
      exact attended.sent
  · apply attended.aside (requests.client?_other own) numbers
    · intro flight present _
      exact ⟨flight, flights ▸ present, rfl⟩
    · intro call present _
      exact sent ▸ present

theorem Reached.attended (reached : timeline.Reached world settings) (index : Nat) :
    timeline.Attended index := by
  induction reached with
  | opening =>
    constructor
    · intro flight absent
      cases absent
    · intro coordinator task number found
      simp [Timeline.opening] at found
    · intro call absent
      cases absent
  | moves reached moves ih => exact moves.attended reached ih
  | requests _ requests ih => exact requests.attended ih

/-- Each number is greater than the one before. -/
def Increasing (numbers : List SequenceNumber) : Prop :=
  numbers.Pairwise fun later earlier => earlier.value < later.value

theorem Increasing.le_head {numbers : List SequenceNumber} {latest number : SequenceNumber}
    (increasing : Increasing numbers) (head : numbers.head? = some latest)
    (present : number ∈ numbers) : number.value ≤ latest.value := by
  cases numbers with
  | nil => cases present
  | cons first rest =>
    cases head
    rcases List.mem_cons.mp present with same | earlier
    · rw [same]
      exact UInt64.le_refl _
    · exact UInt64.le_of_lt ((List.pairwise_cons.mp increasing).1 number earlier)

theorem Increasing.of_onward (increasing : Increasing (later.obtainedBy index))
    (onward : timeline.Onward later) : Increasing (timeline.obtainedBy index) := by
  obtain ⟨moments, past⟩ := onward.log
  unfold obtainedBy at increasing
  rw [past, List.filterMap_append] at increasing
  exact (List.pairwise_append.mp increasing).2.1

theorem Attended.number_le (attended : timeline.Attended index)
    (increasing : Increasing (timeline.obtainedBy index)) {call : Call}
    (sent : call ∈ timeline.sent) {number other : SequenceNumber}
    (carries : call.numberOf? index = some number) {flight : Flight}
    (present : flight ∈ timeline.flights) (carries' : flight.call.numberOf? index = some other) :
    number.value ≤ other.value := by
  have head := (attended.awaited flight present other carries').1
  exact increasing.le_head head (attended.sent call sent number carries)

/-- The calls of a client have arrived in the order of their numbers, if that is the order in which
it was given these. -/
def InTurn (index : Nat) (timeline : Timeline) : Prop :=
  Increasing (timeline.obtainedBy index) →
    (timeline.arrivedNumbers index).Pairwise fun later earlier => earlier.value ≤ later.value

theorem InTurn.aside (inTurn : timeline.InTurn index) (onward : timeline.Onward later)
    (arrivals : later.arrivals = timeline.arrivals) : later.InTurn index := by
  intro increasing
  unfold arrivedNumbers
  rw [arrivals]
  exact inTurn (increasing.of_onward onward)

theorem Hop.inTurn (inTurn : timeline.InTurn index) (attended : timeline.Attended index)
    (hop : timeline.Hop world later) : later.InTurn index := by
  have onward := hop.onward
  cases hop with
  | arrives first leg admitted same inOrder =>
    rename_i flight rest flights reply
    intro increasing
    have increasing := increasing.of_onward onward
    have earlier := inTurn increasing
    have present : flight ∈ timeline.flights := first ▸ List.mem_cons_self
    have grown : arrivedNumbers ((timeline.reach flight flights).log flight.call.client
        (.arrived flight.call)) index =
          (flight.call.numberOf? index).toList ++ timeline.arrivedNumbers index := by
      cases carries : flight.call.numberOf? index <;>
        simp [arrivedNumbers, arrivals, log, reach, Moment.arrival?, carries]
    rw [grown]
    cases carries : flight.call.numberOf? index with
    | none => exact earlier
    | some number =>
      apply List.pairwise_cons.mpr
      refine ⟨?_, earlier⟩
      intro other before
      obtain ⟨call, arrived, carries'⟩ := List.mem_filterMap.mp before
      exact attended.number_le increasing (List.mem_append_right _ arrived) carries' present carries
  | returns => exact inTurn.aside onward rfl

theorem Reached.inTurn (reached : timeline.Reached world settings) (index : Nat) :
    timeline.InTurn index := by
  induction reached with
  | opening => exact fun _ => .nil
  | moves reached moves ih =>
    have onward := moves.onward
    cases moves with
    | client proceeds leads =>
      obtain ⟨_, _, effect, _, _, _, deed, same⟩ := deed_of_proceed? proceeds leads
      apply ih.aside onward
      rw [same, arrivals_enact deed.isDeed]
      unfold arrivals
      rw [carry_past]
    | flight fires leads =>
      have attended := reached.attended index
      cases lands_of_fire? fires leads with
      | once hop => exact hop.inTurn ih attended
      | twice hop hop' _ => exact hop'.inTurn (hop.inTurn ih attended) (hop.attended attended)
    | clock => exact ih.aside onward rfl
    | shuffle => exact ih.aside onward rfl
  | requests _ requests ih => exact ih.aside requests.onward (requests.calls index).2.1

theorem Moment.arrival?_of_isDeed {moment : Moment} (deed : moment.event.isDeed = true) :
    moment.arrival? = none := by
  unfold Moment.arrival?
  split
  · rename_i same
    rw [same] at deed
    cases deed
  · rfl

theorem Hop.arrived (hop : timeline.Hop world later) :
    ∃ moment : Moment, later.past = moment :: timeline.past ∧ ∀ call,
      moment.arrival? = some call → ∃ flight ∈ timeline.flights, flight.call = call := by
  cases hop with
  | arrives first leg admitted same inOrder =>
    rename_i flight rest flights reply
    refine ⟨_, rfl, ?_⟩
    intro call arrived
    cases arrived
    exact ⟨flight, first ▸ List.mem_cons_self, rfl⟩
  | returns first leg =>
    refine ⟨_, rfl, ?_⟩
    intro call arrived
    cases arrived

theorem Happens.arrived (happens : timeline.Happens world later) :
    ∃ moments : List Moment, later.past = moments ++ timeline.past ∧ ∀ moment ∈ moments, ∀ call,
      moment.arrival? = some call → ∃ flight ∈ timeline.flights, flight.call = call := by
  cases happens with
  | client proceeds leads =>
    obtain ⟨_, _, _, events, _, _, deed, same⟩ := deed_of_proceed? proceeds leads
    refine ⟨_, by rw [same, enact, carry_past], ?_⟩
    intro moment present call arrived
    obtain ⟨event, inside, from_⟩ := List.mem_map.mp (List.mem_reverse.mp present)
    subst from_
    rw [Moment.arrival?_of_isDeed (deed.isDeed event inside)] at arrived
    cases arrived
  | flight fires leads =>
    cases lands_of_fire? fires leads with
    | once hop =>
      obtain ⟨moment, past, known⟩ := hop.arrived
      refine ⟨[moment], past, ?_⟩
      intro each present
      rw [List.mem_singleton.mp present]
      exact known
    | twice hop hop' _ =>
      obtain ⟨moment, past, known⟩ := hop.arrived
      obtain ⟨moment', past', known'⟩ := hop'.arrived
      refine ⟨[moment', moment], by rw [past', past]; rfl, ?_⟩
      intro each present call arrived
      rcases List.mem_cons.mp present with same | present
      · subst same
        obtain ⟨flight, inside, own⟩ := known' call arrived
        obtain ⟨earlier, before, same⟩ := hop.call_of_flight flight inside
        exact ⟨earlier, before, same.trans own⟩
      · rw [List.mem_singleton.mp present] at arrived
        exact known call arrived
  | clock => exact ⟨[], rfl, fun _ absent => by cases absent⟩
  | user requests =>
    rename_i mover
    cases requests with
    | operation free operation argument retries start =>
      obtain ⟨clients, turns, same⟩ := timeline.submit_books mover operation argument retries start
      exact ⟨[], by rw [same]; rfl, fun _ absent => by cases absent⟩
    | delay free qualifier delay =>
      rcases timeline.requestDelay_books mover qualifier delay with same | ⟨clients, same⟩
      · exact ⟨[], by rw [same]; rfl, fun _ absent => by cases absent⟩
      · refine ⟨[_], by rw [same]; rfl, ?_⟩
        intro moment present call arrived
        rw [List.mem_singleton.mp present] at arrived
        cases arrived

theorem Future.number_le {call : Call} {number : SequenceNumber}
    (reached : timeline.Reached world settings) (sent : call ∈ timeline.sent)
    (carries : call.numberOf? index = some number) (future : timeline.Future world later)
    (increasing : Increasing (later.obtainedBy index)) :
    ∃ moments : List Moment, later.past = moments ++ timeline.past ∧
      ∀ moment ∈ moments, ∀ arrived, moment.arrival? = some arrived →
        ∀ other, arrived.numberOf? index = some other → number.value ≤ other.value := by
  induction future with
  | refl => exact ⟨[], rfl, fun _ absent => by cases absent⟩
  | tail future happens ih =>
    rename_i middle later
    have onward : middle.Onward later := Future.onward (.single happens)
    have increasing' := increasing.of_onward onward
    obtain ⟨moments, past, before⟩ := ih increasing'
    obtain ⟨moments', past', flying⟩ := happens.arrived
    have opened := reached.balanced.opened call sent
    have sent' : call ∈ middle.sentIn call.round :=
      ((Future.onward future).sentIn opened).symm.subset
        (List.mem_filter.mpr ⟨sent, decide_eq_true rfl⟩)
    refine ⟨moments' ++ moments, by rw [past', past, List.append_assoc], ?_⟩
    intro moment present arrived same other carries'
    rcases List.mem_append.mp present with new | old
    · obtain ⟨flight, inside, own⟩ := flying moment new arrived same
      have attended := (reached.future future).attended index
      exact attended.number_le increasing' (List.mem_filter.mp sent').1 carries inside
        (own ▸ carries')
    · exact before moment old arrived same other carries'

/-- Ordered calls never straggle. An attempt at an operation that changes the space ends, and any
attempt is followed by another one, only when all its calls are back; a client waits for each of its
calls under way that has a number. If the numbers that a client was given increase, its calls have
arrived in their order, and with one of them sent, no call of a smaller number is under way any more
or arrives. -/
theorem ordered_calls_never_straggle (reached : timeline.Reached world settings) :
    (∀ (later : Timeline) (index : Nat) (coordinator : Coordinator) (task : Task)
      (round expected : Nat) (client : Client), timeline.Moves world later →
      timeline.clients[index]? = some ⟨coordinator, .busy task⟩ →
      task.stage = .collecting round expected → later.clients[index]? = some client →
      client.activity ≠ .busy task →
      task.attempt.operation.isOrdered = true ∨ client.isBusy = true →
        later.underWay round = [] ∧
          ((later.returnsIn round).map Return.call).Perm (later.sentIn round)) ∧
    (∀ index, ∀ flight ∈ timeline.flights, ∀ number, flight.call.numberOf? index = some number →
      ∃ coordinator task expected, timeline.clients[index]? = some ⟨coordinator, .busy task⟩ ∧
        task.stage = .collecting flight.call.round expected) ∧
    ∀ index, Increasing (timeline.obtainedBy index) →
      (timeline.arrivedNumbers index).Pairwise (fun later earlier => earlier.value ≤ later.value) ∧
      ∀ call ∈ timeline.sent, ∀ number, call.numberOf? index = some number →
        (∀ flight ∈ timeline.flights, ∀ other, flight.call.numberOf? index = some other →
          number.value ≤ other.value) ∧
        ∀ later, timeline.Future world later → Increasing (later.obtainedBy index) →
          ∃ moments : List Moment, later.past = moments ++ timeline.past ∧
            ∀ moment ∈ moments, ∀ arrived, moment.arrival? = some arrived →
              ∀ other, arrived.numberOf? index = some other → number.value ≤ other.value := by
  refine ⟨?_, ?_, ?_⟩
  · intro later index coordinator task round expected client moves found stage found' ended late
    have none := moves.underWay_eq_nil reached found stage found' ended late
    have all := (reached.moves moves).balanced.sentIn_perm round
    rw [none, List.nil_append] at all
    exact ⟨none, all.symm⟩
  · intro index flight present number carries
    exact ((reached.attended index).awaited flight present number carries).2
  · intro index increasing
    refine ⟨reached.inTurn index increasing, ?_⟩
    intro call sent number carries
    constructor
    · intro flight present other carries'
      exact (reached.attended index).number_le increasing sent carries present carries'
    · intro later future increasing'
      exact future.number_le reached sent carries increasing'

/-- With a call sent under the number 7, none arrives any more with a smaller number. -/
theorem put_holds_back_none : ∃ (timeline : Timeline) (call : Call),
    timeline.Reached .any [.standard] ∧ timeline.sent = [call] ∧
    call.numberOf? 0 = some ⟨7⟩ ∧ ∀ later, timeline.Future .any later →
      Increasing (later.obtainedBy 0) → ∃ moments : List Moment,
        later.past = moments ++ timeline.past ∧ ∀ moment ∈ moments, ∀ arrived,
          moment.arrival? = some arrived → ∀ other, arrived.numberOf? 0 = some other →
            7 ≤ other.value := by
  have idle : (opening [.standard]).Free 0 := fun client found => by cases found; rfl
  have asked : Reached .any [.standard] _ :=
    Reached.opening.requests (.operation idle .put "<a>" 1 0)
  have begun := asked.goes (rfl : proceed? _ 0 = _)
  have known := begun.learns (rfl : proceed? _ 0 = some (.asks (.lookup _ _) _))
    (.ok [⟨"a:1", "A"⟩]) trivial
  have numbered := known.learns (rfl : proceed? _ 0 = some (.asks (.next _) _)) (.ok ⟨7⟩) trivial
  have sent := numbered.goes (rfl : proceed? _ 0 = _)
  let call : Call := ⟨0, 0, 0, ⟨"a:1", "A"⟩, .put "<a>" ⟨7⟩⟩
  obtain ⟨timeline, reached, only, given⟩ : ∃ timeline : Timeline,
      timeline.Reached .any [.standard] ∧ timeline.sent = [call] ∧
        timeline.obtainedBy 0 = [⟨7⟩] := ⟨_, sent, by decide +kernel, by decide +kernel⟩
  have increasing : Increasing (timeline.obtainedBy 0) := given ▸ List.pairwise_singleton ..
  have listed : call ∈ timeline.sent := only ▸ List.mem_singleton.mpr rfl
  obtain ⟨_, _, onward⟩ := ordered_calls_never_straggle reached
  exact ⟨timeline, call, reached, only, rfl,
    ((onward 0 increasing).2 call listed ⟨7⟩ rfl).2⟩

end Timeline
end ReplicatedSpace
