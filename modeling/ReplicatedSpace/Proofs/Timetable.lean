import Mathlib.Data.List.Perm.Basic
import ReplicatedSpace.Proofs.Futures

/-!
When calls arrive. The calls of a round set out with an itinerary: one arrival for each replica,
when its wait is over, in the order of the waits. Nothing that happens later changes it.
-/
namespace ReplicatedSpace

theorem exists_perm_map_eq {α β : Type} (view : α → β) {items : List α} {seen : List β}
    (perm : (items.map view).Perm seen) :
    ∃ others : List α, others.Perm items ∧ others.map view = seen := by
  have each : List.Forall₂ (fun first item => view item = first) (items.map view) items := by
    rw [List.forall₂_map_left_iff]
    exact List.forall₂_same.mpr fun _ _ => rfl
  obtain ⟨others, same, reordered⟩ := List.perm_comp_forall₂ perm.symm each
  refine ⟨others, reordered, ?_⟩
  clear reordered perm each
  induction same with
  | nil => rfl
  | cons head _ ih => rw [List.map_cons, head, ih]

/-- A call, and when it arrives. -/
structure Arrival where
  time : Nat
  call : Call

def Flight.arrival (flight : Flight) : Arrival := ⟨flight.due, flight.call⟩

/-- The arrival that a call on its way to a replica is to have. -/
def Flight.arrival? (flight : Flight) : Option Arrival :=
  match flight.leg with
  | .outbound => some flight.arrival
  | .inbound _ => none

def Moment.arrivedAt? (moment : Moment) : Option Arrival :=
  match moment.event with
  | .arrived call => some ⟨moment.time, call⟩
  | _ => none

theorem Flight.arrivals_enqueue {flight : Flight} (back : flight.arrival? = none)
    (flights : List Flight) :
    (flight.enqueue flights).filterMap Flight.arrival? = flights.filterMap Flight.arrival? := by
  induction flights with
  | nil => simp [enqueue, back]
  | cons first rest ih =>
    unfold enqueue
    split
    · rw [List.filterMap_cons, List.filterMap_cons, ih]
    · rw [List.filterMap_cons, back]

namespace Timeline

variable {world : World} {settings : List Settings} {timeline later sent : Timeline} {index : Nat}
  {coordinator : Coordinator} {task : Task} {request : Request} {plan : List (Replica × Span)}
  {round : Nat}

/-- The arrivals that are to come, in their order. -/
def expected (timeline : Timeline) : List Arrival := timeline.flights.filterMap Flight.arrival?

/-- The arrivals that there have been, the latest first. -/
def arrived (timeline : Timeline) : List Arrival := timeline.past.filterMap Moment.arrivedAt?

/-- The arrivals of a round's calls: those that there have been and those that are to come. -/
def itinerary (timeline : Timeline) (round : Nat) : List Arrival :=
  (timeline.arrived.reverse ++ timeline.expected).filter (·.call.round = round)

theorem call_expected (timeline : Timeline) :
    timeline.expected.map Arrival.call = timeline.outbound := by
  unfold expected outbound
  rw [List.map_filterMap]
  apply List.filterMap_congr
  intro flight _
  unfold Flight.arrival? Flight.outbound?
  cases flight.leg <;> rfl

theorem call_arrived (timeline : Timeline) :
    timeline.arrived.map Arrival.call = timeline.arrivals := by
  unfold arrived arrivals
  rw [List.map_filterMap]
  apply List.filterMap_congr
  intro moment _
  unfold Moment.arrivedAt? Moment.arrival?
  cases moment.event <;> rfl

theorem Balanced.itinerary_eq_nil (balanced : timeline.Balanced)
    (closed : timeline.rounds.length ≤ round) : timeline.itinerary round = [] := by
  apply List.filter_eq_nil_iff.mpr
  intro arrival present
  have known : arrival.call ∈ timeline.sent := by
    unfold sent
    rw [← call_expected, ← call_arrived]
    rcases List.mem_append.mp present with past | future
    · exact List.mem_append_right _ (List.mem_map_of_mem (List.mem_reverse.mp past))
    · exact List.mem_append_left _ (List.mem_map_of_mem future)
  have opened := balanced.opened arrival.call known
  simp only [decide_eq_true_eq]
  omega

theorem tickets_volley (timeline : Timeline) (index : Nat) (request : Request)
    (plan : List (Replica × Span)) :
    (timeline.volley index request plan).Pairwise (·.call.ticket < ·.call.ticket) := by
  apply List.pairwise_map.mpr
  have places : ((plan.zipIdx timeline.tickets).map Prod.snd).Pairwise (· < ·) := by
    rw [List.zipIdx_map_snd]
    exact List.pairwise_lt_range'
  exact List.pairwise_map.mp places

/-- The calls of a round set out with their arrivals before them. -/
theorem Balanced.itinerary_dispatch (balanced : timeline.Balanced) (index : Nat)
    (request : Request) (plan : List (Replica × Span)) :
    ((timeline.dispatch index request plan).itinerary timeline.rounds.length).Perm
      ((timeline.volley index request plan).map Flight.arrival) := by
  let round := timeline.rounds.length
  let volley := timeline.volley index request plan
  let flights := volley.foldl (fun flights flight => flight.enqueue flights) timeline.flights
  have other {flight : Flight} (present : flight ∈ timeline.flights) : flight.call.round ≠ round :=
    Nat.ne_of_lt (balanced.round_lt_of_flight present)
  have none : timeline.arrived.reverse.filter (·.call.round = round) = [] := by
    have empty := balanced.itinerary_eq_nil (Nat.le_refl round)
    unfold itinerary at empty
    rw [List.filter_append] at empty
    exact (List.append_eq_nil_iff.mp empty).1
  have same : (timeline.dispatch index request plan).itinerary round =
      (flights.filterMap Flight.arrival?).filter (·.call.round = round) := by
    rw [dispatch_eq]
    unfold itinerary
    rw [List.filter_append]
    exact (congrArg (· ++ _) none).trans (List.nil_append _)
  have setting : (volley.filterMap Flight.arrival?).filter (·.call.round = round) =
      volley.map Flight.arrival := by
    have outbound : volley.filterMap Flight.arrival? = volley.map Flight.arrival := by
      rw [← List.filterMap_eq_map]
      apply List.filterMap_congr
      intro flight present
      simp [Flight.arrival?, (mem_volley present).1]
    rw [outbound]
    apply List.filter_eq_self.mpr
    intro arrival present
    obtain ⟨flight, inside, from_⟩ := List.mem_map.mp present
    subst from_
    exact decide_eq_true (mem_volley inside).2.2.2.1
  have old : (timeline.flights.filterMap Flight.arrival?).filter (·.call.round = round) = [] := by
    apply List.filter_eq_nil_iff.mpr
    intro arrival present
    obtain ⟨flight, inside, seen⟩ := List.mem_filterMap.mp present
    unfold Flight.arrival? at seen
    split at seen <;> cases seen
    intro own
    exact other inside (of_decide_eq_true own)
  rw [same]
  refine (((Flight.foldl_enqueue_perm volley timeline.flights).filterMap _).filter _).trans ?_
  rw [List.filterMap_append, List.filter_append, setting, old, List.append_nil]

theorem itinerary_enact {events : List Event} {client : Client}
    (deeds : ∀ event ∈ events, event.isDeed = true) :
    (timeline.enact index events client).itinerary round = timeline.itinerary round := by
  have same : (timeline.enact index events client).arrived = timeline.arrived := by
    apply filterMap_deeds deeds
    intro moment deed
    unfold Moment.arrivedAt?
    split
    · rename_i arrived
      rw [arrived] at deed
      cases deed
    · rfl
  unfold itinerary
  rw [same]
  rfl

theorem arrivals_foldl_enqueue {volley flights : List Flight}
    (other : ∀ flight ∈ volley, flight.call.round ≠ round) :
    ((volley.foldl (fun flights flight => flight.enqueue flights) flights).filterMap
        Flight.arrival?).filter (·.call.round = round) =
      (flights.filterMap Flight.arrival?).filter (·.call.round = round) := by
  have once {flight : Flight} (other : flight.call.round ≠ round) (flights : List Flight) :
      ((flight.enqueue flights).filterMap Flight.arrival?).filter (·.call.round = round) =
        (flights.filterMap Flight.arrival?).filter (·.call.round = round) := by
    have alone : (([flight] : List Flight).filterMap Flight.arrival?).filter
        (·.call.round = round) = [] := by
      cases leg : flight.leg <;> simp [Flight.arrival?, leg, Flight.arrival, other]
    induction flights with
    | nil => exact alone
    | cons first rest ih =>
      unfold Flight.enqueue
      split
      · rw [← List.singleton_append, List.filterMap_append, List.filter_append, ih,
          ← List.filter_append, ← List.filterMap_append]
        rfl
      · rw [← List.singleton_append, List.filterMap_append, List.filter_append, alone]
        rfl
  induction volley generalizing flights with
  | nil => rfl
  | cons first rest ih =>
    rw [List.foldl_cons, ih fun flight present => other flight (List.mem_cons_of_mem _ present)]
    exact once (other first List.mem_cons_self) flights

theorem itinerary_carry (timeline : Timeline) (index : Nat) (effect : Effect)
    (opened : round < timeline.rounds.length) :
    (timeline.carry index effect).itinerary round = timeline.itinerary round := by
  cases effect with
  | quiet | renewal => rfl
  | volley request plan =>
    have other (flight : Flight) (present : flight ∈ timeline.volley index request plan) :
        flight.call.round ≠ round := by
      have own := (mem_volley present).2.2.2.1
      omega
    rw [carry, dispatch_eq]
    unfold itinerary
    rw [List.filter_append, List.filter_append]
    exact congrArg _ (arrivals_foldl_enqueue other)

/-- A call that gets to its replica does so when it is due. -/
theorem Balanced.itinerary_fire {step : Step} (balanced : timeline.Balanced)
    (fires : timeline.fire? = some step) (leads : step.Leads world later) :
    later.itinerary round = timeline.itinerary round := by
  unfold fire? at fires
  split at fires
  · cases fires
  · rename_i flight rest first
    have now := balanced.now_reach first
    dsimp only at fires
    split at fires
    · rename_i leg
      cases fires
      cases leads
      rename_i reply admitted
      have before : timeline.expected = flight.arrival :: rest.filterMap Flight.arrival? := by
        simp [expected, first, Flight.arrival?, leg]
      have after : ((timeline.reach flight rest).arrive flight.call reply).expected =
          rest.filterMap Flight.arrival? := by
        unfold arrive
        dsimp only
        split
        · rfl
        · exact Flight.arrivals_enqueue rfl rest
      have logged : ((timeline.reach flight rest).arrive flight.call reply).arrived =
          flight.arrival :: timeline.arrived := by
        unfold arrive
        dsimp only
        split
        · simp only [arrived, log, complete, reach, now]
          rfl
        · simp only [arrived, log, reach, now]
          rfl
      change ((timeline.reach flight rest).arrive flight.call reply).itinerary round = _
      unfold itinerary
      rw [after, logged, before, List.reverse_cons, List.append_assoc, List.singleton_append]
    · rename_i result leg
      cases fires
      cases leads
      have before : timeline.expected = rest.filterMap Flight.arrival? := by
        simp [expected, first, Flight.arrival?, leg]
      unfold itinerary
      rw [before]
      rfl

theorem Happens.itinerary (balanced : timeline.Balanced)
    (opened : round < timeline.rounds.length) (happens : timeline.Happens world later) :
    later.itinerary round = timeline.itinerary round := by
  cases happens with
  | client proceeds leads =>
    rename_i mover step
    obtain ⟨_, _, effect, _, _, _, deed, same⟩ := deed_of_proceed? proceeds leads
    rw [same, itinerary_enact deed.isDeed]
    exact timeline.itinerary_carry mover effect opened
  | flight fires leads => exact balanced.itinerary_fire fires leads
  | clock => rfl
  | user requests =>
    rename_i mover
    cases requests with
    | operation free operation argument retries start =>
      obtain ⟨clients, turns, same⟩ := timeline.submit_books mover operation argument retries start
      rw [same]
      rfl
    | delay free qualifier delay =>
      rcases timeline.requestDelay_books mover qualifier delay with same | ⟨clients, same⟩
      · rw [same]
      · rw [same]
        rfl

theorem Balanced.expected_onTime (balanced : timeline.Balanced) :
    ∀ arrival ∈ timeline.expected, timeline.now ≤ arrival.time := by
  intro arrival present
  obtain ⟨flight, inside, seen⟩ := List.mem_filterMap.mp present
  unfold Flight.arrival? at seen
  split at seen <;> cases seen
  exact balanced.ahead flight inside

theorem Moves.itinerary {round : Nat} (balanced : timeline.Balanced)
    (opened : round < timeline.rounds.length) (moves : timeline.Moves world later) :
    (later.itinerary round).Perm (timeline.itinerary round) := by
  cases moves with
  | client proceeds leads =>
    exact .of_eq (Happens.itinerary balanced opened (.client proceeds leads))
  | flight fires leads => exact .of_eq (Happens.itinerary balanced opened (.flight fires leads))
  | clock settled onward clear =>
    have happens : Happens world timeline _ := .clock timeline settled onward clear
    exact .of_eq (happens.itinerary balanced opened)
  | shuffle same inOrder => exact ((same.filterMap _).append_left _).filter _

theorem Unfolds.itinerary {round : Nat} (reached : timeline.Reached world settings)
    (opened : round < timeline.rounds.length) (unfolds : timeline.Unfolds world later) :
    (later.itinerary round).Perm (timeline.itinerary round) := by
  induction unfolds with
  | refl => exact .refl _
  | tail unfolds next ih =>
    have balanced := (reached.unfolds unfolds).balanced
    have opened' := Nat.lt_of_lt_of_le opened (Unfolds.onward unfolds).rounds
    rcases next with moves | ⟨_, requests⟩
    · exact (moves.itinerary balanced opened').trans ih
    · have happens : Happens world _ _ := .user requests
      rw [happens.itinerary balanced opened']
      exact ih

/-- The log tells things in the order in which they happened, and none that is yet to come. -/
structure Chronicle (timeline : Timeline) : Prop where
  ordered : timeline.past.Pairwise (·.time ≥ ·.time)
  elapsed : ∀ moment ∈ timeline.past, moment.time ≤ timeline.now

theorem Chronicle.append (chronicle : timeline.Chronicle) (moments : List Moment)
    (past : later.past = moments ++ timeline.past) (onward : timeline.now ≤ later.now)
    (now : ∀ moment ∈ moments, moment.time = later.now) : later.Chronicle := by
  constructor
  · rw [past]
    refine List.pairwise_append.mpr ⟨?_, chronicle.ordered, ?_⟩
    · apply List.pairwise_of_forall_mem_list
      intro first inside second inside'
      exact Nat.le_of_eq ((now second inside').trans (now first inside).symm)
    · intro first inside second inside'
      rw [now first inside]
      exact Nat.le_trans (chronicle.elapsed second inside') onward
  · rw [past]
    intro moment present
    rcases List.mem_append.mp present with new | old
    · exact Nat.le_of_eq (now moment new)
    · exact Nat.le_trans (chronicle.elapsed moment old) onward

theorem Hop.chronicle (chronicle : timeline.Chronicle) (hop : timeline.Hop world later) :
    later.Chronicle := by
  cases hop with
  | arrives => exact chronicle.append [_] rfl (Nat.le_max_left ..) (by simp [log, reach])
  | returns =>
    exact chronicle.append [_] rfl (Nat.le_max_left ..) (by simp [complete, log, reach])

theorem Moves.chronicle (chronicle : timeline.Chronicle) (moves : timeline.Moves world later) :
    later.Chronicle := by
  cases moves with
  | client proceeds leads =>
    obtain ⟨_, _, effect, events, client, _, _, same⟩ := deed_of_proceed? proceeds leads
    have now : later.now = timeline.now := by rw [same]; simp [enact]
    refine chronicle.append _ (by rw [same, enact, carry_past]) (Nat.le_of_eq now.symm) ?_
    intro moment present
    obtain ⟨event, _, own⟩ := List.mem_map.mp (List.mem_reverse.mp present)
    rw [← own, now, carry_now]
  | flight fires leads =>
    cases lands_of_fire? fires leads with
    | once hop => exact hop.chronicle chronicle
    | twice hop hop' _ => exact hop'.chronicle (hop.chronicle chronicle)
  | clock settled onward clear => exact chronicle.append [] rfl onward (by simp)
  | shuffle => exact chronicle.append [] rfl (Nat.le_refl _) (by simp)

theorem Requests.chronicle (chronicle : timeline.Chronicle)
    (requests : timeline.Requests index later) : later.Chronicle := by
  cases requests with
  | operation free operation argument retries start =>
    obtain ⟨clients, turns, same⟩ := timeline.submit_books index operation argument retries start
    rw [same]
    exact chronicle.append [] rfl (Nat.le_refl _) (by simp)
  | delay free qualifier delay =>
    rcases timeline.requestDelay_books index qualifier delay with same | ⟨clients, same⟩
    · rw [same]
      exact chronicle
    · rw [same]
      exact chronicle.append [_] rfl (Nat.le_refl _) (by simp [log])

theorem Reached.chronicle (reached : timeline.Reached world settings) : timeline.Chronicle := by
  induction reached with
  | opening => exact ⟨.nil, fun _ absent => by cases absent⟩
  | moves _ moves ih => exact moves.chronicle ih
  | requests _ requests ih => exact requests.chronicle ih

/-- Calls that have arrived and calls that are to come are in the order of their times. -/
theorem Reached.arrivals_ascending (reached : timeline.Reached world settings) :
    (timeline.arrived.reverse ++ timeline.expected).Pairwise (·.time ≤ ·.time) := by
  have chronicle := reached.chronicle
  have balanced := reached.balanced
  have seen {moment : Moment} {arrival : Arrival} (same : moment.arrivedAt? = some arrival) :
      arrival.time = moment.time := by
    unfold Moment.arrivedAt? at same
    split at same <;> cases same
    rfl
  have coming {flight : Flight} {arrival : Arrival} (same : flight.arrival? = some arrival) :
      arrival.time = flight.due := by
    unfold Flight.arrival? at same
    split at same <;> cases same
    rfl
  refine List.pairwise_append.mpr ⟨?_, ?_, ?_⟩
  · apply List.pairwise_reverse.mpr
    apply List.pairwise_filterMap.mpr
    refine chronicle.ordered.imp ?_
    intro first second after arrival same arrival' same'
    rw [seen same, seen same']
    exact after
  · apply List.pairwise_filterMap.mpr
    refine balanced.inOrder.imp ?_
    intro first second before arrival same arrival' same'
    rw [coming same, coming same']
    exact before
  · intro arrival past arrival' future
    obtain ⟨moment, inside, same⟩ := List.mem_filterMap.mp (List.mem_reverse.mp past)
    rw [seen same]
    exact Nat.le_trans (chronicle.elapsed moment inside) (balanced.expected_onTime arrival' future)

/-- The arrivals of calls that set out at that time, each when the timer has waited for its delay.
-/
def arrivalsAfter (timer : Timer) (time : Nat) (calls : List Call) (delays : List Span) :
    List Arrival :=
  (calls.zip delays).map fun (call, delay) => ⟨time + timer.wait delay, call⟩

theorem call_arrivalsAfter (timer : Timer) (time : Nat) {calls : List Call} {delays : List Span}
    (enough : calls.length ≤ delays.length) :
    (arrivalsAfter timer time calls delays).map Arrival.call = calls := by
  unfold arrivalsAfter
  rw [List.map_map]
  exact List.map_fst_zip enough

theorem mem_arrivalsAfter (timer : Timer) (time : Nat) {calls : List Call} {delays : List Span}
    {planned : Call × Span} (inside : planned ∈ calls.zip delays) :
    ⟨time + timer.wait planned.2, planned.1⟩ ∈ arrivalsAfter timer time calls delays :=
  List.mem_map.mpr ⟨planned, inside, rfl⟩

/-- The calls of a plan, in the order of the replicas that they go to. -/
theorem exists_calls_of_plan (inStep : coordinator.InStep) (timeline : Timeline) (index : Nat)
    (request : Request) :
    ∃ calls : List Call,
      calls.Perm (timeline.volleyCalls index request coordinator.plan) ∧
      calls.map Call.replica = coordinator.replicas.entries ∧
      (arrivalsAfter timeline.timer timeline.now calls coordinator.stagger.delays).Perm
        ((timeline.volley index request coordinator.plan).map Flight.arrival) := by
  let planned := coordinator.plan.zipIdx timeline.tickets
  let call (item : (Replica × Span) × Nat) : Call :=
    ⟨item.2, index, timeline.rounds.length, item.1.1, request⟩
  have lengths : coordinator.replicas.entries.length = coordinator.stagger.delays.length :=
    inStep.size.symm
  have seen : (planned.map Prod.fst).Perm
      (coordinator.replicas.entries.zip coordinator.stagger.delays) := by
    rw [List.zipIdx_map_fst]
    exact Coordinator.plan_perm inStep.size
  obtain ⟨items, same, pairs⟩ := exists_perm_map_eq Prod.fst seen
  have replicas : items.map (·.1.1) = coordinator.replicas.entries := by
    have firsts := congrArg (List.map Prod.fst) pairs
    rw [List.map_map, List.map_fst_zip (Nat.le_of_eq lengths)] at firsts
    exact firsts
  have delays : items.map (·.1.2) = coordinator.stagger.delays := by
    have seconds := congrArg (List.map Prod.snd) pairs
    rw [List.map_map, List.map_snd_zip (Nat.le_of_eq lengths.symm)] at seconds
    exact seconds
  have zipped : (items.map call).zip coordinator.stagger.delays =
      items.map fun item => (call item, item.1.2) := by
    rw [← delays, List.zip_map']
  refine ⟨items.map call, ?_, ?_, ?_⟩
  · unfold volleyCalls volley
    rw [List.map_map]
    exact same.map call
  · rw [List.map_map]
    exact replicas
  · unfold arrivalsAfter volley
    rw [zipped, List.map_map, List.map_map]
    exact same.map _

theorem sends_of_opened (found : timeline.clients[index]? = some ⟨coordinator, .busy task⟩)
    (sends : timeline.proceed? index = some (.moved sent))
    (opens : timeline.rounds.length < sent.rounds.length) :
    ∃ request plan expected, coordinator.Sends task request plan expected ∧
      sent = (timeline.dispatch index request plan).enact index []
        ⟨coordinator,
          .busy { task with stage := .collecting timeline.rounds.length expected }⟩ := by
  obtain ⟨_, _, effect, events, client, busy, deed, same⟩ :=
    deed_of_proceed? sends (.moved sent : Step.Leads .any (.moved sent) sent)
  cases found.symm.trans busy
  cases effect with
  | quiet | renewal =>
    rw [same] at opens
    exact absurd opens (Nat.lt_irrefl _)
  | volley request plan =>
    cases deed with
    | sent sends => exact ⟨request, plan, _, sends, same⟩

/-- An attempt to put, read or take sends one call to each replica, with the operation's argument
and the number of the attempt, and each is to arrive when the wait for its delay is over. -/
theorem Reached.itinerary_sent (reached : timeline.Reached world settings)
    (found : timeline.clients[index]? = some ⟨coordinator, .busy task⟩)
    (everywhere : task.attempt.operation ≠ .getState)
    (sends : timeline.proceed? index = some (.moved sent))
    (opens : timeline.rounds.length < sent.rounds.length) :
    ∃ calls : List Call,
      calls.map Call.replica = coordinator.replicas.entries ∧ calls.Nodup ∧
      coordinator.stagger.delays.length = calls.length ∧
      (∀ call ∈ calls, call.client = index ∧
        call.request.Fits task.attempt.operation task.attempt.argument ∧
        ∀ number, call.request.number? = some number → task.stage = .sending number) ∧
      (sent.itinerary timeline.rounds.length).Perm
        (arrivalsAfter timeline.timer timeline.now calls coordinator.stagger.delays) := by
  let round := timeline.rounds.length
  have inStep := (reached.scheduled found).inStep
  have engaged := (reached.engaged found).2
  obtain ⟨request, plan, expected, asks, form⟩ := sends_of_opened found sends opens
  have fits := (asks.replicas inStep engaged.isOrdered).2.2
  have everyone : plan = coordinator.plan ∧
      ∀ number, request.number? = some number → task.stage = .sending number := by
    cases asks with
    | ordered stage =>
      refine ⟨rfl, fun number carries => ?_⟩
      cases (Request.number?_numbered ..).symm.trans carries
      exact stage
    | read => exact ⟨rfl, fun _ carries => by cases carries⟩
    | state _ state => exact absurd state everywhere
  obtain ⟨plan_eq, numbered⟩ := everyone
  subst plan_eq
  obtain ⟨calls, same, replicas, arrivals⟩ := exists_calls_of_plan inStep timeline index request
  have planned := reached.balanced.itinerary_dispatch index request coordinator.plan
  have itinerary : sent.itinerary round =
      (timeline.dispatch index request coordinator.plan).itinerary round := by
    rw [form, itinerary_enact (by simp)]
  have distinct : (timeline.volleyCalls index request coordinator.plan).Nodup := by
    apply List.pairwise_map.mpr
    refine (timeline.tickets_volley index request coordinator.plan).imp ?_
    intro first second less same
    rw [same] at less
    exact Nat.lt_irrefl _ less
  refine ⟨calls, replicas, same.symm.nodup distinct, ?_, ?_, ?_⟩
  · have count := congrArg List.length replicas
    rw [List.length_map] at count
    rw [count]
    exact inStep.size
  · intro call present
    obtain ⟨own, _, asked⟩ := mem_volleyCalls (same.subset present)
    exact ⟨own, asked ▸ fits, asked ▸ numbered⟩
  · rw [itinerary]
    exact planned.trans arrivals.symm

/-- What becomes of the calls of an attempt to put, read or take. There is one for each replica,
with the operation's argument and the number of the attempt. Whatever happens later, each of them
arrives just once, when the timer has waited for its delay as it was then, and they arrive in the
order of these waits: at once where there is no delay, and after the delay where the timer keeps it,
so that of such delays a shorter one is never over later. -/
theorem calls_arrive_once_in_time (reached : timeline.Reached world settings)
    (found : timeline.clients[index]? = some ⟨coordinator, .busy task⟩)
    (everywhere : task.attempt.operation ≠ .getState)
    (sends : timeline.proceed? index = some (.moved sent))
    (opens : timeline.rounds.length < sent.rounds.length) :
    ∃ calls : List Call,
      calls.map Call.replica = coordinator.replicas.entries ∧ calls.Nodup ∧
      coordinator.stagger.delays.length = calls.length ∧
      (∀ call ∈ calls, call.client = index ∧
        call.request.operation = task.attempt.operation ∧
        call.request.argument? = some task.attempt.argument ∧
        (task.attempt.operation = .read → call.request.number? = none) ∧
        (task.attempt.operation ≠ .read →
          ∃ number, task.stage = .sending number ∧ call.request.number? = some number)) ∧
      (∀ later, sent.Unfolds world later →
        (later.itinerary timeline.rounds.length).Perm
          (arrivalsAfter timeline.timer timeline.now calls coordinator.stagger.delays) ∧
        (later.itinerary timeline.rounds.length).Pairwise (·.time ≤ ·.time) ∧
        (∀ arrival ∈ later.expected, later.now ≤ arrival.time) ∧
        ∀ (σ : Type) (environment : Environment σ) (state : σ) (millis : Nat),
          environment.Keeps world → ∀ arrival ∈ later.itinerary timeline.rounds.length,
            arrival.time ≤ later.now + millis →
            arrival ∈ (later.elapse environment state millis).1.arrived) ∧
      (∀ first ∈ calls.zip coordinator.stagger.delays, first.2 = .zero →
        ⟨timeline.now, first.1⟩ ∈
          arrivalsAfter timeline.timer timeline.now calls coordinator.stagger.delays) ∧
      ∀ limit, timeline.timer.Keeps limit →
        ∀ first ∈ calls.zip coordinator.stagger.delays, first.2.ceilMillis ≤ limit →
          ⟨timeline.now + first.2.ceilMillis, first.1⟩ ∈
            arrivalsAfter timeline.timer timeline.now calls coordinator.stagger.delays ∧
          ∀ second ∈ calls.zip coordinator.stagger.delays, second.2 ≤ first.2 →
            timeline.timer.wait second.2 ≤ timeline.timer.wait first.2 := by
  have reached' : sent.Reached world settings := reached.moves (.client sends (.moved sent))
  obtain ⟨calls, replicas, distinct, lengths, asked, same⟩ :=
    reached.itinerary_sent found everywhere sends opens
  refine ⟨calls, replicas, distinct, lengths, ?_, ?_, ?_, ?_⟩
  · intro call present
    obtain ⟨own, fits, numbered⟩ := asked call present
    refine ⟨own, fits.operation, ?_, fun read => ?_, fun other => ?_⟩
    · rw [fits.argument, if_neg everywhere]
    · exact fits.number?_eq_none (by rw [read]; rfl)
    · obtain ⟨number, carries⟩ := fits.exists_number (Operation.isOrdered_of_ne other everywhere)
      exact ⟨number, numbered number carries, carries⟩
  · intro later unfolds
    have reachedLater := reached'.unfolds unfolds
    refine ⟨(Unfolds.itinerary reached' opens unfolds).trans same,
      reachedLater.arrivals_ascending.filter _, reachedLater.balanced.expected_onTime, ?_⟩
    intro σ environment state millis keeps arrival listed due
    obtain ⟨future, clear⟩ := reachedLater.elapse_future keeps state millis
    have opened := Nat.lt_of_lt_of_le opens (Unfolds.onward unfolds).rounds
    have stays := Unfolds.itinerary reachedLater opened future.unfolds
    rcases List.mem_append.mp (List.mem_filter.mp (stays.symm.subset listed)).1 with past | coming
    · exact List.mem_reverse.mp past
    · obtain ⟨flight, inside, seen⟩ := List.mem_filterMap.mp coming
      unfold Flight.arrival? at seen
      split at seen <;> cases seen
      exact absurd due (Nat.not_le_of_lt (clear flight inside))
  · intro first inside none
    have arrival := mem_arrivalsAfter timeline.timer timeline.now inside
    rw [none, Timer.wait_zero] at arrival
    exact arrival
  · intro limit keeps first inside within
    have wait := keeps.wait_eq within
    refine ⟨wait ▸ mem_arrivalsAfter timeline.timer timeline.now inside, ?_⟩
    intro second _ shorter
    have less := Span.ceilMillis_le shorter
    rw [wait, keeps.wait_eq (Nat.le_trans less within)]
    exact less

theorem lt_rounds_collect (timeline : Timeline) (index : Nat) (coordinator : Coordinator)
    (task : Task) (request : Request) (plan : List (Replica × Span)) (expected : Nat) :
    timeline.rounds.length <
      (timeline.collect index coordinator task request plan expected).rounds.length := by
  simp [collect, busy, setClient, dispatch_eq]

theorem replicas_arrivalsAfter (timer : Timer) (time : Nat) (calls : List Call)
    (delays : List Span) :
    (arrivalsAfter timer time calls delays).map
        (fun arrival => (arrival.call.replica, arrival.time)) =
      ((calls.map Call.replica).zip delays).map fun planned =>
        (planned.1, time + timer.wait planned.2) := by
  unfold arrivalsAfter
  rw [List.map_map, List.zip_map_left, List.map_map]
  rfl

/-- Two replicas are called, one at once and one a slot later, whatever happens to their client
meanwhile. -/
theorem put_arrives_at_both : ∃ timeline sent : Timeline, timeline.Reached .any [.standard] ∧
    timeline.timer.Keeps Span.lastTick ∧ timeline.proceed? 0 = some (.moved sent) ∧
    ∀ later, sent.Unfolds .any later →
      ((later.itinerary timeline.rounds.length).map fun arrival =>
          (arrival.call.replica, arrival.time)).Perm
        [(⟨"a:1", "A"⟩, timeline.now), (⟨"b:1", "B"⟩, timeline.now + 1000)] := by
  have idle : (opening [.standard]).Free 0 := fun client found => by cases found; rfl
  have asked : Reached .any [.standard] _ :=
    Reached.opening.requests (.operation idle .put "<a>" 1 0)
  have begun := asked.goes (rfl : proceed? _ 0 = _)
  have known := begun.learns (rfl : proceed? _ 0 = some (.asks (.lookup _ _) _))
    (.ok [⟨"a:1", "A"⟩, ⟨"b:1", "B"⟩]) trivial
  have numbered := known.learns (rfl : proceed? _ 0 = some (.asks (.next _) _)) (.ok ⟨7⟩) trivial
  refine ⟨_, _, numbered, Timer.standard_keeps, rfl, ?_⟩
  obtain ⟨calls, replicas, _, _, _, onward, _⟩ :=
    @calls_arrive_once_in_time _ _ _ _ 0 _ _ numbered rfl (by decide) rfl (lt_rounds_collect ..)
  intro later unfolds
  refine ((onward later unfolds).1.map _).trans (.of_eq ?_)
  rw [replicas_arrivalsAfter, replicas]
  rfl

/-- Of two delays the clock has no room for the longer one, and its call is the first to arrive. -/
theorem far_delay_ends_first : ∃ (timeline sent : Timeline) (coordinator : Coordinator)
    (task : Task) (shorter longer : Span) (early late : Arrival),
    timeline.Reached .any [.standard] ∧
    timeline.clients[0]? = some ⟨coordinator, .busy task⟩ ∧
    timeline.proceed? 0 = some (.moved sent) ∧
    coordinator.replicas.entries = [late.call.replica, early.call.replica] ∧
    coordinator.stagger.delays = [shorter, longer] ∧ shorter < longer ∧
    early ∈ sent.itinerary timeline.rounds.length ∧
    late ∈ sent.itinerary timeline.rounds.length ∧
    early.time < late.time ∧ early.time < timeline.now + longer.ceilMillis := by
  let shorter : Span := ⟨1261440000000000000, by decide⟩
  let longer : Span := ⟨9223372036854775808000000000, by decide⟩
  have free (timeline : Timeline) (rests : timeline.isBusyAt 0 = false) : timeline.Free 0 :=
    free_of_isBusyAt (Bool.eq_false_iff.mp rests)
  have first : Reached .any [.standard] _ :=
    Reached.opening.requests (.delay (free _ rfl) "A" shorter)
  have second := first.requests (.delay (free _ rfl) "B" longer)
  have asked := second.requests (.operation (free _ rfl) .put "<a>" 1 0)
  have begun := asked.goes (rfl : proceed? _ 0 = _)
  have known := begun.learns (rfl : proceed? _ 0 = some (.asks (.lookup _ _) _))
    (.ok [⟨"a:1", "A"⟩, ⟨"b:1", "B"⟩]) trivial
  have numbered := known.learns (rfl : proceed? _ 0 = some (.asks (.next _) _)) (.ok ⟨7⟩) trivial
  obtain ⟨calls, replicas, _, _, _, same⟩ :=
    @Reached.itinerary_sent _ _ _ _ 0 _ _ numbered rfl (by decide) rfl (lt_rounds_collect ..)
  obtain ⟨a, rest, calls_eq, own, replicas'⟩ := List.map_eq_cons_iff.mp replicas
  obtain ⟨b, others, rest_eq, own', none⟩ := List.map_eq_cons_iff.mp replicas'
  obtain rfl := List.map_eq_nil_iff.mp none
  subst rest_eq
  subst calls_eq
  have times {time : Nat} {delays : List Span} (start : time = 0)
      (own : delays = [shorter, longer]) :
      arrivalsAfter .standard time [a, b] delays = [⟨1261440000000, a⟩, ⟨946080000000, b⟩] := by
    subst start
    subst own
    have wait : Timer.standard.wait shorter = 1261440000000 := by decide
    have wait' : Timer.standard.wait longer = 946080000000 := by decide
    simp [arrivalsAfter, wait, wait']
  have arrivals := (same.trans (.of_eq (times rfl rfl))).symm.subset
  refine ⟨_, _, _, _, shorter, longer, ⟨946080000000, b⟩, ⟨1261440000000, a⟩, numbered, rfl, rfl,
    ?_, rfl, by decide, arrivals (.tail _ (.head _)), arrivals (.head _), ?_, ?_⟩
  · rw [own, own']
    rfl
  · exact (by decide : 946080000000 < 1261440000000)
  · exact Nat.lt_add_left _ (by decide : 946080000000 < longer.ceilMillis)

end Timeline
end ReplicatedSpace
