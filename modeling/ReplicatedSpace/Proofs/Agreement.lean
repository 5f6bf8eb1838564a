import Mathlib.Data.List.Pairwise
import Mathlib.Data.List.Perm.Basic
import ReplicatedSpace.Proofs.Overtaking
import ReplicatedSpace.Proofs.Timetable

/-!
What the stagger is for. Clients that agree on the replicas and on their delays reach each of them
after one and the same wait, so that every replica gets their calls in the order in which the
attempts were at the sequencer, whoever calls, whatever else is under way, and whatever the replicas
reply.
-/
namespace ReplicatedSpace

/-- Items with one of some keys are the items with the first key, then those with the second, and so
on, in another order. -/
theorem filter_mem_perm {α β : Type} [DecidableEq β] (key : α → β) (items : List α)
    {keys : List β} (distinct : keys.Nodup) :
    (items.filter fun item => key item ∈ keys).Perm
      (keys.flatMap fun own => items.filter fun item => key item = own) := by
  induction keys with
  | nil => simp
  | cons own rest ih =>
    obtain ⟨absent, distinct⟩ := List.nodup_cons.mp distinct
    have parted := (List.filter_append_perm (fun item => decide (key item = own))
      (items.filter fun item => key item ∈ own :: rest)).symm
    rw [List.filter_filter, List.filter_filter] at parted
    have here : items.filter (fun item =>
        decide (key item = own) && decide (key item ∈ own :: rest)) =
          items.filter fun item => key item = own := by
      apply List.filter_congr
      intro item _
      by_cases same : key item = own <;> simp [same]
    have there : items.filter (fun item =>
        !decide (key item = own) && decide (key item ∈ own :: rest)) =
          items.filter fun item => key item ∈ rest := by
      apply List.filter_congr
      intro item _
      by_cases same : key item = own
      · simp [same, absent]
      · simp [same]
    rw [here, there] at parted
    rw [List.flatMap_cons]
    exact parted.trans ((ih distinct).append_left _)

theorem filter_key_eq {α β : Type} [DecidableEq β] (key : α → β) {items : List α}
    (distinct : (items.map key).Nodup) {item : α} (present : item ∈ items) :
    items.filter (fun other => key other = key item) = [item] := by
  induction items with
  | nil => cases present
  | cons first rest ih =>
    obtain ⟨absent, distinct⟩ := List.nodup_cons.mp distinct
    rcases List.mem_cons.mp present with here | there
    · subst here
      have none : rest.filter (fun other => key other = key item) = [] := by
        apply List.filter_eq_nil_iff.mpr
        intro other inside same
        exact absent (List.mem_map.mpr ⟨other, inside, of_decide_eq_true same⟩)
      rw [List.filter_cons_of_pos (by simp), none]
    · have other : key first ≠ key item := fun same =>
        absent (List.mem_map.mpr ⟨item, there, same.symm⟩)
      rw [List.filter_cons_of_neg (by simpa using other), ih distinct there]

/-- The delay of a replica in its place, by the slot and the delays that the user set. -/
def delayAt (slot : Span) (replicas : List Replica) (delays : String → Option Span) (place : Nat)
    (replica : Replica) : Span :=
  if replicas.findIdx? (·.qualifier = replica.qualifier) = some place then
    (delays replica.qualifier).getD (slot.scale place)
  else slot.scale place

/-- A coordinator has that slot, those replicas and those delays set by its user. -/
structure Coordinator.Has (slot : Span) (replicas : List Replica) (delays : String → Option Span)
    (coordinator : Coordinator) : Prop where
  slot : coordinator.slot = slot
  replicas : coordinator.replicas.entries = replicas
  delays : ∀ qualifier, coordinator.overrides.find? qualifier = delays qualifier

theorem Coordinator.Has.ownDelay {slot : Span} {replicas : List Replica}
    {delays : String → Option Span} {coordinator : Coordinator}
    (has : coordinator.Has slot replicas delays) (place : Nat) (replica : Replica) :
    coordinator.ownDelay place replica = delayAt slot replicas delays place replica := by
  unfold Coordinator.ownDelay delayAt ReplicaSet.position?
  rw [has.slot, has.replicas, has.delays]

namespace Timeline

variable {world : World} {settings : List Settings} {timeline later : Timeline} {index : Nat}

theorem collect_eq (timeline : Timeline) (index : Nat) (coordinator : Coordinator) (task : Task)
    (request : Request) (plan : List (Replica × Span)) (expected : Nat) :
    timeline.collect index coordinator task request plan expected =
      { timeline with
        clients := timeline.clients.set index ⟨coordinator,
          .busy { task with stage := .collecting timeline.rounds.length expected }⟩
        tickets := timeline.tickets + plan.length
        rounds := timeline.rounds ++ [.empty]
        flights := (timeline.volley index request plan).foldl
          (fun flights flight => flight.enqueue flights) timeline.flights } := by
  simp only [collect, busy, setClient, dispatch_eq]

theorem Reached.number_lt (reached : timeline.Reached world settings)
    (increasing : Increasing timeline.obtained) {moment moment' : Moment}
    (present : moment ∈ timeline.past) (present' : moment' ∈ timeline.past)
    {number number' : SequenceNumber} (given : moment.event.obtained? = some number)
    (given' : moment'.event.obtained? = some number') (earlier : moment.time < moment'.time) :
    number.value < number'.value := by
  let InTurn (first second : Moment) : Prop := first.time < second.time →
    ∀ number number', first.event.obtained? = some number →
      second.event.obtained? = some number' → number.value < number'.value
  have symmetric : Std.Symm fun first second => InTurn first second ∧ InTurn second first :=
    ⟨fun _ _ both => both.symm⟩
  have numbers := List.pairwise_filterMap.mp increasing
  have all : timeline.past.Pairwise fun first second =>
      InTurn first second ∧ InTurn second first := by
    refine (reached.chronicle.ordered.and numbers).imp ?_
    intro first second ⟨after, greater⟩
    constructor
    · intro before
      exact absurd before (Nat.not_lt_of_le after)
    · intro _ number number' given given'
      exact greater number' given' number given
  have different : moment ≠ moment' := by
    intro same
    rw [same] at earlier
    exact Nat.lt_irrefl _ earlier
  exact (all.forall present present' different).1 earlier number number' given given'

end Timeline

/-- What a replica sees of a call: when it comes, from whom, and what it asks. -/
def Arrival.seen (arrival : Arrival) : Nat × Nat × Request :=
  (arrival.time, arrival.call.client, arrival.call.request)

/-- An attempt at an ordered operation that is about to send its calls. -/
structure Sending where
  timeline : Timeline
  client : Nat
  coordinator : Coordinator
  task : Task
  number : SequenceNumber

namespace Sending

variable {world : World} {settings : List Settings} {later : Timeline} {sending : Sending}
  {slot : Span} {replicas : List Replica} {delays : String → Option Span}

/-- When the calls are sent. -/
def time (sending : Sending) : Nat := sending.timeline.now

/-- The round that they belong to. -/
def round (sending : Sending) : Nat := sending.timeline.rounds.length

/-- What they ask. -/
def request (sending : Sending) : Request :=
  .numbered sending.task.attempt.operation sending.task.attempt.argument sending.number

/-- What sending them leads to. -/
def sent (sending : Sending) : Timeline :=
  sending.timeline.collect sending.client sending.coordinator sending.task sending.request
    sending.coordinator.plan sending.coordinator.replicas.size

/-- Clients with these settings have come to the attempt, and then, with its calls sent, to that
timeline. -/
structure Occurs (world : World) (settings : List Settings) (later : Timeline)
    (sending : Sending) : Prop where
  reached : sending.timeline.Reached world settings
  found : sending.timeline.clients[sending.client]? =
    some ⟨sending.coordinator, .busy sending.task⟩
  stage : sending.task.stage = .sending sending.number
  onward : sending.sent.Unfolds world later

/-- What a replica sees of the attempt, if it gets the call after that wait. -/
def seen (wait : Nat) (sending : Sending) : Nat × Nat × Request :=
  (sending.time + wait, sending.client, sending.request)

/-- The sequencer gives the number at the very time at which the calls are sent. -/
def AtOnce (sending : Sending) : Prop :=
  ∃ moment ∈ sending.timeline.past, moment.time = sending.time ∧
    moment.client = sending.client ∧ moment.event.obtained? = some sending.number

theorem Occurs.proceeds (occurs : sending.Occurs world settings later) :
    sending.timeline.proceed? sending.client = some (.moved sending.sent) := by
  unfold Timeline.proceed?
  simp only [occurs.found, occurs.stage]
  rfl

theorem Occurs.unfolds (occurs : sending.Occurs world settings later) :
    sending.timeline.Unfolds world later :=
  .head (.inl (.client occurs.proceeds (.moved _))) occurs.onward

theorem Occurs.extend {timeline : Timeline} (occurs : sending.Occurs world settings timeline)
    (unfolds : timeline.Unfolds world later) : sending.Occurs world settings later :=
  ⟨occurs.reached, occurs.found, occurs.stage, occurs.onward.trans unfolds⟩

theorem Occurs.mem_past (occurs : sending.Occurs world settings later) {moment : Moment}
    (present : moment ∈ sending.timeline.past) : moment ∈ later.past := by
  obtain ⟨moments, past⟩ := occurs.unfolds.onward.log
  rw [past]
  exact List.mem_append_right _ present

/-- Just one call of the attempt goes to each replica, when the wait that belongs to its place is
over. -/
theorem Occurs.arrival (occurs : sending.Occurs world settings later)
    (has : sending.coordinator.Has slot replicas delays) (distinct : replicas.Nodup)
    {place : Nat} {replica : Replica} (listed : replicas[place]? = some replica) :
    ∃ arrival : Arrival,
      arrival.time = sending.time + later.timer.wait (delayAt slot replicas delays place replica) ∧
      arrival.call.client = sending.client ∧ arrival.call.request = sending.request ∧
      (later.itinerary sending.round).filter (·.call.replica = replica) = [arrival] := by
  have opens : sending.round < sending.sent.rounds.length := Timeline.lt_rounds_collect ..
  have reached' : sending.sent.Reached world settings :=
    occurs.reached.moves (.client occurs.proceeds (.moved _))
  have ordered := (occurs.reached.engaged occurs.found).2.isOrdered _ occurs.stage
  have everywhere : sending.task.attempt.operation ≠ .getState := by
    intro state
    rw [state] at ordered
    cases ordered
  obtain ⟨calls, entries, _, lengths, asked, planned⟩ :=
    occurs.reached.itinerary_sent occurs.found everywhere occurs.proceeds opens
  have asks (call : Call) (present : call ∈ calls) :
      call.client = sending.client ∧ call.request = sending.request := by
    obtain ⟨own, fits, numbered⟩ := asked call present
    obtain ⟨number, carries⟩ := fits.exists_number ordered
    cases occurs.stage.symm.trans (numbered number carries)
    exact ⟨own, fits.eq_numbered carries⟩
  -- the call in the place of the replica, with the delay of that place
  rw [has.replicas] at entries
  obtain ⟨inside, own⟩ := List.getElem?_eq_some_iff.mp listed
  have within : place < calls.length := by
    rw [← entries, List.length_map] at inside
    exact inside
  have known : sending.coordinator.replicas.get? place = some replica := by
    unfold ReplicaSet.get?
    rw [has.replicas]
    exact listed
  have delay := (occurs.reached.scheduled occurs.found).inStep.delay known
  rw [has.ownDelay] at delay
  have timer : sending.timeline.timer = later.timer := occurs.unfolds.timer.symm
  rw [timer] at planned
  let arrival : Arrival :=
    ⟨sending.time + later.timer.wait (delayAt slot replicas delays place replica), calls[place]⟩
  have planned' : arrival ∈ Timeline.arrivalsAfter later.timer sending.time calls
      sending.coordinator.stagger.delays := by
    have zipped : (calls[place], delayAt slot replicas delays place replica) ∈
        calls.zip sending.coordinator.stagger.delays := by
      apply List.mem_iff_getElem?.mpr
      exact ⟨place, List.getElem?_zip_eq_some.mpr ⟨List.getElem?_eq_getElem within, delay⟩⟩
    exact Timeline.mem_arrivalsAfter later.timer sending.time zipped
  have goes : arrival.call.replica = replica := by
    have there : (calls.map Call.replica)[place]? = some replica := entries ▸ listed
    rw [List.getElem?_map, List.getElem?_eq_getElem within] at there
    exact Option.some.inj there
  have keys : (Timeline.arrivalsAfter later.timer sending.time calls
      sending.coordinator.stagger.delays).map (·.call.replica) = replicas := by
    have seen := congrArg (List.map Call.replica)
      (Timeline.call_arrivalsAfter later.timer sending.time (Nat.le_of_eq lengths.symm))
    rw [List.map_map] at seen
    exact seen.trans entries
  have alone := filter_key_eq (fun arrival : Arrival => arrival.call.replica)
    (keys ▸ distinct) planned'
  rw [goes] at alone
  have perm := ((Timeline.Unfolds.itinerary reached' opens occurs.onward).trans planned).filter
    (·.call.replica = replica)
  obtain ⟨client, request⟩ := asks calls[place] (List.getElem_mem within)
  exact ⟨arrival, rfl, client, request, List.perm_singleton.mp (alone ▸ perm)⟩

end Sending

namespace Timeline

variable {world : World} {settings : List Settings} {timeline later : Timeline}
  {slot : Span} {replicas : List Replica} {delays : String → Option Span}
  {sendings : List Sending}

/-- The calls of some rounds that a replica has received, in the order in which they came. -/
def received (timeline : Timeline) (replica : Replica) (rounds : List Nat) : List Arrival :=
  timeline.arrived.reverse.filter fun arrival =>
    arrival.call.replica = replica ∧ arrival.call.round ∈ rounds

/-- The calls of some rounds that are on their way to a replica, in the order in which they come. -/
def awaited (timeline : Timeline) (replica : Replica) (rounds : List Nat) : List Arrival :=
  timeline.expected.filter fun arrival =>
    arrival.call.replica = replica ∧ arrival.call.round ∈ rounds

theorem received_append_awaited (timeline : Timeline) (replica : Replica) (rounds : List Nat) :
    timeline.received replica rounds ++ timeline.awaited replica rounds =
      ((timeline.arrived.reverse ++ timeline.expected).filter (·.call.replica = replica)).filter
        (·.call.round ∈ rounds) := by
  unfold received awaited
  rw [List.filter_filter, ← List.filter_append]
  apply List.filter_congr
  intro arrival _
  rw [Bool.decide_and, Bool.and_comm]

/-- Attempts that agree on a replica and its delay, in the order of the times at which they send
their calls: the replica gets their calls in that order, each after the same wait. -/
theorem calls_in_order_of_times {replica : Replica} {place : Nat}
    (reached : later.Reached world settings)
    (occur : ∀ sending ∈ sendings, sending.Occurs world settings later)
    (agree : ∀ sending ∈ sendings, sending.coordinator.Has slot replicas delays)
    (distinct : replicas.Nodup) (listed : replicas[place]? = some replica)
    (ascending : sendings.Pairwise (·.time < ·.time)) {rounds : List Nat}
    (same : rounds.Perm (sendings.map Sending.round)) :
    (later.received replica rounds ++ later.awaited replica rounds).map Arrival.seen =
      sendings.map (·.seen (later.timer.wait (delayAt slot replicas delays place replica))) := by
  have : Nonempty Arrival := ⟨⟨0, ⟨0, 0, 0, replica, .state⟩⟩⟩
  have each (sending : Sending) (present : sending ∈ sendings) :=
    (occur sending present).arrival (agree sending present) distinct listed
  choose! arrival time client request alone using each
  have apart : (sendings.map Sending.round).Nodup := by
    apply List.pairwise_map.mpr
    refine List.Pairwise.imp_of_mem ?_ ascending
    intro first second inside inside' earlier together
    have one := (alone first inside).symm.trans (together ▸ alone second inside')
    have both := congrArg Arrival.time (List.cons.inj one).1
    rw [time first inside, time second inside'] at both
    omega
  let all := later.arrived.reverse ++ later.expected
  have own : (sendings.map Sending.round).flatMap (fun round =>
      (all.filter (·.call.replica = replica)).filter (·.call.round = round)) =
        sendings.map arrival := by
    rw [List.flatMap_map, List.map_eq_flatMap]
    apply List.flatMap_congr
    intro sending present
    rw [List.filter_comm]
    exact alone sending present
  have perm : (later.received replica rounds ++ later.awaited replica rounds).Perm
      (sendings.map arrival) := by
    rw [received_append_awaited, ← own]
    exact (filter_mem_perm (fun arrival : Arrival => arrival.call.round) _
      (same.symm.nodup apart)).trans (same.flatMap_right _)
  have sorted : (later.received replica rounds ++ later.awaited replica rounds).Pairwise
      (·.time ≤ ·.time) := by
    rw [received_append_awaited]
    exact (reached.arrivals_ascending.filter _).filter _
  have sorted' : (sendings.map arrival).Pairwise (·.time < ·.time) := by
    apply List.pairwise_map.mpr
    refine List.Pairwise.imp_of_mem ?_ ascending
    intro first second inside inside' earlier
    rw [time first inside, time second inside']
    exact Nat.add_lt_add_right earlier _
  have equal : later.received replica rounds ++ later.awaited replica rounds =
      sendings.map arrival := by
    have once : ((sendings.map arrival).map Arrival.time).Nodup :=
      List.pairwise_map.mpr (sorted'.imp Nat.ne_of_lt)
    apply perm.eq_of_pairwise ?_ sorted (sorted'.imp Nat.le_of_lt)
    intro first second inside inside' before after
    exact List.inj_on_of_nodup_map once (perm.subset inside) inside' (Nat.le_antisymm before after)
  rw [equal, List.map_map]
  apply List.map_congr_left
  intro sending present
  rw [Function.comp_apply, Arrival.seen, time sending present, client sending present,
    request sending present]
  rfl

/-- As time passes, the replica receives all of them. -/
theorem calls_received_in_order_of_times {replica : Replica} {place : Nat}
    (reached : later.Reached world settings)
    (occur : ∀ sending ∈ sendings, sending.Occurs world settings later)
    (agree : ∀ sending ∈ sendings, sending.coordinator.Has slot replicas delays)
    (distinct : replicas.Nodup) (listed : replicas[place]? = some replica)
    (ascending : sendings.Pairwise (·.time < ·.time)) {rounds : List Nat}
    (same : rounds.Perm (sendings.map Sending.round)) {σ : Type} {environment : Environment σ}
    (keeps : environment.Keeps world) (state : σ) {millis : Nat}
    (due : ∀ sending ∈ sendings,
      sending.time + later.timer.wait (delayAt slot replicas delays place replica) ≤
        later.now + millis) :
    ((later.elapse environment state millis).1.received replica rounds).map Arrival.seen =
      sendings.map (·.seen (later.timer.wait (delayAt slot replicas delays place replica))) := by
  obtain ⟨future, clear⟩ := reached.elapse_future keeps state millis
  have extended (sending : Sending) (present : sending ∈ sendings) :=
    (occur sending present).extend future.unfolds
  have all := calls_in_order_of_times (reached.future future) extended agree distinct listed
    ascending same
  rw [future.unfolds.timer] at all
  have none : (later.elapse environment state millis).1.awaited replica rounds = [] := by
    apply List.eq_nil_iff_forall_not_mem.mpr
    intro arrival present
    have late : later.now + millis < arrival.time := by
      obtain ⟨flight, inside, coming⟩ := List.mem_filterMap.mp (List.mem_filter.mp present).1
      unfold Flight.arrival? at coming
      split at coming <;> cases coming
      exact clear flight inside
    have seen : arrival.seen ∈
        sendings.map (·.seen (later.timer.wait (delayAt slot replicas delays place replica))) := by
      rw [← all]
      exact List.mem_map_of_mem (List.mem_append_right _ present)
    obtain ⟨sending, among, same⟩ := List.mem_map.mp seen
    have time : sending.time + later.timer.wait (delayAt slot replicas delays place replica) =
        arrival.time := congrArg Prod.fst same
    exact absurd (time ▸ due sending among) (Nat.not_le_of_lt late)
  rw [none, List.append_nil] at all
  exact all

/-- The stagger keeps replicas in agreement. Attempts, by whichever clients, agree on the replicas
and on their delays, and none sends its calls at the time of another; each does so as soon as it has
its number, and the numbers increase. Then each replica receives their calls in one and the same
order, which is that of the numbers: it has received some, and the others are on their way to it in
that order. It receives all of them as time passes. -/
theorem replicas_receive_in_order_of_numbers (reached : later.Reached world settings)
    (occur : ∀ sending ∈ sendings, sending.Occurs world settings later)
    (agree : ∀ sending ∈ sendings, sending.coordinator.Has slot replicas delays)
    (distinct : replicas.Nodup) (apart : (sendings.map Sending.time).Nodup)
    (atOnce : ∀ sending ∈ sendings, sending.AtOnce) (increasing : Increasing later.obtained) :
    ∃ order : List Sending, order.Perm sendings ∧
      order.Pairwise (·.number.value < ·.number.value) ∧
      ∀ replica ∈ replicas, ∃ wait,
        (later.received replica (sendings.map Sending.round) ++
            later.awaited replica (sendings.map Sending.round)).map Arrival.seen =
          order.map (·.seen wait) ∧
        ∀ (σ : Type) (environment : Environment σ) (state : σ) (millis : Nat),
          environment.Keeps world →
          (∀ sending ∈ sendings, sending.time + wait ≤ later.now + millis) →
          ((later.elapse environment state millis).1.received replica
              (sendings.map Sending.round)).map Arrival.seen = order.map (·.seen wait) := by
  let order := sendings.mergeSort fun first second => decide (first.time ≤ second.time)
  have perm : order.Perm sendings := List.mergeSort_perm ..
  have sorted : order.Pairwise (·.time ≤ ·.time) := by
    refine (List.pairwise_mergeSort ?_ ?_ sendings).imp of_decide_eq_true
    · intro first second third before before'
      exact decide_eq_true (Nat.le_trans (of_decide_eq_true before) (of_decide_eq_true before'))
    · intro first second
      simpa using Nat.le_total first.time second.time
  have ascending : order.Pairwise (·.time < ·.time) := by
    have different := List.pairwise_map.mp ((perm.map Sending.time).symm.nodup apart)
    exact (sorted.and different).imp fun ⟨before, other⟩ => Nat.lt_of_le_of_ne before other
  have occur' (sending : Sending) (present : sending ∈ order) :=
    occur sending (perm.subset present)
  have agree' (sending : Sending) (present : sending ∈ order) :=
    agree sending (perm.subset present)
  have rounds : (sendings.map Sending.round).Perm (order.map Sending.round) :=
    (perm.map Sending.round).symm
  refine ⟨order, perm, ?_, ?_⟩
  · refine List.Pairwise.imp_of_mem ?_ ascending
    intro first second inside inside' earlier
    obtain ⟨moment, present, now, _, given⟩ := atOnce first (perm.subset inside)
    obtain ⟨moment', present', now', _, given'⟩ := atOnce second (perm.subset inside')
    exact reached.number_lt increasing ((occur' first inside).mem_past present)
      ((occur' second inside').mem_past present') given given' (now ▸ now' ▸ earlier)
  · intro replica known
    obtain ⟨place, listed⟩ := List.mem_iff_getElem?.mp known
    refine ⟨later.timer.wait (delayAt slot replicas delays place replica),
      calls_in_order_of_times reached occur' agree' distinct listed ascending rounds, ?_⟩
    intro σ environment state millis keeps due
    exact calls_received_in_order_of_times reached occur' agree' distinct listed ascending rounds
      keeps state fun sending present => due sending (perm.subset present)

/-- The take sends its calls while those of the put are on their way, and both replicas get the put
before the take. -/
theorem take_overtakes_nowhere : ∃ (first second : Sending) (later : Timeline),
    first.Occurs .any [.standard, .standard] later ∧
    second.Occurs .any [.standard, .standard] later ∧
    first.client = 0 ∧ second.client = 1 ∧ first.time = 0 ∧ second.time = 400 ∧
    ∀ replica ∈ [(⟨"a:1", "A"⟩ : Replica), ⟨"b:1", "B"⟩],
      (later.received replica [first.round, second.round] ++
          later.awaited replica [first.round, second.round]).map (·.call.request) =
        [.put "<a>" ⟨7⟩, .take "<b>" ⟨8⟩] := by
  let replicas : List Replica := [⟨"a:1", "A"⟩, ⟨"b:1", "B"⟩]
  have free (timeline : Timeline) (index : Nat) (rests : timeline.isBusyAt index = false) :
      timeline.Free index := free_of_isBusyAt (Bool.eq_false_iff.mp rests)
  have delayed : Reached .any [.standard, .standard] _ :=
    Reached.opening.requests (.delay (free _ 0 rfl) "A" (.ofMillis 2000))
  have delayed' := delayed.requests (.delay (free _ 1 rfl) "A" (.ofMillis 2000))
  have put := delayed'.requests (.operation (free _ 0 rfl) .put "<a>" 1 0)
  have take := put.requests (.operation (free _ 1 rfl) .take "<b>" 1 0)
  have begun := (take.goes (rfl : proceed? _ 0 = _)).goes (rfl : proceed? _ 1 = _)
  have known := begun.learns (rfl : proceed? _ 0 = some (.asks (.lookup _ _) _)) (.ok replicas)
    trivial
  have known' := known.learns (rfl : proceed? _ 1 = some (.asks (.lookup _ _) _)) (.ok replicas)
    trivial
  have first := known'.learns (rfl : proceed? _ 0 = some (.asks (.next _) _)) (.ok ⟨7⟩) trivial
  have sent := first.goes (rfl : proceed? _ 0 = _)
  rw [collect_eq] at sent
  have start {timeline : Timeline} (_ : timeline.Reached .any [.standard, .standard]) :
      timeline.Unfolds .any timeline := .refl
  have waited := (start sent).waits (by decide +kernel : _ ≤ 400) (by decide +kernel)
  have numbered := waited.learns (rfl : proceed? _ 1 = some (.asks (.next _) _)) (.ok ⟨8⟩) trivial
  have sent' := numbered.goes (rfl : proceed? _ 1 = some (.moved _))
  have second := sent.unfolds numbered
  have reached := sent.unfolds sent'
  let slot := Settings.standard.stagger
  let delays := (Overrides.empty.set "A" (.ofMillis 2000)).find?
  obtain ⟨first, second, later, occurs, occurs', reached, has, has', atOnce, atOnce', numbers,
    facts⟩ : ∃ (first second : Sending) (later : Timeline),
        first.Occurs .any [.standard, .standard] later ∧
        second.Occurs .any [.standard, .standard] later ∧
        later.Reached .any [.standard, .standard] ∧
        first.coordinator.Has slot replicas delays ∧ second.coordinator.Has slot replicas delays ∧
        first.AtOnce ∧ second.AtOnce ∧ later.obtained = [⟨8⟩, ⟨7⟩] ∧
        (first.client = 0 ∧ first.time = 0 ∧ first.number = ⟨7⟩ ∧
          first.request = .put "<a>" ⟨7⟩) ∧
        second.client = 1 ∧ second.time = 400 ∧ second.number = ⟨8⟩ ∧
          second.request = .take "<b>" ⟨8⟩ := by
    refine ⟨⟨_, 0, _, _, ⟨7⟩⟩, ⟨_, 1, _, _, ⟨8⟩⟩, _, ⟨first, rfl, rfl, ?_⟩,
      ⟨second, rfl, rfl, .refl⟩, reached, ⟨rfl, rfl, fun _ => rfl⟩, ⟨rfl, rfl, fun _ => rfl⟩,
      ⟨_, List.mem_cons_self, rfl, rfl, rfl⟩, ⟨_, List.mem_cons_self, rfl, rfl, rfl⟩, ?_,
      ⟨rfl, rfl, rfl, rfl⟩, rfl, rfl, rfl, rfl⟩
    · rw [Sending.sent, collect_eq]
      exact sent'
    · rw [Sending.sent, collect_eq]
      rfl
  obtain ⟨⟨client, time, number, request⟩, client', time', number', request'⟩ := facts
  have each {property : Sending → Prop} (own : property first) (own' : property second) :
      ∀ sending ∈ [first, second], property sending := by
    simp [own, own']
  obtain ⟨order, perm, ascending, agreed⟩ := replicas_receive_in_order_of_numbers reached
    (each occurs occurs') (each has has') (by decide) (by simp [time, time']) (each atOnce atOnce')
    (by rw [numbers]; unfold Increasing; decide)
  have same : order = [first, second] := by
    apply perm.eq_of_pairwise ?_ ascending
    · rw [List.pairwise_pair, number, number']
      decide
    · intro _ _ _ _ less greater
      exact absurd greater (UInt64.lt_asymm less)
  refine ⟨first, second, later, occurs, occurs', client, client', time, time', ?_⟩
  intro replica known
  obtain ⟨wait, seen, _⟩ := agreed replica known
  have asked := congrArg (List.map (·.2.2)) seen
  rw [same, List.map_map] at asked
  simpa [Sending.seen, request, request', Function.comp_def, Arrival.seen] using asked

/-- Whoever has a number to send was given it just now. -/
def NumbersAtOnce (timeline : Timeline) : Prop :=
  ∀ (index : Nat) (coordinator : Coordinator) (task : Task) (number : SequenceNumber),
    timeline.clients[index]? = some ⟨coordinator, .busy task⟩ → task.stage = .sending number →
      Sending.AtOnce ⟨timeline, index, coordinator, task, number⟩

theorem Deed.obtains {coordinator : Coordinator} {task : Task} {effect : Effect}
    {events : List Event} {client : Client} {number : SequenceNumber}
    (deed : Deed world timeline coordinator task effect events client)
    {coordinator' : Coordinator} {task' : Task} (form : client = ⟨coordinator', .busy task'⟩)
    (stage : task'.stage = .sending number) :
    events = [.next coordinator.handle (.ok number)] := by
  cases deed with
  | numbered =>
    cases form
    cases stage
    rfl
  | lost _ _ _ _ ends | decided _ _ _ ends =>
    cases ends with
    | final | spent => cases form
    | again =>
      cases form
      cases stage
  | _ => cases form <;> cases stage

/-- A client that can go on does so before time passes, so that in a run every number is sent as
soon as it is given. -/
theorem NumbersAtOnce.step? {step : Step} (reached : timeline.Reached world settings)
    (atOnce : timeline.NumbersAtOnce) (steps : timeline.step? = some step)
    (leads : step.Leads world later) : later.NumbersAtOnce := by
  -- with nobody able to go on, nobody has a number to send
  have idle (nobody : timeline.proceedFirst? = none) (index : Nat) (coordinator : Coordinator)
      (task : Task) (number : SequenceNumber)
      (found : timeline.clients[index]? = some ⟨coordinator, .busy task⟩) :
      task.stage ≠ .sending number := by
    intro stage
    apply not_enabled nobody (reached.engaged found).1 found
    rw [Enabled, stage]
    trivial
  rcases step?_cases steps with ⟨fires, cause⟩ | ⟨mover, time, proceeds, onward, cause⟩
  · have lands := lands_of_fire? fires leads
    obtain ⟨clients, moments, past, _⟩ := lands.past
    obtain ⟨flight, rest, first, now⟩ := lands.now
    rcases cause with due | nobody
    · rw [isDueBy, first] at due
      rw [Nat.max_eq_left (of_decide_eq_true due)] at now
      intro index coordinator task number found stage
      obtain ⟨moment, present, given⟩ :=
        atOnce index coordinator task number (clients ▸ found) stage
      refine ⟨moment, past ▸ List.mem_append_right _ present, ?_⟩
      exact ⟨given.1.trans now.symm, given.2⟩
    · intro index coordinator task number found stage
      exact absurd stage (idle nobody index coordinator task number (clients ▸ found))
  · obtain ⟨coordinator, task, effect, events, client, busy, deed, same⟩ :=
      deed_of_proceed? proceeds leads
    subst same
    intro index coordinator' task' number found stage
    simp only [enact, carry_clients, List.getElem?_set] at found
    split at found
    · rename_i here
      split at found
      · have events := deed.obtains (Option.some.inj found) stage
        subst here
        subst events
        exact ⟨⟨time, mover, .next coordinator.handle (.ok number)⟩, by simp [enact],
          by simp [Sending.time, enact], rfl, rfl⟩
      · cases found
    · rcases cause with same | ⟨nobody, _⟩
      · subst same
        obtain ⟨moment, present, given⟩ := atOnce index coordinator' task' number found stage
        exact ⟨moment, by simp [enact, present], by simpa [Sending.time, enact] using given⟩
      · exact absurd stage (idle nobody index coordinator' task' number found)

/-- What steps of a run lead to. -/
abbrev Runs (world : World) : Timeline → Timeline → Prop :=
  Relation.ReflTransGen fun timeline later =>
    ∃ step, timeline.step? = some step ∧ step.Leads world later

theorem NumbersAtOnce.runs (reached : timeline.Reached world settings)
    (atOnce : timeline.NumbersAtOnce) (runs : timeline.Runs world later) :
    later.Reached world settings ∧ later.NumbersAtOnce := by
  induction runs with
  | refl => exact ⟨reached, atOnce⟩
  | tail _ next ih =>
    obtain ⟨step, steps, leads⟩ := next
    obtain ⟨reached, atOnce⟩ := ih
    have path := path_of_step? reached.balanced steps leads
    exact ⟨reached.path path, NumbersAtOnce.step? reached atOnce steps leads⟩

end Timeline
end ReplicatedSpace
