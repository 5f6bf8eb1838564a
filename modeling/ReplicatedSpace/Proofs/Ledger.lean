import Mathlib.Data.List.Basic
import ReplicatedSpace.Proofs.Course

/-!
The books of calls. A call that was sent is still on its way to its replica, or it has arrived; one
that has arrived is still on its way back, or it has come back and its result is with the collector
of its round. Nothing gets lost and nothing is counted twice, whatever happens.
-/
namespace ReplicatedSpace

def Flight.outbound? (flight : Flight) : Option Call :=
  match flight.leg with
  | .outbound => some flight.call
  | .inbound _ => none

def Flight.inbound? (flight : Flight) : Option Call :=
  match flight.leg with
  | .outbound => none
  | .inbound _ => some flight.call

/-- A call that came back. -/
structure Return where
  time : Nat
  call : Call
  result : CallResult Outcome

def Moment.arrival? (moment : Moment) : Option Call :=
  match moment.event with
  | .arrived call => some call
  | _ => none

def Moment.return? (moment : Moment) : Option Return :=
  match moment.event with
  | .completed call result => some ⟨moment.time, call, result⟩
  | _ => none

namespace Timeline

variable {world : World} {settings : List Settings} {timeline later : Timeline}

/-- The calls on their way to their replicas. -/
def outbound (timeline : Timeline) : List Call := timeline.flights.filterMap Flight.outbound?

/-- The calls on their way back. -/
def inbound (timeline : Timeline) : List Call := timeline.flights.filterMap Flight.inbound?

/-- The calls that have arrived, the latest first. -/
def arrivals (timeline : Timeline) : List Call := timeline.past.filterMap Moment.arrival?

/-- The calls that have come back, the latest first. -/
def returns (timeline : Timeline) : List Return := timeline.past.filterMap Moment.return?

/-- All calls that were ever sent. -/
def sent (timeline : Timeline) : List Call := timeline.outbound ++ timeline.arrivals

def sentIn (timeline : Timeline) (round : Nat) : List Call :=
  timeline.sent.filter (·.round = round)

def returnsIn (timeline : Timeline) (round : Nat) : List Return :=
  timeline.returns.filter (·.call.round = round)

/-- The calls of a round that are still under way, in either direction. -/
def underWay (timeline : Timeline) (round : Nat) : List Call :=
  (timeline.outbound ++ timeline.inbound).filter (·.round = round)

/-- The books balance. -/
structure Balanced (timeline : Timeline) : Prop where
  inOrder : timeline.flights.Pairwise (·.due ≤ ·.due)
  ahead : ∀ flight ∈ timeline.flights, timeline.now ≤ flight.due
  answered : (timeline.inbound ++ timeline.returns.map Return.call).Perm timeline.arrivals
  opened : ∀ call ∈ timeline.sent, call.round < timeline.rounds.length
  collected {round : Nat} {collector : Collector Outcome}
    (open_ : timeline.rounds[round]? = some collector) :
    collector.results.reverse = (timeline.returnsIn round).map Return.result ∧
      collector.counted = (timeline.returnsIn round).length
  chronological : timeline.returns.Pairwise (·.time ≥ ·.time)
  elapsed : ∀ back ∈ timeline.returns, back.time ≤ timeline.now

theorem Balanced.sentIn_perm (balanced : timeline.Balanced) (round : Nat) :
    (timeline.sentIn round).Perm
      (timeline.underWay round ++ (timeline.returnsIn round).map Return.call) := by
  have all : timeline.sent.Perm
      (timeline.outbound ++ timeline.inbound ++ timeline.returns.map Return.call) := by
    rw [List.append_assoc]
    exact balanced.answered.symm.append_left _
  refine (all.filter _).trans (.of_eq ?_)
  rw [List.filter_append, List.filter_map]
  rfl

/-- Results are collected in the order in which their calls came back. -/
theorem Balanced.results_eq (balanced : timeline.Balanced) {round : Nat}
    {collector : Collector Outcome} (opened : timeline.rounds[round]? = some collector) :
    collector.results = ((timeline.returnsIn round).map Return.result).reverse := by
  rw [← (balanced.collected opened).1, List.reverse_reverse]

theorem Balanced.mem_results (balanced : timeline.Balanced) {round : Nat}
    {collector : Collector Outcome} (opened : timeline.rounds[round]? = some collector)
    {back : Return} (present : back ∈ timeline.returnsIn round) :
    back.result ∈ collector.results := by
  rw [balanced.results_eq opened]
  exact List.mem_reverse.mpr (List.mem_map_of_mem present)

theorem Balanced.whole (balanced : timeline.Balanced) {round : Nat} {collector : Collector Outcome}
    (opened : timeline.rounds[round]? = some collector) :
    collector.results.length = collector.counted := by
  rw [balanced.results_eq opened, (balanced.collected opened).2, List.length_reverse,
    List.length_map]

theorem Balanced.chronologicalIn (balanced : timeline.Balanced) (round : Nat) :
    (timeline.returnsIn round).Pairwise (·.time ≥ ·.time) :=
  balanced.chronological.sublist List.filter_sublist

theorem exists_flight_of_underWay {round : Nat} {call : Call}
    (present : call ∈ timeline.underWay round) :
    ∃ flight ∈ timeline.flights, flight.call = call ∧ call.round = round := by
  obtain ⟨flying, own⟩ := List.mem_filter.mp present
  rcases List.mem_append.mp flying with out | back
  · obtain ⟨flight, inside, same⟩ := List.mem_filterMap.mp out
    unfold Flight.outbound? at same
    split at same <;> cases same
    exact ⟨flight, inside, rfl, of_decide_eq_true own⟩
  · obtain ⟨flight, inside, same⟩ := List.mem_filterMap.mp back
    unfold Flight.inbound? at same
    split at same <;> cases same
    exact ⟨flight, inside, rfl, of_decide_eq_true own⟩

theorem mem_underWay_of_flight {flight : Flight} (present : flight ∈ timeline.flights) :
    flight.call ∈ timeline.underWay flight.call.round := by
  refine List.mem_filter.mpr ⟨List.mem_append.mpr ?_, decide_eq_true rfl⟩
  cases leg : flight.leg with
  | outbound =>
    exact .inl (List.mem_filterMap.mpr ⟨flight, present, by simp [Flight.outbound?, leg]⟩)
  | inbound result =>
    exact .inr (List.mem_filterMap.mpr ⟨flight, present, by simp [Flight.inbound?, leg]⟩)

theorem Balanced.round_lt_of_flight (balanced : timeline.Balanced) {flight : Flight}
    (present : flight ∈ timeline.flights) : flight.call.round < timeline.rounds.length := by
  have sent := (balanced.sentIn_perm flight.call.round).symm.subset
    (List.mem_append_left _ (mem_underWay_of_flight present))
  exact balanced.opened _ (List.mem_filter.mp sent).1

theorem Balanced.underWay_eq_nil (balanced : timeline.Balanced) {round : Nat}
    (all : (timeline.sentIn round).length ≤ (timeline.returnsIn round).length) :
    timeline.underWay round = [] := by
  have lengths := (balanced.sentIn_perm round).length_eq
  rw [List.length_append, List.length_map] at lengths
  exact List.length_eq_zero_iff.mp (by omega)

section Enact

variable {index : Nat} {events : List Event} {client : Client}
  (deeds : ∀ event ∈ events, event.isDeed = true)

include deeds

theorem filterMap_deeds {α : Type} {view : Moment → Option α}
    (blind : ∀ moment, moment.event.isDeed = true → view moment = none) :
    (timeline.enact index events client).past.filterMap view = timeline.past.filterMap view := by
  simp only [enact, List.filterMap_append]
  have nothing : (events.map fun event => (⟨timeline.now, index, event⟩ : Moment)).reverse.filterMap
      view = [] := by
    refine List.filterMap_eq_nil_iff.mpr fun moment present => blind moment ?_
    obtain ⟨event, own, same⟩ := List.mem_map.mp (List.mem_reverse.mp present)
    exact same ▸ deeds event own
  rw [nothing, List.nil_append]

theorem arrivals_enact : (timeline.enact index events client).arrivals = timeline.arrivals :=
  filterMap_deeds deeds fun moment deed => by
    unfold Moment.arrival?
    split
    · rename_i same; rw [same] at deed; cases deed
    · rfl

theorem returns_enact : (timeline.enact index events client).returns = timeline.returns :=
  filterMap_deeds deeds fun moment deed => by
    unfold Moment.return?
    split
    · rename_i same; rw [same] at deed; cases deed
    · rfl

theorem sent_enact : (timeline.enact index events client).sent = timeline.sent := by
  unfold sent
  rw [arrivals_enact deeds]
  rfl

theorem Balanced.enact (balanced : timeline.Balanced) :
    (timeline.enact index events client).Balanced where
  inOrder := balanced.inOrder
  ahead := balanced.ahead
  answered := by
    rw [arrivals_enact deeds, returns_enact deeds]
    exact balanced.answered
  opened := by
    rw [sent_enact deeds]
    exact balanced.opened
  collected open_ := by
    unfold returnsIn
    rw [returns_enact deeds]
    exact balanced.collected open_
  chronological := by
    rw [returns_enact deeds]
    exact balanced.chronological
  elapsed := by
    rw [returns_enact deeds]
    exact balanced.elapsed

end Enact

section Dispatch

variable {index : Nat} {request : Request} {plan : List (Replica × Span)}

/-- The calls of a round as they set out. -/
def volleyCalls (timeline : Timeline) (index : Nat) (request : Request)
    (plan : List (Replica × Span)) : List Call :=
  (timeline.volley index request plan).map Flight.call

theorem mem_volley {flight : Flight} (present : flight ∈ timeline.volley index request plan) :
    flight.leg = .outbound ∧ timeline.now ≤ flight.due ∧ flight.call.client = index ∧
      flight.call.round = timeline.rounds.length ∧ flight.call.request = request := by
  obtain ⟨_, _, same⟩ := List.mem_map.mp present
  subst same
  exact ⟨rfl, Nat.le_add_right .., rfl, rfl, rfl⟩

theorem mem_volleyCalls {call : Call} (present : call ∈ timeline.volleyCalls index request plan) :
    call.client = index ∧ call.round = timeline.rounds.length ∧ call.request = request := by
  obtain ⟨flight, inside, same⟩ := List.mem_map.mp present
  subst same
  exact (mem_volley inside).2.2

theorem replica_volleyCalls (timeline : Timeline) (index : Nat) (request : Request)
    (plan : List (Replica × Span)) :
    (timeline.volleyCalls index request plan).map Call.replica = plan.map (·.1) := by
  simp only [volleyCalls, volley, List.map_map, Function.comp_def]
  exact (List.map_map ..).symm.trans (congrArg _ (List.zipIdx_map_fst ..))

theorem length_volleyCalls : (timeline.volleyCalls index request plan).length = plan.length := by
  simp [volleyCalls, volley]

private theorem outbound_volley :
    (timeline.volley index request plan).filterMap Flight.outbound? =
      timeline.volleyCalls index request plan := by
  rw [volleyCalls, ← List.filterMap_eq_map]
  refine List.filterMap_congr fun flight present => ?_
  simp [Flight.outbound?, (mem_volley present).1]

private theorem inbound_volley :
    (timeline.volley index request plan).filterMap Flight.inbound? = [] := by
  refine List.filterMap_eq_nil_iff.mpr fun flight present => ?_
  simp [Flight.inbound?, (mem_volley present).1]

theorem outbound_dispatch : (timeline.dispatch index request plan).outbound.Perm
    (timeline.volleyCalls index request plan ++ timeline.outbound) := by
  rw [dispatch_eq, ← outbound_volley, outbound, outbound, ← List.filterMap_append]
  exact (Flight.foldl_enqueue_perm ..).filterMap _

theorem inbound_dispatch :
    (timeline.dispatch index request plan).inbound.Perm timeline.inbound := by
  have perm := (Flight.foldl_enqueue_perm (timeline.volley index request plan)
    timeline.flights).filterMap Flight.inbound?
  rw [List.filterMap_append, inbound_volley, List.nil_append] at perm
  rw [dispatch_eq]
  exact perm

theorem arrivals_dispatch :
    (timeline.dispatch index request plan).arrivals = timeline.arrivals := by
  rw [dispatch_eq]; rfl

theorem returns_dispatch : (timeline.dispatch index request plan).returns = timeline.returns := by
  rw [dispatch_eq]; rfl

theorem sent_dispatch : (timeline.dispatch index request plan).sent.Perm
    (timeline.volleyCalls index request plan ++ timeline.sent) := by
  rw [sent, arrivals_dispatch, sent, ← List.append_assoc]
  exact outbound_dispatch.append_right _

theorem Balanced.returnsIn_eq_nil (balanced : timeline.Balanced) {round : Nat}
    (closed : timeline.rounds.length ≤ round) : timeline.returnsIn round = [] := by
  refine List.filter_eq_nil_iff.mpr fun back present => ?_
  have arrived : back.call ∈ timeline.arrivals :=
    balanced.answered.subset (List.mem_append_right _ (List.mem_map.mpr ⟨back, present, rfl⟩))
  have opened := balanced.opened _ (List.mem_append_right _ arrived)
  simp only [decide_eq_true_eq]
  omega

theorem Balanced.dispatch (balanced : timeline.Balanced) :
    (timeline.dispatch index request plan).Balanced where
  inOrder := by
    rw [dispatch_eq]
    exact Flight.foldl_enqueue_inOrder _ balanced.inOrder
  ahead flight present := by
    rw [dispatch_eq] at present ⊢
    rcases List.mem_append.mp ((Flight.foldl_enqueue_perm ..).subset present) with new | old
    · exact (mem_volley new).2.1
    · exact balanced.ahead flight old
  answered := by
    rw [returns_dispatch, arrivals_dispatch]
    exact (inbound_dispatch.append_right _).trans balanced.answered
  opened call present := by
    have size : (timeline.dispatch index request plan).rounds.length =
        timeline.rounds.length + 1 := by rw [dispatch_eq]; simp
    rcases List.mem_append.mp (sent_dispatch.subset present) with new | old
    · rw [size, (mem_volleyCalls new).2.1]
      exact Nat.lt_succ_self _
    · have := balanced.opened call old
      omega
  collected {round collector} open_ := by
    unfold returnsIn
    rw [returns_dispatch]
    rw [dispatch_eq, List.getElem?_append] at open_
    split at open_
    · exact balanced.collected open_
    · rename_i closed
      have none := balanced.returnsIn_eq_nil (Nat.le_of_not_lt closed)
      rw [returnsIn] at none
      rw [none]
      obtain ⟨_, same⟩ := List.getElem?_eq_some_iff.mp open_
      simp only [List.getElem_singleton] at same
      subst same
      exact ⟨rfl, rfl⟩
  chronological := by
    rw [returns_dispatch]
    exact balanced.chronological
  elapsed := by
    rw [returns_dispatch, dispatch_eq]
    exact balanced.elapsed

theorem Balanced.carry (balanced : timeline.Balanced) (index : Nat) (effect : Effect) :
    (timeline.carry index effect).Balanced := by
  cases effect with
  | quiet => exact balanced
  | renewal =>
    exact ⟨balanced.inOrder, balanced.ahead, balanced.answered, balanced.opened,
      balanced.collected, balanced.chronological, balanced.elapsed⟩
  | volley request plan => exact balanced.dispatch

end Dispatch

section Hop

theorem Balanced.now_reach (balanced : timeline.Balanced) {flight : Flight} {rest : List Flight}
    (first : timeline.flights = flight :: rest) : max timeline.now flight.due = flight.due :=
  Nat.max_eq_right (balanced.ahead flight (first ▸ List.mem_cons_self))

theorem returnsIn_complete (timeline : Timeline) (call : Call) (result : CallResult Outcome)
    (round : Nat) : (timeline.complete call result).returnsIn round =
      if call.round = round then ⟨timeline.now, call, result⟩ :: timeline.returnsIn round
      else timeline.returnsIn round := by
  simp only [returnsIn, returns, complete, log, List.filterMap_cons, Moment.return?,
    List.filter_cons, decide_eq_true_eq]

theorem Hop.outbound (hop : timeline.Hop world later) :
    (∃ time call, later.past = ⟨time, call.client, .arrived call⟩ :: timeline.past ∧
        timeline.outbound.Perm (call :: later.outbound)) ∨
      ∃ time call result,
        later.past = ⟨time, call.client, .completed call result⟩ :: timeline.past ∧
        later.outbound = timeline.outbound := by
  cases hop with
  | arrives first leg admitted same inOrder =>
    rename_i flight rest flights reply
    refine .inl ⟨_, flight.call, rfl, ?_⟩
    have before : timeline.outbound = flight.call :: rest.filterMap Flight.outbound? := by
      simp [Timeline.outbound, first, Flight.outbound?, leg]
    have after : (flights.filterMap Flight.outbound?).Perm (rest.filterMap Flight.outbound?) :=
      same.filterMap _
    rw [before]
    exact (after.cons flight.call).symm
  | returns first leg =>
    rename_i flight rest result
    refine .inr ⟨_, flight.call, result, rfl, ?_⟩
    have before : timeline.outbound = rest.filterMap Flight.outbound? := by
      simp [Timeline.outbound, first, Flight.outbound?, leg]
    rw [before]
    rfl

theorem Hop.sent (hop : timeline.Hop world later) : later.sent.Perm timeline.sent := by
  rcases hop.outbound with ⟨time, call, past, out⟩ | ⟨time, call, result, past, out⟩
  · have arrivals : later.arrivals = call :: timeline.arrivals := by
      rw [Timeline.arrivals, past]
      rfl
    rw [Timeline.sent, Timeline.sent, arrivals]
    exact List.perm_middle.trans (out.symm.append_right _)
  · have arrivals : later.arrivals = timeline.arrivals := by
      rw [Timeline.arrivals, past]
      rfl
    rw [Timeline.sent, Timeline.sent, arrivals, out]

theorem Hop.balanced (balanced : timeline.Balanced) (hop : timeline.Hop world later) :
    later.Balanced := by
  have sent := hop.sent
  cases hop with
  | arrives first leg admitted same inOrder =>
    rename_i flight rest flights reply
    obtain ⟨least, restInOrder⟩ := List.pairwise_cons.mp (first ▸ balanced.inOrder)
    have now := balanced.now_reach first
    have clear (other : Flight) (present : other ∈ rest) : timeline.now ≤ other.due :=
      balanced.ahead other (first ▸ List.mem_cons_of_mem _ present)
    refine ⟨inOrder restInOrder clear least, ?_, ?_, ?_, balanced.collected,
      balanced.chronological, ?_⟩
    · intro other present
      change max timeline.now flight.due ≤ other.due
      rcases List.mem_cons.mp (same.subset present) with same | present
      · subst same
        exact Nat.le_add_right ..
      · rw [now]
        exact least other present
    · have back : (flights.filterMap Flight.inbound?).Perm
          (flight.call :: rest.filterMap Flight.inbound?) := same.filterMap _
      have before : timeline.inbound = rest.filterMap Flight.inbound? := by
        simp [inbound, first, Flight.inbound?, leg]
      have answered := balanced.answered
      rw [before] at answered
      exact (back.append_right _).trans (answered.cons flight.call)
    · exact fun call present => balanced.opened call (sent.subset present)
    · exact fun back present => Nat.le_trans (balanced.elapsed back present) (Nat.le_max_left ..)
  | returns first leg =>
    rename_i flight rest result
    obtain ⟨least, restInOrder⟩ := List.pairwise_cons.mp (first ▸ balanced.inOrder)
    have now := balanced.now_reach first
    refine ⟨restInOrder, ?_, ?_, ?_, ?_, ?_, ?_⟩
    · intro other present
      change max timeline.now flight.due ≤ other.due
      rw [now]
      exact least other present
    · have before : timeline.inbound = flight.call :: rest.filterMap Flight.inbound? := by
        simp [inbound, first, Flight.inbound?, leg]
      have answered := balanced.answered
      rw [before] at answered
      exact List.perm_middle.trans answered
    · intro call present
      have opened := balanced.opened call (sent.subset present)
      simpa [complete, log, reach] using opened
    · intro round collector open_
      have changed : (timeline.rounds.modify flight.call.round (·.record result))[round]? =
          some collector := open_
      rw [List.getElem?_modify] at changed
      obtain ⟨earlier, open_, same⟩ := Option.map_eq_some_iff.mp changed
      obtain ⟨results, counted⟩ := balanced.collected open_
      rw [← same, returnsIn_complete]
      split
      · simp only [Collector.record, Collector.store, Collector.count, List.reverse_append,
          List.reverse_singleton, List.singleton_append, results, counted]
        exact ⟨rfl, rfl⟩
      · exact ⟨results, counted⟩
    · refine List.pairwise_cons.mpr ⟨fun back present => ?_, balanced.chronological⟩
      exact Nat.le_trans (balanced.elapsed back present) (Nat.le_max_left ..)
    · intro back present
      rcases List.mem_cons.mp present with same | present
      · subst same
        exact Nat.le_refl _
      · exact Nat.le_trans (balanced.elapsed back present) (Nat.le_max_left ..)

theorem Lands.balanced (balanced : timeline.Balanced) (lands : timeline.Lands world later) :
    later.Balanced := by
  cases lands with
  | once hop => exact hop.balanced balanced
  | twice hop hop' _ => exact hop'.balanced (hop.balanced balanced)

end Hop

theorem Moves.balanced (balanced : timeline.Balanced) (moves : timeline.Moves world later) :
    later.Balanced := by
  cases moves with
  | client proceeds leads =>
    obtain ⟨_, _, effect, _, _, _, deed, same⟩ := deed_of_proceed? proceeds leads
    exact same ▸ (balanced.carry _ effect).enact deed.isDeed
  | flight fires leads => exact (lands_of_fire? fires leads).balanced balanced
  | clock settled onward clear =>
    exact ⟨balanced.inOrder, clear, balanced.answered, balanced.opened, balanced.collected,
      balanced.chronological,
      fun back present => Nat.le_trans (balanced.elapsed back present) onward⟩
  | shuffle same inOrder =>
    refine ⟨inOrder, fun flight present => balanced.ahead flight (same.subset present), ?_, ?_,
      balanced.collected, balanced.chronological, balanced.elapsed⟩
    · exact ((same.filterMap _).append_right _).trans balanced.answered
    · exact fun call present =>
        balanced.opened call (((same.filterMap _).append_right _).subset present)

theorem submit_books (timeline : Timeline) (index : Nat) (operation : Operation)
    (argument : String) (retries : UInt32) (start : Nat) :
    ∃ clients turns, timeline.submit index operation argument retries start =
      { timeline with clients, turns } := by
  unfold submit
  split
  · exact ⟨_, _, rfl⟩
  · exact ⟨_, _, rfl⟩

theorem requestDelay_books (timeline : Timeline) (index : Nat) (qualifier : String)
    (delay : Span) :
    timeline.requestDelay index qualifier delay = timeline ∨
      ∃ clients, timeline.requestDelay index qualifier delay =
        { timeline.log index (.delaySet qualifier delay) with clients } := by
  unfold requestDelay setDelay
  cases timeline.clients[index]? with
  | none => exact .inl rfl
  | some client =>
    dsimp only
    cases client.coordinator.setDelay qualifier delay with
    | error error => exact .inl rfl
    | ok changed => exact .inr ⟨_, rfl⟩

theorem Requests.balanced {index : Nat} (balanced : timeline.Balanced)
    (requests : timeline.Requests index later) : later.Balanced := by
  cases requests with
  | operation free operation argument retries start =>
    obtain ⟨clients, turns, same⟩ := timeline.submit_books index operation argument retries start
    rw [same]
    exact ⟨balanced.inOrder, balanced.ahead, balanced.answered, balanced.opened,
      balanced.collected, balanced.chronological, balanced.elapsed⟩
  | delay free qualifier delay =>
    rcases timeline.requestDelay_books index qualifier delay with same | ⟨clients, same⟩
    · rw [same]
      exact balanced
    · rw [same]
      exact ⟨balanced.inOrder, balanced.ahead, balanced.answered, balanced.opened,
        balanced.collected, balanced.chronological, balanced.elapsed⟩

theorem Reached.balanced (reached : timeline.Reached world settings) : timeline.Balanced := by
  induction reached with
  | opening =>
    exact ⟨.nil, fun _ absent => (List.not_mem_nil absent).elim, .refl _,
      fun _ absent => (List.not_mem_nil absent).elim, (fun impossible => by cases impossible), .nil,
      fun _ absent => (List.not_mem_nil absent).elim⟩
  | moves _ moves balanced => exact moves.balanced balanced
  | requests _ requests balanced => exact requests.balanced balanced

/-- Time and the log go on, and in a round that is open no more calls are sent. -/
structure Onward (timeline later : Timeline) : Prop where
  clock : timeline.now ≤ later.now
  rounds : timeline.rounds.length ≤ later.rounds.length
  log : ∃ moments, later.past = moments ++ timeline.past
  sentIn {round : Nat} (opened : round < timeline.rounds.length) :
    (later.sentIn round).Perm (timeline.sentIn round)

theorem Onward.refl (timeline : Timeline) : timeline.Onward timeline :=
  ⟨Nat.le_refl _, Nat.le_refl _, ⟨[], rfl⟩, fun _ => .refl _⟩

theorem Onward.trans {middle : Timeline} (onward : timeline.Onward middle)
    (onward' : middle.Onward later) : timeline.Onward later := by
  obtain ⟨moments, past⟩ := onward.log
  obtain ⟨moments', past'⟩ := onward'.log
  refine ⟨Nat.le_trans onward.clock onward'.clock, Nat.le_trans onward.rounds onward'.rounds,
    ⟨moments' ++ moments, by rw [past', past, List.append_assoc]⟩, fun opened => ?_⟩
  exact (onward'.sentIn (Nat.lt_of_lt_of_le opened onward.rounds)).trans (onward.sentIn opened)

theorem Balanced.sentIn_dispatch (balanced : timeline.Balanced) (index : Nat) (request : Request)
    (plan : List (Replica × Span)) :
    ((timeline.dispatch index request plan).sentIn timeline.rounds.length).Perm
      (timeline.volleyCalls index request plan) := by
  refine (sent_dispatch.filter _).trans (.of_eq ?_)
  have all : (timeline.volleyCalls index request plan).filter (·.round = timeline.rounds.length) =
      timeline.volleyCalls index request plan :=
    List.filter_eq_self.mpr fun call present => decide_eq_true (mem_volleyCalls present).2.1
  have none : timeline.sent.filter (·.round = timeline.rounds.length) = [] := by
    refine List.filter_eq_nil_iff.mpr fun call present => ?_
    have opened := balanced.opened call present
    simp only [decide_eq_true_eq]
    omega
  rw [List.filter_append, all, none, List.append_nil]

theorem sentIn_dispatch_of_lt {index : Nat} {request : Request} {plan : List (Replica × Span)}
    {round : Nat} (opened : round < timeline.rounds.length) :
    ((timeline.dispatch index request plan).sentIn round).Perm (timeline.sentIn round) := by
  refine (sent_dispatch.filter _).trans (.of_eq ?_)
  have none : (timeline.volleyCalls index request plan).filter (·.round = round) = [] := by
    refine List.filter_eq_nil_iff.mpr fun call present => ?_
    have own := (mem_volleyCalls present).2.1
    simp only [decide_eq_true_eq]
    omega
  rw [List.filter_append, none, List.nil_append]
  rfl

theorem onward_carry (timeline : Timeline) (index : Nat) (effect : Effect) :
    timeline.Onward (timeline.carry index effect) := by
  refine ⟨by simp, ?_, ⟨[], by simp⟩, fun opened => ?_⟩
  · cases effect <;> simp [carry, dispatch_eq]
  · cases effect with
    | quiet | renewal => exact .refl _
    | volley request plan => exact sentIn_dispatch_of_lt opened

theorem onward_enact {index : Nat} {events : List Event} {client : Client}
    (deeds : ∀ event ∈ events, event.isDeed = true) :
    timeline.Onward (timeline.enact index events client) := by
  refine ⟨Nat.le_refl _, Nat.le_refl _, ⟨_, rfl⟩, fun _ => ?_⟩
  unfold sentIn
  rw [sent_enact deeds]

theorem Hop.onward (hop : timeline.Hop world later) : timeline.Onward later := by
  have sent := hop.sent
  have past := hop.past
  obtain ⟨_, moment, past, _⟩ := past
  refine ⟨?_, ?_, ⟨[moment], past⟩, fun _ => sent.filter _⟩
  · cases hop <;> exact Nat.le_max_left ..
  · cases hop <;> simp [complete, log, reach]

theorem Moves.onward (moves : timeline.Moves world later) : timeline.Onward later := by
  cases moves with
  | client proceeds leads =>
    rename_i mover step
    obtain ⟨_, _, effect, events, client, _, deed, same⟩ := deed_of_proceed? proceeds leads
    subst same
    exact (timeline.onward_carry mover effect).trans (onward_enact deed.isDeed)
  | flight fires leads =>
    cases lands_of_fire? fires leads with
    | once hop => exact hop.onward
    | twice hop hop' _ => exact hop.onward.trans hop'.onward
  | clock settled onward clear => exact ⟨onward, Nat.le_refl _, ⟨[], rfl⟩, fun _ => .refl _⟩
  | shuffle same inOrder =>
    exact ⟨Nat.le_refl _, Nat.le_refl _, ⟨[], rfl⟩,
      fun _ => ((same.filterMap _).append_right _).filter _⟩

theorem Requests.onward {index : Nat} (requests : timeline.Requests index later) :
    timeline.Onward later := by
  cases requests with
  | operation free operation argument retries start =>
    obtain ⟨clients, turns, same⟩ := timeline.submit_books index operation argument retries start
    rw [same]
    exact ⟨Nat.le_refl _, Nat.le_refl _, ⟨[], rfl⟩, fun _ => .refl _⟩
  | delay free qualifier delay =>
    rcases timeline.requestDelay_books index qualifier delay with same | ⟨clients, same⟩
    · rw [same]
      exact .refl _
    · rw [same]
      exact ⟨Nat.le_refl _, Nat.le_refl _, ⟨[_], rfl⟩, fun _ => .refl _⟩

theorem Reached.onward (reached : timeline.Reached world settings) :
    (Timeline.opening settings).Onward timeline := by
  induction reached with
  | opening => exact ⟨Nat.le_refl _, Nat.le_refl _, ⟨[], rfl⟩, fun _ => .refl _⟩
  | moves _ moves ih => exact ih.trans moves.onward
  | requests _ requests ih => exact ih.trans requests.onward

end Timeline
end ReplicatedSpace
