import ReplicatedSpace.Proofs.Futures
import ReplicatedSpace.Proofs.Choice

/-!
What a timeline looks like to somebody who does not see some calls come back. As long as nobody
waits for their results, clients do there just what they do in the whole timeline.
-/
namespace ReplicatedSpace

/-- A call on its way back, if it is one that is not seen. -/
def Flight.isHidden (hides : Call → Bool) (flight : Flight) : Bool :=
  match flight.leg with
  | .outbound => false
  | .inbound _ => hides flight.call

def Moment.isHidden (hides : Call → Bool) (moment : Moment) : Bool :=
  match moment.event with
  | .completed call _ => hides call
  | _ => false

/-- The collector that the results of some calls make, the latest first. -/
def Collector.ofReturns (backs : List Return) : Collector Outcome :=
  ⟨(backs.map Return.result).reverse, backs.length⟩

theorem Collector.ofReturns_cons (back : Return) (backs : List Return) :
    ofReturns (back :: backs) = (ofReturns backs).record back.result := by
  simp [ofReturns, record, store, count]

/-- What a step leads to, looked at in some way. -/
def Step.view (look : Timeline → Timeline) : Step → Step
  | moved later => .moved (look later)
  | asks question resume => .asks question fun answer => look (resume answer)

variable {hides : Call → Bool}

theorem Flight.enqueue_cons (flight first : Flight) (rest : List Flight) :
    flight.enqueue (first :: rest) =
      if first.due ≤ flight.due then first :: flight.enqueue rest
      else flight :: first :: rest := rfl

theorem Flight.filter_enqueue (seen : Flight → Bool) (flight : Flight) {flights : List Flight}
    (inOrder : flights.Pairwise (·.due ≤ ·.due)) :
    (flight.enqueue flights).filter seen =
      if seen flight then flight.enqueue (flights.filter seen) else flights.filter seen := by
  induction flights with
  | nil => cases shown : seen flight <;> simp [enqueue, shown]
  | cons first rest ih =>
    obtain ⟨least, inOrder⟩ := List.pairwise_cons.mp inOrder
    have ih := ih inOrder
    rw [enqueue_cons]
    split
    · rename_i earlier
      cases shown : seen first <;> cases shown' : seen flight <;>
        simp [shown, shown', ih, enqueue_cons, earlier]
    · rename_i later
      -- Nothing that is seen behind the first flight is due before this one.
      have ahead : flight.enqueue (rest.filter seen) = flight :: rest.filter seen := by
        cases front : rest.filter seen with
        | nil => rfl
        | cons second others =>
          have listed : second ∈ rest.filter seen := front ▸ List.mem_cons_self
          have after := least second (List.mem_filter.mp listed).1
          exact if_neg (by omega)
      cases shown : seen first <;> cases shown' : seen flight <;>
        simp [shown, shown', enqueue_cons, later, ahead]

theorem Flight.filter_foldl_enqueue (seen : Flight → Bool) {added flights : List Flight}
    (inOrder : flights.Pairwise (·.due ≤ ·.due)) (all : ∀ flight ∈ added, seen flight = true) :
    (added.foldl (fun flights flight => flight.enqueue flights) flights).filter seen =
      added.foldl (fun flights flight => flight.enqueue flights) (flights.filter seen) := by
  induction added generalizing flights with
  | nil => rfl
  | cons first rest ih =>
    obtain ⟨shown, all⟩ := List.forall_mem_cons.mp all
    rw [List.foldl_cons, ih (Flight.enqueue_inOrder first inOrder) all,
      Flight.filter_enqueue seen first inOrder, if_pos shown, List.foldl_cons]

namespace Timeline

variable {settings : List Settings} {timeline later : Timeline} {index : Nat}
  {coordinator : Coordinator} {task : Task}

/-- The timeline without those calls on their way back, and without their results. -/
def hush (hides : Call → Bool) (timeline : Timeline) : Timeline :=
  { timeline with
    flights := timeline.flights.filter fun flight => !flight.isHidden hides
    rounds := (List.range timeline.rounds.length).map fun round =>
      .ofReturns ((timeline.returnsIn round).filter fun back => !hides back.call)
    past := timeline.past.filter fun moment => !moment.isHidden hides }

/-- Nobody waits for a round in which a call came back that is not seen. -/
def Sealed (hides : Call → Bool) (timeline : Timeline) : Prop :=
  ∀ (index : Nat) (coordinator : Coordinator) (task : Task) (round expected : Nat),
    timeline.clients[index]? = some ⟨coordinator, .busy task⟩ →
    task.stage = .collecting round expected →
    ∀ back ∈ timeline.returnsIn round, hides back.call = false

theorem hush_log {event : Event}
    (quiet : (⟨timeline.now, index, event⟩ : Moment).return? = none) :
    (timeline.log index event).hush hides = (timeline.hush hides).log index event := by
  have shown : (⟨timeline.now, index, event⟩ : Moment).isHidden hides = false := by
    unfold Moment.isHidden
    unfold Moment.return? at quiet
    split
    · simp_all
    · rfl
  have returns (round : Nat) :
      (timeline.log index event).returnsIn round = timeline.returnsIn round := by
    simp only [returnsIn, Timeline.returns, log, List.filterMap_cons, quiet]
  simp only [hush, returns]
  simp only [log, List.filter_cons, shown, Bool.not_false, if_true]

theorem hush_busy (coordinator : Coordinator) (task : Task) :
    (timeline.busy index coordinator task).hush hides =
      (timeline.hush hides).busy index coordinator task := rfl

theorem hush_finish (coordinator : Coordinator) (result : Except Error Outcome) :
    (timeline.finish index coordinator result).hush hides =
      (timeline.hush hides).finish index coordinator result :=
  congrArg (setClient · index ⟨coordinator, .finished result timeline.now⟩) (hush_log rfl)

theorem hush_restart (coordinator : Coordinator) (task : Task) (error : Error) :
    (timeline.restart index coordinator task error).hush hides =
      (timeline.hush hides).restart index coordinator task error := by
  unfold restart
  dsimp only
  split
  · rw [hush_finish, hush_log rfl, hush_log rfl]
  · rw [hush_busy, hush_log rfl, hush_log rfl, hush_log rfl]

theorem hush_conclude (coordinator : Coordinator) (task : Task)
    (result : Except Error Outcome) :
    (timeline.conclude index coordinator task result).hush hides =
      (timeline.hush hides).conclude index coordinator task result := by
  unfold conclude
  split
  · exact hush_finish ..
  · split
    · exact hush_restart ..
    · exact hush_finish ..

theorem hush_begin (coordinator : Coordinator) (task : Task) :
    (timeline.begin index coordinator task).hush hides =
      (timeline.hush hides).begin index coordinator task := by
  unfold begin
  dsimp only
  split
  · rw [hush_finish, hush_log rfl]
  · rw [hush_busy, hush_log rfl]

theorem hush_discover (coordinator : Coordinator) (task : Task)
    (found : Except Error (List Replica)) :
    (timeline.discover index coordinator task found).hush hides =
      (timeline.hush hides).discover index coordinator task found := by
  unfold discover
  dsimp only
  split
  · rw [hush_conclude, hush_log rfl]
  · rw [hush_conclude, hush_log rfl]
  · rw [hush_busy, hush_log rfl, hush_log rfl]

theorem hush_order (coordinator : Coordinator) (task : Task)
    (answer : Except Error SequenceNumber) :
    (timeline.order index coordinator task answer).hush hides =
      (timeline.hush hides).order index coordinator task answer := by
  unfold order
  dsimp only
  split
  · rw [hush_busy, hush_log rfl]
  · rename_i error
    dsimp only [reset]
    let renew (asked : Timeline) : Timeline := { asked with handles := timeline.handles + 1 }
    have answered : (timeline.log index (.next coordinator.handle (.error error))).hush hides =
        (timeline.hush hides).log index (.next coordinator.handle (.error error)) := hush_log rfl
    rw [hush_conclude, hush_log rfl]
    exact congrArg (fun asked => ((renew asked).log index _).conclude index _ task _) answered

theorem hush_dispatch (balanced : timeline.Balanced) (request : Request)
    (plan : List (Replica × Span)) :
    (timeline.dispatch index request plan).hush hides =
      (timeline.hush hides).dispatch index request plan := by
  have shown (flight : Flight) (present : flight ∈ timeline.volley index request plan) :
      (!flight.isHidden hides) = true := by
    rw [Flight.isHidden, (mem_volley present).1]
    rfl
  have volley : (timeline.hush hides).volley index request plan =
      timeline.volley index request plan := by
    simp [Timeline.volley, hush]
  have none := balanced.returnsIn_eq_nil (Nat.le_refl timeline.rounds.length)
  have returns (round : Nat) :
      (timeline.dispatch index request plan).returnsIn round = timeline.returnsIn round := by
    rw [returnsIn, returns_dispatch]
    rfl
  rw [dispatch_eq, dispatch_eq, volley, hush]
  rw [dispatch_eq] at returns
  simp only [returns, Flight.filter_foldl_enqueue _ balanced.inOrder shown, List.length_append,
    List.length_singleton, List.range_succ, List.map_append, List.map_singleton, none]
  rfl

theorem hush_collect (balanced : timeline.Balanced) (coordinator : Coordinator) (task : Task)
    (request : Request) (plan : List (Replica × Span)) (expected : Nat) :
    (timeline.collect index coordinator task request plan expected).hush hides =
      (timeline.hush hides).collect index coordinator task request plan expected := by
  unfold collect
  rw [hush_busy, hush_dispatch balanced]
  simp [hush]

theorem view_attempt (coordinator : Coordinator) (task : Task) :
    (timeline.attempt index coordinator task).view (hush hides) =
      (timeline.hush hides).attempt index coordinator task := by
  unfold attempt
  dsimp only
  split
  · refine congrArg (Step.asks _) (funext fun found => ?_)
    rw [hush_discover, hush_log rfl]
  · refine congrArg Step.moved ?_
    rw [hush_busy, hush_log rfl]

theorem view_engage (balanced : timeline.Balanced) (coordinator : Coordinator) (task : Task) :
    (timeline.engage index coordinator task).view (hush hides) =
      (timeline.hush hides).engage index coordinator task := by
  unfold engage
  split
  · exact congrArg (Step.asks _) (funext fun answer => hush_order ..)
  · exact congrArg (Step.asks _) (funext fun answer => hush_order ..)
  · exact congrArg Step.moved (hush_collect balanced ..)
  · split
    · exact congrArg Step.moved (hush_collect balanced ..)
    · exact congrArg Step.moved (hush_conclude ..)

theorem rounds_hush (balanced : timeline.Balanced) {round : Nat}
    (seen : ∀ back ∈ timeline.returnsIn round, hides back.call = false) :
    (timeline.hush hides).rounds[round]? = timeline.rounds[round]? := by
  have all : (timeline.returnsIn round).filter (fun back => !hides back.call) =
      timeline.returnsIn round := by
    refine List.filter_eq_self.mpr fun back present => ?_
    rw [seen back present]
    rfl
  by_cases opened : round < timeline.rounds.length
  · have found := List.getElem?_eq_getElem opened
    obtain ⟨_, counted⟩ := balanced.collected found
    simp only [hush, List.getElem?_map, List.getElem?_range opened, Option.map_some, all, found]
    rw [Collector.ofReturns, ← balanced.results_eq found, ← counted]
  · have closed := Nat.le_of_not_lt opened
    rw [List.getElem?_eq_none closed]
    exact List.getElem?_eq_none (by simpa [hush] using closed)

/-- What a client does next is what it does in the whole timeline. -/
theorem proceed?_hush (balanced : timeline.Balanced) (sealed : timeline.Sealed hides)
    (index : Nat) : (timeline.hush hides).proceed? index =
      (timeline.proceed? index).map (Step.view (hush hides)) := by
  unfold proceed?
  cases found : timeline.clients[index]? with
  | none => simp [hush, found]
  | some client =>
    have found' : (timeline.hush hides).clients[index]? = some client := found
    obtain ⟨coordinator, activity⟩ := client
    rw [found']
    cases activity with
    | idle | finished => rfl
    | busy task =>
      dsimp only
      cases stage : task.stage with
      | waiting start =>
        dsimp only
        by_cases started : start ≤ timeline.now
        · have started' : start ≤ (timeline.hush hides).now := started
          rw [if_pos started, if_pos started', ← hush_begin]
          rfl
        · have started' : ¬ start ≤ (timeline.hush hides).now := started
          rw [if_neg started, if_neg started']
          rfl
      | discovering =>
        dsimp only
        rw [← view_attempt]
        rfl
      | ready =>
        dsimp only
        rw [← view_engage balanced]
        rfl
      | sending number =>
        dsimp only
        rw [← hush_collect balanced]
        rfl
      | collecting round expected =>
        dsimp only
        rw [rounds_hush balanced (sealed index coordinator task round expected found stage)]
        cases (timeline.rounds[round]?).bind (task.attempt.verdict? expected) with
        | none => rfl
        | some result =>
          rw [Option.map_some, ← hush_conclude]
          rfl

theorem hush_complete_hidden {call : Call} (hidden : hides call = true)
    (result : CallResult Outcome) :
    (timeline.complete call result).hush hides = timeline.hush hides := by
  have returns (round : Nat) : ((timeline.complete call result).returnsIn round).filter
      (fun back => !hides back.call) =
        (timeline.returnsIn round).filter fun back => !hides back.call := by
    rw [returnsIn_complete]
    split
    · simp [hidden]
    · rfl
  rw [hush]
  simp only [returns]
  simp [hush, complete, log, Moment.isHidden, hidden]

theorem hush_complete {call : Call} (seen : hides call = false) (result : CallResult Outcome) :
    (timeline.complete call result).hush hides = (timeline.hush hides).complete call result := by
  have rounds : ((List.range timeline.rounds.length).map fun round => Collector.ofReturns
      (((timeline.complete call result).returnsIn round).filter fun back => !hides back.call)) =
        (timeline.hush hides).rounds.modify call.round (·.record result) := by
    refine List.ext_getElem? fun round => ?_
    by_cases opened : round < timeline.rounds.length
    · by_cases own : call.round = round
      · simp [hush, returnsIn_complete, opened, own, seen, Collector.ofReturns_cons]
      · simp [hush, returnsIn_complete, opened, own]
    · simp [hush, opened]
  rw [hush]
  simp only [complete, log, List.length_modify] at rounds ⊢
  rw [rounds]
  simp [hush, Moment.isHidden, seen]

/-- A call arrives, whether it is seen to come back or not. -/
theorem hush_arrive (inOrder : timeline.flights.Pairwise (·.due ≤ ·.due)) (call : Call)
    (reply : Reply call.operation.Answer) : (timeline.arrive call reply).hush hides =
      if hides call then (timeline.hush hides).log call.client (.arrived call)
      else (timeline.hush hides).arrive call reply := by
  have logged : (timeline.log call.client (.arrived call)).hush hides =
      (timeline.hush hides).log call.client (.arrived call) := hush_log rfl
  unfold arrive
  dsimp only
  by_cases instant : reply.latency = 0
  · rw [if_pos instant, if_pos instant, ← logged]
    split
    · rename_i hidden
      exact hush_complete_hidden hidden _
    · rename_i seen
      exact hush_complete (Bool.eq_false_iff.mpr seen) _
  · let back : Flight := ⟨timeline.now + reply.latency, call, .inbound (call.result reply.ending)⟩
    have shown : (!back.isHidden hides) = !hides call := rfl
    have flights := Flight.filter_enqueue (fun flight => !flight.isHidden hides) back inOrder
    rw [if_neg instant, if_neg instant, ← logged]
    rw [shown] at flights
    split
    · rename_i hidden
      rw [hidden, Bool.not_true, if_neg (by decide)] at flights
      exact congrArg (fun flights => { (timeline.log call.client (.arrived call)).hush hides with
        flights }) flights
    · rename_i seen
      rw [Bool.eq_false_iff.mpr seen, Bool.not_false, if_pos rfl] at flights
      exact congrArg (fun flights => { (timeline.log call.client (.arrived call)).hush hides with
        flights }) flights

end Timeline
end ReplicatedSpace
