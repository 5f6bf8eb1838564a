import ReplicatedSpace.Proofs.Pace
import ReplicatedSpace.Proofs.Replies

/-!
Calls come back once. No ticket is given out twice, so a call has one place in the books: it is
under way, or one result of it is with the collector of its own round. And whoever answers, there is
a time by which every call that was sent is back, those that break down included.
-/
namespace ReplicatedSpace
namespace Timeline

variable {world : World} {settings : List Settings} {timeline later : Timeline} {index round : Nat}
  {collector : Collector Outcome}

/-- The calls that were sent have different tickets, and later ones will have others. -/
structure Ticketed (timeline : Timeline) : Prop where
  below : ∀ call ∈ timeline.sent, call.ticket < timeline.tickets
  distinct : (timeline.sent.map Call.ticket).Nodup

theorem Ticketed.kept (ticketed : timeline.Ticketed) (sent : later.sent.Perm timeline.sent)
    (tickets : later.tickets = timeline.tickets) : later.Ticketed where
  below call present := tickets ▸ ticketed.below call (sent.subset present)
  distinct := (sent.map Call.ticket).symm.nodup ticketed.distinct

theorem ticket_volleyCalls (timeline : Timeline) (index : Nat) (request : Request)
    (plan : List (Replica × Span)) :
    (timeline.volleyCalls index request plan).map Call.ticket =
      List.range' timeline.tickets plan.length := by
  simp only [volleyCalls, volley, List.map_map, Function.comp_def]
  exact List.zipIdx_map_snd ..

theorem Ticketed.dispatch (ticketed : timeline.Ticketed) (index : Nat) (request : Request)
    (plan : List (Replica × Span)) : (timeline.dispatch index request plan).Ticketed := by
  have fresh := timeline.ticket_volleyCalls index request plan
  have sent : (timeline.dispatch index request plan).sent.Perm
      (timeline.volleyCalls index request plan ++ timeline.sent) := sent_dispatch
  have tickets : (timeline.dispatch index request plan).tickets =
      timeline.tickets + plan.length := by
    rw [dispatch_eq]
  constructor
  · intro call present
    rw [tickets]
    rcases List.mem_append.mp (sent.subset present) with new | old
    · have listed := List.mem_map_of_mem (f := Call.ticket) new
      rw [fresh] at listed
      exact (List.mem_range'_1.mp listed).2
    · exact Nat.lt_add_right _ (ticketed.below call old)
  · apply (sent.map Call.ticket).symm.nodup
    rw [List.map_append, fresh]
    apply List.nodup_append.mpr
    refine ⟨List.nodup_range', ticketed.distinct, ?_⟩
    intro first new second old same
    obtain ⟨call, present, ticket⟩ := List.mem_map.mp old
    have below := ticketed.below call present
    have above := (List.mem_range'_1.mp new).1
    omega

theorem Ticketed.carry (ticketed : timeline.Ticketed) (index : Nat) (effect : Effect) :
    (timeline.carry index effect).Ticketed := by
  cases effect with
  | quiet => exact ticketed
  | renewal => exact ticketed.kept (.refl _) rfl
  | volley request plan => exact ticketed.dispatch index request plan

theorem Hop.tickets (hop : timeline.Hop world later) : later.tickets = timeline.tickets := by
  cases hop <;> rfl

theorem Ticketed.moves (ticketed : timeline.Ticketed) (moves : timeline.Moves world later) :
    later.Ticketed := by
  cases moves with
  | client proceeds leads =>
    obtain ⟨_, _, effect, _, _, _, deed, same⟩ := deed_of_proceed? proceeds leads
    rw [same]
    exact (ticketed.carry _ effect).kept (.of_eq (sent_enact deed.isDeed)) rfl
  | flight fires leads =>
    cases lands_of_fire? fires leads with
    | once hop => exact ticketed.kept hop.sent hop.tickets
    | twice hop hop' _ => exact (ticketed.kept hop.sent hop.tickets).kept hop'.sent hop'.tickets
  | clock => exact ticketed.kept (.refl _) rfl
  | shuffle same => exact ticketed.kept ((same.filterMap _).append_right _) rfl

theorem Ticketed.requests (ticketed : timeline.Ticketed)
    (requests : timeline.Requests index later) : later.Ticketed := by
  cases requests with
  | operation free operation argument retries start =>
    obtain ⟨clients, turns, same⟩ := timeline.submit_books index operation argument retries start
    rw [same]
    exact ticketed.kept (.refl _) rfl
  | delay free qualifier delay =>
    rcases timeline.requestDelay_books index qualifier delay with same | ⟨clients, same⟩
    · rw [same]
      exact ticketed
    · rw [same]
      exact ticketed.kept (.refl _) rfl

theorem Reached.ticketed (reached : timeline.Reached world settings) : timeline.Ticketed := by
  induction reached with
  | opening =>
    constructor
    · exact fun _ absent => (List.not_mem_nil absent).elim
    · exact .nil
  | moves _ moves ticketed => exact ticketed.moves moves
  | requests _ requests ticketed => exact ticketed.requests requests

/-- How a collector has come by what it holds: the calls of its round that are back have left one
result each, in the order in which they came back, and no call is among them twice. -/
structure Accounts (world : World) (timeline : Timeline) (round : Nat)
    (collector : Collector Outcome) (backs : List Return) : Prop where
  results : collector.results = backs.map Return.result
  counted : collector.counted = backs.length
  calls : (timeline.sentIn round).Perm (timeline.underWay round ++ backs.map Return.call)
  once : (timeline.underWay round ++ backs.map Return.call).Nodup
  genuine : ∀ back ∈ backs, world.Admits back.call back.result

theorem Reached.accounts (reached : timeline.Reached world settings)
    (opened : timeline.rounds[round]? = some collector) :
    ∃ backs, timeline.Accounts world round collector backs := by
  have balanced := reached.balanced
  have calls : (timeline.sentIn round).Perm
      (timeline.underWay round ++ (timeline.returnsIn round).reverse.map Return.call) := by
    refine (balanced.sentIn_perm round).trans (List.Perm.append_left _ ?_)
    exact (List.reverse_perm _).symm.map _
  have distinct : (timeline.sentIn round).Nodup :=
    (List.Nodup.of_map _ reached.ticketed.distinct).filter _
  refine ⟨(timeline.returnsIn round).reverse, ?_, ?_, calls, calls.nodup distinct, ?_⟩
  · rw [List.map_reverse, balanced.results_eq opened]
  · rw [(balanced.collected opened).2, List.length_reverse]
  · intro back present
    have listed := (List.mem_filter.mp (List.mem_reverse.mp present)).1
    exact reached.genuine.back back listed

theorem Accounts.complete {backs : List Return}
    (accounts : timeline.Accounts world round collector backs)
    (landed : timeline.underWay round = []) :
    (backs.map Return.call).Perm (timeline.sentIn round) := by
  have calls := accounts.calls
  rw [landed, List.nil_append] at calls
  exact calls.symm

section Environment

variable {σ : Type} (environment : Environment σ)

/-- Whoever answers, there is a time by which nothing is under way any more. -/
theorem exists_drained (timeline : Timeline) (state : σ) :
    ∃ time, ∀ late, time ≤ late → (timeline.drain environment state late).1.flights = [] := by
  induction timeline using less_wf.induction generalizing state with
  | _ timeline ih =>
    cases flights : timeline.flights with
    | nil =>
      refine ⟨0, fun late _ => ?_⟩
      have clear : timeline.fireBy? late = none := by
        rw [fireBy?, isDueBy, flights]
        rfl
      have stays := drain_eq environment late (timeline, state)
      simp only [clear] at stays
      rw [stays]
      exact flights
    | cons flight rest =>
      obtain ⟨step, fires⟩ : ∃ step, timeline.fire? = some step := by
        apply Option.isSome_iff_exists.mp
        exact fire?_isSome (flights ▸ List.cons_ne_nil flight rest)
      -- The first call gets there by any time from its own on, whenever the others do.
      have next {late : Nat} (due : flight.due ≤ late) : timeline.fireBy? late = some step := by
        have dueBy : timeline.isDueBy late = true := by
          rw [isDueBy, flights]
          exact decide_eq_true due
        rw [fireBy?, if_pos dueBy, fires]
      have less := ends_fireBy? _ _ _ _ (next (Nat.le_refl flight.due))
        (step.yields_resolve environment state)
      obtain ⟨time, drained⟩ := ih _ less (step.resolve environment state).2
      refine ⟨max time flight.due, fun late enough => ?_⟩
      have onward := drain_eq environment late (timeline, state)
      simp only [next (Nat.le_trans (Nat.le_max_right ..) enough)] at onward
      rw [onward]
      exact drained late (Nat.le_trans (Nat.le_max_left ..) enough)

theorem Reached.all_return {environment : Environment σ}
    (reached : timeline.Reached world settings) (keeps : environment.Keeps world) (state : σ) :
    ∃ millis, ∀ more, millis ≤ more → ∀ round < timeline.rounds.length, ∃ collector backs,
      (timeline.elapse environment state more).1.rounds[round]? = some collector ∧
      (timeline.elapse environment state more).1.Accounts world round collector backs ∧
      (backs.map Return.call).Perm (timeline.sentIn round) := by
  obtain ⟨time, drained⟩ := timeline.exists_drained environment state
  refine ⟨time, fun more enough round inside => ?_⟩
  obtain ⟨future, _⟩ := reached.elapse_future keeps state more
  have landed : (timeline.elapse environment state more).1.flights = [] :=
    drained _ (Nat.le_trans enough (Nat.le_add_left ..))
  have opened := Nat.lt_of_lt_of_le inside future.onward.rounds
  obtain ⟨backs, accounts⟩ := (reached.future future).accounts (List.getElem?_eq_getElem opened)
  refine ⟨_, backs, List.getElem?_eq_getElem opened, accounts, ?_⟩
  have none : (timeline.elapse environment state more).1.underWay round = [] := by
    simp [underWay, outbound, inbound, landed]
  exact (accounts.complete none).trans (future.onward.sentIn inside)

end Environment

end Timeline
end ReplicatedSpace
