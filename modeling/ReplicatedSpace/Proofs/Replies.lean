import ReplicatedSpace.Proofs.Ledger

/-!
Where results come from. Whatever comes back to a client is what a replica replied when the call
arrived, so nothing comes back that no replica may say.
-/
namespace ReplicatedSpace

/-- A call may come back with that result. -/
def World.Admits (world : World) (call : Call) (result : CallResult Outcome) : Prop :=
  ∃ reply : Reply call.operation.Answer, world (.arrival call) reply ∧
    call.result reply.ending = result

namespace Timeline

variable {world : World} {settings : List Settings} {timeline later : Timeline}

/-- What is on its way back, and what is back, was replied. -/
structure Genuine (world : World) (timeline : Timeline) : Prop where
  flying : ∀ flight ∈ timeline.flights, ∀ result, flight.leg = .inbound result →
    world.Admits flight.call result
  back : ∀ back ∈ timeline.returns, world.Admits back.call back.result

theorem Genuine.carry (genuine : timeline.Genuine world) (index : Nat) (effect : Effect) :
    (timeline.carry index effect).Genuine world := by
  cases effect with
  | quiet | renewal => exact ⟨genuine.flying, genuine.back⟩
  | volley request plan =>
    constructor
    · intro flight present result leg
      have flights : (timeline.dispatch index request plan).flights.Perm
          (timeline.volley index request plan ++ timeline.flights) := by
        rw [dispatch_eq]
        exact Flight.foldl_enqueue_perm _ _
      rcases List.mem_append.mp (flights.subset present) with fresh | old
      · have outbound := (mem_volley fresh).1
        cases outbound.symm.trans leg
      · exact genuine.flying flight old result leg
    · intro back present
      have returns : (timeline.dispatch index request plan).returns = timeline.returns :=
        returns_dispatch
      exact genuine.back back (returns ▸ present)

theorem Genuine.hop (genuine : timeline.Genuine world) (hop : timeline.Hop world later) :
    later.Genuine world := by
  cases hop with
  | arrives first leg admitted same inOrder =>
    rename_i flight rest flights reply
    constructor
    · intro other present result inbound
      rcases List.mem_cons.mp (same.subset present) with here | there
      · subst here
        cases inbound
        exact ⟨reply, admitted, rfl⟩
      · exact genuine.flying other (first ▸ List.mem_cons_of_mem _ there) result inbound
    · exact genuine.back
  | returns first leg =>
    rename_i flight rest result
    constructor
    · intro other present result inbound
      exact genuine.flying other (first ▸ List.mem_cons_of_mem _ present) result inbound
    · intro back present
      rcases List.mem_cons.mp present with here | there
      · subst here
        exact genuine.flying flight (first ▸ List.mem_cons_self) result leg
      · exact genuine.back back there

theorem Genuine.moves (genuine : timeline.Genuine world) (moves : timeline.Moves world later) :
    later.Genuine world := by
  cases moves with
  | client proceeds leads =>
    obtain ⟨_, _, effect, _, _, _, deed, same⟩ := deed_of_proceed? proceeds leads
    subst same
    obtain ⟨flying, back⟩ := genuine.carry _ effect
    constructor
    · exact flying
    · rw [returns_enact deed.isDeed]
      exact back
  | flight fires leads =>
    cases lands_of_fire? fires leads with
    | once hop => exact genuine.hop hop
    | twice hop hop' _ => exact (genuine.hop hop).hop hop'
  | clock => exact ⟨genuine.flying, genuine.back⟩
  | shuffle same =>
    exact ⟨fun flight present => genuine.flying flight (same.subset present), genuine.back⟩

theorem Genuine.requests {index : Nat} (genuine : timeline.Genuine world)
    (requests : timeline.Requests index later) : later.Genuine world := by
  cases requests with
  | operation free operation argument retries start =>
    obtain ⟨clients, turns, same⟩ := timeline.submit_books index operation argument retries start
    rw [same]
    exact ⟨genuine.flying, genuine.back⟩
  | delay free qualifier delay =>
    rcases timeline.requestDelay_books index qualifier delay with same | ⟨clients, same⟩
    · rw [same]
      exact genuine
    · rw [same]
      exact ⟨genuine.flying, genuine.back⟩

theorem Reached.genuine (reached : timeline.Reached world settings) : timeline.Genuine world := by
  induction reached with
  | opening =>
    constructor
    · exact fun _ absent => (List.not_mem_nil absent).elim
    · exact fun _ absent => (List.not_mem_nil absent).elim
  | moves _ moves genuine => exact genuine.moves moves
  | requests _ requests genuine => exact genuine.requests requests

theorem Reached.collects (reached : timeline.Reached world settings) {round : Nat}
    {collector : Collector Outcome} (opened : timeline.rounds[round]? = some collector)
    {result : CallResult Outcome} (collected : result ∈ collector.results) :
    ∃ call : Call, call.round = round ∧ world.Admits call result := by
  rw [reached.balanced.results_eq opened] at collected
  obtain ⟨back, present, same⟩ := List.mem_map.mp (List.mem_reverse.mp collected)
  obtain ⟨inside, own⟩ := List.mem_filter.mp present
  refine ⟨back.call, of_decide_eq_true own, ?_⟩
  rw [← same]
  exact reached.genuine.back back inside

end Timeline
end ReplicatedSpace
