import ReplicatedSpace.Proofs.Belonging
import ReplicatedSpace.Proofs.Stragglers
import ReplicatedSpace.Proofs.Timetable
import ReplicatedSpace.Proofs.WrongArguments

/-!
Asking one replica for its state. The first one with the qualifier is called at once, whatever its
delay is, and its reply alone decides the attempt. What other replicas do with calls that are under
way still, and when they do so, makes no difference to who asks.
-/
namespace ReplicatedSpace

namespace Attempt

variable {attempt : Attempt} {expected : Nat} {collector : Collector Outcome}

/-- The result of an attempt with a single call. -/
def ofResult (attempt : Attempt) : CallResult Outcome → Except Error Outcome
  | .ok outcome => .ok outcome
  | .error failure => .error (attempt.failure failure.message)

/-- What the reply of a replica that was asked for its state amounts to: its tuples as they are, or
an error that names it. -/
def ofState (attempt : Attempt) (replica : Replica) :
    Except CallFault (List String) → Except Error Outcome
  | .ok tuples => .ok (.state tuples)
  | .error fault => .error (attempt.failure (⟨.getState, replica, fault⟩ : ReplicaFailure).message)

theorem ofResult_state (attempt : Attempt) (ticket client round : Nat) (replica : Replica)
    (ending : Ending Operation.getState.Answer) :
    attempt.ofResult ((⟨ticket, client, round, replica, .state⟩ : Call).result ending) =
      attempt.ofState replica ending.result := by
  cases ending with
  | answered | failed | crashed => rfl

theorem verdict?_of_single (state : attempt.operation = .getState)
    (reaches : collector.reaches expected = true) {result : CallResult Outcome}
    (single : collector.results = [result]) :
    attempt.verdict? expected collector = some (attempt.ofResult result) := by
  unfold verdict? jointVerdict? Collector.failures Collector.successes
  rw [state, if_pos reaches, single]
  cases result with
  | ok outcome => rfl
  | error failure => rfl

end Attempt

/-- Whether a call goes to a replica with another qualifier. -/
def Call.isElsewhere (qualifier : String) (call : Call) : Bool :=
  decide (call.replica.qualifier ≠ qualifier)

/-- The first replica with the qualifier that an attempt knows. -/
def Trail.named? (trail : Trail) (qualifier : String) (initial : List Replica) : Option Replica :=
  (trail.known initial).bind fun known => known.find? (·.qualifier = qualifier)

namespace Timeline

variable {world : World} {settings : List Settings} {before timeline other later sent : Timeline}
  {index round : Nat} {coordinator : Coordinator} {task : Task} {replies : Replies}
  {qualifier : String} {retries : UInt32} {start : Nat} {activity : Activity}

/-- Whom an attempt calls that asks for a state. -/
theorem Attempted.named {initial : List Replica} {pending : List Call} {earlier : List Trail}
    {trail : Trail}
    (attempted : timeline.Attempted index .getState qualifier initial pending earlier trail) :
    trail.answers = [] ∧
      (trail.calls ++ pending).map Call.replica = (trail.named? qualifier initial).toList ∧
      ∀ call ∈ trail.calls ++ pending, call.client = index ∧ call.request = .state := by
  have answers : trail.answers = [] := by
    apply List.eq_nil_of_length_eq_zero
    rw [attempted.answers]
    rfl
  have targets : trail.targets .getState qualifier initial =
      (trail.named? qualifier initial).toList := by
    unfold Trail.targets Trail.named?
    rw [answers]
    cases trail.known initial with
    | none => rfl
    | some known => rfl
  refine ⟨answers, ?_, ?_⟩
  · have replicas := attempted.replicas
    rw [targets] at replicas
    cases named : trail.named? qualifier initial with
    | none =>
      rw [named] at replicas
      exact replicas.eq_nil
    | some replica =>
      rw [named] at replicas
      exact List.perm_singleton.mp replicas
  · intro call present
    obtain ⟨own, fits, _⟩ := attempted.requests call present
    exact ⟨own, fits.eq_state⟩

theorem volley_zero (timeline : Timeline) (index : Nat) (request : Request) (replica : Replica) :
    timeline.volley index request [(replica, .zero)] =
      [⟨timeline.now, ⟨timeline.tickets, index, timeline.rounds.length, replica, request⟩,
        .outbound⟩] := by
  simp [volley]

theorem proceed?_state (found : timeline.clients[index]? = some ⟨coordinator, .busy task⟩)
    (stage : task.stage = .ready) (state : task.attempt.operation = .getState)
    (named : task.attempt.argument = qualifier) :
    timeline.proceed? index = some (.moved (match
        coordinator.replicas.entries.find? (·.qualifier = qualifier) with
      | some replica => (timeline.dispatch index .state [(replica, .zero)]).enact index []
          ⟨coordinator, .busy { task with stage := .collecting timeline.rounds.length 1 }⟩
      | none => timeline.enact index
          [.ended (.error (.invalidArgument (.unknownQualifier qualifier)))]
          ⟨coordinator, .finished (.error (.invalidArgument (.unknownQualifier qualifier)))
            timeline.now⟩)) := by
  subst named
  rw [← ReplicaSet.find?_eq]
  simp only [proceed?, found, stage, engage, state]
  cases coordinator.replicas.find? task.attempt.argument with
  | none => rfl
  | some replica => rfl

/-- The verdict on an attempt with a single call comes with its return. -/
theorem Decides.single {back : Return} {expected : Nat}
    (underway : Underway settings sent index coordinator task replies round timeline)
    (stage : task.stage = .collecting round expected)
    (state : task.attempt.operation = .getState)
    (same : (sent.outlook replies round).Perm [back])
    (decides : Decides index coordinator task round expected timeline later) :
    back.time = timeline.now ∧ ∃ events client,
      Concludes timeline.now coordinator task (task.attempt.ofResult back.result) events client ∧
      later.past =
        (events.map fun event => ⟨timeline.now, index, event⟩).reverse ++ timeline.past := by
  obtain ⟨collector, result, events, client, opened, verdict, ends, past, _⟩ := decides
  have balanced := underway.reached.balanced
  have awaits := underway.awaits stage
  have late : task.attempt.operation ≠ .read := by
    rw [state]
    decide
  have all := awaits.underWay_eq_nil balanced opened verdict (.inl late)
  have backs : timeline.returnsIn round = [back] := by
    apply List.perm_singleton.mp
    exact outlook_eq_returnsIn all ▸ underway.outlook.trans same
  have results : collector.results = [back.result] := by
    rw [balanced.results_eq opened, backs]
    rfl
  have decided := Attempt.verdict?_of_single state (Attempt.reaches_of_verdict? verdict (.inl late))
    results
  cases decided.symm.trans verdict
  refine ⟨?_, events, client, ends, past⟩
  have inside : back ∈ timeline.returnsIn round := backs ▸ List.mem_singleton_self back
  have elapsed := balanced.elapsed back (List.mem_filter.mp inside).1
  obtain ⟨last, present, intime⟩ := underway.inTime
  cases List.mem_singleton.mp (same.subset present)
  exact Nat.le_antisymm elapsed intime

section Sent

variable {replica : Replica} (reached : timeline.Reached .any settings)
  (sends : timeline.proceed? index = some (.moved sent))
  (form : sent = (timeline.dispatch index .state [(replica, .zero)]).enact index []
    ⟨coordinator, .busy { task with stage := .collecting timeline.rounds.length 1 }⟩)

include reached sends form

theorem Reached.state_arrives (future : sent.Future .any later) :
    later.itinerary timeline.rounds.length =
      [⟨timeline.now, ⟨timeline.tickets, index, timeline.rounds.length, replica, .state⟩⟩] := by
  have opened : timeline.rounds.length < sent.rounds.length := by
    rw [form]
    simp [enact, dispatch_eq]
  apply List.perm_singleton.mp
  refine (Unfolds.itinerary (reached.goes sends) opened future.unfolds).trans ?_
  rw [form, itinerary_enact (by simp)]
  have planned := reached.balanced.itinerary_dispatch index .state [(replica, .zero)]
  rw [volley_zero] at planned
  exact planned

theorem Reached.state_decided {σ : Type} {environment : Environment σ}
    (found : timeline.clients[index]? = some ⟨coordinator, .busy task⟩)
    (state : task.attempt.operation = .getState)
    (faithful : ∀ state (call : Call), call.round = timeline.rounds.length →
      (environment state (.arrival call)).1 = replies call) (place : σ) :
    let call : Call := ⟨timeline.tickets, index, timeline.rounds.length, replica, .state⟩
    let reply : Reply Operation.getState.Answer := replies call
    (sent.run environment place).1.decision? sent index =
      some (timeline.now + reply.latency, task.attempt.ofState replica reply.ending.result) := by
  intro call reply
  have inside := (List.getElem?_eq_some_iff.mp found).1
  obtain ⟨outlook, underway⟩ :
      (sent.outlook replies timeline.rounds.length).Perm
          ((timeline.volley index .state [(replica, .zero)]).map (·.outlook replies)) ∧
        Underway settings sent index coordinator
          { task with stage := .collecting timeline.rounds.length 1 } replies
          timeline.rounds.length sent :=
    Underway.start reached.balanced inside form (reached.goes sends) (List.cons_ne_nil _ _)
  obtain ⟨middle, decided, underway', decides, moments, past⟩ :=
    underway.run rfl environment.keeps_answers (environment.faithful_answers faithful) place
  rw [volley_zero] at outlook
  obtain ⟨time, events, client, ends, past'⟩ := decides.single underway' rfl state outlook
  rw [underway'.decision ends past' past, ← time]
  exact congrArg (fun result => some (timeline.now + reply.latency, result))
    (Attempt.ofResult_state ..)

end Sent

/-- Whoever is at an operation asks for the state of the replica with that qualifier. -/
def Asks (qualifier : String) (timeline : Timeline) : Prop :=
  ∀ (index : Nat) (coordinator : Coordinator) (task : Task),
    timeline.clients[index]? = some ⟨coordinator, .busy task⟩ →
      task.attempt.operation = .getState ∧ task.attempt.argument = qualifier

theorem Deed.asked {effect : Effect} {events : List Event} {client : Client} {next : Task}
    (deed : Deed world timeline coordinator task effect events client)
    (busy : client.activity = .busy next) :
    next.attempt.operation = task.attempt.operation ∧
      next.attempt.argument = task.attempt.argument := by
  cases deed with
  | lost _ _ _ _ ends | decided _ _ _ ends =>
    cases ends with
    | final | spent => cases busy
    | again =>
      cases busy
      exact ⟨rfl, rfl⟩
  | refused | unnumbered | astray => cases busy
  | began | known | found | numbered | sent =>
    cases busy
    exact ⟨rfl, rfl⟩

theorem Asks.moves (asks : timeline.Asks qualifier) (moves : timeline.Moves world later) :
    later.Asks qualifier := by
  intro index coordinator task found
  rcases moves.client? found with same | ⟨_, earlier, _, _, busy, deed, _⟩
  · exact asks index coordinator task same
  · obtain ⟨operation, argument⟩ := deed.asked rfl
    obtain ⟨state, named⟩ := asks index _ earlier busy
    exact ⟨operation.trans state, argument.trans named⟩

theorem Asks.path (asks : timeline.Asks qualifier) (path : timeline.Path world later) :
    later.Asks qualifier := by
  induction path with
  | refl => exact asks
  | tail _ moves ih => exact ih.moves moves

theorem Asks.sealed (asks : timeline.Asks qualifier) (reached : timeline.Reached world settings) :
    timeline.Sealed (Call.isElsewhere qualifier) := by
  intro index coordinator task round expected found stage back present
  obtain ⟨state, named⟩ := asks index coordinator task found
  have awaits := (reached.engaged found).2
  rw [Engaged, stage] at awaits
  have sent : back.call ∈ timeline.sentIn round :=
    (reached.balanced.sentIn_perm round).symm.subset
      (List.mem_append_right _ (List.mem_map_of_mem present))
  have target := awaits.replicas.subset (List.mem_map_of_mem sent)
  rw [state, named, Operation.targets, Option.mem_toList] at target
  have same : back.call.replica.qualifier = qualifier := by simpa using List.find?_some target
  exact decide_eq_false fun different => different same

theorem Asks.guards {σ : Type} (environment : Environment σ) :
    Guards (Call.isElsewhere qualifier) step? environment fun timeline =>
      timeline.Reached .any settings ∧ timeline.Asks qualifier where
  balanced holds := holds.1.balanced
  sealed holds := holds.2.sealed holds.1
  step state holds steps := by
    rename_i timeline step
    obtain ⟨reached, asks⟩ := holds
    have leads := Step.leads_resolve (keeps_any environment) state step
    have path := path_of_step? reached.balanced steps leads
    exact ⟨reached.path path, asks.path path⟩

theorem Asks.submitted (rests : ∀ (index : Nat) (client : Client),
      timeline.clients[index]? = some client → client.isBusy = false) (index : Nat)
    (qualifier : String) (retries : UInt32) (start : Nat) :
    (timeline.submit index .getState qualifier retries start).Asks qualifier := by
  intro other coordinator task found
  rcases client?_of_submit found with same | ⟨_, _, _, started⟩
  · have free := rests other _ same
    cases free
  · cases started
    exact ⟨rfl, rfl⟩

/-- Runs that differ in nothing but what becomes of calls that go elsewhere are alike. -/
theorem Asks.executes {σ : Type} {environment environment' : Environment σ}
    (agree : AgreeBut (Call.isElsewhere qualifier) environment environment')
    (reached : timeline.Reached .any settings) (reached' : other.Reached .any settings)
    (same : timeline.outline (Call.isElsewhere qualifier) =
      other.outline (Call.isElsewhere qualifier))
    (rests : ∀ (index : Nat) (client : Client), timeline.clients[index]? = some client →
      client.isBusy = false) (index : Nat) (retries : UInt32) (state : σ) :
    let first := timeline.execute environment state index .getState qualifier retries
    let second := other.execute environment' state index .getState qualifier retries
    first.1.outline (Call.isElsewhere qualifier) = second.1.outline (Call.isElsewhere qualifier) ∧
      first.2 = second.2 := by
  have clients := clients_of_sight (sight_of_outline same)
  have rests' (index : Nat) (client : Client) (found : other.clients[index]? = some client) :
      client.isBusy = false := rests index client (clients ▸ found)
  have begun := reached.requests
    (.operation (rests index) .getState qualifier retries timeline.now)
  have begun' := reached'.requests
    (.operation (rests' index) .getState qualifier retries other.now)
  have alike : (timeline.submit index .getState qualifier retries timeline.now).outline
        (Call.isElsewhere qualifier) =
      (other.submit index .getState qualifier retries other.now).outline
        (Call.isElsewhere qualifier) := by
    rw [outline_submit, outline_submit, same, now_of_outline same]
  obtain ⟨_, _, ends, states⟩ := (Asks.guards environment).run agree (Asks.guards environment')
    ⟨begun, .submitted rests index qualifier retries timeline.now⟩
    ⟨begun', .submitted rests' index qualifier retries other.now⟩ (.inl alike) state
  refine ⟨ends.outline ?_, states⟩
  intro number client found
  exact begun.run_isBusy (keeps_any environment) state found

/-- Asking for the state of a qualifier that is one concerns one replica only, whatever a client has
been through and whoever answers. No attempt asks the sequencer, and each calls nobody but the first
replica with the qualifier that it knows. That call sets out at once and arrives at once, whatever
the delays are, and the attempt ends as soon as it is back, with the tuples of its reply or an error
that names the replica; if there is no such replica the operation ends, and the client knows what it
knew. And what becomes of calls to other qualifiers, be they sent before or meanwhile, makes no
difference: neither to what clients know, what came of the operation and when, nor to anything else
that happened. -/
theorem state_concerns_one_replica (nonblank : Text.isAllBlank qualifier = false) :
    (∀ {before later : Timeline} {index : Nat} {coordinator : Coordinator} {activity : Activity}
      {retries : UInt32} {start time : Nat} {result : Except Error Outcome},
      before.Reached .any settings → before.Free index →
      before.clients[index]? = some ⟨coordinator, activity⟩ →
      Course .any index (before.submit index .getState qualifier retries start) later →
      later.result? index = some (result, time) →
      (∀ handle answer, .next handle answer ∉ later.account before index) ∧
      ∃ latest older, attemptsOf (later.account before index) = latest :: older ∧
        ∀ after trail earlier, latest :: older = after ++ trail :: earlier →
          let calls := trail.calls ++ if after = [] then later.pending before index else []
          let initial := Trail.initialAfter coordinator.replicas.entries earlier
          calls.map Call.replica = (trail.named? qualifier initial).toList ∧
            ∀ call ∈ calls, call.client = index ∧ call.request = .state) ∧
    (∀ {timeline : Timeline} {index : Nat} {coordinator : Coordinator} {task : Task},
      timeline.Reached .any settings →
      timeline.clients[index]? = some ⟨coordinator, .busy task⟩ → task.stage = .ready →
      task.attempt.operation = .getState → task.attempt.argument = qualifier →
      ∃ sent, timeline.proceed? index = some (.moved sent) ∧
        match coordinator.replicas.entries.find? (·.qualifier = qualifier) with
        | none => sent = timeline.enact index
            [.ended (.error (.invalidArgument (.unknownQualifier qualifier)))]
            ⟨coordinator,
              .finished (.error (.invalidArgument (.unknownQualifier qualifier))) timeline.now⟩
        | some replica =>
          let call : Call := ⟨timeline.tickets, index, timeline.rounds.length, replica, .state⟩
          (∀ later, sent.Future .any later →
            later.itinerary timeline.rounds.length = [⟨timeline.now, call⟩]) ∧
          ∀ {σ : Type} {environment : Environment σ} {replies : Replies} (state : σ),
            (∀ state (call : Call), call.round = timeline.rounds.length →
              (environment state (.arrival call)).1 = replies call) →
            let reply : Reply Operation.getState.Answer := replies call
            (sent.run environment state).1.decision? sent index =
              some (timeline.now + reply.latency,
                task.attempt.ofState replica reply.ending.result)) ∧
    ∀ {σ : Type} {environment environment' : Environment σ} {timeline other : Timeline},
      AgreeBut (Call.isElsewhere qualifier) environment environment' →
      timeline.Reached .any settings → other.Reached .any settings →
      timeline.outline (Call.isElsewhere qualifier) = other.outline (Call.isElsewhere qualifier) →
      (∀ (index : Nat) (client : Client), timeline.clients[index]? = some client →
        client.isBusy = false) →
      ∀ (index : Nat) (retries : UInt32) (state : σ),
        let first := timeline.execute environment state index .getState qualifier retries
        let second := other.execute environment' state index .getState qualifier retries
        second.1.clients = first.1.clients ∧ second.1.result? index = first.1.result? index ∧
          second.1.now = first.1.now ∧ second.2 = first.2 ∧
          second.1.outline (Call.isElsewhere qualifier) =
            first.1.outline (Call.isElsewhere qualifier) := by
  refine ⟨?_, ?_, ?_⟩
  · intro before later index coordinator activity retries start time result reached free found
      course ended
    have wellFormed : Operation.getState.check qualifier = .ok () := by
      simp [Operation.check, nonblank]
    obtain ⟨_, _, client, found', executes⟩ := course.executes reached free found wellFormed
    rw [result?, found'] at ended
    cases executes with
    | finished told failed attempted outcome budget last =>
      rename_i latest older
      refine ⟨?_, latest, older, told.attempts, ?_⟩
      · intro handle answer present
        rw [told.all, List.mem_append] at present
        rcases present with inside | begun
        · obtain ⟨trail, among, inside⟩ := List.mem_flatMap.mp inside
          obtain ⟨after, earlier, split⟩ := List.append_of_mem among
          have answered : answer ∈ trail.answers := Trail.mem_answers.mpr ⟨handle, inside⟩
          rw [(failed.attempted attempted split).named.1] at answered
          cases answered
        · cases List.mem_singleton.mp begun
      · intro after trail earlier split
        exact (failed.attempted attempted split).named.2
    | _ => cases ended
  · intro timeline index coordinator task reached found stage state named
    have sends := proceed?_state found stage state named
    refine ⟨_, sends, ?_⟩
    cases known : coordinator.replicas.entries.find? (·.qualifier = qualifier) with
    | none => rfl
    | some replica =>
      rw [known] at sends
      refine ⟨?_, ?_⟩
      · intro later future
        exact reached.state_arrives sends rfl future
      · intro σ environment replies place faithful
        exact reached.state_decided sends rfl found state faithful place
  · intro σ environment environment' timeline other agree reached reached' same rests index retries
      state
    obtain ⟨outlines, states⟩ := Asks.executes agree reached reached' same rests index retries state
    have clients := clients_of_sight (sight_of_outline outlines)
    refine ⟨clients.symm, ?_, (now_of_outline outlines).symm, states.symm, outlines.symm⟩
    unfold result?
    rw [clients]

/-- A reader has its answer, a call of another replica has arrived, and its reply is on the way:
soon and with a tuple, or late and with a crash. Then the reader asks for a state, and that makes no
difference. -/
theorem straggler_leaves_state_alone :
    let replies : Replies := fun call => ReplyLine.plain.reply call.request
    let environment : Environment Unit := .fixed (.ok []) (.ok ⟨1⟩) replies
    ∃ timeline other : Timeline,
      timeline.Reached .any [.standard] ∧ other.Reached .any [.standard] ∧
      timeline.flights.map Flight.due = [1005] ∧ other.flights.map Flight.due = [1090] ∧
      (timeline.execute environment () 0 .getState "A" 0).1.clients =
        (other.execute environment () 0 .getState "A" 0).1.clients := by
  intro replies environment
  have idle : (opening [.standard]).Free 0 := fun client found => by cases found; rfl
  have asked : Reached .any [.standard] _ :=
    Reached.opening.requests (.operation idle .read "<a>" 1 0)
  have begun := asked.goes (rfl : proceed? _ 0 = _)
  have known := begun.learns (rfl : proceed? _ 0 = some (.asks (.lookup _ _) _))
    (.ok [⟨"a:1", "A"⟩, ⟨"b:1", "B"⟩]) trivial
  let coordinator := (Coordinator.ofSettings .standard).install [⟨"a:1", "A"⟩, ⟨"b:1", "B"⟩]
  have plan : coordinator.plan = [(⟨"a:1", "A"⟩, .zero), (⟨"b:1", "B"⟩, .ofMillis 1000)] := by
    decide +kernel
  have sends := known.goes (rfl : proceed? _ 0 = _)
  have sent : Reached .any [.standard] (collect _ 0 coordinator ⟨⟨.read, "<a>", 1⟩, 1, .ready⟩
      (.read "<a>") coordinator.plan 2) := sends
  rw [plan] at sent
  let first : Call := ⟨0, 0, 0, ⟨"a:1", "A"⟩, .read "<a>"⟩
  let second : Call := ⟨1, 0, 0, ⟨"b:1", "B"⟩, .read "<a>"⟩
  have answered := sent.moves (.flight (rfl : fire? _ = some (.asks (.arrival first) _))
    (@Step.Leads.answered _ (.arrival first) _ (⟨0, .answered "<a>"⟩ : Reply String) trivial))
  have ended := answered.goes (rfl : proceed? _ 0 = _)
  have soon := ended.moves (.flight (rfl : fire? _ = some (.asks (.arrival second) _))
    (@Step.Leads.answered _ (.arrival second) _ (⟨5, .answered "<a>"⟩ : Reply String) trivial))
  have late := ended.moves (.flight (rfl : fire? _ = some (.asks (.arrival second) _))
    (@Step.Leads.answered _ (.arrival second) _ (⟨90, .crashed "lost"⟩ : Reply String) trivial))
  have agree : AgreeBut (Call.isElsewhere "A") environment environment :=
    ⟨fun _ _ _ => rfl, fun _ _ => rfl⟩
  obtain ⟨_, _, alike⟩ := @state_concerns_one_replica [.standard] "A" (by decide)
  refine ⟨_, _, soon, late, rfl, rfl, (alike agree soon late rfl ?_ 0 0 ()).1.symm⟩
  intro index client found
  cases index with
  | zero =>
    cases found
    rfl
  | succ index => cases found

end Timeline
end ReplicatedSpace
