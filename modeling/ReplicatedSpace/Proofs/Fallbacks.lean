import ReplicatedSpace.Proofs.Engagement
import ReplicatedSpace.Proofs.Tickets
import ReplicatedSpace.Proofs.Timetable
import ReplicatedSpace.Proofs.Walks

/-!
Fallbacks that are never taken. Whoever sends calls knows replicas and has a delay for each of them,
so no replica of a plan is missing and no delay is made up; the walk does not end before its turns
do; and an attempt that fails has a failure to tell of, so nobody is ever told that no replica
answered.
-/
namespace ReplicatedSpace

/-- The reason of an error for which there is no failure. -/
def Attempt.noAnswer : String := "no replica answered"

theorem ReplicaFailure.message_ne_noAnswer (failure : ReplicaFailure) :
    failure.message ≠ Attempt.noAnswer := by
  intro same
  have letters := congrArg (fun text : String => text.toList.head?) same
  obtain ⟨operation, replica, fault⟩ := failure
  cases operation <;> simp [message, Attempt.noAnswer, Operation.name, toString] at letters

/-- Whether an error says so. -/
def Error.SaysNoAnswer (error : Error) : Prop :=
  ∃ operation argument attempts,
    error = .replicaOperationFailure operation argument attempts Attempt.noAnswer

/-- The error that an event tells of. -/
def Event.error? : Event → Option Error
  | .attemptFailed _ error | .ended (.error error) => some error
  | .ended (.ok _) => none
  | _ => none

theorem Event.error?_of_not_isDeed {event : Event} (call : event.isDeed = false) :
    event.error? = none := by
  cases event <;> first | rfl | cases call

theorem Concludes.of_error? {now : Nat} {coordinator : Coordinator} {task : Task}
    {result : Except Error Outcome} {events : List Event} {client : Client}
    (ends : Concludes now coordinator task result events client) {error : Error}
    (told : error ∈ events.filterMap Event.error?) : result = .error error := by
  cases ends with
  | final =>
    cases result with
    | ok outcome => cases told
    | error own => rw [List.mem_singleton.mp told]
  | spent | again =>
    simp only [List.filterMap_cons, Event.error?, List.filterMap_nil, List.mem_cons,
      List.not_mem_nil, or_false, or_self] at told
    rw [told]

theorem Operation.exists_fault_of_check {operation : Operation} {argument : String} {error : Error}
    (refused : operation.check argument = .error error) :
    ∃ fault, error = .invalidArgument fault := by
  cases operation with
  | getState =>
    simp only [check] at refused
    split at refused <;> cases refused
    exact ⟨_, rfl⟩
  | put | read | take =>
    simp only [check, checkTuple] at refused
    split at refused <;> cases refused
    exact ⟨_, rfl⟩

namespace Attempt

variable {attempt : Attempt} {expected : Nat} {collector : Collector Outcome} {error : Error}

theorem saysNoAnswer_firstFailure_iff {failure? : Option ReplicaFailure} :
    (attempt.firstFailure failure?).SaysNoAnswer ↔ failure? = none := by
  cases failure? with
  | none => exact ⟨fun _ => rfl, fun _ => ⟨_, _, _, rfl⟩⟩
  | some failure =>
    constructor
    · rintro ⟨_, _, _, same⟩
      obtain ⟨_, _, _, reason⟩ := Error.replicaOperationFailure.inj same
      exact absurd reason failure.message_ne_noAnswer
    · nofun

/-- An attempt that waited for somebody and failed has a failure to tell of. -/
theorem failure_of_verdict? (positive : 0 < expected)
    (whole : collector.results.length = collector.counted)
    (verdict : attempt.verdict? expected collector = some (.error error)) :
    ∃ failure rest, collector.failures = failure :: rest ∧
      error = attempt.failure failure.message ∧ ¬ error.SaysNoAnswer := by
  have reaches := reaches_of_verdict? verdict (.inr ⟨error, rfl⟩)
  obtain ⟨failure?, told, first⟩ := error_of_verdict? verdict
  have first := first positive
  cases failures : collector.failures with
  | cons failure rest =>
    rw [failures, List.head?_cons] at first
    subst first
    refine ⟨failure, rest, rfl, told, ?_⟩
    rw [told, saysNoAnswer_firstFailure_iff]
    exact Option.some_ne_none failure
  | nil =>
    -- All that came back are successes, and the first of them decides the attempt.
    have enough : expected ≤ collector.counted := of_decide_eq_true reaches
    have all := Collector.successes_of_no_failure failures
    cases successes : collector.successes with
    | nil =>
      rw [← whole, all, successes] at enough
      exact absurd enough (Nat.not_le_of_lt positive)
    | cons outcome rest =>
      rcases attempt.verdict?_cases expected collector with ⟨_, same⟩ | ⟨_, same⟩
      · have first : collector.successes.head? = some outcome := successes ▸ rfl
        rw [same, attempt.readVerdict?_of_success whole positive first] at verdict
        cases verdict
      · rw [same, jointVerdict?, if_pos reaches, failures, successes] at verdict
        cases operation : attempt.operation <;> rw [operation] at verdict <;> cases verdict

end Attempt

namespace Coordinator

variable {coordinator : Coordinator}

/-- Nothing is missing where calls are planned: there are replicas, each with its delay, the walk
goes on until no turn is left, and every turn finds its replica and its delay. -/
structure Complete (coordinator : Coordinator) : Prop where
  known : coordinator.replicas.entries ≠ []
  size : coordinator.stagger.size = coordinator.replicas.size
  exhausted : ∀ calls, (coordinator.stagger.walk.after calls).next? = none ↔
    (coordinator.stagger.walk.after calls).left = 0
  found : ∀ place ∈ coordinator.stagger.order, ∃ replica delay,
    coordinator.replicas.get? place = some replica ∧
      coordinator.stagger.delay? place = some delay
  plan : (coordinator.plan.map fun (replica, delay) => (some replica, some delay)) =
    coordinator.stagger.order.map fun place =>
      (coordinator.replicas.get? place, coordinator.stagger.delay? place)

theorem planned_of_found {places : List Nat}
    (found : ∀ place ∈ places, ∃ replica delay,
      coordinator.replicas.get? place = some replica ∧
        coordinator.stagger.delay? place = some delay) :
    ((places.filterMap fun place => (coordinator.replicas.get? place).map fun replica =>
        (replica, (coordinator.stagger.delay? place).getD .zero)).map
          fun (replica, delay) => (some replica, some delay)) =
      places.map fun place =>
        (coordinator.replicas.get? place, coordinator.stagger.delay? place) := by
  induction places with
  | nil => rfl
  | cons first rest ih =>
    obtain ⟨replica, delay, known, own⟩ := found first List.mem_cons_self
    have others := ih fun place present => found place (List.mem_cons_of_mem _ present)
    rw [List.filterMap_cons, known, own, List.map_cons]
    simp only [Option.map_some, Option.getD_some, List.map_cons, others, known, own]

theorem InStep.complete (inStep : coordinator.InStep) (known : coordinator.replicas.entries ≠ []) :
    coordinator.Complete := by
  have found (place : Nat) (present : place ∈ coordinator.stagger.order) : ∃ replica delay,
      coordinator.replicas.get? place = some replica ∧
        coordinator.stagger.delay? place = some delay := by
    have inside : place < coordinator.stagger.size :=
      List.mem_range.mp (coordinator.stagger.order_perm.subset present)
    have listed : place < coordinator.replicas.size := inStep.size ▸ inside
    exact ⟨_, _, List.getElem?_eq_getElem listed, List.getElem?_eq_getElem inside⟩
  refine ⟨known, inStep.size, fun calls => ?_, found, planned_of_found found⟩
  exact (coordinator.stagger.exact_walk.after calls).1.next?_eq_none_iff

end Coordinator

/-- Lookups always succeed, and every call breaks down. -/
def World.breaking : World := fun question answer =>
  match question, answer with
  | .lookup .., answer => ∃ replicas, answer = .ok replicas
  | .next _, _ => True
  | .arrival _, reply => ∃ text, reply.ending = .crashed text

namespace Timeline

variable {world : World} {settings : List Settings} {timeline later sent : Timeline} {index : Nat}
  {coordinator : Coordinator} {task : Task}

theorem Engaged.known {request : Request} {plan : List (Replica × Span)} {expected : Nat}
    (engaged : timeline.Engaged index coordinator task)
    (sends : coordinator.Sends task request plan expected) : coordinator.replicas.entries ≠ [] := by
  cases sends with
  | ordered stage =>
    rw [Engaged, stage] at engaged
    exact engaged.1
  | read stage | state stage =>
    rw [Engaged, stage] at engaged
    exact engaged

/-- Nothing is missing where a client opens a round, and it sends a call to everybody whom its
operation has to ask. -/
theorem Reached.complete (reached : timeline.Reached world settings)
    (found : timeline.clients[index]? = some ⟨coordinator, .busy task⟩) {step : Step}
    (proceeds : timeline.proceed? index = some step) (leads : step.Leads world sent)
    (opens : timeline.rounds.length < sent.rounds.length) :
    coordinator.Complete ∧ ((sent.sentIn timeline.rounds.length).map Call.replica).Perm
      (task.attempt.operation.targets task.attempt.argument coordinator.replicas.entries) := by
  obtain ⟨_, _, effect, events, client, busy, deed, same⟩ := deed_of_proceed? proceeds leads
  cases found.symm.trans busy
  have engaged := (reached.engaged found).2
  have inStep := (reached.scheduled found).inStep
  subst same
  cases effect with
  | quiet | renewal => exact absurd opens (Nat.lt_irrefl _)
  | volley request plan =>
    cases deed with
    | sent sends =>
      have awaits := engaged.awaits reached.balanced inStep sends
      refine ⟨inStep.complete (engaged.known sends), ?_⟩
      exact (awaits.onward (onward_enact (by simp))).replicas

theorem Reached.failure_of_verdict? (reached : timeline.Reached world settings)
    (found : timeline.clients[index]? = some ⟨coordinator, .busy task⟩) {round expected : Nat}
    {collector : Collector Outcome} {error : Error}
    (stage : task.stage = .collecting round expected)
    (opened : timeline.rounds[round]? = some collector)
    (verdict : task.attempt.verdict? expected collector = some (.error error)) :
    ∃ failure rest, collector.failures = failure :: rest ∧
      error = task.attempt.failure failure.message ∧ ¬ error.SaysNoAnswer := by
  have engaged := (reached.engaged found).2
  rw [Engaged, stage] at engaged
  exact Attempt.failure_of_verdict? engaged.positive (reached.balanced.whole opened) verdict

/-- A client that tells of missing answers has been told so by the name server. -/
theorem Reached.lookup_of_deed (reached : timeline.Reached world settings)
    (found : timeline.clients[index]? = some ⟨coordinator, .busy task⟩) {effect : Effect}
    {events : List Event} {client : Client}
    (deed : Deed world timeline coordinator task effect events client) {error : Error}
    (told : error ∈ events.filterMap Event.error?) (unanswered : error.SaysNoAnswer) :
    ∃ service qualifier, world (.lookup service qualifier) (.error error) := by
  cases deed with
  | refused stage refused =>
    cases List.mem_singleton.mp told
    obtain ⟨_, _, _, same⟩ := unanswered
    obtain ⟨fault, other⟩ := Operation.exists_fault_of_check refused
    cases other.symm.trans same
  | began | known | found | numbered | sent => cases told
  | lost stage unknown admitted cause ends =>
    cases ends.of_error? told
    rcases cause with answer | ⟨_, other⟩
    · exact ⟨_, _, answer ▸ admitted⟩
    · obtain ⟨_, _, _, same⟩ := unanswered
      cases other.symm.trans same
  | unnumbered =>
    cases List.mem_singleton.mp told
    obtain ⟨_, _, _, same⟩ := unanswered
    obtain ⟨reason, ordering, _⟩ := Error.asOrdering_cases ‹_›
    cases ordering.symm.trans same
  | astray =>
    cases List.mem_singleton.mp told
    obtain ⟨_, _, _, same⟩ := unanswered
    cases same
  | decided stage opened verdict ends =>
    cases ends.of_error? told
    obtain ⟨_, _, _, _, answered⟩ := reached.failure_of_verdict? found stage opened verdict
    exact absurd unanswered answered

/-- The errors that clients have told of. -/
def errors (timeline : Timeline) : List Error := timeline.past.filterMap (·.event.error?)

/-- Only the name server can bring up that no replica answered. -/
theorem Reached.lookup_of_noAnswer (reached : timeline.Reached world settings) {error : Error}
    (told : error ∈ timeline.errors) (unanswered : error.SaysNoAnswer) :
    ∃ service qualifier, world (.lookup service qualifier) (.error error) := by
  induction reached with
  | opening => cases told
  | moves reached moves ih =>
    cases moves with
    | client proceeds leads =>
      obtain ⟨_, _, effect, events, _, busy, deed, same⟩ := deed_of_proceed? proceeds leads
      rw [same, errors, enact, carry_past, List.filterMap_append, List.filterMap_reverse,
        List.filterMap_map, List.mem_append, List.mem_reverse] at told
      rcases told with new | old
      · exact reached.lookup_of_deed busy deed new unanswered
      · exact ih old
    | flight fires leads =>
      obtain ⟨_, moments, past, others⟩ := (lands_of_fire? fires leads).past
      rw [errors, past, List.filterMap_append, List.mem_append] at told
      rcases told with new | old
      · obtain ⟨moment, present, told⟩ := List.mem_filterMap.mp new
        rw [Event.error?_of_not_isDeed (others moment present).1] at told
        cases told
      · exact ih old
    | clock | shuffle => exact ih told
  | requests reached requests ih =>
    cases requests with
    | operation free operation argument retries start =>
      obtain ⟨clients, turns, same⟩ :=
        submit_books _ _ operation argument retries start
      rw [same] at told
      exact ih told
    | delay free qualifier delay =>
      rcases requestDelay_books _ _ qualifier delay with same | ⟨clients, same⟩
      · rw [same] at told
        exact ih told
      · rw [same] at told
        exact ih told

/-- What clients never have to fall back on, whatever happens to them and whoever answers. Calls are
sent where nothing is missing, to everybody whom the operation has to ask. Each of them leaves one
result with the collector of its round, and after some time has done so, broken down or not. A
failed attempt tells of a failure, and so nobody learns that no replica answered, unless the name
server itself says so. -/
theorem fallbacks_never_taken (reached : timeline.Reached world settings) :
    (∀ (index : Nat) (coordinator : Coordinator) (task : Task) (step : Step) (sent : Timeline),
      timeline.clients[index]? = some ⟨coordinator, .busy task⟩ →
      timeline.proceed? index = some step → step.Leads world sent →
      timeline.rounds.length < sent.rounds.length →
      coordinator.Complete ∧ ((sent.sentIn timeline.rounds.length).map Call.replica).Perm
        (task.attempt.operation.targets task.attempt.argument coordinator.replicas.entries)) ∧
    (∀ round collector, timeline.rounds[round]? = some collector →
      ∃ backs, timeline.Accounts world round collector backs) ∧
    (∀ (σ : Type) (environment : Environment σ) (state : σ), environment.Keeps world →
      ∃ millis, ∀ more, millis ≤ more → ∀ round < timeline.rounds.length, ∃ collector backs,
        (timeline.elapse environment state more).1.rounds[round]? = some collector ∧
        (timeline.elapse environment state more).1.Accounts world round collector backs ∧
        (backs.map Return.call).Perm (timeline.sentIn round)) ∧
    (∀ (index : Nat) (coordinator : Coordinator) (task : Task) (round expected : Nat)
      (collector : Collector Outcome) (error : Error),
      timeline.clients[index]? = some ⟨coordinator, .busy task⟩ →
      task.stage = .collecting round expected → timeline.rounds[round]? = some collector →
      task.attempt.verdict? expected collector = some (.error error) →
      ∃ failure rest, collector.failures = failure :: rest ∧
        error = task.attempt.failure failure.message ∧ ¬ error.SaysNoAnswer) ∧
    ∀ error ∈ timeline.errors, error.SaysNoAnswer →
      ∃ service qualifier, world (.lookup service qualifier) (.error error) := by
  refine ⟨?_, ?_, ?_, ?_, ?_⟩
  · intro index coordinator task step sent found proceeds leads opens
    exact reached.complete found proceeds leads opens
  · intro round collector opened
    exact reached.accounts opened
  · intro σ environment state keeps
    exact reached.all_return keeps state
  · intro index coordinator task round expected collector error found stage opened verdict
    exact reached.failure_of_verdict? found stage opened verdict
  · intro error told unanswered
    exact reached.lookup_of_noAnswer told unanswered

/-- Two calls that break down are on record after some time, and nobody is told that none
answered. -/
theorem broken_calls_are_recorded :
    let environment : Environment Unit := .fixed (.ok []) (.ok ⟨1⟩) fun _ => ⟨5, .crashed "down"⟩
    ∃ (timeline sent : Timeline) (coordinator : Coordinator),
      timeline.Reached .breaking [.standard] ∧ timeline.proceed? 0 = some (.moved sent) ∧
      coordinator.Complete ∧ (∀ error ∈ sent.errors, ¬ error.SaysNoAnswer) ∧
      ∃ millis collector, (sent.elapse environment () millis).1.rounds[0]? = some collector ∧
        collector.counted = 2 ∧ ∀ result ∈ collector.results,
          ∃ failure reason, result = .error failure ∧ failure.fault = .transport reason := by
  intro environment
  have keeps : environment.Keeps .breaking := by
    intro state question
    cases question with
    | lookup service qualifier => exact ⟨[], rfl⟩
    | next handle => exact trivial
    | arrival call => exact ⟨"down", rfl⟩
  have idle : (opening [.standard]).Free 0 := fun client found => by cases found; rfl
  have asked : Reached .breaking [.standard] _ :=
    Reached.opening.requests (.operation idle .put "<a>" 1 0)
  have begun := asked.goes (rfl : proceed? _ 0 = _)
  have known := begun.learns (rfl : proceed? _ 0 = some (.asks (.lookup _ _) _))
    (.ok [⟨"a:1", "A"⟩, ⟨"b:1", "B"⟩]) ⟨_, rfl⟩
  have numbered := known.learns (rfl : proceed? _ 0 = some (.asks (.next _) _)) (.ok ⟨7⟩) trivial
  have sent := numbered.goes (rfl : proceed? _ 0 = _)
  obtain ⟨complete, everyone⟩ := (fallbacks_never_taken numbered).1 0 _ _ _ _ rfl rfl (.moved _)
    (lt_rounds_collect ..)
  obtain ⟨_, _, returns, _, told⟩ := fallbacks_never_taken sent
  refine ⟨_, _, _, numbered, rfl, complete, ?_, ?_⟩
  · intro error listed unanswered
    obtain ⟨_, _, _, failed⟩ := told error listed unanswered
    cases failed
  · obtain ⟨millis, back⟩ := returns Unit environment () keeps
    obtain ⟨collector, backs, opened, accounts, calls⟩ :=
      back millis (Nat.le_refl _) 0 (Nat.lt_of_le_of_lt (Nat.zero_le _) (lt_rounds_collect ..))
    refine ⟨millis, collector, opened, ?_, ?_⟩
    · have both := everyone.length_eq
      rw [List.length_map] at both
      have all := calls.length_eq
      rw [List.length_map] at all
      exact accounts.counted.trans (all.trans both)
    · intro result present
      rw [accounts.results] at present
      obtain ⟨back, listed, same⟩ := List.mem_map.mp present
      obtain ⟨reply, ⟨text, crashed⟩, own⟩ := accounts.genuine back listed
      rw [← same, ← own, crashed]
      exact ⟨_, _, rfl, rfl⟩

end Timeline
end ReplicatedSpace
