import ReplicatedSpace.Timeline.Run

/-!
What can become of a timeline, whoever answers and in whatever order things happen. A run settles
who goes first; here clients go on in any order and as late as they like, and calls that get there
at one time do so in any order. What holds of every timeline that can be reached holds in every run.
-/
namespace ReplicatedSpace

/-- The answers that an environment may give. -/
abbrev World := (question : Question) → question.Answer → Prop

/-- Whatever is asked, any answer may be given. -/
def World.any : World := fun _ _ => True

/-- What a step leads to in a world. -/
inductive Step.Leads (world : World) : Step → Timeline → Prop
  | moved (later : Timeline) : Leads world (.moved later) later
  | answered {question : Question} (resume : question.Answer → Timeline)
      {answer : question.Answer} (admitted : world question answer) :
      Leads world (.asks question resume) (resume answer)

namespace Timeline

/-- Some clients, each with its own settings, before anything has happened. -/
def opening (settings : List Settings) (timer : Timer := .standard) : Timeline :=
  { start .standard 0 timer with
    clients := settings.map fun own => ⟨.ofSettings own, .idle⟩ }

/-- What happens by itself. Time passes up to the next call that gets somewhere. -/
inductive Moves (world : World) : Timeline → Timeline → Prop
  | client {timeline later : Timeline} {index : Nat} {step : Step}
      (proceeds : timeline.proceed? index = some step) (leads : step.Leads world later) :
      Moves world timeline later
  | flight {timeline later : Timeline} {step : Step}
      (fires : timeline.fire? = some step) (leads : step.Leads world later) :
      Moves world timeline later
  | clock (timeline : Timeline) {time : Nat} (settled : Bool) (onward : timeline.now ≤ time)
      (clear : ∀ flight ∈ timeline.flights, time ≤ flight.due) :
      Moves world timeline { timeline with now := time, settled }
  | shuffle (timeline : Timeline) {flights : List Flight} (same : flights.Perm timeline.flights)
      (inOrder : flights.Pairwise (·.due ≤ ·.due)) :
      Moves world timeline { timeline with flights }

/-- A client that is not at an operation, if there is one of that number. -/
def Free (timeline : Timeline) (index : Nat) : Prop :=
  ∀ client, timeline.clients[index]? = some client → client.isBusy = false

/-- A user sets a delay. A refusal changes nothing. -/
def requestDelay (timeline : Timeline) (index : Nat) (qualifier : String) (delay : Span) :
    Timeline :=
  match timeline.setDelay index qualifier delay with
  | .ok later => later
  | .error _ => timeline

/-- What the user of a client does, who waits for the end of one request before the next. -/
inductive Requests (index : Nat) : Timeline → Timeline → Prop
  | operation {timeline : Timeline} (free : timeline.Free index) (operation : Operation)
      (argument : String) (retries : UInt32) (start : Nat) :
      Requests index timeline (timeline.submit index operation argument retries start)
  | delay {timeline : Timeline} (free : timeline.Free index) (qualifier : String) (delay : Span) :
      Requests index timeline (timeline.requestDelay index qualifier delay)

/-- The timelines that clients with these settings can come to. -/
inductive Reached (world : World) (settings : List Settings) : Timeline → Prop
  | opening (timer : Timer := .standard) : Reached world settings (opening settings timer)
  | moves {timeline later : Timeline} (reached : Reached world settings timeline)
      (moves : timeline.Moves world later) : Reached world settings later
  | requests {timeline later : Timeline} {index : Nat} (reached : Reached world settings timeline)
      (requests : timeline.Requests index later) : Reached world settings later

theorem Reached.goes {world : World} {settings : List Settings} {timeline later : Timeline}
    {index : Nat} (reached : timeline.Reached world settings)
    (proceeds : timeline.proceed? index = some (.moved later)) : later.Reached world settings :=
  reached.moves (.client proceeds (.moved later))

theorem Reached.learns {world : World} {settings : List Settings} {timeline : Timeline}
    {index : Nat} (reached : timeline.Reached world settings) {question : Question}
    {resume : question.Answer → Timeline}
    (proceeds : timeline.proceed? index = some (.asks question resume)) (answer : question.Answer)
    (admitted : world question answer) : (resume answer).Reached world settings :=
  reached.moves (.client proceeds (.answered resume admitted))

theorem Moves.mono {world wider : World}
    (more : ∀ question answer, world question answer → wider question answer)
    {timeline later : Timeline} (moves : timeline.Moves world later) :
    timeline.Moves wider later := by
  have leads {step : Step} {later : Timeline} (leads : step.Leads world later) :
      step.Leads wider later := by
    cases leads with
    | moved => exact .moved _
    | answered resume admitted => exact .answered resume (more _ _ admitted)
  cases moves with
  | client proceeds leads' => exact .client proceeds (leads leads')
  | flight fires leads' => exact .flight fires (leads leads')
  | clock settled onward clear => exact .clock _ settled onward clear
  | shuffle same inOrder => exact .shuffle _ same inOrder

theorem Reached.mono {world wider : World} {settings : List Settings}
    (more : ∀ question answer, world question answer → wider question answer)
    {timeline : Timeline} (reached : timeline.Reached world settings) :
    timeline.Reached wider settings := by
  induction reached with
  | opening timer => exact .opening timer
  | moves _ moves reached => exact reached.moves (moves.mono more)
  | requests _ requests reached => exact reached.requests requests

/-- Logs events of one client, the earliest first, and replaces it. -/
def enact (timeline : Timeline) (index : Nat) (events : List Event) (client : Client) : Timeline :=
  { timeline with
    clients := timeline.clients.set index client
    past := (events.map fun event => ⟨timeline.now, index, event⟩).reverse ++ timeline.past }

theorem enact_log (timeline : Timeline) (index : Nat) (event : Event) (events : List Event)
    (client : Client) :
    (timeline.log index event).enact index events client =
      timeline.enact index (event :: events) client := by
  simp [enact, log]

end Timeline

theorem Error.isRetryable_asOrdering (error : Error) : error.asOrdering.isRetryable = false := by
  cases error <;> rfl

theorem Error.asOrdering_cases (error : Error) :
    ∃ reason, error.asOrdering = .orderingUnavailable reason ∧
      (error = .orderingUnavailable reason ∨
        (∀ own, error ≠ .orderingUnavailable own) ∧ reason = error.message) := by
  cases error with
  | orderingUnavailable reason => exact ⟨reason, rfl, .inl rfl⟩
  | _ => exact ⟨_, rfl, .inr ⟨by simp, rfl⟩⟩

/-- The task of the next attempt. -/
def Task.again (task : Task) : Task :=
  { attempt := { task.attempt with ordinal := task.attempt.ordinal + 1 }
    retriesLeft := task.retriesLeft - 1
    stage := .discovering }

/-- How an attempt with that result ends: what is logged, and what becomes of the client. -/
inductive Concludes (now : Nat) (coordinator : Coordinator) (task : Task) :
    Except Error Outcome → List Event → Client → Prop
  | final {result : Except Error Outcome}
      (final : ∀ error, result = .error error → error.isRetryable = false) :
      Concludes now coordinator task result [.ended result] ⟨coordinator, .finished result now⟩
  | spent {error : Error} (retryable : error.isRetryable = true) (spent : task.retriesLeft = 0) :
      Concludes now coordinator task (.error error)
        [.attemptFailed task.attempt.operation error, .invalidated coordinator.replicas.size,
          .ended (.error error)]
        ⟨coordinator.invalidate, .finished (.error error) now⟩
  | again {error : Error} (retryable : error.isRetryable = true) (left : task.retriesLeft ≠ 0) :
      Concludes now coordinator task (.error error)
        [.attemptFailed task.attempt.operation error, .invalidated coordinator.replicas.size,
          .retrying]
        ⟨coordinator.invalidate, .busy task.again⟩

theorem Timeline.conclude_concludes (timeline : Timeline) (index : Nat)
    (coordinator : Coordinator) (task : Task) (result : Except Error Outcome) :
    ∃ events client, Concludes timeline.now coordinator task result events client ∧
      timeline.conclude index coordinator task result = timeline.enact index events client := by
  cases result with
  | ok outcome => exact ⟨_, _, .final (fun _ impossible => by cases impossible), rfl⟩
  | error error =>
    by_cases retryable : error.isRetryable = true
    · by_cases spent : task.retriesLeft = 0
      · exact ⟨_, _, .spent retryable spent, by simp [conclude, restart, retryable, spent]; rfl⟩
      · exact ⟨_, _, .again retryable spent, by simp [conclude, restart, retryable, spent]; rfl⟩
    · refine ⟨_, _, .final (fun _ same => ?_), by simp [conclude, retryable]; rfl⟩
      cases same
      exact Bool.eq_false_iff.mpr retryable

/-- The calls that a task sends at its stage: what is asked, whom and when, and how many results
are waited for. -/
inductive Coordinator.Sends (coordinator : Coordinator) (task : Task) :
    Request → List (Replica × Span) → Nat → Prop
  | ordered {number : SequenceNumber} (stage : task.stage = .sending number) :
      Sends coordinator task (.numbered task.attempt.operation task.attempt.argument number)
        coordinator.plan coordinator.replicas.size
  | read (stage : task.stage = .ready) (read : task.attempt.operation = .read) :
      Sends coordinator task (.read task.attempt.argument) coordinator.plan
        coordinator.replicas.size
  | state (stage : task.stage = .ready) (state : task.attempt.operation = .getState)
      {replica : Replica}
      (found : coordinator.replicas.find? task.attempt.argument = some replica) :
      Sends coordinator task .state [(replica, .zero)] 1

namespace Flight

theorem enqueue_perm (flight : Flight) (flights : List Flight) :
    (flight.enqueue flights).Perm (flight :: flights) := by
  induction flights with
  | nil => exact .refl _
  | cons first rest ih =>
    unfold enqueue
    split
    · exact (ih.cons first).trans (.swap ..)
    · exact .refl _

theorem enqueue_inOrder (flight : Flight) {flights : List Flight}
    (inOrder : flights.Pairwise (·.due ≤ ·.due)) :
    (flight.enqueue flights).Pairwise (·.due ≤ ·.due) := by
  induction flights with
  | nil => exact List.pairwise_singleton ..
  | cons first rest ih =>
    obtain ⟨least, restInOrder⟩ := List.pairwise_cons.mp inOrder
    unfold enqueue
    split
    · rename_i earlier
      refine List.pairwise_cons.mpr ⟨fun other present => ?_, ih restInOrder⟩
      rcases List.mem_cons.mp ((enqueue_perm flight rest).subset present) with same | present
      · exact same ▸ earlier
      · exact least other present
    · rename_i later
      have before : flight.due ≤ first.due := Nat.le_of_lt (Nat.lt_of_not_le later)
      refine List.pairwise_cons.mpr ⟨fun other present => ?_, inOrder⟩
      rcases List.mem_cons.mp present with same | present
      · exact same ▸ before
      · exact Nat.le_trans before (least other present)

theorem foldl_enqueue_perm (added flights : List Flight) :
    (added.foldl (fun flights flight => flight.enqueue flights) flights).Perm
      (added ++ flights) := by
  induction added generalizing flights with
  | nil => exact .refl _
  | cons first rest ih =>
    exact (ih _).trans (((enqueue_perm first flights).append_left rest).trans List.perm_middle)

theorem foldl_enqueue_inOrder (added : List Flight) {flights : List Flight}
    (inOrder : flights.Pairwise (·.due ≤ ·.due)) :
    (added.foldl (fun flights flight => flight.enqueue flights) flights).Pairwise
      (·.due ≤ ·.due) := by
  induction added generalizing flights with
  | nil => exact inOrder
  | cons first rest ih => exact ih (enqueue_inOrder first inOrder)

end Flight

/-- Neither a call nor a request of a user. -/
def Event.isDeed : Event → Bool
  | .arrived _ | .completed .. | .delaySet .. => false
  | _ => true

/-- What a step does to all clients. -/
inductive Effect
  | quiet
  /-- A handle is given up for a new one. -/
  | renewal
  /-- A round of calls is sent. -/
  | volley (request : Request) (plan : List (Replica × Span))

namespace Timeline

def carry (timeline : Timeline) (index : Nat) : Effect → Timeline
  | .quiet => timeline
  | .renewal => { timeline with handles := timeline.handles + 1 }
  | .volley request plan => timeline.dispatch index request plan

/-- Everything that a busy client can do next, stage by stage. -/
inductive Deed (world : World) (timeline : Timeline) (coordinator : Coordinator) (task : Task) :
    Effect → List Event → Client → Prop
  | refused {start : Nat} {error : Error} (stage : task.stage = .waiting start)
      (refused : task.attempt.operation.check task.attempt.argument = .error error) :
      Deed world timeline coordinator task .quiet
        [.begun task.attempt.operation task.attempt.argument task.retriesLeft,
          .ended (.error error)]
        ⟨coordinator, .finished (.error error) timeline.now⟩
  | began {start : Nat} (stage : task.stage = .waiting start)
      (accepted : task.attempt.operation.check task.attempt.argument = .ok ()) :
      Deed world timeline coordinator task .quiet
        [.begun task.attempt.operation task.attempt.argument task.retriesLeft]
        ⟨coordinator, .busy { task with stage := .discovering }⟩
  | known (stage : task.stage = .discovering) (known : coordinator.replicas.isEmpty = false) :
      Deed world timeline coordinator task .quiet [.attempt task.attempt.ordinal]
        ⟨coordinator, .busy { task with stage := .ready }⟩
  | found {replicas : List Replica} (stage : task.stage = .discovering)
      (unknown : coordinator.replicas.isEmpty = true)
      (admitted : world (.lookup coordinator.service coordinator.qualifier) (.ok replicas))
      (some : replicas ≠ []) :
      Deed world timeline coordinator task .quiet
        [.attempt task.attempt.ordinal, .lookup coordinator.service coordinator.qualifier,
          .discovered replicas]
        ⟨coordinator.install replicas, .busy { task with stage := .ready }⟩
  | lost {answer : Except Error (List Replica)} {error : Error} {events : List Event}
      {client : Client} (stage : task.stage = .discovering)
      (unknown : coordinator.replicas.isEmpty = true)
      (admitted : world (.lookup coordinator.service coordinator.qualifier) answer)
      (cause : answer = .error error ∨ answer = .ok [] ∧
        error = .noReplicasFound coordinator.service (coordinator.qualifier.getD ""))
      (ends : Concludes timeline.now coordinator task (.error error) events client) :
      Deed world timeline coordinator task .quiet
        (.attempt task.attempt.ordinal ::
          .lookup coordinator.service coordinator.qualifier :: events) client
  | numbered {number : SequenceNumber} (stage : task.stage = .ready)
      (ordered : task.attempt.operation.isOrdered = true)
      (admitted : world (.next coordinator.handle) (.ok number)) :
      Deed world timeline coordinator task .quiet [.next coordinator.handle (.ok number)]
        ⟨coordinator, .busy { task with stage := .sending number }⟩
  | unnumbered {error : Error} (stage : task.stage = .ready)
      (ordered : task.attempt.operation.isOrdered = true)
      (admitted : world (.next coordinator.handle) (.error error)) :
      Deed world timeline coordinator task .renewal
        [.next coordinator.handle (.error error),
          .reset coordinator.handle (timeline.handles + 1), .ended (.error error.asOrdering)]
        ⟨{ coordinator with handle := timeline.handles + 1 },
          .finished (.error error.asOrdering) timeline.now⟩
  | astray (stage : task.stage = .ready) (state : task.attempt.operation = .getState)
      (missing : coordinator.replicas.find? task.attempt.argument = none) :
      Deed world timeline coordinator task .quiet
        [.ended (.error (.invalidArgument (.unknownQualifier task.attempt.argument)))]
        ⟨coordinator, .finished
          (.error (.invalidArgument (.unknownQualifier task.attempt.argument))) timeline.now⟩
  | sent {request : Request} {plan : List (Replica × Span)} {expected : Nat}
      (sends : coordinator.Sends task request plan expected) :
      Deed world timeline coordinator task (.volley request plan) []
        ⟨coordinator, .busy
          { task with stage := .collecting timeline.rounds.length expected }⟩
  | decided {round expected : Nat} {collector : Collector Outcome}
      {result : Except Error Outcome} {events : List Event} {client : Client}
      (stage : task.stage = .collecting round expected)
      (opened : timeline.rounds[round]? = some collector)
      (verdict : task.attempt.verdict? expected collector = some result)
      (ends : Concludes timeline.now coordinator task result events client) :
      Deed world timeline coordinator task .quiet events client

theorem discover_lost (timeline : Timeline) (index : Nat) (coordinator : Coordinator) (task : Task)
    {answer : Except Error (List Replica)} {error : Error}
    (cause : answer = .error error ∨ answer = .ok [] ∧
      error = .noReplicasFound coordinator.service (coordinator.qualifier.getD "")) :
    ∃ events client, Concludes timeline.now coordinator task (.error error) events client ∧
      (timeline.log index (.attempt task.attempt.ordinal)).discover index coordinator task answer =
        timeline.enact index (.attempt task.attempt.ordinal ::
          .lookup coordinator.service coordinator.qualifier :: events) client := by
  let asked := (timeline.log index (.attempt task.attempt.ordinal)).log index
    (.lookup coordinator.service coordinator.qualifier)
  have concluded : (timeline.log index (.attempt task.attempt.ordinal)).discover index coordinator
      task answer = asked.conclude index coordinator task (.error error) := by
    rcases cause with same | ⟨none, same⟩
    · rw [same]
      rfl
    · rw [none, same]
      rfl
  obtain ⟨events, client, ends, same⟩ :=
    asked.conclude_concludes index coordinator task (.error error)
  refine ⟨events, client, ends, ?_⟩
  rw [concluded, same, enact_log, enact_log]

private theorem discover_deed {world : World} (timeline : Timeline) (index : Nat)
    (coordinator : Coordinator) (task : Task) {answer : Except Error (List Replica)}
    (stage : task.stage = .discovering) (unknown : coordinator.replicas.isEmpty = true)
    (admitted : world (.lookup coordinator.service coordinator.qualifier) answer) :
    ∃ effect events client, Deed world timeline coordinator task effect events client ∧
      (timeline.log index (.attempt task.attempt.ordinal)).discover index coordinator task answer =
        (timeline.carry index effect).enact index events client := by
  have lost {error : Error} (cause : answer = .error error ∨ answer = .ok [] ∧
        error = .noReplicasFound coordinator.service (coordinator.qualifier.getD "")) :
      ∃ effect events client, Deed world timeline coordinator task effect events client ∧
        (timeline.log index (.attempt task.attempt.ordinal)).discover index coordinator task
          answer = (timeline.carry index effect).enact index events client := by
    obtain ⟨events, client, ends, same⟩ := timeline.discover_lost index coordinator task cause
    exact ⟨.quiet, _, client, .lost stage unknown admitted cause ends, same⟩
  cases answer with
  | error error => exact lost (.inl rfl)
  | ok replicas =>
    cases replicas with
    | nil => exact lost (.inr ⟨rfl, rfl⟩)
    | cons first rest =>
      exact ⟨.quiet, _, _, .found stage unknown admitted (List.cons_ne_nil _ _), rfl⟩

private theorem order_deed {world : World} (timeline : Timeline) (index : Nat)
    (coordinator : Coordinator) (task : Task) {answer : Except Error SequenceNumber}
    (stage : task.stage = .ready) (ordered : task.attempt.operation.isOrdered = true)
    (admitted : world (.next coordinator.handle) answer) :
    ∃ effect events client, Deed world timeline coordinator task effect events client ∧
      timeline.order index coordinator task answer =
        (timeline.carry index effect).enact index events client := by
  cases answer with
  | ok number => exact ⟨.quiet, _, _, .numbered stage ordered admitted, rfl⟩
  | error error =>
    refine ⟨.renewal, _, _, .unnumbered stage ordered admitted, ?_⟩
    simp only [order, conclude, error.isRetryable_asOrdering, Bool.false_eq_true, ↓reduceIte]
    rfl

/-- A client's step is one of its deeds. -/
theorem deed_of_proceed? {world : World} {timeline later : Timeline} {index : Nat} {step : Step}
    (proceeds : timeline.proceed? index = some step) (leads : step.Leads world later) :
    ∃ coordinator task effect events client,
      timeline.clients[index]? = some ⟨coordinator, .busy task⟩ ∧
      Deed world timeline coordinator task effect events client ∧
      later = (timeline.carry index effect).enact index events client := by
  unfold proceed? at proceeds
  split at proceeds
  · rename_i coordinator task found
    refine ⟨coordinator, task, ?_⟩
    simp only [found, true_and]
    split at proceeds
    · rename_i start stage
      split at proceeds
      · cases proceeds
        cases leads
        unfold begin
        dsimp only
        split
        · exact ⟨.quiet, _, _, .refused stage ‹_›, rfl⟩
        · exact ⟨.quiet, _, _, .began stage ‹_›, rfl⟩
      · cases proceeds
    · rename_i stage
      cases proceeds
      unfold attempt at leads
      dsimp only at leads
      split at leads
      · cases leads
        exact discover_deed timeline index coordinator task stage ‹_› ‹_›
      · cases leads
        exact ⟨.quiet, _, _, .known stage (Bool.eq_false_iff.mpr ‹_›), rfl⟩
    · rename_i stage
      cases proceeds
      unfold engage at leads
      split at leads
      · rename_i operation
        cases leads
        exact order_deed timeline index coordinator task stage (operation ▸ rfl) ‹_›
      · rename_i operation
        cases leads
        exact order_deed timeline index coordinator task stage (operation ▸ rfl) ‹_›
      · cases leads
        exact ⟨.volley _ _, _, _, .sent (.read stage ‹_›), rfl⟩
      · split at leads
        · cases leads
          exact ⟨.volley _ _, _, _, .sent (.state stage ‹_› ‹_›), rfl⟩
        · cases leads
          exact ⟨.quiet, _, _, .astray stage ‹_› ‹_›, rfl⟩
    · rename_i number stage
      cases proceeds
      cases leads
      exact ⟨.volley _ _, _, _, .sent (.ordered stage), rfl⟩
    · rename_i round expected stage
      obtain ⟨result, verdict, same⟩ := Option.map_eq_some_iff.mp proceeds
      obtain ⟨collector, opened, verdict⟩ := Option.bind_eq_some_iff.mp verdict
      subst same
      cases leads
      obtain ⟨events, client, ends, same⟩ :=
        timeline.conclude_concludes index coordinator task result
      exact ⟨.quiet, _, _, .decided stage opened verdict ends, same⟩
  · cases proceeds

/-- A step leaves a client's coordinator as it was, forgets its replicas, takes over those of a
discovery, or gives it another handle. -/
theorem Deed.coordinator {world : World} {timeline : Timeline} {coordinator : Coordinator}
    {task : Task} {effect : Effect} {events : List Event} {client : Client}
    (deed : Deed world timeline coordinator task effect events client) :
    client.coordinator = coordinator ∨ client.coordinator = coordinator.invalidate ∨
      (∃ replicas, client.coordinator = coordinator.install replicas) ∨
      ∃ handle, client.coordinator = { coordinator with handle } := by
  cases deed with
  | found => exact .inr (.inr (.inl ⟨_, rfl⟩))
  | unnumbered => exact .inr (.inr (.inr ⟨_, rfl⟩))
  | lost _ _ _ _ ends | decided _ _ _ ends =>
    cases ends with
    | final => exact .inl rfl
    | spent | again => exact .inr (.inl rfl)
  | _ => exact .inl rfl

theorem Deed.of_collecting {world : World} {timeline : Timeline} {coordinator : Coordinator}
    {task : Task} {effect : Effect} {events : List Event} {client : Client}
    (deed : Deed world timeline coordinator task effect events client) {round expected : Nat}
    (stage : task.stage = .collecting round expected) :
    effect = .quiet ∧ ∃ collector result, timeline.rounds[round]? = some collector ∧
      task.attempt.verdict? expected collector = some result ∧
      Concludes timeline.now coordinator task result events client := by
  cases deed with
  | decided stage' opened verdict ends =>
    cases stage.symm.trans stage'
    exact ⟨rfl, _, _, opened, verdict, ends⟩
  | sent sends => cases sends <;> cases stage.symm.trans ‹_›
  | _ => cases stage.symm.trans ‹_›

theorem Deed.isDeed {world : World} {timeline : Timeline} {coordinator : Coordinator}
    {task : Task} {effect : Effect} {events : List Event} {client : Client}
    (deed : Deed world timeline coordinator task effect events client) :
    ∀ event ∈ events, event.isDeed = true := by
  cases deed with
  | lost _ _ _ _ ends | decided _ _ _ ends => cases ends <;> simp [Event.isDeed]
  | _ => simp [Event.isDeed]

/-- The calls of a round as they set out, each with the time of its arrival. -/
def volley (timeline : Timeline) (client : Nat) (request : Request)
    (plan : List (Replica × Span)) : List Flight :=
  (plan.zipIdx timeline.tickets).map fun ((replica, delay), ticket) =>
    ⟨timeline.now + timeline.timer.wait delay,
      ⟨ticket, client, timeline.rounds.length, replica, request⟩,
      .outbound⟩

private theorem foldl_send (client round : Nat) (request : Request)
    (plan : List (Replica × Span)) (earlier : Timeline) :
    plan.foldl (send client round request) earlier =
      { earlier with
        tickets := earlier.tickets + plan.length
        flights := ((plan.zipIdx earlier.tickets).map fun ((replica, delay), ticket) =>
          (⟨earlier.now + earlier.timer.wait delay, ⟨ticket, client, round, replica, request⟩,
            .outbound⟩ : Flight)).foldl (fun flights flight => flight.enqueue flights)
              earlier.flights } := by
  induction plan generalizing earlier with
  | nil => rfl
  | cons first rest ih =>
    rw [List.foldl_cons, ih]
    simp only [send, List.length_cons, List.zipIdx_cons, List.map_cons, List.foldl_cons,
      Nat.add_assoc, Nat.add_comm 1]

theorem dispatch_eq (timeline : Timeline) (client : Nat) (request : Request)
    (plan : List (Replica × Span)) :
    timeline.dispatch client request plan =
      { timeline with
        tickets := timeline.tickets + plan.length
        rounds := timeline.rounds ++ [.empty]
        flights := (timeline.volley client request plan).foldl
          (fun flights flight => flight.enqueue flights) timeline.flights } :=
  foldl_send ..

@[simp] theorem carry_clients (timeline : Timeline) (index : Nat) (effect : Effect) :
    (timeline.carry index effect).clients = timeline.clients := by
  cases effect <;> simp [carry, dispatch_eq]

@[simp] theorem carry_past (timeline : Timeline) (index : Nat) (effect : Effect) :
    (timeline.carry index effect).past = timeline.past := by
  cases effect <;> simp [carry, dispatch_eq]

@[simp] theorem carry_now (timeline : Timeline) (index : Nat) (effect : Effect) :
    (timeline.carry index effect).now = timeline.now := by
  cases effect <;> simp [carry, dispatch_eq]

@[simp] theorem carry_timer (timeline : Timeline) (index : Nat) (effect : Effect) :
    (timeline.carry index effect).timer = timeline.timer := by
  cases effect <;> simp [carry, dispatch_eq]

/-- The time has come for the first flight. -/
def reach (timeline : Timeline) (flight : Flight) (rest : List Flight) : Timeline :=
  { timeline with flights := rest, now := max timeline.now flight.due, settled := false }

/-- One leg of a call is over: it arrives, and its reply sets out, or it comes back. -/
inductive Hop (world : World) (timeline : Timeline) : Timeline → Prop
  | arrives {flight : Flight} {rest flights : List Flight}
      {reply : Reply flight.call.operation.Answer}
      (first : timeline.flights = flight :: rest) (leg : flight.leg = .outbound)
      (admitted : world (.arrival flight.call) reply)
      (same : flights.Perm (⟨max timeline.now flight.due + reply.latency, flight.call,
        .inbound (flight.call.result reply.ending)⟩ :: rest))
      (inOrder : rest.Pairwise (·.due ≤ ·.due) → (∀ other ∈ rest, timeline.now ≤ other.due) →
        (∀ other ∈ rest, flight.due ≤ other.due) → flights.Pairwise (·.due ≤ ·.due)) :
      Hop world timeline
        ((timeline.reach flight flights).log flight.call.client (.arrived flight.call))
  | returns {flight : Flight} {rest : List Flight} {result : CallResult Outcome}
      (first : timeline.flights = flight :: rest) (leg : flight.leg = .inbound result) :
      Hop world timeline ((timeline.reach flight rest).complete flight.call result)

/-- A call gets somewhere; one whose reply takes no time is back at once. -/
inductive Lands (world : World) : Timeline → Timeline → Prop
  | once {timeline later : Timeline} (hop : timeline.Hop world later) : Lands world timeline later
  | twice {timeline middle later : Timeline} (hop : timeline.Hop world middle)
      (hop' : middle.Hop world later) (instant : later.now = middle.now) :
      Lands world timeline later

theorem Hop.past {world : World} {timeline later : Timeline} (hop : timeline.Hop world later) :
    later.clients = timeline.clients ∧
      ∃ moment : Moment, later.past = moment :: timeline.past ∧ moment.event.isDeed = false ∧
        ∀ qualifier delay, moment.event ≠ .delaySet qualifier delay := by
  cases hop with
  | arrives => exact ⟨rfl, _, rfl, rfl, fun _ _ impossible => by cases impossible⟩
  | returns => exact ⟨rfl, _, rfl, rfl, fun _ _ impossible => by cases impossible⟩

theorem Lands.past {world : World} {timeline later : Timeline}
    (lands : timeline.Lands world later) :
    later.clients = timeline.clients ∧
      ∃ moments : List Moment, later.past = moments ++ timeline.past ∧
        ∀ moment ∈ moments, moment.event.isDeed = false ∧
          ∀ qualifier delay, moment.event ≠ .delaySet qualifier delay := by
  cases lands with
  | once hop =>
    obtain ⟨clients, moment, past, other⟩ := hop.past
    exact ⟨clients, [moment], past, by simpa using other⟩
  | twice hop hop' _ =>
    obtain ⟨clients, moment, past, other⟩ := hop.past
    obtain ⟨clients', moment', past', other'⟩ := hop'.past
    refine ⟨clients'.trans clients, [moment', moment], by rw [past', past]; rfl, ?_⟩
    intro each present
    rcases List.mem_cons.mp present with same | present
    · exact same ▸ other'
    · exact List.mem_singleton.mp present ▸ other

theorem Lands.now {world : World} {timeline later : Timeline} (lands : timeline.Lands world later) :
    ∃ flight rest, timeline.flights = flight :: rest ∧
      later.now = max timeline.now flight.due := by
  have hops {later : Timeline} (hop : timeline.Hop world later) : ∃ flight rest,
      timeline.flights = flight :: rest ∧ later.now = max timeline.now flight.due := by
    cases hop with
    | arrives first => exact ⟨_, _, first, rfl⟩
    | returns first => exact ⟨_, _, first, rfl⟩
  cases lands with
  | once hop => exact hops hop
  | twice hop _ instant => exact instant ▸ hops hop

theorem lands_of_fire? {world : World} {timeline later : Timeline} {step : Step}
    (fires : timeline.fire? = some step) (leads : step.Leads world later) :
    timeline.Lands world later := by
  unfold fire? at fires
  split at fires
  · cases fires
  · rename_i flight rest first
    dsimp only at fires
    split at fires
    · rename_i leg
      cases fires
      cases leads
      rename_i reply admitted
      let back : Flight := ⟨max timeline.now flight.due + reply.latency, flight.call,
        .inbound (flight.call.result reply.ending)⟩
      by_cases instant : reply.latency = 0
      · have arrives := Hop.arrives first leg admitted (.refl (back :: rest))
          fun inOrder clear least => List.pairwise_cons.mpr ⟨fun other present => by
            have := clear other present
            have := least other present
            simp only [back, instant]
            omega, inOrder⟩
        let arrived := (timeline.reach flight (back :: rest)).log flight.call.client
          (.arrived flight.call)
        have returns : arrived.Hop world ((arrived.reach back rest).complete flight.call
          (flight.call.result reply.ending)) := @Hop.returns _ _ back rest _ rfl rfl
        have same : (timeline.reach flight rest).arrive flight.call reply =
            (((timeline.reach flight (back :: rest)).log flight.call.client
              (.arrived flight.call)).reach back rest).complete flight.call
                (flight.call.result reply.ending) := by
          simp [arrive, instant, reach, log, complete, back]
        exact same ▸ .twice arrives returns (by simp [complete, log, reach, back, instant])
      · have same : (timeline.reach flight rest).arrive flight.call reply =
            (timeline.reach flight (back.enqueue rest)).log flight.call.client
              (.arrived flight.call) := by
          simp [arrive, instant, reach, log, back]
        exact same ▸ .once (.arrives first leg admitted (back.enqueue_perm rest)
          fun inOrder _ _ => back.enqueue_inOrder inOrder)
    · cases fires
      cases leads
      exact .once (.returns first ‹_›)

theorem submit_eq {timeline : Timeline} {index : Nat} {client : Client}
    (found : timeline.clients[index]? = some client) (operation : Operation) (argument : String)
    (retries : UInt32) (start : Nat) :
    timeline.submit index operation argument retries start =
      { timeline with
        turns := timeline.turns.filter (· ≠ index) ++ [index]
        clients := timeline.clients.set index
          ⟨client.coordinator, .busy ⟨⟨operation, argument, 1⟩, retries, .waiting start⟩⟩ } := by
  simp [submit, found, busy, setClient]

theorem client?_of_submit {timeline : Timeline} {mover index : Nat} {operation : Operation}
    {argument : String} {retries : UInt32} {start : Nat} {client : Client}
    (found : (timeline.submit mover operation argument retries start).clients[index]? =
      some client) :
    timeline.clients[index]? = some client ∨ index = mover ∧
      ∃ earlier, timeline.clients[index]? = some earlier ∧
        client = ⟨earlier.coordinator,
          .busy ⟨⟨operation, argument, 1⟩, retries, .waiting start⟩⟩ := by
  cases own : timeline.clients[mover]? with
  | none =>
    have same : timeline.submit mover operation argument retries start = timeline := by
      simp [submit, own]
    exact .inl (same ▸ found)
  | some mine =>
    rw [submit_eq own] at found
    simp only [List.getElem?_set] at found
    split at found
    · rename_i here
      subst here
      split at found
      · cases found; exact .inr ⟨rfl, mine, own, rfl⟩
      · cases found
    · exact .inl found

/-- A user either leaves a client as it was, starts an operation, or touches the coordinator of a
client that is not at one. -/
theorem Requests.client? {timeline later : Timeline} {mover : Nat}
    (requests : timeline.Requests mover later) {index : Nat} {client : Client}
    (found : later.clients[index]? = some client) :
    timeline.clients[index]? = some client ∨ index = mover ∧
      ∃ earlier, timeline.clients[index]? = some earlier ∧ earlier.isBusy = false ∧
        (index ∈ later.turns ∧ (∃ operation argument retries start, client =
            ⟨earlier.coordinator, .busy ⟨⟨operation, argument, 1⟩, retries, .waiting start⟩⟩) ∨
          client.activity = earlier.activity) := by
  cases requests with
  | operation free operation argument retries start =>
    rcases client?_of_submit found with same | ⟨here, earlier, own, renewed⟩
    · exact .inl same
    · refine .inr ⟨here, earlier, own, free earlier (here ▸ own), .inl ⟨?_, _, _, _, _, renewed⟩⟩
      simp [submit_eq (here ▸ own), here]
  | delay free qualifier delay =>
    unfold requestDelay setDelay at found
    cases own : timeline.clients[mover]? with
    | none => exact .inl (by simpa [own] using found)
    | some mine =>
      simp only [own] at found
      cases set : mine.coordinator.setDelay qualifier delay with
      | error error => exact .inl (by simpa [set, Except.map] using found)
      | ok changed =>
        simp only [set, Except.map, setClient, log, List.getElem?_set] at found
        split at found
        · rename_i here
          subst here
          split at found
          · cases found
            exact .inr ⟨rfl, mine, own, free mine own, .inr rfl⟩
          · cases found
        · exact .inl found

theorem Requests.client?_other {timeline later : Timeline} {mover index : Nat}
    (requests : timeline.Requests mover later) (other : mover ≠ index) :
    later.clients[index]? = timeline.clients[index]? := by
  cases requests with
  | operation free operation argument retries start =>
    unfold submit
    split
    · simp only [busy, setClient, List.getElem?_set_ne other]
    · rfl
  | delay free qualifier delay =>
    unfold requestDelay setDelay
    cases timeline.clients[mover]? with
    | none => rfl
    | some client =>
      dsimp only
      cases client.coordinator.setDelay qualifier delay with
      | error error => rfl
      | ok changed => exact List.getElem?_set_ne other

theorem Moves.client? {world : World} {timeline later : Timeline}
    (moves : timeline.Moves world later) {index : Nat} {client : Client}
    (found : later.clients[index]? = some client) :
    timeline.clients[index]? = some client ∨
      ∃ coordinator task effect events,
        timeline.clients[index]? = some ⟨coordinator, .busy task⟩ ∧
        Deed world timeline coordinator task effect events client ∧
        later = (timeline.carry index effect).enact index events client := by
  cases moves with
  | client proceeds leads =>
    rename_i mover step
    obtain ⟨coordinator, task, effect, events, changed, busy, deed, same⟩ :=
      deed_of_proceed? proceeds leads
    subst same
    simp only [enact, carry_clients, List.getElem?_set] at found
    split at found
    · split at found
      · cases found
        subst mover
        exact .inr ⟨coordinator, task, effect, events, busy, deed, rfl⟩
      · cases found
    · exact .inl found
  | flight fires leads => exact .inl ((lands_of_fire? fires leads).past.1 ▸ found)
  | clock => exact .inl found
  | shuffle => exact .inl found

theorem Moves.past {world : World} {timeline later : Timeline}
    (moves : timeline.Moves world later) :
    ∃ moments : List Moment, later.past = moments ++ timeline.past ∧
      ∀ moment ∈ moments, ∀ qualifier delay, moment.event ≠ .delaySet qualifier delay := by
  cases moves with
  | client proceeds leads =>
    obtain ⟨coordinator, task, effect, events, changed, busy, deed, same⟩ :=
      deed_of_proceed? proceeds leads
    subst same
    refine ⟨_, by rw [enact, carry_past], fun moment present qualifier delay impossible => ?_⟩
    obtain ⟨event, own, same⟩ := List.mem_map.mp (List.mem_reverse.mp present)
    subst same
    have deed := deed.isDeed event own
    rw [show event = .delaySet qualifier delay from impossible] at deed
    cases deed
  | flight fires leads =>
    obtain ⟨_, moments, past, others⟩ := (lands_of_fire? fires leads).past
    exact ⟨moments, past, fun moment present => (others moment present).2⟩
  | clock => exact ⟨[], rfl, by simp⟩
  | shuffle => exact ⟨[], rfl, by simp⟩

theorem Moves.timer {world : World} {timeline later : Timeline}
    (moves : timeline.Moves world later) : later.timer = timeline.timer := by
  have hops {timeline later : Timeline} (hop : timeline.Hop world later) :
      later.timer = timeline.timer := by
    cases hop <;> rfl
  cases moves with
  | client proceeds leads =>
    obtain ⟨_, _, effect, _, _, _, _, same⟩ := deed_of_proceed? proceeds leads
    rw [same]
    simp [enact]
  | flight fires leads =>
    cases lands_of_fire? fires leads with
    | once hop => exact hops hop
    | twice hop hop' _ => exact (hops hop').trans (hops hop)
  | clock => rfl
  | shuffle => rfl

theorem Requests.timer {timeline later : Timeline} {mover : Nat}
    (requests : timeline.Requests mover later) : later.timer = timeline.timer := by
  cases requests with
  | operation =>
    unfold submit
    split <;> rfl
  | delay free qualifier delay =>
    unfold requestDelay setDelay
    cases timeline.clients[mover]? with
    | none => rfl
    | some client =>
      dsimp only
      cases client.coordinator.setDelay qualifier delay <;> rfl

end Timeline
end ReplicatedSpace
