import ReplicatedSpace.Proofs.WrongArguments

/-!
Epochs of a client. An epoch begins with a discovery and ends when the replicas fail an attempt.
What a client knows are the replicas of its epoch, in the order in which they were listed, or
nothing if it is between two.
-/
namespace ReplicatedSpace

/-- The name server cannot be reached or has nothing to offer, but it does not fail otherwise. -/
def World.Discovers (world : World) : Prop :=
  ∀ service qualifier error, world (.lookup service qualifier) (.error error) →
    (∃ reason, error = .discoveryUnavailable reason) ∨
      ∃ service qualifier, error = .noReplicasFound service qualifier

theorem World.Discovers.cause {world : World} (discovers : world.Discovers) {service : String}
    {qualifier : Option String} {answer : Except Error (List Replica)} {error : Error}
    (admitted : world (.lookup service qualifier) answer)
    (cause : answer = .error error ∨ answer = .ok [] ∧
      error = .noReplicasFound service (qualifier.getD "")) :
    (∃ reason, error = .discoveryUnavailable reason) ∨
      ∃ service qualifier, error = .noReplicasFound service qualifier := by
  rcases cause with same | ⟨_, same⟩
  · exact discovers _ _ error (same ▸ admitted)
  · exact .inr ⟨_, _, same⟩

theorem World.Discovers.blameless {world : World} (discovers : world.Discovers) :
    world.Blameless := by
  intro service qualifier fault admitted
  rcases discovers _ _ _ admitted with ⟨_, same⟩ | ⟨_, _, same⟩ <;> cases same

/-- Whether an event has to do with what is known of the replicas. -/
def Event.isEpochal : Event → Bool
  | .lookup .. | .discovered _ | .attemptFailed .. => true
  | _ => false

/-- Whether an attempt ended because its replicas failed. -/
def Event.isFailure : Event → Bool
  | .attemptFailed _ (.replicaOperationFailure ..) => true
  | _ => false

/-- Events, the latest first, and the replicas that a client knows after them. It asks the name
server only if it knows none, and does not know them any more once they have failed. -/
inductive Epoch (world : World) : List Event → List Replica → Prop
  | opening : Epoch world [] []
  | aside {events : List Event} {entries : List Replica} {event : Event}
      (ordinary : event.isEpochal = false) (epoch : Epoch world events entries) :
      Epoch world (event :: events) entries
  | asked {events : List Event} (service : String) (qualifier : Option String)
      (epoch : Epoch world events []) : Epoch world (.lookup service qualifier :: events) []
  | found {events : List Event} {service : String} {qualifier : Option String}
      {replicas : List Replica} (epoch : Epoch world events [])
      (admitted : world (.lookup service qualifier) (.ok replicas)) (some : replicas ≠ []) :
      Epoch world (.discovered replicas :: .lookup service qualifier :: events) replicas
  | failed {events : List Event} {entries : List Replica} (operation : Operation) {error : Error}
      (retryable : error.isRetryable = true) (epoch : Epoch world events entries) :
      Epoch world (.attemptFailed operation error :: events) []

namespace Epoch

variable {world : World} {events recent older : List Event} {entries replicas : List Replica}

theorem append (epoch : Epoch world events entries)
    (ordinary : ∀ event ∈ recent, event.isEpochal = false) :
    Epoch world (recent ++ events) entries := by
  induction recent with
  | nil => exact epoch
  | cons event recent ih =>
    obtain ⟨here, there⟩ := List.forall_mem_cons.mp ordinary
    exact .aside here (ih there)

theorem latest (epoch : Epoch world events entries) (known : entries ≠ []) :
    ∃ recent older service qualifier,
      events = recent ++ .discovered entries :: .lookup service qualifier :: older ∧
      world (.lookup service qualifier) (.ok entries) ∧
      ∀ event ∈ recent, event.isEpochal = false := by
  induction epoch with
  | opening | asked | failed => exact absurd rfl known
  | aside ordinary _ ih =>
    obtain ⟨recent, older, service, qualifier, split, admitted, since⟩ := ih known
    exact ⟨_ :: recent, older, service, qualifier, congrArg (_ :: ·) split, admitted,
      List.forall_mem_cons.mpr ⟨ordinary, since⟩⟩
  | found _ admitted _ => exact ⟨[], _, _, _, rfl, admitted, by simp⟩

/-- Replicas that were found are not forgotten before an attempt fails. -/
theorem of_discovered (epoch : Epoch world events entries)
    (split : events = recent ++ .discovered replicas :: older)
    (since : ∀ event ∈ recent, event.isFailure = false) : entries ≠ [] := by
  induction epoch generalizing recent with
  | opening => simp at split
  | aside ordinary epoch ih =>
    cases recent with
    | nil =>
      cases split
      cases ordinary
    | cons event recent =>
      cases split
      exact ih rfl (List.forall_mem_cons.mp since).2
  | asked service qualifier epoch ih =>
    cases recent with
    | nil => cases split
    | cons event recent =>
      cases split
      exact absurd rfl (ih rfl (List.forall_mem_cons.mp since).2)
  | found epoch admitted some ih => exact some
  | failed operation retryable epoch ih =>
    rename_i error
    cases recent with
    | nil => cases split
    | cons event recent =>
      cases split
      have never := (List.forall_mem_cons.mp since).1
      cases error with
      | replicaOperationFailure => cases never
      | _ => cases retryable

theorem known_iff (epoch : Epoch world events entries) :
    entries ≠ [] ↔ ∃ recent replicas older, events = recent ++ .discovered replicas :: older ∧
      replicas ≠ [] ∧ ∀ event ∈ recent, event.isFailure = false := by
  constructor
  · intro known
    obtain ⟨recent, older, service, qualifier, split, _, since⟩ := epoch.latest known
    refine ⟨recent, entries, _, split, known, fun event present => ?_⟩
    have ordinary := since event present
    cases event <;> first | rfl | cases ordinary
  · rintro ⟨recent, replicas, older, split, _, since⟩
    exact epoch.of_discovered split since

end Epoch

theorem Operation.fault_of_check {operation : Operation} {argument : String} {error : Error}
    (refused : operation.check argument = .error error) :
    ∃ fault, error = .invalidArgument fault := by
  unfold check checkTuple at refused
  split at refused <;> split at refused <;> cases refused <;> exact ⟨_, rfl⟩

/-- What a coordinator knows after an operation with a result. It knows its replicas after a success
and where only a number was missing, and nothing where the replicas failed or there are none. -/
def Coordinator.After (coordinator : Coordinator) : Except Error Outcome → Prop
  | .ok _ | .error (.orderingUnavailable _) => coordinator.replicas.entries ≠ []
  | .error (.replicaOperationFailure ..) | .error (.discoveryUnavailable _)
  | .error (.noReplicasFound ..) =>
    coordinator.replicas.entries = [] ∧ coordinator.stagger.delays = []
  | .error (.invalidArgument _) => True
  | .error (.invalidConfig _) => False

namespace Timeline

variable {world : World} {settings : List Settings} {before timeline later : Timeline}
  {index : Nat} {client : Client} {coordinator final : Coordinator} {task : Task} {effect : Effect}
  {events account : List Event} {result : Except Error Outcome} {time : Nat}

theorem Concludes.epoch {now : Nat}
    (ends : Concludes now coordinator task result events client)
    (epoch : Epoch world account coordinator.replicas.entries) :
    Epoch world (events.reverse ++ account) client.coordinator.replicas.entries := by
  cases ends with
  | final => exact .aside rfl epoch
  | spent retryable | again retryable =>
    exact .aside rfl (.aside rfl (.failed _ retryable epoch))

theorem Deed.epoch (deed : Deed world timeline coordinator task effect events client)
    (epoch : Epoch world account coordinator.replicas.entries) :
    Epoch world (events.reverse ++ account) client.coordinator.replicas.entries := by
  cases deed with
  | found stage unknown admitted some =>
    rw [List.isEmpty_iff.mp unknown] at epoch
    exact .found (.aside rfl epoch) admitted some
  | lost stage unknown admitted cause ends =>
    have none : coordinator.replicas.entries = [] := List.isEmpty_iff.mp unknown
    rw [none] at epoch
    have asked := Epoch.asked coordinator.service coordinator.qualifier
      (.aside (rfl : (Event.attempt task.attempt.ordinal).isEpochal = false) epoch)
    rw [List.reverse_cons, List.reverse_cons, List.append_assoc, List.append_assoc]
    exact Concludes.epoch ends (none ▸ asked)
  | decided _ _ _ ends => exact Concludes.epoch ends epoch
  | _ => exact epoch.append (by simp [Event.isEpochal])

theorem Reached.epoch (reached : timeline.Reached world settings)
    (found : timeline.clients[index]? = some client) :
    Epoch world (timeline.account (Timeline.opening settings) index)
      client.coordinator.replicas.entries := by
  refine reached.account_induction
    (motive := fun account coordinator => Epoch world account coordinator.replicas.entries)
    ?_ ?_ ?_ ?_ found
  · intro own
    exact .opening
  · intro timeline coordinator task effect events client account _ _ deed epoch
    exact Deed.epoch deed epoch
  · intro coordinator account call epoch
    exact .aside rfl epoch
  · intro coordinator changed account qualifier delay set epoch
    rw [(Coordinator.setDelay_kept set).2]
    exact .aside rfl epoch

theorem Awaits.known {attempt : Attempt} {round expected : Nat}
    (awaits : timeline.Awaits index coordinator attempt round expected) :
    coordinator.replicas.entries ≠ [] := by
  intro unknown
  have targets : attempt.operation.targets attempt.argument [] = [] := by
    cases attempt.operation <;> rfl
  have none := awaits.replicas
  rw [unknown, targets] at none
  have positive := awaits.positive
  rw [← awaits.count, ← List.length_map, none.eq_nil] at positive
  cases positive

/-- What a client knows when its operation ends. -/
theorem Deed.after (discovers : world.Discovers) (inStep : coordinator.InStep)
    (engaged : timeline.Engaged index coordinator task)
    (deed : Deed world timeline coordinator task effect events ⟨final, .finished result time⟩) :
    final.After result := by
  cases deed with
  | refused stage refused =>
    obtain ⟨fault, same⟩ := Operation.fault_of_check refused
    subst same
    trivial
  | astray => trivial
  | unnumbered stage ordered admitted =>
    rename_i error
    obtain ⟨reason, told, _⟩ := error.asOrdering_cases
    rw [Engaged, stage] at engaged
    rw [told]
    exact engaged
  | lost stage unknown admitted cause ends =>
    have none : coordinator.replicas.entries = [] := List.isEmpty_iff.mp unknown
    have kinds := discovers.cause admitted cause
    have left : coordinator.replicas.entries = [] ∧ coordinator.stagger.delays = [] :=
      ⟨none, inStep.delays_eq_nil none⟩
    cases ends with
    | final => rcases kinds with ⟨_, same⟩ | ⟨_, _, same⟩ <;> subst same <;> exact left
    | spent retryable =>
      rcases kinds with ⟨_, same⟩ | ⟨_, _, same⟩ <;> subst same <;> cases retryable
  | decided stage opened verdict ends =>
    rw [Engaged, stage] at engaged
    have known := Awaits.known engaged
    cases ends with
    | final final =>
      cases result with
      | ok outcome => exact known
      | error error =>
        obtain ⟨_, failed, _⟩ := Attempt.error_of_verdict? verdict
        have fine := final error rfl
        rw [failed] at fine
        cases fine
    | spent retryable =>
      obtain ⟨_, failed, _⟩ := Attempt.error_of_verdict? verdict
      rw [failed]
      exact ⟨rfl, rfl⟩

/-- The latest attempt of an operation that began with some replicas knows these. -/
def Knows (timeline before : Timeline) (index : Nat) (first known : List Replica) : Prop :=
  ∃ latest older, attemptsOf (timeline.account before index) = latest :: older ∧
    latest.known (Trail.initialAfter first older) = some known

theorem Knows.unmoved {first known : List Replica}
    (knows : timeline.Knows before index first known)
    (unmoved : Unmoved before index timeline later) : later.Knows before index first known := by
  obtain ⟨latest, older, attempts, same⟩ := knows
  cases unmoved.adds with
  | nothing account => exact ⟨latest, older, account ▸ attempts, same⟩
  | arrival call account =>
    refine ⟨latest.extend [.arrived call], older, ?_, same⟩
    rw [account, attemptsOf, attempts]
    rfl

variable {operation : Operation} {argument : String} {retries : UInt32} {start : Nat}
  {activity : Activity}

theorem Executes.knows_of_fault {first : List Replica} {fault : ArgumentFault}
    (discovers : world.Discovers) (wellFormed : operation.check argument = .ok ())
    (executes : Executes before index operation argument retries first timeline
      ⟨coordinator, .busy task⟩)
    (does : Does world before index timeline coordinator task effect events
      ⟨final, .finished result time⟩ later)
    (wrong : result = .error (.invalidArgument fault)) :
    final.replicas.entries ≠ [] ∧ later.Knows before index first final.replicas.entries := by
  subst wrong
  obtain ⟨_, _, latest, older, strayed⟩ := executes.strays discovers.blameless wellFormed does
  exact ⟨strayed.nonempty, latest, older, strayed.told.attempts, strayed.known⟩

/-- What an operation leaves behind, whoever answered. -/
theorem Course.leaves (discovers : world.Discovers) (reached : before.Reached world settings)
    (free : before.Free index) (found : before.clients[index]? = some ⟨coordinator, activity⟩)
    (wellFormed : operation.check argument = .ok ())
    (course : Course world index (before.submit index operation argument retries start) later)
    (ended : later.clients[index]? = some ⟨final, .finished result time⟩) :
    final.After result ∧ ∀ fault, result = .error (.invalidArgument fault) →
      final.replicas.entries ≠ [] ∧
        later.Knows before index coordinator.replicas.entries final.replicas.entries := by
  induction course with
  | refl =>
    have inside := (List.getElem?_eq_some_iff.mp found).1
    rw [submit_eq found, List.getElem?_set_self inside] at ended
    cases ended
  | tail course beside ih =>
    obtain ⟨reached', onward, client, found', executes⟩ :=
      Course.executes reached free found wellFormed course
    rcases Beside.cases reached' onward beside with
      ⟨known, task, effect, events, client', busy, after, does⟩ |
      ⟨middle, _, _, unmoved, unmoved'⟩
    · cases found'.symm.trans busy
      cases ended.symm.trans after
      refine ⟨Deed.after discovers does.inStep does.engaged does.deed, ?_⟩
      intro fault wrong
      exact executes.knows_of_fault discovers wellFormed does wrong
    · rw [unmoved'.client, unmoved.client] at ended
      obtain ⟨after, knows⟩ := ih ended
      refine ⟨after, fun fault wrong => ?_⟩
      obtain ⟨known, knows⟩ := knows fault wrong
      exact ⟨known, (knows.unmoved unmoved).unmoved unmoved'⟩

theorem Course.overrides (reached : before.Reached world settings) (free : before.Free index)
    (found : before.clients[index]? = some ⟨coordinator, activity⟩)
    (course : Course world index (before.submit index operation argument retries start) later)
    (found' : later.clients[index]? = some client) :
    client.coordinator.overrides = coordinator.overrides := by
  have submitted := reached.requests (.operation free operation argument retries start)
  induction course generalizing client with
  | refl =>
    have inside := (List.getElem?_eq_some_iff.mp found).1
    rw [submit_eq found, List.getElem?_set_self inside] at found'
    cases found'
    rfl
  | tail course beside ih =>
    rcases Beside.cases (submitted.course course) (.refl _) beside with
      ⟨known, task, effect, events, client', busy, after, does⟩ |
      ⟨middle, _, _, unmoved, unmoved'⟩
    · cases found'.symm.trans after
      exact (Deed.overrides does.deed).trans (ih busy)
    · rw [unmoved'.client, unmoved.client] at found'
      exact ih found'

/-- What a client knows is nothing, or all replicas that the name server listed when it was last
asked, and it knows some just when some were found since its replicas last failed an attempt. So it
knows replicas after an operation that succeeds or lacks a number, and neither replicas nor delays
after one that its replicas failed or for which there were none. An operation with a wrong argument
leaves all as it was, or the replicas that it got to know. None touches the delays that were set. -/
theorem replicas_by_epochs (reached : timeline.Reached world settings)
    (found : timeline.clients[index]? = some client) :
    (client.coordinator.replicas.entries = [] ∨ ∃ recent older service qualifier,
      timeline.account (opening settings) index = recent ++
        .discovered client.coordinator.replicas.entries :: .lookup service qualifier :: older ∧
      world (.lookup service qualifier) (.ok client.coordinator.replicas.entries) ∧
      ∀ event ∈ recent, event.isEpochal = false) ∧
    (client.coordinator.replicas.entries ≠ [] ↔ ∃ recent replicas older,
      timeline.account (opening settings) index = recent ++ .discovered replicas :: older ∧
      replicas ≠ [] ∧ ∀ event ∈ recent, event.isFailure = false) ∧
    (timeline.Free index → ∀ operation argument retries start later final result time,
      Course world index (timeline.submit index operation argument retries start) later →
      later.clients[index]? = some ⟨final, .finished result time⟩ →
      final.overrides = client.coordinator.overrides ∧
      (world.Discovers → final.After result ∧
        ∀ fault, result = .error (.invalidArgument fault) →
          operation.check argument = .error (.invalidArgument fault) ∧
              final = client.coordinator ∨
            final.replicas.entries ≠ [] ∧ later.Knows timeline index
              client.coordinator.replicas.entries final.replicas.entries)) := by
  have epoch := reached.epoch found
  refine ⟨?_, epoch.known_iff, ?_⟩
  · by_cases known : client.coordinator.replicas.entries = []
    · exact .inl known
    · exact .inr (epoch.latest known)
  · intro free operation argument retries start later final result time course ended
    refine ⟨Course.overrides reached free found course ended, fun discovers => ?_⟩
    cases check : operation.check argument with
    | ok =>
      obtain ⟨after, knows⟩ := Course.leaves discovers reached free found check course ended
      exact ⟨after, fun fault wrong => .inr (knows fault wrong)⟩
    | error error =>
      obtain ⟨fault, same⟩ := Operation.fault_of_check check
      subst same
      obtain ⟨activity, found', stands⟩ := Course.refused reached free found check course
      cases found'.symm.trans ended
      rcases stands with other | ⟨_, same⟩
      · cases other
      · cases same
        refine ⟨trivial, fun fault' wrong => .inl ?_⟩
        cases wrong
        exact ⟨rfl, rfl⟩

/-- A client that has set a delay and knows a replica asks for the state of a stranger. It still
knows the replica, from the only lookup that there was, and the delay. -/
theorem stranger_leaves_others_known : ∃ (world : World) (before later : Timeline)
    (known final : Coordinator) (activity : Activity) (fault : ArgumentFault),
      world.Discovers ∧ before.Reached world [.standard] ∧
      before.clients[0]? = some ⟨known, activity⟩ ∧ known.overrides ≠ .empty ∧
      (∃ recent older service qualifier, before.account (opening [.standard]) 0 =
        recent ++ .discovered [⟨"a:1", "A"⟩] :: .lookup service qualifier :: older) ∧
      later.Reached world [.standard] ∧
      later.clients[0]? = some ⟨final, .finished (.error (.invalidArgument fault)) 0⟩ ∧
      final.replicas.entries ≠ [] ∧ later.Knows before 0 [⟨"a:1", "A"⟩] final.replicas.entries ∧
      final.overrides = known.overrides := by
  let world : World := fun question answer =>
    match question, answer with
    | .lookup .., .error _ => False
    | _, _ => True
  have discovers : world.Discovers := fun _ _ _ impossible => impossible.elim
  have free {timeline : Timeline} {client : Client} (found : timeline.clients[0]? = some client)
      (rests : client.isBusy = false) : timeline.Free 0 := fun other found' =>
    Option.some.inj (found.symm.trans found') ▸ rests
  have delayed : Reached world [.standard] _ :=
    Reached.opening.requests (.delay (free rfl rfl) "A" (.ofMillis 3000))
  have asked := delayed.requests (.operation (free rfl rfl) .getState "A" 0 0)
  have found := (asked.goes (rfl : proceed? _ 0 = _)).learns
    (rfl : proceed? _ 0 = some (.asks (.lookup _ _) _)) (.ok [⟨"a:1", "A"⟩]) trivial
  have sent := found.goes (rfl : proceed? _ 0 = _)
  let call : Call := ⟨0, 0, 0, ⟨"a:1", "A"⟩, .state⟩
  have answered := sent.moves (.flight (rfl : fire? _ = some (.asks (.arrival call) _))
    (@Step.Leads.answered _ (.arrival call) _ (⟨0, .answered ["<a>"]⟩ : Reply (List String))
      trivial))
  have before := answered.goes (rfl : proceed? _ 0 = _)
  have start {before : Timeline} (_ : before.Reached world [.standard]) :
      Course world 0 (before.submit 0 .getState "B" 1 0) _ := .refl
  have begun := (start before).goes (rfl : proceed? _ 0 = _)
  have ended := (begun.goes (rfl : proceed? _ 0 = _)).goes (rfl : proceed? _ 0 = _)
  have submitted := before.requests (.operation (free rfl rfl) .getState "B" 1 0)
  obtain ⟨latest, _, leaves⟩ := @replicas_by_epochs world [.standard] _ 0 _ before rfl
  obtain ⟨overrides, after⟩ := leaves (free rfl rfl) .getState "B" 1 0 _ _ _ _ ended rfl
  obtain ⟨_, wrong⟩ := after discovers
  refine ⟨world, _, _, _, _, _, _, discovers, before, rfl, ?_, ?_, submitted.course ended, rfl, ?_⟩
  · intro none
    cases congrArg (·.find? "A") none
  · rcases latest with none | ⟨recent, older, service, qualifier, account, _⟩
    · cases none
    · exact ⟨recent, older, service, qualifier, account⟩
  · rcases wrong _ rfl with ⟨refused, _⟩ | ⟨some, knows⟩
    · exact absurd refused (by decide +kernel)
    · exact ⟨some, knows, overrides⟩

end Timeline
end ReplicatedSpace
