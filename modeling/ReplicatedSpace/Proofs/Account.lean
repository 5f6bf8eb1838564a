import ReplicatedSpace.Proofs.Progress

/-!
The account of a client since an earlier time: its own events and the arrivals of its calls, the
latest first and attempt by attempt, but for calls of rounds that were open already. While a client
does nothing, calls that arrive are all that is added.
-/
namespace ReplicatedSpace

/-- The event, if it is one of a client and neither the arrival of a call that was sent in an older
round nor the end of a call. -/
def Moment.eventOf? (index oldest : Nat) (moment : Moment) : Option Event :=
  if moment.client = index then
    match moment.event with
    | .arrived call => if oldest ≤ call.round then some moment.event else none
    | .completed .. => none
    | event => some event
  else none

theorem Moment.eventOf?_of_isDeed (moment : Moment) (index oldest : Nat)
    (deed : moment.event.isDeed = true) :
    moment.eventOf? index oldest = if moment.client = index then some moment.event else none := by
  unfold eventOf?
  split
  · split
    · rename_i same; rw [same] at deed; cases deed
    · rename_i same; rw [same] at deed; cases deed
    · rfl
  · rfl

theorem Moment.eventOf?_arrived (index oldest time : Nat) (call : Call) :
    (⟨time, call.client, .arrived call⟩ : Moment).eventOf? index oldest =
      if call.client = index ∧ oldest ≤ call.round then some (.arrived call) else none := by
  by_cases own : call.client = index <;> simp [eventOf?, own]

theorem Moment.eventOf?_completed (index oldest time : Nat) (call : Call)
    (result : CallResult Outcome) :
    (⟨time, call.client, .completed call result⟩ : Moment).eventOf? index oldest = none := by
  by_cases own : call.client = index <;> simp [eventOf?, own]

/-- The events of one attempt, the latest first, and what the client was at. -/
structure Trail where
  asked : Option (Operation × String)
  events : List Event

namespace Trail

/-- How often the name server was asked. -/
def lookups (trail : Trail) : Nat :=
  trail.events.countP fun
    | .lookup .. => true
    | _ => false

/-- The replicas that were found. -/
def found? (trail : Trail) : Option (List Replica) :=
  trail.events.findSome? fun
    | .discovered replicas => some replicas
    | _ => none

/-- The answers of the sequencer. -/
def answers (trail : Trail) : List (Except Error SequenceNumber) :=
  trail.events.filterMap fun
    | .next _ answer => some answer
    | _ => none

/-- The calls that have arrived. -/
def calls (trail : Trail) : List Call :=
  trail.events.filterMap fun
    | .arrived call => some call
    | _ => none

/-- What the attempt came to. -/
def outcome? (trail : Trail) : Option (Except Error Outcome) :=
  trail.events.findSome? fun
    | .attemptFailed _ error => some (.error error)
    | .ended result => some result
    | _ => none

/-- Adds events, the latest first. -/
def extend (trail : Trail) (news : List Event) : Trail :=
  { trail with events := news ++ trail.events }

end Trail

/-- What a client was last asked for. -/
def asked? (events : List Event) : Option (Operation × String) :=
  events.findSome? fun
    | .begun operation argument _ => some (operation, argument)
    | _ => none

def Event.isAttempt : Event → Bool
  | .attempt _ => true
  | _ => false

/-- Whether an event can only happen within an attempt. -/
def Event.isWithin : Event → Bool
  | .attempt _ | .begun .. => false
  | _ => true

theorem Event.isAttempt_of_isWithin {event : Event} (within : event.isWithin = true) :
    event.isAttempt = false := by
  cases event <;> first | rfl | cases within

theorem asked?_append {news : List Event} (earlier : List Event)
    (within : ∀ event ∈ news, event.isWithin = true) :
    asked? (news ++ earlier) = asked? earlier := by
  have none : asked? news = none := by
    refine List.findSome?_eq_none_iff.mpr fun event present => ?_
    have inside := within event present
    cases event <;> first | rfl | cases inside
  rw [asked?] at none
  rw [asked?, List.findSome?_append, none, Option.none_or]
  rfl

theorem Concludes.isWithin {now : Nat} {coordinator : Coordinator} {task : Task}
    {result : Except Error Outcome} {events : List Event} {client : Client}
    (ends : Concludes now coordinator task result events client) :
    ∀ event ∈ events.reverse, event.isWithin = true := by
  cases ends <;> simp [Event.isWithin]

/-- The attempts among events, the latest first. -/
def attemptsOf : List Event → List Trail
  | [] => []
  | event :: earlier =>
    if event.isAttempt then ⟨asked? earlier, [event]⟩ :: attemptsOf earlier
    else (attemptsOf earlier).modifyHead (·.extend [event])

theorem attemptsOf_attempt (ordinal : UInt32) (earlier : List Event) :
    attemptsOf (.attempt ordinal :: earlier) =
      ⟨asked? earlier, [.attempt ordinal]⟩ :: attemptsOf earlier := rfl

theorem attemptsOf_append {news : List Event} (earlier : List Event)
    (ordinary : ∀ event ∈ news, event.isAttempt = false) :
    attemptsOf (news ++ earlier) = (attemptsOf earlier).modifyHead (·.extend news) := by
  induction news with
  | nil =>
    cases attempts : attemptsOf earlier with
    | nil => exact attempts
    | cons latest rest => exact attempts
  | cons event news ih =>
    have before := ih fun other present => ordinary other (List.mem_cons_of_mem _ present)
    have plain := ordinary event List.mem_cons_self
    rw [List.cons_append, attemptsOf, plain, before]
    cases attemptsOf earlier <;> rfl

theorem attemptsOf_flatten (events : List Event) : ∃ preface,
    events = (attemptsOf events).flatMap Trail.events ++ preface ∧
      ∀ event ∈ preface, event.isAttempt = false := by
  induction events with
  | nil => exact ⟨[], rfl, by simp⟩
  | cons event earlier ih =>
    obtain ⟨preface, split, ordinary⟩ := ih
    unfold attemptsOf
    by_cases begins : event.isAttempt = true
    · refine ⟨preface, ?_, ordinary⟩
      rw [if_pos begins, List.flatMap_cons]
      exact congrArg (event :: ·) split
    · rw [if_neg begins]
      cases attempts : attemptsOf earlier with
      | nil =>
        rw [attempts] at split
        refine ⟨event :: preface, by rw [split]; rfl, fun other present => ?_⟩
        rcases List.mem_cons.mp present with same | present
        · exact same ▸ Bool.eq_false_iff.mpr begins
        · exact ordinary other present
      | cons latest rest =>
        rw [attempts] at split
        refine ⟨preface, ?_, ordinary⟩
        rw [split]
        rfl

namespace Timeline

variable {world : World} {settings : List Settings} {before timeline later : Timeline}
  {index : Nat}

/-- What has happened to a client since an earlier time, the latest first. -/
def account (timeline before : Timeline) (index : Nat) : List Event :=
  (timeline.past.take (timeline.past.length - before.past.length)).filterMap
    (·.eventOf? index before.rounds.length)

/-- The calls of a client in rounds that an earlier time did not know, on their way. -/
def pending (timeline before : Timeline) (index : Nat) : List Call :=
  timeline.outbound.filter fun call => call.client = index ∧ before.rounds.length ≤ call.round

theorem account_of_since {moments : List Moment}
    (since : timeline.past = moments ++ before.past) :
    timeline.account before index =
      moments.filterMap (·.eventOf? index before.rounds.length) := by
  have size : timeline.past.length - before.past.length = moments.length := by
    rw [since, List.length_append, Nat.add_sub_cancel]
  rw [account, size, since, List.take_left]

theorem account_of_opening (settings : List Settings) (timer : Timer) (index : Nat) :
    (opening settings timer).account (opening settings) index = [] := rfl

theorem account_opening (timeline : Timeline) (settings : List Settings) (index : Nat) :
    timeline.account (opening settings) index = timeline.past.filterMap (·.eventOf? index 0) :=
  account_of_since (List.append_nil _).symm

theorem mem_account {event : Event} (present : event ∈ timeline.account before index) :
    ∃ moment ∈ timeline.past, moment.client = index ∧ moment.event = event := by
  obtain ⟨moment, inside, same⟩ := List.mem_filterMap.mp present
  refine ⟨moment, List.mem_of_mem_take inside, ?_⟩
  unfold Moment.eventOf? at same
  split at same
  · rename_i own
    split at same
    · split at same <;> cases same
      exact ⟨own, rfl⟩
    · cases same
    · cases same
      exact ⟨own, rfl⟩
  · cases same

theorem account_of_past {moments : List Moment} (index : Nat) (onward : before.Onward timeline)
    (past : later.past = moments ++ timeline.past) :
    later.account before index =
      moments.filterMap (·.eventOf? index before.rounds.length) ++
        timeline.account before index := by
  obtain ⟨earlier, since⟩ := onward.log
  have all : later.past = (moments ++ earlier) ++ before.past := by
    rw [past, since, List.append_assoc]
  rw [account_of_since since, account_of_since all, List.filterMap_append]

/-- What may happen to the account of a client that does nothing. -/
inductive Adds (before : Timeline) (index : Nat) (timeline later : Timeline) : Prop
  | nothing (account : later.account before index = timeline.account before index)
      (pending : (later.pending before index).Perm (timeline.pending before index))
  | arrival (call : Call)
      (account : later.account before index = .arrived call :: timeline.account before index)
      (pending : (timeline.pending before index).Perm (call :: later.pending before index))

theorem account_enact {effect : Effect} {events : List Event} {client : Client}
    (onward : before.Onward timeline) (deeds : ∀ event ∈ events, event.isDeed = true) :
    ((timeline.carry index effect).enact index events client).account before index =
      events.reverse ++ timeline.account before index := by
  have past : ((timeline.carry index effect).enact index events client).past =
      (events.map fun event => (⟨timeline.now, index, event⟩ : Moment)).reverse ++
        timeline.past := by
    simp [enact]
  rw [account_of_past index onward past, List.filterMap_reverse, List.filterMap_map]
  have own : events.filterMap ((·.eventOf? index before.rounds.length) ∘
      fun event => (⟨timeline.now, index, event⟩ : Moment)) = events := by
    have each (event : Event) (present : event ∈ events) :
        ((·.eventOf? index before.rounds.length) ∘
          fun event => (⟨timeline.now, index, event⟩ : Moment)) event = some event := by
      let moment : Moment := ⟨timeline.now, index, event⟩
      have deed : moment.event.isDeed = true := deeds event present
      exact (moment.eventOf?_of_isDeed index before.rounds.length deed).trans (if_pos rfl)
    rw [List.filterMap_congr each, List.filterMap_some]
  rw [own]

theorem account_enact_other {mover : Nat} {effect : Effect} {events : List Event} {client : Client}
    (onward : before.Onward timeline) (other : mover ≠ index) :
    ((timeline.carry mover effect).enact mover events client).account before index =
      timeline.account before index := by
  have past : ((timeline.carry mover effect).enact mover events client).past =
      (events.map fun event => (⟨timeline.now, mover, event⟩ : Moment)).reverse ++
        timeline.past := by
    simp [enact]
  have none : (events.map fun event => (⟨timeline.now, mover, event⟩ : Moment)).reverse.filterMap
      (·.eventOf? index before.rounds.length) = [] := by
    refine List.filterMap_eq_nil_iff.mpr fun moment present => ?_
    obtain ⟨event, _, same⟩ := List.mem_map.mp (List.mem_reverse.mp present)
    subst same
    simp [Moment.eventOf?, other]
  rw [account_of_past index onward past, none, List.nil_append]

theorem pending_volley (index : Nat) (request : Request) (plan : List (Replica × Span))
    (events : List Event) (client : Client) (onward : before.Onward timeline) :
    (((timeline.carry index (.volley request plan)).enact index events client).pending before
      index).Perm (timeline.volleyCalls index request plan ++ timeline.pending before index) := by
  have all : (timeline.volleyCalls index request plan).filter
      (fun call => call.client = index ∧ before.rounds.length ≤ call.round) =
        timeline.volleyCalls index request plan := by
    refine List.filter_eq_self.mpr fun call present => ?_
    obtain ⟨own, opened, _⟩ := mem_volleyCalls present
    have known := onward.rounds
    exact decide_eq_true ⟨own, by omega⟩
  refine (outbound_dispatch.filter _).trans (.of_eq ?_)
  rw [List.filter_append, all]
  rfl

theorem account_of_moment {moment : Moment} (index : Nat) (onward : before.Onward timeline)
    (past : later.past = moment :: timeline.past) :
    later.account before index =
      (moment.eventOf? index before.rounds.length).toList ++ timeline.account before index := by
  have account := account_of_past index onward (List.singleton_append ▸ past)
  rw [account, List.filterMap_cons]
  cases moment.eventOf? index before.rounds.length <;> rfl

theorem Hop.adds (onward : before.Onward timeline) (hop : timeline.Hop world later) :
    Adds before index timeline later := by
  rcases hop.outbound with ⟨time, call, past, out⟩ | ⟨time, call, result, past, out⟩
  · have account := account_of_moment index onward past
    rw [Moment.eventOf?_arrived] at account
    have pending := out.filter fun call =>
      call.client = index ∧ before.rounds.length ≤ call.round
    rw [List.filter_cons] at pending
    by_cases own : call.client = index ∧ before.rounds.length ≤ call.round
    · rw [if_pos own] at account
      rw [if_pos (decide_eq_true own)] at pending
      exact .arrival call account pending
    · rw [if_neg own] at account
      rw [if_neg (by simpa using own)] at pending
      exact .nothing account pending.symm
  · have account := account_of_moment index onward past
    rw [Moment.eventOf?_completed] at account
    refine .nothing account (.of_eq ?_)
    rw [Timeline.pending, Timeline.pending, out]

/-- A client does nothing while time goes on. -/
structure Unmoved (before : Timeline) (index : Nat) (timeline later : Timeline) : Prop where
  client : later.clients[index]? = timeline.clients[index]?
  onward : timeline.Onward later
  adds : Adds before index timeline later

theorem Hop.unmoved (onward : before.Onward timeline) (hop : timeline.Hop world later) :
    Unmoved before index timeline later :=
  ⟨by rw [hop.past.1], hop.onward, hop.adds onward⟩

theorem pending_carry_other {mover : Nat} {effect : Effect} {events : List Event}
    {client : Client} (other : mover ≠ index) :
    (((timeline.carry mover effect).enact mover events client).pending before index).Perm
      (timeline.pending before index) := by
  cases effect with
  | quiet | renewal => exact .refl _
  | volley request plan =>
    have none : (timeline.volleyCalls mover request plan).filter
        (fun call => call.client = index ∧ before.rounds.length ≤ call.round) = [] := by
      refine List.filter_eq_nil_iff.mpr fun call present => ?_
      obtain ⟨own, _⟩ := mem_volleyCalls present
      simp [own, other]
    refine (outbound_dispatch.filter _).trans (.of_eq ?_)
    rw [List.filter_append, none]
    rfl

/-- A client does something, with all that is known of where it does it. -/
structure Does (world : World) (before : Timeline) (index : Nat) (timeline : Timeline)
    (coordinator : Coordinator) (task : Task) (effect : Effect) (events : List Event)
    (client : Client) (later : Timeline) : Prop where
  balanced : timeline.Balanced
  since : before.Onward timeline
  inStep : coordinator.InStep
  engaged : timeline.Engaged index coordinator task
  deed : Deed world timeline coordinator task effect events client
  onward : timeline.Onward later
  form : later = (timeline.carry index effect).enact index events client

section Does

variable {coordinator : Coordinator} {task : Task} {effect : Effect} {events : List Event}
  {client : Client}

theorem Does.account
    (does : Does world before index timeline coordinator task effect events client later) :
    later.account before index = events.reverse ++ timeline.account before index :=
  does.form ▸ account_enact does.since does.deed.isDeed

theorem Does.pending
    (does : Does world before index timeline coordinator task effect events client later)
    (silent : effect = .quiet ∨ effect = .renewal) :
    later.pending before index = timeline.pending before index := by
  rw [does.form]
  rcases silent with same | same
  · rw [same]; rfl
  · rw [same]; rfl

end Does

/-- Either a client does something, or something happens while it does nothing. -/
theorem Reached.cases (reached : timeline.Reached world settings) (onward : before.Onward timeline)
    (moves : timeline.Moves world later) :
    (∃ coordinator task effect events client,
      timeline.clients[index]? = some ⟨coordinator, .busy task⟩ ∧
      later.clients[index]? = some client ∧
      Does world before index timeline coordinator task effect events client later) ∨
    ∃ middle, timeline.Balanced ∧ middle.Balanced ∧ Unmoved before index timeline middle ∧
      Unmoved before index middle later := by
  have balanced := reached.balanced
  have nothing : Unmoved before index timeline timeline := ⟨rfl, .refl _, .nothing rfl (.refl _)⟩
  have forth := moves.onward
  cases moves with
  | client proceeds leads =>
    rename_i mover step
    obtain ⟨coordinator, task, effect, events, client, busy, deed, same⟩ :=
      deed_of_proceed? proceeds leads
    by_cases here : mover = index
    · subst here
      have inside := (List.getElem?_eq_some_iff.mp busy).1
      refine .inl ⟨coordinator, task, effect, events, client, busy, ?_, balanced, onward,
        (reached.scheduled busy).inStep, (reached.engaged busy).2, deed, forth, same⟩
      rw [same]
      simp [enact, inside]
    · refine .inr ⟨timeline, balanced, balanced, nothing, ?_, forth, .nothing ?_ ?_⟩
      · simp only [same, enact, carry_clients, List.getElem?_set_ne here]
      · rw [same]
        exact account_enact_other onward here
      · rw [same]
        exact pending_carry_other here
  | flight fires leads =>
    cases lands_of_fire? fires leads with
    | once hop => exact .inr ⟨timeline, balanced, balanced, nothing, hop.unmoved onward⟩
    | twice hop hop' _ =>
      exact .inr ⟨_, balanced, hop.balanced balanced, hop.unmoved onward,
        hop'.unmoved (onward.trans hop.onward)⟩
  | clock settled time clear =>
    refine .inr ⟨timeline, balanced, balanced, nothing, rfl, forth, .nothing ?_ (.refl _)⟩
    exact account_of_past index onward (List.nil_append _).symm
  | shuffle same inOrder =>
    refine .inr ⟨timeline, balanced, balanced, nothing, rfl, forth, .nothing ?_ ?_⟩
    · exact account_of_past index onward (List.nil_append _).symm
    · exact (same.filterMap _).filter _

theorem Requests.unmoved {mover : Nat} (onward : before.Onward timeline)
    (requests : timeline.Requests mover later) (other : mover ≠ index) :
    Unmoved before index timeline later := by
  refine ⟨requests.client?_other other, requests.onward, ?_⟩
  cases requests with
  | operation free operation argument retries start =>
    obtain ⟨clients, turns, same⟩ := timeline.submit_books mover operation argument retries start
    rw [same]
    apply Adds.nothing
    · exact account_of_past index onward (List.nil_append _).symm
    · exact .refl _
  | delay free qualifier delay =>
    rcases timeline.requestDelay_books mover qualifier delay with same | ⟨clients, same⟩
    · rw [same]
      exact .nothing rfl (.refl _)
    · rw [same]
      apply Adds.nothing
      · have past : { timeline.log mover (.delaySet qualifier delay) with clients }.past =
            ⟨timeline.now, mover, .delaySet qualifier delay⟩ :: timeline.past := rfl
        rw [account_of_moment index onward past]
        simp [Moment.eventOf?, other]
      · exact .refl _

/-- Calls arrive on behalf of the clients that have sent them. -/
def OwnArrivals (moments : List Moment) : Prop :=
  ∀ moment ∈ moments, ∀ call, moment.event = .arrived call → moment.client = call.client

theorem OwnArrivals.append {moments earlier : List Moment} (own : OwnArrivals earlier)
    (news : OwnArrivals moments) : OwnArrivals (moments ++ earlier) :=
  fun moment present => (List.mem_append.mp present).elim (news moment) (own moment)

theorem OwnArrivals.of_silent {moments : List Moment}
    (silent : ∀ moment ∈ moments, ∀ call, moment.event ≠ .arrived call) : OwnArrivals moments :=
  fun moment present call arrived => absurd arrived (silent moment present call)

theorem Hop.ownArrivals (own : OwnArrivals timeline.past) (hop : timeline.Hop world later) :
    OwnArrivals later.past := by
  rcases hop.outbound with ⟨time, call, past, _⟩ | ⟨time, call, result, past, _⟩
  · rw [past]
    refine @OwnArrivals.append [_] _ own fun moment present other arrived => ?_
    cases List.mem_singleton.mp present
    cases arrived
    rfl
  · rw [past]
    exact @OwnArrivals.append [_] _ own (.of_silent (by simp))

theorem Reached.ownArrivals (reached : timeline.Reached world settings) :
    OwnArrivals timeline.past := by
  induction reached with
  | opening => exact fun _ absent => by cases absent
  | moves reached moves ih =>
    cases moves with
    | client proceeds leads =>
      obtain ⟨_, _, effect, events, client, _, deed, same⟩ := deed_of_proceed? proceeds leads
      rw [same, enact, carry_past]
      refine ih.append (.of_silent fun moment present call arrived => ?_)
      obtain ⟨event, inside, same⟩ := List.mem_map.mp (List.mem_reverse.mp present)
      have done := deed.isDeed event inside
      subst same
      rw [show event = .arrived call from arrived] at done
      cases done
    | flight fires leads =>
      cases lands_of_fire? fires leads with
      | once hop => exact hop.ownArrivals ih
      | twice hop hop' _ => exact hop'.ownArrivals (hop.ownArrivals ih)
    | clock => exact ih
    | shuffle => exact ih
  | requests reached requests ih =>
    rename_i timeline later mover
    cases requests with
    | operation free operation argument retries start =>
      obtain ⟨_, _, same⟩ := timeline.submit_books mover operation argument retries start
      rw [same]
      exact ih
    | delay free qualifier delay =>
      rcases timeline.requestDelay_books mover qualifier delay with same | ⟨_, same⟩
      · rw [same]
        exact ih
      · rw [same]
        exact @OwnArrivals.append [_] _ ih (.of_silent (by simp))

theorem Reached.arrived_mem_account (reached : timeline.Reached world settings) {call : Call}
    (arrived : call ∈ timeline.arrivals) :
    .arrived call ∈ timeline.account (Timeline.opening settings) call.client := by
  obtain ⟨⟨time, client, event⟩, inside, same⟩ := List.mem_filterMap.mp arrived
  have event' : event = .arrived call := by
    unfold Moment.arrival? at same
    split at same <;> cases same
    assumption
  have own : client = call.client := reached.ownArrivals _ inside call event'
  subst event'
  subst own
  rw [account_opening]
  refine List.mem_filterMap.mpr ⟨_, inside, ?_⟩
  rw [Moment.eventOf?_arrived, if_pos ⟨rfl, Nat.zero_le _⟩]

end Timeline
end ReplicatedSpace
