import Mathlib.Data.List.Nodup
import Mathlib.Data.List.Pairwise
import ReplicatedSpace.Proofs.Belonging

/-!
Whose number a call carries. Whatever clients do, their calls stay with the attempts that have sent
them; and as the sequencer gives no number twice, the number of an ordered attempt is never that of
another one, of whichever client.
-/
namespace ReplicatedSpace

/-- The number that the sequencer gave, if it did. -/
def Event.obtained? : Event → Option SequenceNumber
  | .next _ (.ok number) => some number
  | _ => none

namespace Timeline

variable {world : World} {settings : List Settings} {before timeline later : Timeline}
  {index : Nat} {coordinator : Coordinator} {task : Task} {effect : Effect}
  {events : List Event} {client : Client} {place : Nat → Nat}

theorem mem_sent {call : Call}
    (sent : Sent (timeline.account before index) (timeline.pending before index) call) :
    call ∈ timeline.sent := by
  rcases sent with arrived | pending
  · obtain ⟨moment, inside, _, same⟩ := mem_account arrived
    exact List.mem_append_right _ (List.mem_filterMap.mpr ⟨moment, inside, by
      rw [Moment.arrival?, same]⟩)
  · exact List.mem_append_left _ (List.mem_filter.mp pending).1

/-- When a client does something, no call is pending with a number: if it has sent calls, its
attempt has its verdict, and at an ordered operation it has waited for all of them. -/
theorem Does.plain
    (numbering : Numbering (timeline.account before index) (timeline.pending before index) place
      (.busy task))
    (does : Does world before index timeline coordinator task effect events client later) :
    ∀ call ∈ timeline.pending before index, call.request.number? = none := by
  intro call present
  by_contra carries
  obtain ⟨_, waiting, expected, busy, stage⟩ := numbering.awaited call present carries
  cases busy
  obtain ⟨_, collector, result, opened, verdict, _⟩ := does.deed.of_collecting stage
  have engaged := does.engaged
  rw [Engaged, stage] at engaged
  have flying : call ∈ timeline.outbound := (List.mem_filter.mp present).1
  have sent : call ∈ timeline.sentIn call.round :=
    List.mem_filter.mpr ⟨List.mem_append_left _ flying, decide_eq_true rfl⟩
  have fits := (engaged.own call sent).2
  cases ordered : task.attempt.operation.isOrdered with
  | false => exact carries (fits.number?_eq_none ordered)
  | true =>
    have late := Operation.ne_read_of_isOrdered ordered
    have all := Awaits.underWay_eq_nil does.balanced engaged opened verdict (.inl late)
    have out : call ∈ timeline.underWay call.round :=
      List.mem_filter.mpr ⟨List.mem_append_left _ flying, decide_eq_true rfl⟩
    rw [all] at out
    cases out

/-- A client that sends calls sends them in a new round, and with the number that it has. -/
theorem Does.numbering_of_sends {request : Request} {plan : List (Replica × Span)} {expected : Nat}
    (numbering : Numbering (timeline.account before index) (timeline.pending before index) place
      (.busy task))
    (does : Does world before index timeline coordinator task (.volley request plan) [] client
      later)
    (sends : coordinator.Sends task request plan expected) :
    Numbering (later.account before index) (later.pending before index)
      (Function.update place timeline.rounds.length
        ((attemptsOf (timeline.account before index)).length - 1))
      (.busy { task with stage := .collecting timeline.rounds.length expected }) := by
  have account : later.account before index = timeline.account before index := does.account
  have pending : (later.pending before index).Perm
      (timeline.volleyCalls index request plan ++ timeline.pending before index) := by
    rw [does.form]
    exact pending_volley index request plan [] client does.since
  have plain := Does.plain numbering does
  obtain ⟨trail, rest, unsent, asked, obtains⟩ := (numbering.stands task rfl).unsent sends
  obtain ⟨_, _, fits⟩ := sends.replicas does.inStep does.engaged.isOrdered
  rw [account]
  have length : (attemptsOf (timeline.account before index)).length = rest.length + 1 := by
    rw [unsent.attempts, List.length_cons]
  rw [length, Nat.add_sub_cancel]
  refine ⟨?_, ?_, ?_⟩
  · refine numbering.belong.send unsent.attempts unsent.asked ?_ ?_ pending
    · intro call sent
      have opened := does.balanced.opened call (mem_sent sent)
      exact ⟨unsent.older call sent, Nat.ne_of_lt opened⟩
    · intro call present
      obtain ⟨_, own, same⟩ := mem_volleyCalls present
      exact ⟨own, same ▸ fits, same ▸ obtains⟩
  · intro call present carries
    rcases List.mem_append.mp (pending.subset present) with new | old
    · have own := (mem_volleyCalls new).2.1
      rw [own, Function.update_self]
      exact ⟨length.symm, _, _, rfl, rfl⟩
    · exact absurd (plain call old) carries
  · intro other busy
    cases busy
    exact asked

/-- Whatever a client does, its calls belong to its attempts. -/
theorem Does.numbering
    (numbering : Numbering (timeline.account before index) (timeline.pending before index) place
      (.busy task))
    (does : Does world before index timeline coordinator task effect events client later) :
    ∃ place', Numbering (later.account before index) (later.pending before index) place'
      client.activity := by
  have account := does.account
  have belong := numbering.belong
  have stands := numbering.stands task rfl
  unfold Task.Stands at stands
  have plain := Does.plain numbering does
  have deed := does.deed
  cases deed with
  | refused | astray =>
    rw [account, does.pending (.inl rfl)]
    exact ⟨place, .of_plain (belong.aside (by simp [Event.isAside])) plain
      fun _ busy => by cases busy⟩
  | began stage accepted =>
    rw [account, does.pending (.inl rfl)]
    refine ⟨place, .of_plain (belong.aside (by simp [Event.isAside])) plain fun next busy => ?_⟩
    cases busy
    exact rfl
  | known stage known =>
    rw [stage] at stands
    rw [account, does.pending (.inl rfl)]
    refine ⟨place, .of_plain (belong.attempt _) plain fun next busy => ?_⟩
    cases busy
    exact ⟨stands, _, _, .begun belong stands _, rfl⟩
  | found stage unknown admitted some =>
    rename_i replicas
    rw [stage] at stands
    rw [account, does.pending (.inl rfl)]
    let news : List Event :=
      [.discovered replicas, .lookup coordinator.service coordinator.qualifier]
    have within : ∀ event ∈ news, event.isWithin = true := by simp [news, Event.isWithin]
    have aside : ∀ event ∈ news, event.isAside = true := by simp [news, Event.isAside]
    have begun := belong.attempt task.attempt.ordinal
    refine ⟨place, .of_plain (begun.aside aside) plain fun next busy => ?_⟩
    cases busy
    have unsent := Unsent.begun belong stands task.attempt.ordinal
    exact ⟨(asked?_append _ within).trans stands, _, _,
      unsent.extend within (sent_of_append (by simp [news])), rfl⟩
  | lost stage unknown admitted cause ends =>
    rename_i answer error events
    rw [stage] at stands
    let asks : Event := .lookup coordinator.service coordinator.qualifier
    have same : (.attempt task.attempt.ordinal :: asks :: events).reverse ++
        timeline.account before index = events.reverse ++
          ([asks] ++ .attempt task.attempt.ordinal :: timeline.account before index) := by simp
    have begun := belong.attempt task.attempt.ordinal
    have aside : ∀ event ∈ [asks], event.isAside = true := by simp [asks, Event.isAside]
    rw [account, does.pending (.inl rfl), same]
    exact ⟨place, .concludes (begun.aside aside) plain stands ends⟩
  | numbered stage ordered admitted =>
    rename_i number
    rw [stage] at stands
    obtain ⟨asked, trail, rest, unsent, none⟩ := stands
    let news : List Event := [.next coordinator.handle (.ok number)]
    have within : ∀ event ∈ news, event.isWithin = true := by simp [news, Event.isWithin]
    have quiet (call : Call) : .arrived call ∉ news := by simp [news]
    rw [account, does.pending (.inl rfl)]
    refine ⟨place, .of_plain (unsent.belong belong within quiet) plain fun next busy => ?_⟩
    cases busy
    exact ⟨(asked?_append _ within).trans asked, _, _,
      unsent.extend within (sent_of_append quiet), unsent.obtained belong none ..⟩
  | unnumbered stage ordered admitted =>
    rename_i error
    rw [stage] at stands
    obtain ⟨_, trail, rest, unsent, _⟩ := stands
    rw [account, does.pending (.inr rfl)]
    exact ⟨place, .of_plain (unsent.belong belong (by simp [Event.isWithin]) (by simp)) plain
      fun _ busy => by cases busy⟩
  | sent sends => exact ⟨_, does.numbering_of_sends numbering sends⟩
  | decided stage opened verdict ends =>
    rw [stage] at stands
    rw [account, does.pending (.inl rfl)]
    exact ⟨place, .concludes belong plain stands ends⟩

theorem Unmoved.numbering {activity : Activity}
    (numbering : Numbering (timeline.account before index) (timeline.pending before index) place
      activity) (unmoved : Unmoved before index timeline later) :
    Numbering (later.account before index) (later.pending before index) place activity := by
  cases unmoved.adds with
  | nothing account pending =>
    rw [account]
    exact numbering.perm pending
  | arrival call account taken =>
    rw [account]
    exact numbering.arrival taken

theorem Requests.account (onward : before.Onward timeline)
    (requests : timeline.Requests index later) :
    (∃ news, later.account before index = news ++ timeline.account before index ∧
        ∀ event ∈ news, event.isAside = true) ∧
      later.pending before index = timeline.pending before index := by
  cases requests with
  | operation free operation argument retries start =>
    obtain ⟨clients, turns, same⟩ := timeline.submit_books index operation argument retries start
    rw [same]
    exact ⟨⟨[], account_of_past index onward (List.nil_append _).symm, by simp⟩, rfl⟩
  | delay free qualifier delay =>
    rcases timeline.requestDelay_books index qualifier delay with same | ⟨clients, same⟩
    · rw [same]
      exact ⟨⟨[], rfl, by simp⟩, rfl⟩
    · rw [same]
      have past : { timeline.log index (.delaySet qualifier delay) with clients }.past =
          ⟨timeline.now, index, .delaySet qualifier delay⟩ :: timeline.past := rfl
      refine ⟨⟨[.delaySet qualifier delay], ?_, by simp [Event.isAside]⟩, rfl⟩
      rw [account_of_moment index onward past]
      simp [Moment.eventOf?]

/-- What a client is at. One that does not exist is at nothing. -/
def activity (timeline : Timeline) (index : Nat) : Activity :=
  timeline.clients[index]?.elim .idle Client.activity

theorem activity_of_found (found : timeline.clients[index]? = some client) :
    timeline.activity index = client.activity := by
  rw [activity, found]
  rfl

theorem found_of_activity (busy : timeline.activity index = .busy task) :
    ∃ coordinator, timeline.clients[index]? = some ⟨coordinator, .busy task⟩ := by
  unfold activity at busy
  cases found : timeline.clients[index]? with
  | none =>
    rw [found] at busy
    cases busy
  | some client =>
    rw [found] at busy
    obtain ⟨coordinator, current⟩ := client
    have same : current = .busy task := busy
    subst same
    exact ⟨coordinator, rfl⟩

theorem Requests.numbering (onward : before.Onward timeline)
    (numbering : Numbering (timeline.account before index) (timeline.pending before index) place
      (timeline.activity index))
    (requests : timeline.Requests index later) :
    Numbering (later.account before index) (later.pending before index) place
      (later.activity index) := by
  obtain ⟨⟨news, account, aside⟩, pending⟩ := requests.account onward
  have free : timeline.Free index := by cases requests <;> assumption
  have plain := numbering.plain fun task busy => by
    obtain ⟨_, found⟩ := found_of_activity busy
    cases free _ found
  rw [account, pending]
  apply Numbering.of_plain (numbering.belong.aside aside) plain
  intro task busy
  obtain ⟨_, found⟩ := found_of_activity busy
  rcases requests.client? found with same | ⟨_, earlier, _, idle, ⟨_, started⟩ | kept⟩
  · cases free _ same
  · obtain ⟨_, _, _, _, started⟩ := started
    cases started
    trivial
  · rw [Client.isBusy, ← kept] at idle
    cases idle

/-- Wherever clients have come to, their calls belong to their attempts. -/
theorem Reached.numbering (reached : timeline.Reached world settings) (index : Nat) :
    ∃ place, Numbering (timeline.account (Timeline.opening settings) index)
      (timeline.pending (Timeline.opening settings) index) place (timeline.activity index) := by
  induction reached with
  | opening =>
    refine ⟨fun _ => 0, ?_⟩
    rw [account_of_opening]
    apply Numbering.of_plain (.nothing _) (fun _ absent => by cases absent)
    intro task busy
    obtain ⟨_, found⟩ := found_of_activity busy
    simp [Timeline.opening] at found
  | moves reached moves ih =>
    obtain ⟨place, numbering⟩ := ih
    rcases reached.cases reached.onward moves with
      ⟨coordinator, task, effect, events, client, busy, found, does⟩ |
      ⟨middle, _, _, unmoved, unmoved'⟩
    · rw [activity_of_found busy] at numbering
      rw [activity_of_found found]
      exact Does.numbering numbering does
    · have numbering' := Unmoved.numbering (Unmoved.numbering numbering unmoved) unmoved'
      refine ⟨place, ?_⟩
      rw [activity, unmoved'.client, unmoved.client]
      exact numbering'
  | requests reached requests ih =>
    rename_i mover
    obtain ⟨place, numbering⟩ := ih
    refine ⟨place, ?_⟩
    by_cases own : mover = index
    · subst own
      exact requests.numbering reached.onward numbering
    · have unmoved := requests.unmoved reached.onward own
      rw [activity, unmoved.client]
      exact Unmoved.numbering numbering unmoved

/-- The numbers that the sequencer has given, to whichever client, the latest first. -/
def obtained (timeline : Timeline) : List SequenceNumber :=
  timeline.past.filterMap (·.event.obtained?)

/-- All attempts of a client, the earliest first. -/
def attempts (timeline : Timeline) (settings : List Settings) (index : Nat) : List Trail :=
  (attemptsOf (timeline.account (opening settings) index)).reverse

variable {trail trail' : Trail} {number : SequenceNumber}

theorem obtained_of_mem_answers {position : Nat}
    (found : (timeline.attempts settings index)[position]? = some trail)
    (answer : .ok number ∈ trail.answers) :
    ∃ moment ∈ timeline.past, moment.client = index ∧ moment.event.obtained? = some number := by
  obtain ⟨handle, present⟩ := Trail.mem_answers.mp answer
  obtain ⟨moment, inside, own, same⟩ := mem_account (mem_of_getElem?_attemptsOf found present)
  exact ⟨moment, inside, own, by rw [same]; rfl⟩

theorem obtained_account (timeline : Timeline) (settings : List Settings) (index : Nat) :
    ((timeline.account (opening settings) index).filterMap Event.obtained?).Sublist
      timeline.obtained := by
  have each (moment : Moment) (_ : moment ∈ timeline.past) :
      (moment.eventOf? index 0).bind Event.obtained? =
        if moment.client = index then moment.event.obtained? else none := by
    unfold Moment.eventOf?
    split
    · cases moment.event <;> simp [Event.obtained?]
    · rfl
  have filtered : timeline.past.filterMap
      (fun moment => if moment.client = index then moment.event.obtained? else none) =
        (timeline.past.filter (·.client = index)).filterMap (·.event.obtained?) := by
    rw [List.filterMap_filter]
    simp
  rw [account_opening, List.filterMap_filterMap, List.filterMap_congr each, filtered]
  exact List.filter_sublist.filterMap _

theorem attempts_apart (distinct : timeline.obtained.Nodup) (settings : List Settings)
    (index : Nat) (number : SequenceNumber) :
    (timeline.attempts settings index).Pairwise fun earlier later =>
      .ok number ∈ earlier.answers → .ok number ∉ later.answers := by
  obtain ⟨preface, split, _⟩ := attemptsOf_flatten (timeline.account (opening settings) index)
  have own := distinct.sublist (timeline.obtained_account settings index)
  rw [split, List.filterMap_append, List.filterMap_flatMap] at own
  have disjoint := (List.nodup_flatMap.mp own.of_append_left).2
  refine List.pairwise_reverse.mpr (disjoint.imp fun apart answer' answer => ?_)
  have listed {trail : Trail} (answer : .ok number ∈ trail.answers) :
      number ∈ trail.events.filterMap Event.obtained? := by
    obtain ⟨_, present⟩ := Trail.mem_answers.mp answer
    exact List.mem_filterMap.mpr ⟨_, present, rfl⟩
  exact apart (listed answer) (listed answer')

theorem client_of_obtained (distinct : timeline.obtained.Nodup) {moment moment' : Moment}
    (present : moment ∈ timeline.past) (given : moment.event.obtained? = some number)
    (present' : moment' ∈ timeline.past) (given' : moment'.event.obtained? = some number) :
    moment.client = moment'.client := by
  have apart : timeline.past.Pairwise fun first second =>
      ¬ (first.event.obtained? = some number ∧ second.event.obtained? = some number) :=
    (List.pairwise_filterMap.mp distinct).imp fun other ⟨first, second⟩ =>
      other _ first _ second rfl
  have symmetric : Std.Symm fun first second : Moment =>
      ¬ (first.event.obtained? = some number ∧ second.event.obtained? = some number) :=
    ⟨fun _ _ apart both => apart both.symm⟩
  by_contra other
  have different : moment ≠ moment' := fun same => other (congrArg Moment.client same)
  exact apart.forall present present' different ⟨given, given'⟩

theorem place_of_answer (distinct : timeline.obtained.Nodup) {index' position position' : Nat}
    (found : (timeline.attempts settings index)[position]? = some trail)
    (answer : .ok number ∈ trail.answers)
    (found' : (timeline.attempts settings index')[position']? = some trail')
    (answer' : .ok number ∈ trail'.answers) : index = index' ∧ position = position' := by
  obtain ⟨moment, present, own, given⟩ := obtained_of_mem_answers found answer
  obtain ⟨moment', present', own', given'⟩ := obtained_of_mem_answers found' answer'
  have same : index = index' :=
    own.symm.trans ((client_of_obtained distinct present given present' given').trans own')
  subst same
  refine ⟨rfl, ?_⟩
  have apart := List.pairwise_iff_getElem.mp (attempts_apart distinct settings index number)
  obtain ⟨inside, same⟩ := List.getElem?_eq_some_iff.mp found
  obtain ⟨inside', same'⟩ := List.getElem?_eq_some_iff.mp found'
  rcases Nat.lt_trichotomy position position' with before | together | after
  · have once := apart position position' inside inside' before
    rw [same, same'] at once
    exact absurd answer' (once answer)
  · exact together
  · have once := apart position' position inside' inside after
    rw [same, same'] at once
    exact absurd answer (once answer')

theorem Reached.sent (reached : timeline.Reached world settings) {call : Call}
    (sent : call ∈ timeline.sent) :
    Sent (timeline.account (Timeline.opening settings) call.client)
      (timeline.pending (Timeline.opening settings) call.client) call := by
  rcases List.mem_append.mp sent with out | arrived
  · exact .inr (List.mem_filter.mpr ⟨out, decide_eq_true ⟨rfl, Nat.zero_le _⟩⟩)
  · exact .inl (reached.arrived_mem_account arrived)

/-- Numbers tell attempts apart, as long as the sequencer gives ever greater ones to whoever asks.
Every call belongs to an attempt of its client, which is told by the round of the call and sends no
other round. Calls of an ordered attempt carry its operation and argument with the one number that
it has obtained, before any of them arrived; they arrive before the client begins another attempt,
and no other attempt ever obtains that number or sends calls with it. All other calls carry none. -/
theorem numbers_identify_attempts (reached : timeline.Reached world settings)
    (increasing : timeline.obtained.Pairwise fun later earlier => earlier.value < later.value) :
    ∃ place : Nat → Nat → Nat,
      (∀ call ∈ timeline.sent, ∃ trail operation argument,
        (timeline.attempts settings call.client)[place call.client call.round]? = some trail ∧
        trail.asked = some (operation, argument) ∧ call.request.Fits operation argument ∧
        (operation.isOrdered = false → call.request.number? = none) ∧
        (operation.isOrdered = true → ∃ number, call.request.operation = operation ∧
          call.request.argument? = some argument ∧ call.request.number? = some number ∧
          trail.Obtained number ∧ (call ∈ timeline.arrivals → call ∈ trail.calls) ∧
          ∀ index position other, (timeline.attempts settings index)[position]? = some other →
            call ∈ other.calls ∨ .ok number ∈ other.answers →
            index = call.client ∧ position = place call.client call.round)) ∧
      (∀ call ∈ timeline.sent, ∀ call' ∈ timeline.sent, call.client = call'.client →
        place call.client call.round = place call'.client call'.round →
        call.round = call'.round) ∧
      ∀ call ∈ timeline.sent, ∀ call' ∈ timeline.sent, ∀ number,
        call.request.number? = some number → call'.request.number? = some number →
        call.client = call'.client ∧
          place call.client call.round = place call'.client call'.round := by
  have distinct : timeline.obtained.Nodup := increasing.imp fun less same => by
    rw [same] at less
    exact UInt64.lt_irrefl _ less
  choose place numbering using reached.numbering
  refine ⟨place, ?_, ?_, ?_⟩
  · intro call sent
    have belong := (numbering call.client).belong
    obtain ⟨trail, operation, argument, found, asked, fits, numbered⟩ :=
      belong.sent call (reached.sent sent)
    refine ⟨trail, operation, argument, found, asked, fits, fits.number?_eq_none, ?_⟩
    intro ordered
    obtain ⟨number, carries⟩ := fits.exists_number ordered
    obtain ⟨obtained, inside⟩ := numbered number carries
    refine ⟨number, fits.operation, fits.argument_of_isOrdered ordered, carries, obtained,
      fun arrived => inside (reached.arrived_mem_account arrived), ?_⟩
    rintro index position other found' (present | answer)
    · have arrived := mem_of_getElem?_attemptsOf found' (Trail.mem_calls.mp present)
      obtain ⟨moment, inside, here, event⟩ := mem_account arrived
      have own := here.symm.trans (reached.ownArrivals moment inside call event)
      subst own
      have carried : call.request.number? ≠ none := carries ▸ Option.some_ne_none number
      exact ⟨rfl, (belong.within position other found' call present carried).symm⟩
    · have given : .ok number ∈ trail.answers := obtained.answers ▸ List.mem_singleton.mpr rfl
      exact place_of_answer distinct found' answer found given
  · intro call sent call' sent' own together
    have told := reached.sent sent
    have told' := reached.sent sent'
    rw [← own] at told' together
    exact (numbering call.client).belong.apart call told call' told' together
  · intro call sent call' sent' number carries carries'
    obtain ⟨trail, _, _, found, _, _, numbered⟩ :=
      (numbering call.client).belong.sent call (reached.sent sent)
    obtain ⟨trail', _, _, found', _, _, numbered'⟩ :=
      (numbering call'.client).belong.sent call' (reached.sent sent')
    have given : .ok number ∈ trail.answers :=
      (numbered number carries).1.answers ▸ List.mem_singleton.mpr rfl
    have given' : .ok number ∈ trail'.answers :=
      (numbered' number carries').1.answers ▸ List.mem_singleton.mpr rfl
    exact place_of_answer distinct found given found' given'

/-- Of two clients the second one is given its number first. -/
theorem put_carries_later_number : ∃ (timeline : Timeline) (call : Call) (position : Nat)
    (trail : Trail), timeline.Reached .any [.standard, .standard] ∧
      timeline.obtained = [⟨8⟩, ⟨7⟩] ∧ call ∈ timeline.sent ∧ call.request = .put "<a>" ⟨8⟩ ∧
      (timeline.attempts [.standard, .standard] 0)[position]? = some trail ∧
      trail.Obtained ⟨8⟩ := by
  have put : Reached .any [.standard, .standard] _ := Reached.opening.requests
    (.operation (fun _ found => by cases found; rfl) .put "<a>" 1 0 : Requests 0 _ _)
  have take := put.requests
    (.operation (fun _ found => by cases found; rfl) .take "<b>" 1 0 : Requests 1 _ _)
  have begun := (take.goes (rfl : proceed? _ 0 = _)).goes (rfl : proceed? _ 1 = _)
  have known := begun.learns (rfl : proceed? _ 0 = some (.asks (.lookup _ _) _))
    (.ok [⟨"a:1", "A"⟩]) trivial
  have known' := known.learns (rfl : proceed? _ 1 = some (.asks (.lookup _ _) _))
    (.ok [⟨"a:1", "A"⟩]) trivial
  have first := known'.learns (rfl : proceed? _ 1 = some (.asks (.next _) _)) (.ok ⟨7⟩) trivial
  have second := first.learns (rfl : proceed? _ 0 = some (.asks (.next _) _)) (.ok ⟨8⟩) trivial
  have sent := second.goes (rfl : proceed? _ 0 = _)
  let call : Call := ⟨0, 0, 0, ⟨"a:1", "A"⟩, .put "<a>" ⟨8⟩⟩
  obtain ⟨timeline, reached, given, only⟩ : ∃ timeline : Timeline,
      timeline.Reached .any [.standard, .standard] ∧ timeline.obtained = [⟨8⟩, ⟨7⟩] ∧
        timeline.sent = [call] := ⟨_, sent, by decide +kernel, by decide +kernel⟩
  have listed : call ∈ timeline.sent := only ▸ List.mem_singleton.mpr rfl
  have increasing : timeline.obtained.Pairwise fun later earlier =>
      earlier.value < later.value := by
    rw [given]
    decide
  obtain ⟨place, belongs, _⟩ := numbers_identify_attempts reached increasing
  obtain ⟨trail, operation, argument, found, _, _, none, numbered⟩ := belongs call listed
  cases ordered : operation.isOrdered with
  | false => cases none ordered
  | true =>
    obtain ⟨number, _, _, carries, obtained, _⟩ := numbered ordered
    cases carries
    exact ⟨timeline, call, _, trail, reached, given, listed, rfl, found, obtained⟩

end Timeline
end ReplicatedSpace
