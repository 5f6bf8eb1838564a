import ReplicatedSpace.Proofs.Likeness
import ReplicatedSpace.Proofs.Reading

/-!
A reader that has its answer leaves calls behind. Nobody waits for their round any more, so what
they come to, and when, makes no difference to anything that happens from then on.
-/
namespace ReplicatedSpace

/-- The environment with a reply of its own to each call. -/
def Environment.withReplies {σ : Type} (environment : Environment σ) (replies : Replies) :
    Environment σ
  | state, .arrival call => (replies call, state)
  | state, .lookup service qualifier => environment state (.lookup service qualifier)
  | state, .next handle => environment state (.next handle)

namespace Timeline

variable {world : World} {settings : List Settings} {timeline other later sent : Timeline}
  {index round : Nat} {coordinator : Coordinator} {task : Task} {replies replies' : Replies}
  {hides : Call → Bool} {σ : Type} {environment environment' : Environment σ}

theorem AgreeBut.withReplies (environment : Environment σ)
    (same : ∀ call, hides call = false → replies' call = replies call) :
    AgreeBut hides (environment.withReplies replies) (environment.withReplies replies') where
  others state question seen := by
    cases question with
    | arrival call => exact congrArg (·, state) (same call (seen call rfl)).symm
    | lookup service qualifier => rfl
    | next handle => rfl
  states state call := rfl

theorem outline_submit (timeline : Timeline) (index : Nat) (operation : Operation)
    (argument : String) (retries : UInt32) (start : Nat) :
    (timeline.submit index operation argument retries start).outline hides =
      (timeline.outline hides).submit index operation argument retries start := by
  cases found : timeline.clients[index]? with
  | none =>
    have found' : (timeline.outline hides).clients[index]? = none := found
    simp only [submit, found, found']
  | some client =>
    have found' : (timeline.outline hides).clients[index]? = some client := found
    simp only [submit, found, found']
    rfl

theorem outline_requestDelay (timeline : Timeline) (index : Nat) (qualifier : String)
    (delay : Span) : (timeline.requestDelay index qualifier delay).outline hides =
      (timeline.outline hides).requestDelay index qualifier delay := by
  cases found : timeline.clients[index]? with
  | none =>
    have found' : (timeline.outline hides).clients[index]? = none := found
    simp only [requestDelay, setDelay, found, found']
  | some client =>
    have found' : (timeline.outline hides).clients[index]? = some client := found
    simp only [requestDelay, setDelay, found, found']
    cases client.coordinator.setDelay qualifier delay with
    | error error => rfl
    | ok changed =>
      have logged : (timeline.log index (.delaySet qualifier delay)).hush hides =
          (timeline.hush hides).log index (.delaySet qualifier delay) := hush_log rfl
      exact congrArg (fun told => (told.setClient index ⟨changed, client.activity⟩).calm) logged

/-- Nobody waits for the round any more. -/
structure Left (round : Nat) (timeline : Timeline) : Prop where
  opened : round < timeline.rounds.length
  nobody {index other expected : Nat} {coordinator : Coordinator} {task : Task}
    (found : timeline.clients[index]? = some ⟨coordinator, .busy task⟩)
    (stage : task.stage = .collecting other expected) : other ≠ round

theorem Deed.collecting {effect : Effect} {events : List Event} {client : Client} {next : Task}
    {other expected : Nat} (deed : Deed world timeline coordinator task effect events client)
    (busy : client.activity = .busy next) (stage : next.stage = .collecting other expected) :
    other = timeline.rounds.length := by
  cases deed with
  | sent =>
    cases busy
    cases stage
    rfl
  | lost _ _ _ _ ends | decided _ _ _ ends =>
    cases ends with
    | final | spent => cases busy
    | again =>
      cases busy
      cases stage
  | refused | unnumbered | astray => cases busy
  | began | known | found | numbered =>
    cases busy
    cases stage

theorem Left.happens (left : timeline.Left round) (happens : timeline.Happens world later) :
    later.Left round := by
  have onward : timeline.Onward later := Future.onward (.single happens)
  refine ⟨Nat.lt_of_lt_of_le left.opened onward.rounds, ?_⟩
  intro index other expected coordinator task found stage
  rcases happens.cases with moves | ⟨mover, requests⟩
  · rcases moves.client? found with same | ⟨_, _, _, _, _, deed, _⟩
    · exact left.nobody same stage
    · rw [deed.collecting rfl stage]
      exact Nat.ne_of_gt left.opened
  · rcases requests.client? found with same | ⟨_, earlier, _, free, ⟨_, started⟩ | kept⟩
    · exact left.nobody same stage
    · obtain ⟨_, _, _, _, started⟩ := started
      cases started
      cases stage
    · rw [Client.isBusy, ← kept] at free
      cases free

theorem Left.future (left : timeline.Left round) (future : timeline.Future world later) :
    later.Left round := by
  induction future with
  | refl => exact left
  | tail _ happens ih => exact ih.happens happens

theorem Left.sealed (left : timeline.Left round)
    (own : ∀ call, hides call = true → call.round = round) : timeline.Sealed hides := by
  intro index coordinator task other expected found stage back present
  apply Bool.eq_false_iff.mpr
  intro hidden
  have same : back.call.round = other := of_decide_eq_true (List.mem_filter.mp present).2
  exact left.nobody found stage (same.symm.trans (own back.call hidden))

/-- A timeline in which the round is left. -/
def Leaves (settings : List Settings) (round : Nat) (timeline : Timeline) : Prop :=
  timeline.Reached .any settings ∧ timeline.Left round

theorem Leaves.future (leaves : timeline.Leaves settings round)
    (future : timeline.Future .any later) : later.Leaves settings round :=
  ⟨leaves.1.future future, leaves.2.future future⟩

theorem keeps_any (environment : Environment σ) : environment.Keeps .any :=
  fun _ _ => trivial

theorem Alike.outline (alike : Alike hides timeline other)
    (rests : ∀ (index : Nat) (client : Client), timeline.clients[index]? = some client →
      client.isBusy = false) : timeline.outline hides = other.outline hides := by
  rcases alike with same | ⟨busy, _⟩
  · exact same
  · obtain ⟨client, present, busy⟩ := List.any_eq_true.mp busy
    obtain ⟨index, found⟩ := List.getElem?_of_mem present
    rw [rests index client found] at busy
    cases busy

/-- Two places at which the round is left and what is seen makes the same difference. -/
structure Level (hides : Call → Bool) (settings : List Settings) (round : Nat)
    (place place' : Timeline × σ) : Prop where
  leaves : place.1.Leaves settings round
  leaves' : place'.1.Leaves settings round
  outline : place.1.outline hides = place'.1.outline hides
  state : place.2 = place'.2

section Acts

variable (own : ∀ call, hides call = true → call.round = round)
  (agree : AgreeBut hides environment environment') {place place' seen : Timeline × σ}

include own

theorem Leaves.guards {next : Timeline → Option Step} (environment : Environment σ)
    (leads : ∀ timeline step later, timeline.Balanced → next timeline = some step →
      step.Leads .any later → timeline.Future .any later) :
    Guards hides next environment (Leaves settings round) where
  balanced leaves := leaves.1.balanced
  sealed leaves := leaves.2.sealed own
  step state leaves steps := leaves.future (leads _ _ _ leaves.1.balanced steps
    (Step.leads_resolve (keeps_any environment) state _))

theorem Leaves.guards_run (environment : Environment σ) :
    Guards hides step? environment (Leaves settings round) :=
  guards own environment fun _ _ _ balanced steps leads => balanced.future_of_step? steps leads

theorem Leaves.guards_pause (environment : Environment σ) (time : Nat) :
    Guards hides (fireBy? time) environment (Leaves settings round) := by
  apply guards own environment
  intro timeline step later _ steps leads
  unfold fireBy? at steps
  split at steps
  · exact .single (.flight steps leads)
  · cases steps

include agree

/-- What a user does is done alike. -/
theorem Level.perform (level : Level hides settings round place place') (act : Act) :
    Level hides settings round (Timeline.perform environment place act)
      (Timeline.perform environment' place' act) := by
  obtain ⟨timeline, state⟩ := place
  obtain ⟨other, state'⟩ := place'
  obtain ⟨leaves, leaves', same, states⟩ := level
  dsimp only at leaves leaves' same states
  subst states
  have busy (index : Nat) : timeline.isBusyAt index = other.isBusyAt index := by
    unfold isBusyAt
    rw [clients_of_sight (sight_of_outline same)]
  suffices both :
      (Timeline.perform environment (timeline, state) act).1.outline hides =
          (Timeline.perform environment' (other, state) act).1.outline hides ∧
        (Timeline.perform environment (timeline, state) act).2 =
          (Timeline.perform environment' (other, state) act).2 from
    ⟨leaves.future (leaves.1.perform_future (keeps_any environment) state act),
      leaves'.future (leaves'.1.perform_future (keeps_any environment') state act), both.1, both.2⟩
  cases act with
  | operation index operation argument retries start =>
    refine ⟨?_, rfl⟩
    dsimp only [Timeline.perform]
    rw [busy]
    split
    · exact same
    · rw [outline_submit, outline_submit, same]
  | delay index qualifier delay =>
    refine ⟨?_, rfl⟩
    dsimp only [Timeline.perform]
    rw [busy]
    split
    · exact same
    · rw [outline_requestDelay, outline_requestDelay, same]
  | run =>
    obtain ⟨_, _, alike, states⟩ := (Leaves.guards_run own environment).run agree
      (Leaves.guards_run own environment') leaves leaves' (.inl same) state
    refine ⟨alike.outline ?_, states⟩
    intro index client found
    exact leaves.1.run_isBusy (keeps_any environment) state found
  | pause millis =>
    exact (Leaves.guards_pause own environment _).elapse agree
      (Leaves.guards_pause own environment' _) leaves leaves' same state

theorem Level.performAll (level : Level hides settings round place place') (acts : List Act) :
    Level hides settings round (Timeline.performAll environment place acts)
      (Timeline.performAll environment' place' acts) := by
  induction acts generalizing place place' with
  | nil => exact level
  | cons act rest ih => exact ih (Level.perform own agree level act)

/-- Whatever one passes on the way, the other passes something that looks like it. -/
theorem Level.sees {acts : List Act} (level : Level hides settings round place place')
    (sees : Sees environment acts place seen) :
    ∃ seen', Sees environment' acts place' seen' ∧
      seen.1.sight hides = seen'.1.sight hides ∧ seen.2 = seen'.2 := by
  induction sees generalizing place' with
  | here acts place =>
    exact ⟨place', .here acts place', sight_of_outline level.outline, level.state⟩
  | running passes =>
    rename_i place seen
    obtain ⟨seen', passes', ⟨_, _, alike⟩, states⟩ :=
      ((Leaves.guards_run own environment).keepPace_run agree
        (Leaves.guards_run own environment')).passes ends_step?
          ⟨level.leaves, level.leaves', .inl level.outline⟩ passes
    refine ⟨seen', .running ?_, alike.sight, states⟩
    rw [level.state] at passes'
    exact passes'
  | pausing passes =>
    rename_i millis _ place seen
    obtain ⟨seen', passes', ⟨_, _, sight⟩, states⟩ :=
      ((Leaves.guards_pause own environment _).keepPace_pause agree
        (Leaves.guards_pause own environment' _)).passes (ends_fireBy? _)
          ⟨level.leaves, level.leaves', sight_of_outline level.outline⟩ passes
    refine ⟨seen', .pausing ?_, sight, states⟩
    rw [level.state, now_of_outline level.outline] at passes'
    exact passes'
  | later sees ih =>
    obtain ⟨seen', sees', both⟩ := ih (Level.perform own agree level _)
    exact ⟨seen', .later sees', both⟩

end Acts

/-- Calls that are not seen to come back do so later than some success. -/
def Outrun (hides : Call → Bool) (sent : Timeline) (replies : Replies) (round : Nat) : Prop :=
  ∀ back ∈ sent.outlook replies round, hides back.call = true →
    ∃ other ∈ sent.outlook replies round, other.Succeeds ∧ other.time < back.time

/-- The reader waits for its calls, and no success has been back for any time; or it has left. -/
def Attends (settings : List Settings) (sent : Timeline) (index : Nat) (coordinator : Coordinator)
    (task : Task) (replies : Replies) (round : Nat) (timeline : Timeline) : Prop :=
  Underway settings sent index coordinator task replies round timeline ∧
      Prompt sent replies round timeline ∨
    timeline.Leaves settings round

theorem Underway.sealed
    (underway : Underway settings sent index coordinator task replies round timeline)
    (prompt : Prompt sent replies round timeline) (outrun : Outrun hides sent replies round)
    (own : ∀ call, hides call = true → call.round = round) : timeline.Sealed hides := by
  intro _ _ _ other _ _ _ back present
  apply Bool.eq_false_iff.mpr
  intro hidden
  obtain ⟨inside, _⟩ := List.mem_filter.mp present
  have known : back ∈ sent.outlook replies round := by
    apply underway.outlook.subset
    apply List.mem_filter.mpr
    exact ⟨List.mem_append_right _ inside, decide_eq_true (own back.call hidden)⟩
  obtain ⟨first, among, succeeds, before⟩ := outrun back known hidden
  have late := prompt first among succeeds
  have early := underway.reached.balanced.elapsed back inside
  omega

/-- Once the attempt is decided, nobody waits for its calls. -/
theorem Underway.left {expected : Nat}
    (underway : Underway settings sent index coordinator task replies round timeline)
    (stage : task.stage = .collecting round expected)
    (decides : Decides index coordinator task round expected timeline later)
    (reached : later.Reached .any settings) (onward : timeline.Onward later) :
    later.Left round := by
  have awaits := underway.awaits stage
  refine ⟨Nat.lt_of_lt_of_le awaits.opened onward.rounds, ?_⟩
  intro index' other expected' coordinator' task' found stage' same
  subst same
  have engaged := (reached.engaged found).2
  rw [Engaged, stage'] at engaged
  -- Whoever waits for these calls has sent them.
  have some : timeline.sentIn other ≠ [] := by
    intro none
    have count := awaits.count
    have positive := awaits.positive
    rw [none, List.length_nil] at count
    omega
  obtain ⟨call, present⟩ := List.exists_mem_of_ne_nil _ some
  have mine := (awaits.own call present).1
  have yours := (engaged.own call ((onward.sentIn awaits.opened).symm.subset present)).1
  have here : index' = index := yours.symm.trans mine
  subst here
  obtain ⟨_, _, _, client, _, _, ends, _, clients⟩ := decides
  have inside := (List.getElem?_eq_some_iff.mp underway.found).1
  rw [clients, List.getElem?_set_self inside] at found
  cases found
  cases ends
  cases stage'

theorem Attends.guards {expected : Nat} (own : ∀ call, hides call = true → call.round = round)
    (outrun : Outrun hides sent replies round) (stage : task.stage = .collecting round expected)
    (read : task.attempt.operation = .read) (environment : Environment σ) :
    Guards hides step? (environment.withReplies replies)
      (Attends settings sent index coordinator task replies round) where
  balanced attends := by
    rcases attends with ⟨underway, _⟩ | leaves
    · exact underway.reached.balanced
    · exact leaves.1.balanced
  sealed attends := by
    rcases attends with ⟨underway, prompt⟩ | leaves
    · exact underway.sealed prompt outrun own
    · exact leaves.2.sealed own
  step state attends steps := by
    rename_i timeline step
    rcases attends with ⟨underway, prompt⟩ | leaves
    · have balanced := underway.reached.balanced
      have leads := Step.leads_resolve (environment.withReplies replies).keeps_answers state step
      have prompt' := prompt.step underway stage read steps leads
      rcases step?_cases steps with ⟨fires, cause⟩ | ⟨mover, time, proceeds, onward, cause⟩
      · left
        refine ⟨underway.fire stage ?_ fires leads cause, prompt'⟩
        exact Environment.faithful_answers _ fun _ _ _ => rfl
      · rcases underway.client stage proceeds leads onward cause with still | decides
        · exact .inl ⟨still, prompt'⟩
        · right
          have any := Step.leads_resolve (keeps_any (environment.withReplies replies)) state step
          have future := balanced.future_of_step? steps any
          have reached := underway.reached.future future
          exact ⟨reached, underway.left stage decides reached future.onward⟩
    · exact .inr ((Leaves.guards_run own _).step state leaves steps)

theorem Attends.leaves
    (attends : Attends settings sent index coordinator task replies round timeline)
    (rests : ∀ (index : Nat) (client : Client), timeline.clients[index]? = some client →
      client.isBusy = false) : timeline.Leaves settings round := by
  rcases attends with ⟨underway, _⟩ | leaves
  · have busy := rests index _ underway.found
    cases busy
  · exact leaves

theorem decision?_filter (hides : Call → Bool) (moments : List Moment) :
    (moments.filter fun moment => !moment.isHidden hides).findSome? (·.decision? index) =
      moments.findSome? (·.decision? index) := by
  induction moments with
  | nil => rfl
  | cons moment rest ih =>
    rw [List.filter_cons, List.findSome?_cons]
    cases hidden : moment.isHidden hides with
    | false =>
      rw [Bool.not_false, if_pos rfl, List.findSome?_cons, ih]
    | true =>
      have silent : moment.decision? index = none := by
        unfold Moment.isHidden at hidden
        unfold Moment.decision?
        split at hidden
        · rename_i call result event
          simp [event]
        · cases hidden
      rw [Bool.not_true, if_neg (by decide), ih, silent]

theorem decision?_of_sight (same : timeline.sight hides = other.sight hides)
    (log : ∃ moments, timeline.past = moments ++ sent.past)
    (log' : ∃ moments, other.past = moments ++ sent.past) (index : Nat) :
    timeline.decision? sent index = other.decision? sent index := by
  obtain ⟨moments, past⟩ := log
  obtain ⟨moments', past'⟩ := log'
  have shown := past_of_sight same
  rw [past, past', List.filter_append, List.filter_append] at shown
  have shown := List.append_cancel_right shown
  rw [decision?, decision?, since_of_past past, since_of_past past',
    ← decision?_filter hides moments.reverse, ← decision?_filter hides moments'.reverse,
    List.filter_reverse, List.filter_reverse, shown]

theorem Outrun.of_volley {flights : List Flight} {flight : Flight} {time : Nat}
    (perm : (sent.outlook replies round).Perm (flights.map (·.outlook replies)))
    (present : flight ∈ flights) (succeeds : (flight.outlook replies).Succeeds)
    (first : (flight.outlook replies).time = time)
    (late : ∀ flight ∈ flights, hides flight.call = true → time < (flight.outlook replies).time) :
    Outrun hides sent replies round := by
  intro back among hidden
  obtain ⟨straggler, inside, same⟩ := List.mem_map.mp (perm.subset among)
  subst same
  rw [Flight.call_outlook] at hidden
  refine ⟨flight.outlook replies, perm.symm.subset (List.mem_map_of_mem present), succeeds, ?_⟩
  rw [first]
  exact late straggler inside hidden

/-- A reader has just sent its calls, and those that are not seen to come back will be outrun. -/
structure Waits (hides : Call → Bool) (settings : List Settings) (sent : Timeline) (index : Nat)
    (coordinator : Coordinator) (task : Task) (replies : Replies) (round : Nat) : Prop where
  underway : Underway settings sent index coordinator task replies round sent
  prompt : Prompt sent replies round sent
  outrun : Outrun hides sent replies round

section Waits

variable {expected : Nat} (own : ∀ call, hides call = true → call.round = round)
  (stage : task.stage = .collecting round expected) (read : task.attempt.operation = .read)
  (waits : Waits hides settings sent index coordinator task replies round)
  (waits' : Waits hides settings sent index coordinator task replies' round)
  (same : ∀ call, hides call = false → replies' call = replies call)

include own stage read

theorem Waits.guards (waits : Waits hides settings sent index coordinator task replies round)
    (environment : Environment σ) : Guards hides step? (environment.withReplies replies)
      (Attends settings sent index coordinator task replies round) :=
  Attends.guards own waits.outrun stage read environment

include waits waits' same

theorem Waits.run (environment : Environment σ) (state : σ) :
    Level hides settings round (sent.run (environment.withReplies replies) state)
      (sent.run (environment.withReplies replies') state) := by
  have rests (replies : Replies) (index : Nat) (client : Client) (found :
      (sent.run (environment.withReplies replies) state).1.clients[index]? = some client) :
        client.isBusy = false :=
    waits.underway.reached.run_isBusy (keeps_any _) state found
  have agree := AgreeBut.withReplies environment same
  obtain ⟨attends, attends', alike, states⟩ := (waits.guards own stage read environment).run agree
    (waits'.guards own stage read environment) (.inl ⟨waits.underway, waits.prompt⟩)
    (.inl ⟨waits'.underway, waits'.prompt⟩) (.inl rfl) state
  exact ⟨attends.leaves (rests replies), attends'.leaves (rests replies'),
    alike.outline (rests replies), states⟩

theorem Waits.sees (environment : Environment σ) (state : σ) {acts : List Act}
    {seen : Timeline × σ}
    (sees : Sees (environment.withReplies replies) (.run :: acts) (sent, state) seen) :
    ∃ seen', Sees (environment.withReplies replies') (.run :: acts) (sent, state) seen' ∧
      seen.1.sight hides = seen'.1.sight hides ∧ seen.2 = seen'.2 := by
  have agree := AgreeBut.withReplies environment same
  cases sees with
  | here => exact ⟨(sent, state), .here .., rfl, rfl⟩
  | running passes =>
    obtain ⟨seen', passes', ⟨_, _, alike⟩, states⟩ :=
      ((waits.guards own stage read environment).keepPace_run agree
        (waits'.guards own stage read environment)).passes ends_step?
          ⟨.inl ⟨waits.underway, waits.prompt⟩, .inl ⟨waits'.underway, waits'.prompt⟩, .inl rfl⟩
            passes
    exact ⟨seen', .running passes', alike.sight, states⟩
  | later sees =>
    have level := Waits.run own stage read waits waits' same environment state
    obtain ⟨seen', sees', both⟩ := level.sees own agree sees
    exact ⟨seen', .later sees', both⟩

end Waits

/-- All that happened, but for the returns of some calls. -/
def pastWithout (calls : List Call) (timeline : Timeline) : List Moment :=
  timeline.past.filter fun moment => !moment.isHidden fun call => decide (call ∈ calls)

/-- An attempt to read, from where it sends its calls, with the reply to every call given. Suppose
it succeeds, and some of its calls are back only later. Give other replies to these, which come
later than the success too: the attempt ends as it did; and whatever users do from then on, at the
end and at every moment before, all clients know the same, and all that has happened is the same but
for how and when those calls came back. -/
theorem stragglers_have_no_effect {environment : Environment σ} {stragglers : List Call}
    {time : Nat} {outcome : Outcome} (reached : timeline.Reached world settings)
    (found : timeline.clients[index]? = some ⟨coordinator, .busy task⟩)
    (stage : task.stage = .ready) (read : task.attempt.operation = .read)
    (sends : timeline.proceed? index = some (.moved sent)) (state : σ)
    (decided : (sent.run (environment.withReplies replies) state).1.decision? sent index =
      some (time, .ok outcome))
    (own : ∀ call ∈ stragglers,
      call ∈ timeline.volleyCalls index (.read task.attempt.argument) coordinator.plan)
    (late : ∀ flight ∈ timeline.volley index (.read task.attempt.argument) coordinator.plan,
      flight.call ∈ stragglers →
        time < (flight.outlook replies).time ∧ time < (flight.outlook replies').time)
    (same : ∀ call, call ∉ stragglers → replies' call = replies call) :
    let first := environment.withReplies replies
    let second := environment.withReplies replies'
    (sent.run second state).1.decision? sent index = some (time, .ok outcome) ∧
    (∀ acts,
      let last := performAll first (sent, state) (.run :: acts)
      let last' := performAll second (sent, state) (.run :: acts)
      last'.1.clients = last.1.clients ∧ last'.2 = last.2 ∧ last'.1.now = last.1.now ∧
        last'.1.pastWithout stragglers = last.1.pastWithout stragglers) ∧
    ∀ acts seen, Sees first (.run :: acts) (sent, state) seen →
      ∃ seen', Sees second (.run :: acts) (sent, state) seen' ∧
        seen'.1.clients = seen.1.clients ∧ seen'.2 = seen.2 ∧
        seen'.1.pastWithout stragglers = seen.1.pastWithout stragglers := by
  intro first second
  let round := timeline.rounds.length
  let sending : Task := { task with stage := .collecting round coordinator.replicas.size }
  have waiting : sending.stage = .collecting round coordinator.replicas.size := rfl
  have reading : sending.attempt.operation = .read := read
  let hides : Call → Bool := fun call => decide (call ∈ stragglers)
  have ownRound (call : Call) (hidden : hides call = true) : call.round = round :=
    (mem_volleyCalls (own call (of_decide_eq_true hidden))).2.1
  have sameBut (call : Call) (seen : hides call = false) : replies' call = replies call :=
    same call (of_decide_eq_false seen)
  obtain ⟨_, _, outlook, underway, prompt⟩ := reached.underway_read found stage read sends replies
  obtain ⟨_, _, outlook', underway', prompt'⟩ :=
    reached.underway_read found stage read sends replies'
  have faithful (state : σ) (call : Call) (_ : call.round = round) :
      (first state (.arrival call)).1 = replies call := rfl
  obtain ⟨time', result, decision, verdict⟩ :=
    underway.reads prompt waiting reading outlook faithful state
  cases decided.symm.trans decision
  rcases verdict with ⟨back, present, _, success, instant, _⟩ | ⟨_, _, _, _, _, _, _, failed⟩
  · obtain ⟨flight, inside, answer⟩ := List.mem_map.mp present
    subst answer
    -- The first success is not one of the calls that are left behind.
    have other : flight.call ∉ stragglers := by
      intro behind
      have after := (late flight inside behind).1
      omega
    have kept : flight.outlook replies' = flight.outlook replies := by
      unfold Flight.outlook
      rw [same flight.call other]
    have waits : Waits hides settings sent index coordinator sending replies round :=
      ⟨underway, prompt, .of_volley outlook inside ⟨_, success⟩ instant
        fun flight inside hidden => (late flight inside (of_decide_eq_true hidden)).1⟩
    have waits' : Waits hides settings sent index coordinator sending replies' round :=
      ⟨underway', prompt', .of_volley outlook' inside (kept ▸ ⟨_, success⟩) (kept ▸ instant)
        fun flight inside hidden => (late flight inside (of_decide_eq_true hidden)).2⟩
    have level := Waits.run ownRound waiting reading waits waits' sameBut environment state
    have agree := AgreeBut.withReplies environment sameBut
    have grows (replies : Replies) : ∃ moments,
        (sent.run (environment.withReplies replies) state).1.past = moments ++ sent.past :=
      (Future.onward (underway.reached.run_future (keeps_any _) state)).log
    refine ⟨?_, ?_, ?_⟩
    · have decisions := decision?_of_sight (sight_of_outline level.outline) (grows replies)
        (grows replies') index
      exact decisions.symm.trans decided
    · intro acts last last'
      have levels := Level.performAll ownRound agree level acts
      have sights := sight_of_outline levels.outline
      exact ⟨(clients_of_sight sights).symm, levels.state.symm,
        (now_of_outline levels.outline).symm, (past_of_sight sights).symm⟩
    · intro acts seen sees
      obtain ⟨seen', sees', sights, states⟩ :=
        Waits.sees ownRound waiting reading waits waits' sameBut environment state sees
      exact ⟨seen', sees', (clients_of_sight sights).symm, states.symm, (past_of_sight sights).symm⟩
  · cases failed

/-- Of two replicas the first one answers at once. That the other one crashes later on, instead of
answering, is without effect. -/
theorem late_crash_changes_nothing :
    let call : Call := ⟨1, 0, 0, ⟨"b:1", "B"⟩, .read "<a>"⟩
    let answered : Replies := fun call => ReplyLine.plain.reply call.request
    let crashed : Replies := fun other =>
      if other = call then (ReplyLine.mk 90 (some "lost") none none []).reply other.request
      else answered other
    let environment : Environment Unit := .fixed (.ok []) (.ok ⟨1⟩) answered
    ∃ timeline sent : Timeline, timeline.Reached .any [.standard] ∧
      timeline.proceed? 0 = some (.moved sent) ∧
      (sent.run (environment.withReplies crashed) ()).1.decision? sent 0 =
        some (0, .ok (.tuple "<a>")) ∧
      ∀ acts, (performAll (environment.withReplies crashed) (sent, ()) (.run :: acts)).1.clients =
        (performAll (environment.withReplies answered) (sent, ()) (.run :: acts)).1.clients := by
  intro call answered crashed environment
  have idle : (opening [.standard]).Free 0 := fun client found => by cases found; rfl
  have asked : Reached .any [.standard] _ :=
    Reached.opening.requests (.operation idle .read "<a>" 1 0)
  have begun := asked.goes (rfl : proceed? _ 0 = _)
  have known := begun.learns (rfl : proceed? _ 0 = some (.asks (.lookup _ _) _))
    (.ok [⟨"a:1", "A"⟩, ⟨"b:1", "B"⟩]) trivial
  let coordinator := (Coordinator.ofSettings .standard).install [⟨"a:1", "A"⟩, ⟨"b:1", "B"⟩]
  have plan : coordinator.plan = [(⟨"a:1", "A"⟩, .zero), (⟨"b:1", "B"⟩, .ofMillis 1000)] := by
    decide +kernel
  let task : Task := ⟨⟨.read, "<a>", 1⟩, 1, .ready⟩
  let other : Call := ⟨0, 0, 0, ⟨"a:1", "A"⟩, .read "<a>"⟩
  obtain ⟨timeline, sent, reached, found, sends, volley⟩ : ∃ timeline sent : Timeline,
      timeline.Reached .any [.standard] ∧
      timeline.clients[0]? = some ⟨coordinator, .busy task⟩ ∧
      timeline.proceed? 0 = some (.moved sent) ∧
      timeline.volley 0 (.read "<a>") coordinator.plan =
        [⟨0, other, .outbound⟩, ⟨1000, call, .outbound⟩] := by
    refine ⟨_, _, known, rfl, rfl, ?_⟩
    rw [plan]
    rfl
  have faithful (state : Unit) (call : Call) (_ : call.round = timeline.rounds.length) :
      (environment.withReplies answered state (.arrival call)).1 = answered call := rfl
  obtain ⟨_, _, outlook, underway, prompt⟩ := reached.underway_read found rfl rfl sends answered
  obtain ⟨time, result, decision, verdict⟩ :=
    underway.reads prompt rfl rfl outlook faithful ()
  rw [volley] at verdict
  have backs : List.map (Flight.outlook answered)
      [⟨0, other, .outbound⟩, ⟨1000, call, .outbound⟩] =
        [⟨0, other, .ok (.tuple "<a>")⟩, ⟨1000, call, .ok (.tuple "<a>")⟩] := rfl
  rw [backs] at verdict
  have decided : (sent.run (environment.withReplies answered) ()).1.decision? sent 0 =
      some (0, .ok (.tuple "<a>")) := by
    rw [decision]
    rcases verdict with ⟨back, present, outcome, success, instant, least, same⟩ | ⟨failed, _⟩
    · have early : back.time ≤ 0 := least _ List.mem_cons_self ⟨_, rfl⟩
      subst same
      subst instant
      rcases List.mem_cons.mp present with one | present
      · subst one
        cases success
        rfl
      · cases List.mem_singleton.mp present
        cases early
    · exact absurd ⟨_, rfl⟩ (failed _ List.mem_cons_self).1
  obtain ⟨outcome, onward, _⟩ :=
    @stragglers_have_no_effect _ _ _ _ 0 _ _ answered crashed _ environment [call] 0
      (.tuple "<a>") reached found rfl rfl sends () decided
        (by
          rw [volleyCalls, volley]
          exact fun call present => .tail _ present)
        (by
          rw [volley]
          intro flight present behind
          rcases List.mem_cons.mp present with one | present
          · subst one
            exact absurd (List.mem_singleton.mp behind) (by simp [other, call])
          · cases List.mem_singleton.mp present
            decide)
        (by
          intro call absent
          exact if_neg fun same => absent (List.mem_singleton.mpr same))
  exact ⟨timeline, sent, reached, sends, outcome, fun acts => (onward acts).1⟩

end Timeline
end ReplicatedSpace
