import ReplicatedSpace.Proofs.Account

/-!
Which attempt a call belongs to. An attempt is told by the round of its calls, as it sends no more
than one. If they carry a number, it has got that from the sequencer itself and before, and they
arrive while the attempt waits for them. Here this is said of the account of one client and of its
calls that are pending, whatever keeps them.
-/
namespace ReplicatedSpace

namespace Trail

variable {trail : Trail} {number : SequenceNumber} {news : List Event}

theorem mem_calls {call : Call} : call ∈ trail.calls ↔ .arrived call ∈ trail.events := by
  constructor
  · intro present
    obtain ⟨event, inside, same⟩ := List.mem_filterMap.mp present
    split at same
    · cases same
      exact inside
    · cases same
  · intro present
    exact List.mem_filterMap.mpr ⟨_, present, rfl⟩

theorem mem_answers {answer : Except Error SequenceNumber} :
    answer ∈ trail.answers ↔ ∃ handle, .next handle answer ∈ trail.events := by
  constructor
  · intro present
    obtain ⟨event, inside, same⟩ := List.mem_filterMap.mp present
    split at same
    · cases same
      exact ⟨_, inside⟩
    · cases same
  · rintro ⟨handle, present⟩
    exact List.mem_filterMap.mpr ⟨_, present, rfl⟩

/-- An attempt has asked the sequencer just once and got that number, before any call that carries
one arrived. -/
structure Obtained (trail : Trail) (number : SequenceNumber) : Prop where
  answers : trail.answers = [.ok number]
  before : ∃ handle later earlier, trail.events = later ++ .next handle (.ok number) :: earlier ∧
    ∀ call, .arrived call ∈ earlier → call.request.number? = none

theorem Obtained.extend (obtained : trail.Obtained number)
    (silent : ∀ handle answer, .next handle answer ∉ news) :
    (trail.extend news).Obtained number where
  answers := by
    have none : (⟨trail.asked, news⟩ : Trail).answers = [] := by
      refine List.eq_nil_iff_forall_not_mem.mpr fun answer present => ?_
      obtain ⟨handle, inside⟩ := mem_answers.mp present
      exact silent handle answer inside
    have all : (trail.extend news).answers =
        (⟨trail.asked, news⟩ : Trail).answers ++ trail.answers := List.filterMap_append
    rw [all, none, obtained.answers]
    rfl
  before := by
    obtain ⟨handle, later, earlier, split, plain⟩ := obtained.before
    exact ⟨handle, news ++ later, earlier, by simp [Trail.extend, split], plain⟩

end Trail

section Attempts

variable {news events : List Event} {place : Nat} {trail : Trail}

theorem getElem?_attemptsOf_append (ordinary : ∀ event ∈ news, event.isAttempt = false) :
    (attemptsOf (news ++ events)).reverse[place]? =
      (attemptsOf events).reverse[place]?.map fun trail =>
        if place + 1 = (attemptsOf events).length then trail.extend news else trail := by
  rw [attemptsOf_append events ordinary]
  cases attemptsOf events with
  | nil => rfl
  | cons latest rest =>
    rw [List.modifyHead_cons, List.reverse_cons, List.reverse_cons, List.getElem?_append,
      List.getElem?_append, List.length_reverse]
    by_cases older : place < rest.length
    · have other : place ≠ rest.length := Nat.ne_of_lt older
      simp [older, other]
    · rw [if_neg older, if_neg older]
      cases gap : place - rest.length with
      | zero =>
        have same : place + 1 = (latest :: rest).length := by
          rw [List.length_cons]
          omega
        simp [same]
      | succ gap => rfl

theorem length_attemptsOf_append (ordinary : ∀ event ∈ news, event.isAttempt = false) :
    (attemptsOf (news ++ events)).length = (attemptsOf events).length := by
  rw [attemptsOf_append events ordinary, List.length_modifyHead]

theorem mem_of_getElem?_attemptsOf {event : Event}
    (found : (attemptsOf events).reverse[place]? = some trail) (present : event ∈ trail.events) :
    event ∈ events := by
  obtain ⟨preface, split, _⟩ := attemptsOf_flatten events
  have listed : trail ∈ attemptsOf events := List.mem_reverse.mp (List.mem_of_getElem? found)
  rw [split]
  exact List.mem_append_left _ (List.mem_flatMap.mpr ⟨trail, listed, present⟩)

end Attempts

/-- A call that has arrived or is pending. -/
def Sent (events : List Event) (pending : List Call) (call : Call) : Prop :=
  .arrived call ∈ events ∨ call ∈ pending

/-- How calls belong to attempts, which are told by the rounds of the calls: an attempt sends calls
of one round that fit its operation. If they carry a number, the attempt has obtained it, and they
arrive before the next attempt begins. -/
structure Belong (events : List Event) (pending : List Call) (place : Nat → Nat) : Prop where
  sent : ∀ call, Sent events pending call → ∃ trail operation argument,
    (attemptsOf events).reverse[place call.round]? = some trail ∧
    trail.asked = some (operation, argument) ∧ call.request.Fits operation argument ∧
    ∀ number, call.request.number? = some number →
      trail.Obtained number ∧ (.arrived call ∈ events → call ∈ trail.calls)
  apart : ∀ call, Sent events pending call → ∀ call', Sent events pending call' →
    place call.round = place call'.round → call.round = call'.round
  within : ∀ other trail, (attemptsOf events).reverse[other]? = some trail →
    ∀ call ∈ trail.calls, call.request.number? ≠ none → place call.round = other

section Belong

variable {events news : List Event} {pending pending' : List Call} {place : Nat → Nat}

theorem Belong.nothing (place : Nat → Nat) : Belong [] [] place where
  sent _ sent := by rcases sent with absent | absent <;> cases absent
  apart _ sent := by rcases sent with absent | absent <;> cases absent
  within _ _ found := by cases found

/-- No call ever moves to another attempt. The sequencer must not be asked by an attempt that has
sent its calls, and calls with a number must arrive in time. -/
theorem Belong.extend (belong : Belong events pending place)
    (ordinary : ∀ event ∈ news, event.isAttempt = false)
    (silent : (∀ handle answer, .next handle answer ∉ news) ∨
      ∀ call, Sent events pending call → place call.round + 1 ≠ (attemptsOf events).length)
    (inTime : ∀ call, .arrived call ∈ news → call.request.number? ≠ none →
      place call.round + 1 = (attemptsOf events).length)
    (same : ∀ call, Sent (news ++ events) pending' call → Sent events pending call) :
    Belong (news ++ events) pending' place where
  sent call sent := by
    obtain ⟨trail, operation, argument, found, asked, fits, numbered⟩ :=
      belong.sent call (same call sent)
    by_cases latest : place call.round + 1 = (attemptsOf events).length
    · refine ⟨trail.extend news, operation, argument, ?_, asked, fits, ?_⟩
      · rw [getElem?_attemptsOf_append ordinary, found, Option.map_some, if_pos latest]
      · intro number carries
        have quiet : ∀ handle answer, .next handle answer ∉ news :=
          silent.resolve_right fun older => older call (same call sent) latest
        obtain ⟨obtained, arrives⟩ := numbered number carries
        refine ⟨obtained.extend quiet, ?_⟩
        intro arrived
        apply Trail.mem_calls.mpr
        rcases List.mem_append.mp arrived with new | old
        · exact List.mem_append_left _ new
        · exact List.mem_append_right _ (Trail.mem_calls.mp (arrives old))
    · refine ⟨trail, operation, argument, ?_, asked, fits, ?_⟩
      · rw [getElem?_attemptsOf_append ordinary, found, Option.map_some, if_neg latest]
      · intro number carries
        obtain ⟨obtained, arrives⟩ := numbered number carries
        refine ⟨obtained, ?_⟩
        intro arrived
        rcases List.mem_append.mp arrived with new | old
        · have carried : call.request.number? ≠ none := carries ▸ Option.some_ne_none number
          exact absurd (inTime call new carried) latest
        · exact arrives old
  apart call sent call' sent' := belong.apart call (same call sent) call' (same call' sent')
  within other trail found call present carries := by
    rw [getElem?_attemptsOf_append ordinary] at found
    obtain ⟨earlier, found', extended⟩ := Option.map_eq_some_iff.mp found
    by_cases latest : other + 1 = (attemptsOf events).length
    · rw [if_pos latest] at extended
      subst extended
      rcases List.mem_append.mp (Trail.mem_calls.mp present) with new | old
      · have same := inTime call new carries
        omega
      · exact belong.within other earlier found' call (Trail.mem_calls.mpr old) carries
    · rw [if_neg latest] at extended
      subst extended
      exact belong.within other earlier found' call present carries

/-- An attempt that begins has no calls. -/
theorem Belong.attempt (belong : Belong events pending place) (ordinal : UInt32) :
    Belong (.attempt ordinal :: events) pending place := by
  have same (call : Call) (sent : Sent (.attempt ordinal :: events) pending call) :
      Sent events pending call := by
    rcases sent with arrived | pending
    · rcases List.mem_cons.mp arrived with other | arrived
      · cases other
      · exact .inl arrived
    · exact .inr pending
  refine ⟨?_, ?_, ?_⟩
  · intro call sent
    obtain ⟨trail, operation, argument, found, asked, fits, numbered⟩ :=
      belong.sent call (same call sent)
    refine ⟨trail, operation, argument, ?_, asked, fits, ?_⟩
    · rw [attemptsOf_attempt, List.reverse_cons, List.getElem?_append_left
        (List.getElem?_eq_some_iff.mp found).1]
      exact found
    · intro number carries
      obtain ⟨obtained, arrives⟩ := numbered number carries
      refine ⟨obtained, ?_⟩
      intro arrived
      rcases List.mem_cons.mp arrived with other | arrived
      · cases other
      · exact arrives arrived
  · intro call sent call' sent'
    exact belong.apart call (same call sent) call' (same call' sent')
  · intro other trail found call present carries
    rw [attemptsOf_attempt, List.reverse_cons, List.getElem?_append] at found
    split at found
    · exact belong.within other trail found call present carries
    · have fresh : trail = ⟨asked? events, [.attempt ordinal]⟩ := by
        cases gap : other - (attemptsOf events).reverse.length with
        | zero =>
          rw [gap] at found
          exact (Option.some.inj found).symm
        | succ gap =>
          rw [gap] at found
          cases found
      subst fresh
      rcases List.mem_singleton.mp (Trail.mem_calls.mp present)

/-- The latest attempt sends its calls, all in a new round. -/
theorem Belong.send {trail : Trail} {rest : List Trail} {operation : Operation}
    {argument : String} {round : Nat} {calls : List Call} (belong : Belong events pending place)
    (attempts : attemptsOf events = trail :: rest)
    (asked : trail.asked = some (operation, argument))
    (older : ∀ call, Sent events pending call →
      place call.round < rest.length ∧ call.round ≠ round)
    (fits : ∀ call ∈ calls, call.round = round ∧ call.request.Fits operation argument ∧
      ∀ number, call.request.number? = some number → trail.Obtained number)
    (same : pending'.Perm (calls ++ pending)) :
    Belong events pending' (Function.update place round rest.length) := by
  have either (call : Call) (sent : Sent events pending' call) :
      call ∈ calls ∨ Sent events pending call := by
    rcases sent with arrived | sent
    · exact .inr (.inl arrived)
    · rcases List.mem_append.mp (same.subset sent) with new | old
      · exact .inl new
      · exact .inr (.inr old)
  have new (call : Call) (present : call ∈ calls) :
      Function.update place round rest.length call.round = rest.length := by
    rw [(fits call present).1, Function.update_self]
  have old (call : Call) (sent : Sent events pending call) :
      Function.update place round rest.length call.round = place call.round :=
    Function.update_of_ne (older call sent).2 ..
  refine ⟨?_, ?_, ?_⟩
  · intro call sent
    rcases either call sent with present | sent
    · obtain ⟨own, fits, obtains⟩ := fits call present
      refine ⟨trail, operation, argument, ?_, asked, fits, fun number carries =>
        ⟨obtains number carries, fun arrived => absurd own (older call (.inl arrived)).2⟩⟩
      rw [new call present, attempts, List.reverse_cons, List.getElem?_append_right (by simp)]
      simp
    · rw [old call sent]
      exact belong.sent call sent
  · intro call sent call' sent' together
    rcases either call sent with present | sent <;> rcases either call' sent' with present' | sent'
    · rw [(fits call present).1, (fits call' present').1]
    · rw [new call present, old call' sent'] at together
      have before := (older call' sent').1
      omega
    · rw [old call sent, new call' present'] at together
      have before := (older call sent).1
      omega
    · rw [old call sent, old call' sent'] at together
      exact belong.apart call sent call' sent' together
  · intro other trail' found call present carries
    have arrived := mem_of_getElem?_attemptsOf found (Trail.mem_calls.mp present)
    rw [old call (.inl arrived)]
    exact belong.within other trail' found call present carries

end Belong

/-- The latest attempt has sent nothing yet. -/
structure Unsent (events : List Event) (pending : List Call) (place : Nat → Nat)
    (attempt : Attempt) (trail : Trail) (rest : List Trail) : Prop where
  attempts : attemptsOf events = trail :: rest
  asked : trail.asked = some (attempt.operation, attempt.argument)
  older : ∀ call, Sent events pending call → place call.round < rest.length

/-- What a task has come to, stage by stage. Its number is the one that its attempt obtained. -/
def Task.Stands (task : Task) (events : List Event) (pending : List Call) (place : Nat → Nat) :
    Prop :=
  match task.stage with
  | .waiting _ => True
  | .discovering | .collecting .. =>
    asked? events = some (task.attempt.operation, task.attempt.argument)
  | .ready =>
    asked? events = some (task.attempt.operation, task.attempt.argument) ∧
      ∃ trail rest, Unsent events pending place task.attempt trail rest ∧ trail.answers = []
  | .sending number =>
    asked? events = some (task.attempt.operation, task.attempt.argument) ∧
      ∃ trail rest, Unsent events pending place task.attempt trail rest ∧ trail.Obtained number

/-- A client whose calls belong to its attempts. Calls with a number are waited for by the attempt
that has sent them, as long as they are pending. -/
structure Numbering (events : List Event) (pending : List Call) (place : Nat → Nat)
    (activity : Activity) : Prop where
  belong : Belong events pending place
  awaited : ∀ call ∈ pending, call.request.number? ≠ none →
    place call.round + 1 = (attemptsOf events).length ∧
      ∃ task expected, activity = .busy task ∧ task.stage = .collecting call.round expected
  stands : ∀ task, activity = .busy task → task.Stands events pending place

section Numbering

variable {events news : List Event} {pending pending' : List Call} {place : Nat → Nat}
  {activity : Activity} {task : Task} {attempt : Attempt} {trail : Trail} {rest : List Trail}

theorem Unsent.extend (unsent : Unsent events pending place attempt trail rest)
    (within : ∀ event ∈ news, event.isWithin = true)
    (same : ∀ call, Sent (news ++ events) pending' call → Sent events pending call) :
    Unsent (news ++ events) pending' place attempt (trail.extend news) rest where
  attempts := by
    rw [attemptsOf_append events fun event present =>
      Event.isAttempt_of_isWithin (within event present), unsent.attempts]
    rfl
  asked := unsent.asked
  older call sent := unsent.older call (same call sent)

/-- A task is not touched by what happens beside it. -/
theorem Task.Stands.extend (stands : task.Stands events pending place)
    (within : ∀ event ∈ news, event.isWithin = true)
    (silent : ∀ handle answer, .next handle answer ∉ news)
    (same : ∀ call, Sent (news ++ events) pending' call → Sent events pending call) :
    task.Stands (news ++ events) pending' place := by
  have asked := asked?_append events within
  unfold Task.Stands at stands ⊢
  cases stage : task.stage with
  | waiting start => trivial
  | discovering | collecting =>
    rw [stage] at stands
    exact asked.trans stands
  | ready =>
    rw [stage] at stands
    obtain ⟨before, trail, rest, unsent, none⟩ := stands
    refine ⟨asked.trans before, trail.extend news, rest, unsent.extend within same, ?_⟩
    refine List.eq_nil_iff_forall_not_mem.mpr fun answer present => ?_
    obtain ⟨handle, inside⟩ := Trail.mem_answers.mp present
    rcases List.mem_append.mp inside with new | old
    · exact silent handle answer new
    · have answered := Trail.mem_answers.mpr ⟨handle, old⟩
      rw [none] at answered
      cases answered
  | sending number =>
    rw [stage] at stands
    obtain ⟨before, trail, rest, unsent, obtained⟩ := stands
    exact ⟨asked.trans before, trail.extend news, rest, unsent.extend within same,
      obtained.extend silent⟩

/-- Calls are sent by an attempt that has sent none before, with the number that it has obtained if
they need one. -/
theorem Task.Stands.unsent {coordinator : Coordinator} {request : Request}
    {plan : List (Replica × Span)} {expected : Nat} (stands : task.Stands events pending place)
    (sends : coordinator.Sends task request plan expected) :
    ∃ trail rest, Unsent events pending place task.attempt trail rest ∧
      asked? events = some (task.attempt.operation, task.attempt.argument) ∧
      ∀ number, request.number? = some number → trail.Obtained number := by
  unfold Task.Stands at stands
  cases sends with
  | ordered stage =>
    rw [stage] at stands
    obtain ⟨asked, trail, rest, unsent, obtained⟩ := stands
    refine ⟨trail, rest, unsent, asked, ?_⟩
    intro number carries
    rw [Request.number?_numbered] at carries
    cases carries
    exact obtained
  | read stage | state stage =>
    rw [stage] at stands
    obtain ⟨asked, trail, rest, unsent, _⟩ := stands
    refine ⟨trail, rest, unsent, asked, ?_⟩
    intro number carries
    cases carries

theorem Numbering.perm (numbering : Numbering events pending place activity)
    (perm : pending'.Perm pending) : Numbering events pending' place activity := by
  have same (call : Call) (sent : Sent ([] ++ events) pending' call) :
      Sent events pending call := by
    rcases sent with arrived | present
    · exact .inl arrived
    · exact .inr (perm.subset present)
  refine ⟨?_, ?_, ?_⟩
  · exact numbering.belong.extend (by simp) (.inl (by simp)) (by simp) same
  · intro call present
    exact numbering.awaited call (perm.subset present)
  · intro task busy
    exact (numbering.stands task busy).extend (by simp) (by simp) same

theorem Numbering.arrival {call : Call} (numbering : Numbering events pending place activity)
    (taken : pending.Perm (call :: pending')) :
    Numbering (.arrived call :: events) pending' place activity := by
  have flying : call ∈ pending := taken.symm.subset List.mem_cons_self
  have same (other : Call) (sent : Sent ([.arrived call] ++ events) pending' other) :
      Sent events pending other := by
    rcases sent with arrived | present
    · rcases List.mem_cons.mp arrived with new | old
      · cases new
        exact .inr flying
      · exact .inl old
    · exact .inr (taken.symm.subset (List.mem_cons_of_mem _ present))
  have within : ∀ event ∈ [Event.arrived call], event.isWithin = true := by simp [Event.isWithin]
  have ordinary : ∀ event ∈ [Event.arrived call], event.isAttempt = false := by
    simp [Event.isAttempt]
  refine ⟨numbering.belong.extend ordinary (.inl (by simp)) ?_ same, ?_, ?_⟩
  · intro other arrived carries
    cases List.mem_singleton.mp arrived
    exact (numbering.awaited call flying carries).1
  · intro other present carries
    have length : (attemptsOf ([.arrived call] ++ events)).length = (attemptsOf events).length :=
      length_attemptsOf_append ordinary
    have inside := taken.symm.subset (List.mem_cons_of_mem call present)
    obtain ⟨latest, waits⟩ := numbering.awaited other inside carries
    exact ⟨latest.trans length.symm, waits⟩
  · intro task busy
    exact (numbering.stands task busy).extend within (by simp) same

/-- Neither does an attempt begin or ask for a number, nor does a call arrive. -/
def Event.isAside : Event → Bool
  | .attempt _ | .next .. | .arrived _ => false
  | _ => true

theorem sent_of_append (quiet : ∀ call, .arrived call ∉ news) (call : Call)
    (sent : Sent (news ++ events) pending call) : Sent events pending call := by
  rcases sent with arrived | present
  · exact .inl ((List.mem_append.mp arrived).resolve_left (quiet call))
  · exact .inr present

theorem Belong.aside (belong : Belong events pending place)
    (aside : ∀ event ∈ news, event.isAside = true) : Belong (news ++ events) pending place := by
  have quiet (call : Call) (present : .arrived call ∈ news) : False := by cases aside _ present
  have silent (handle : Nat) (answer : Except Error SequenceNumber)
      (present : .next handle answer ∈ news) : False := by cases aside _ present
  have ordinary (event : Event) (present : event ∈ news) : event.isAttempt = false := by
    have beside := aside event present
    cases event <;> first | rfl | cases beside
  exact belong.extend ordinary (.inl silent) (fun call present => (quiet call present).elim)
    (sent_of_append quiet)

theorem Numbering.of_plain (belong : Belong events pending place)
    (plain : ∀ call ∈ pending, call.request.number? = none)
    (stands : ∀ task, activity = .busy task → task.Stands events pending place) :
    Numbering events pending place activity :=
  ⟨belong, fun call present carries => absurd (plain call present) carries, stands⟩

theorem Numbering.plain (numbering : Numbering events pending place activity)
    (free : ∀ task, activity ≠ .busy task) : ∀ call ∈ pending, call.request.number? = none := by
  intro call present
  by_contra carries
  obtain ⟨_, task, _, busy, _⟩ := numbering.awaited call present carries
  exact free task busy

theorem Concludes.isAside {now : Nat} {coordinator : Coordinator} {result : Except Error Outcome}
    {client : Client} (ends : Concludes now coordinator task result news client) :
    ∀ event ∈ news.reverse, event.isAside = true := by
  cases ends <;> simp [Event.isAside]

theorem Numbering.concludes {now : Nat} {coordinator : Coordinator}
    {result : Except Error Outcome} {client : Client} (belong : Belong events pending place)
    (plain : ∀ call ∈ pending, call.request.number? = none)
    (asked : asked? events = some (task.attempt.operation, task.attempt.argument))
    (ends : Concludes now coordinator task result news client) :
    Numbering (news.reverse ++ events) pending place client.activity := by
  have asked' := asked?_append events ends.isWithin
  apply Numbering.of_plain (belong.aside ends.isAside) plain
  intro next busy
  cases ends with
  | final | spent => cases busy
  | again =>
    cases busy
    exact asked'.trans asked

theorem Unsent.begun (belong : Belong events pending place)
    (asked : asked? events = some (attempt.operation, attempt.argument)) (ordinal : UInt32) :
    Unsent (.attempt ordinal :: events) pending place attempt
      ⟨asked? events, [.attempt ordinal]⟩ (attemptsOf events) where
  attempts := attemptsOf_attempt ordinal events
  asked := asked
  older call sent := by
    have sent' : Sent events pending call := @sent_of_append events [.attempt ordinal] pending
      (by simp) call sent
    obtain ⟨trail, _, _, found, _⟩ := belong.sent call sent'
    have inside := (List.getElem?_eq_some_iff.mp found).1
    rwa [List.length_reverse] at inside

theorem Unsent.belong (unsent : Unsent events pending place attempt trail rest)
    (belong : Belong events pending place) (within : ∀ event ∈ news, event.isWithin = true)
    (quiet : ∀ call, .arrived call ∉ news) : Belong (news ++ events) pending place := by
  refine belong.extend (fun event present => Event.isAttempt_of_isWithin (within event present))
    (.inr fun call sent => ?_) (fun call present => (quiet call present).elim)
    (sent_of_append quiet)
  have before := unsent.older call sent
  rw [unsent.attempts, List.length_cons]
  omega

theorem Unsent.obtained (belong : Belong events pending place)
    (unsent : Unsent events pending place attempt trail rest) (none : trail.answers = [])
    (handle : Nat) (number : SequenceNumber) :
    (trail.extend [.next handle (.ok number)]).Obtained number where
  answers := by
    have added : (trail.extend [.next handle (.ok number)]).answers =
        .ok number :: trail.answers := rfl
    rw [added, none]
  before := by
    refine ⟨handle, [], trail.events, rfl, ?_⟩
    intro call arrived
    by_contra carries
    have found : (attemptsOf events).reverse[rest.length]? = some trail := by
      rw [unsent.attempts, List.reverse_cons, List.getElem?_append_right (by simp)]
      simp
    have here := belong.within _ trail found call (Trail.mem_calls.mpr arrived) carries
    have before := unsent.older call (.inl (mem_of_getElem?_attemptsOf found arrived))
    omega

end Numbering

end ReplicatedSpace
