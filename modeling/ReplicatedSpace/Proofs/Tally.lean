import ReplicatedSpace.Proofs.Lifetime

/-!
The numbers of attempts. One counter goes up with every attempt while another one, the retries that
are left, goes down, and only the latter is ever looked at. Each attempt has the number of its place
among all that were made, as far as the counter goes, and an error that replicas caused tells it.
-/
namespace ReplicatedSpace

namespace Trail

/-- Which attempt it was said to be. -/
def ordinal? (trail : Trail) : Option UInt32 :=
  trail.events.findSome? fun
    | .attempt ordinal => some ordinal
    | _ => none

theorem ordinal?_extend (trail : Trail) {news : List Event}
    (ordinary : ∀ event ∈ news, event.isAttempt = false) :
    (trail.extend news).ordinal? = trail.ordinal? := by
  have none : (news.findSome? fun
      | .attempt ordinal => some ordinal
      | _ => none) = none := by
    refine List.findSome?_eq_none_iff.mpr fun event present => ?_
    have plain := ordinary event present
    cases event <;> first | rfl | cases plain
  rw [ordinal?, extend, List.findSome?_append, none, Option.none_or]
  rfl

/-- An attempt knows its number. If it fails in a way that is worth another, then no replicas were
found for it, or those that it called have failed it and its error tells the number. -/
structure Counts (operation : Operation) (argument : String) (count : Nat) (trail : Trail) :
    Prop where
  ordinal : trail.ordinal? = some (UInt32.ofNat count)
  failure : ∀ error, trail.outcome? = some (.error error) → error.isRetryable = true →
    trail.found? = none ∧ trail.lookups = 1 ∨ trail.calls ≠ [] ∧ ∃ reason,
      error = .replicaOperationFailure operation argument (UInt32.ofNat count) reason

section

variable {operation : Operation} {argument : String} {count : Nat} {trail trail' : Trail}

theorem Counts.kept (counts : trail.Counts operation argument count)
    (ordinal : trail'.ordinal? = trail.ordinal?) (outcome : trail'.outcome? = trail.outcome?)
    (found : trail'.found? = trail.found?) (lookups : trail'.lookups = trail.lookups)
    (calls : trail.calls ≠ [] → trail'.calls ≠ []) : trail'.Counts operation argument count where
  ordinal := ordinal.trans counts.ordinal
  failure error failed retryable := by
    rw [outcome] at failed
    rcases counts.failure error failed retryable with ⟨none, once⟩ | ⟨some, told⟩
    · exact .inl ⟨found.trans none, lookups.trans once⟩
    · exact .inr ⟨calls some, told⟩

theorem Counts.of_unfinished (ordinal : trail.ordinal? = some (UInt32.ofNat count))
    (unfinished : trail.outcome? = none) : trail.Counts operation argument count where
  ordinal := ordinal
  failure error failed _ := by
    rw [unfinished] at failed
    cases failed

end

end Trail

/-- Attempts, the latest first, are numbered one after the other. -/
def Counted (operation : Operation) (argument : String) : List Trail → Prop
  | [] => True
  | trail :: earlier =>
    trail.Counts operation argument (earlier.length + 1) ∧ Counted operation argument earlier

theorem Counted.each {operation : Operation} {argument : String} {trails after earlier : List Trail}
    {trail : Trail} (counted : Counted operation argument trails)
    (split : trails = after ++ trail :: earlier) :
    trail.Counts operation argument (earlier.length + 1) := by
  induction after generalizing trails with
  | nil =>
    subst split
    exact counted.1
  | cons latest after ih =>
    subst split
    exact ih counted.2 rfl

theorem Counted.ordinal {operation : Operation} {argument : String}
    {trails after earlier : List Trail} {trail : Trail}
    (counted : Counted operation argument trails) (split : trails = after ++ trail :: earlier)
    (room : trails.length < UInt32.size) :
    trail.ordinal?.map UInt32.toNat = some (earlier.length + 1) := by
  have short : earlier.length + 1 ≤ trails.length := by
    rw [split, List.length_append, List.length_cons]
    exact Nat.le_add_left ..
  rw [(counted.each split).ordinal, Option.map_some,
    UInt32.toNat_ofNat_of_lt' (Nat.lt_of_le_of_lt short room)]

/-- Which attempt a task is at or comes to next, when so many have begun. -/
def Task.place (task : Task) (begun : Nat) : Nat :=
  match task.stage with
  | .waiting _ | .discovering => begun + 1
  | .ready | .sending _ | .collecting .. => begun

namespace Timeline

variable {world : World} {settings : List Settings} {before timeline later : Timeline}
  {index : Nat} {client : Client} {coordinator : Coordinator} {task : Task} {effect : Effect}
  {events account : List Event} {operation : Operation} {argument : String} {retries : UInt32}
  {first : List Replica} {trail : Trail} {done : List Trail}

/-- All attempts of an operation have their numbers, and a client that is at it has its own. -/
structure Tally (before : Timeline) (index : Nat) (operation : Operation) (argument : String)
    (timeline : Timeline) (client : Client) : Prop where
  counted : Counted operation argument (attemptsOf (timeline.account before index))
  place : ∀ task, client.activity = .busy task → task.attempt.ordinal =
    UInt32.ofNat (task.place (attemptsOf (timeline.account before index)).length)

theorem Tally.unmoved (tally : Tally before index operation argument timeline client)
    (unmoved : Unmoved before index timeline later) :
    Tally before index operation argument later client := by
  obtain ⟨counted, place⟩ := tally
  cases unmoved.adds with
  | nothing account =>
    constructor
    · rw [account]
      exact counted
    · rw [account]
      exact place
  | arrival call account =>
    have attempts : attemptsOf (later.account before index) =
        (attemptsOf (timeline.account before index)).modifyHead (·.extend [.arrived call]) := by
      rw [account]
      exact @attemptsOf_append [.arrived call] _ (by simp [Event.isAttempt])
    constructor
    · rw [attempts]
      cases trails : attemptsOf (timeline.account before index) with
      | nil => trivial
      | cons latest older =>
        rw [trails] at counted
        obtain ⟨counts, rest⟩ := counted
        refine ⟨counts.kept ?_ rfl rfl rfl fun _ => List.cons_ne_nil _ _, rest⟩
        exact latest.ordinal?_extend (by simp [Event.isAttempt])
    · rw [attempts, List.length_modifyHead]
      exact place

/-- An attempt comes to its result, and there may be another one. -/
theorem Tally.concludes {now : Nat} {result : Except Error Outcome}
    (told : Told operation argument retries account (trail :: done))
    (counted : Counted operation argument done)
    (place : task.attempt.ordinal = UInt32.ofNat (done.length + 1))
    (ordinal : trail.ordinal? = some task.attempt.ordinal)
    (ends : Concludes now coordinator task result events client)
    (failure : ∀ error, result = .error error → error.isRetryable = true →
      trail.found? = none ∧ trail.lookups = 1 ∨ trail.calls ≠ [] ∧ ∃ reason,
        error = .replicaOperationFailure operation argument task.attempt.ordinal reason)
    (account' : later.account before index = events.reverse ++ account) :
    Tally before index operation argument later client := by
  obtain ⟨lookups, found, _, calls, outcome⟩ := views_of_concludes ends trail
  have told' := told.extend events.reverse ends.isWithin
  rw [← account'] at told'
  have ordinal' : (trail.extend events.reverse).ordinal? = some task.attempt.ordinal := by
    refine (trail.ordinal?_extend fun event present => ?_).trans ordinal
    exact Event.isAttempt_of_isWithin (ends.isWithin event present)
  have counts : (trail.extend events.reverse).Counts operation argument (done.length + 1) := by
    constructor
    · rw [ordinal', place]
    · intro error failed retryable
      rw [outcome] at failed
      rw [found, lookups, calls, ← place]
      exact failure error (Option.some.inj failed) retryable
  constructor
  · rw [told'.attempts]
    exact ⟨counts, counted⟩
  · intro next busy
    rw [told'.attempts]
    cases ends with
    | final | spent => cases busy
    | again =>
      cases busy
      have above : task.attempt.ordinal + 1 = UInt32.ofNat (done.length + 1 + 1) := by
        rw [place]
        exact (UInt32.ofNat_add _ _).symm
      exact above

theorem Awaits.calls_ne_nil {round expected : Nat} {collector : Collector Outcome} {error : Error}
    {attempt : Attempt} (balanced : timeline.Balanced)
    (awaits : timeline.Awaits index coordinator attempt round expected)
    (opened : timeline.rounds[round]? = some collector)
    (verdict : attempt.verdict? expected collector = some (.error error))
    (sent : (timeline.sentIn round).Perm (trail.calls ++ timeline.pending before index)) :
    trail.calls ≠ [] := by
  intro none
  rw [none, List.nil_append] at sent
  have all := awaits.underWay_eq_nil balanced opened verdict (.inr ⟨error, rfl⟩)
  obtain ⟨call, present⟩ := List.exists_mem_of_length_pos (awaits.count ▸ awaits.positive)
  have waits : call ∈ timeline.pending before index := sent.subset present
  have flying : call ∈ timeline.underWay round :=
    List.mem_filter.mpr ⟨List.mem_append_left _ (List.mem_filter.mp waits).1,
      (List.mem_filter.mp present).2⟩
  rw [all] at flying
  cases flying

theorem Tally.goes_on
    (told : Told operation argument retries (later.account before index) (trail :: done))
    (counts : trail.Counts operation argument (done.length + 1))
    (counted : Counted operation argument done)
    (ordinal : task.attempt.ordinal = UInt32.ofNat (done.length + 1))
    (begun : task.place (done.length + 1) = done.length + 1) :
    Tally before index operation argument later ⟨coordinator, .busy task⟩ := by
  constructor
  · rw [told.attempts]
    exact ⟨counts, counted⟩
  · intro next busy
    cases busy
    rw [told.attempts, List.length_cons, begun]
    exact ordinal

section Does

variable {ordinal left : UInt32}

/-- An attempt that begins gets the next number. -/
theorem Tally.discovers
    (told : Told operation argument retries (timeline.account before index) done)
    (counted : Counted operation argument done)
    (place : ordinal = UInt32.ofNat (done.length + 1))
    (does : Does world before index timeline coordinator
      ⟨⟨operation, argument, ordinal⟩, left, .discovering⟩ effect events client later) :
    Tally before index operation argument later client := by
  have account := does.account
  have told' := told.attempt ordinal
  have deed := does.deed
  cases deed with
  | known stage nonempty =>
    have told'' : Told operation argument retries (later.account before index)
        (⟨some (operation, argument), [.attempt ordinal]⟩ :: done) := by
      rw [account]
      exact told'
    exact .goes_on told'' (.of_unfinished (congrArg some place) rfl) counted place rfl
  | found stage unknown admitted nonempty =>
    rename_i replicas
    have told'' : Told operation argument retries (later.account before index)
        (⟨some (operation, argument), [.discovered replicas,
          .lookup coordinator.service coordinator.qualifier, .attempt ordinal]⟩ :: done) := by
      rw [account]
      exact told'.extend
        [.discovered replicas, .lookup coordinator.service coordinator.qualifier]
        (by simp [Event.isWithin])
    exact .goes_on told'' (.of_unfinished (congrArg some place) rfl) counted place rfl
  | lost stage unknown admitted cause ends =>
    have told'' := told'.extend [.lookup coordinator.service coordinator.qualifier]
      (by simp [Event.isWithin])
    refine Tally.concludes told'' counted place rfl ends (fun _ _ _ => .inl ⟨rfl, rfl⟩) ?_
    rw [account]
    simp
  | sent sends => cases sends <;> contradiction
  | _ => contradiction

/-- An attempt that gets a number for its calls, or sends them, or gives up, keeps its own. -/
theorem Tally.engages {stage : Stage}
    (told : Told operation argument retries (timeline.account before index) (trail :: done))
    (counted : Counted operation argument (trail :: done))
    (place : ordinal = UInt32.ofNat (done.length + 1))
    (stages : stage = .ready ∨ ∃ number, stage = .sending number)
    (does : Does world before index timeline coordinator
      ⟨⟨operation, argument, ordinal⟩, left, stage⟩ effect events client later) :
    Tally before index operation argument later client := by
  obtain ⟨counts, counted⟩ := counted
  have named : trail.ordinal? = some ordinal := counts.ordinal.trans (congrArg some place.symm)
  have account := does.account
  have deed := does.deed
  cases deed with
  | numbered ready ordered admitted =>
    rename_i number
    have told' : Told operation argument retries (later.account before index)
        (trail.extend [.next coordinator.handle (.ok number)] :: done) := by
      rw [account]
      exact told.extend [.next coordinator.handle (.ok number)] (by simp [Event.isWithin])
    exact .goes_on told' (counts.kept rfl rfl rfl rfl id) counted place rfl
  | unnumbered ready ordered admitted =>
    rename_i error
    have told' := told.extend [.reset coordinator.handle (timeline.handles + 1),
      .next coordinator.handle (.error error)] (by simp [Event.isWithin])
    have named' : (trail.extend [.reset coordinator.handle (timeline.handles + 1),
      .next coordinator.handle (.error error)]).ordinal? = some ordinal := named
    have ends : Concludes timeline.now { coordinator with handle := timeline.handles + 1 }
        ⟨⟨operation, argument, ordinal⟩, left, stage⟩ (.error error.asOrdering)
        [.ended (.error error.asOrdering)] _ :=
      .final fun _ same => by cases same; exact error.isRetryable_asOrdering
    refine Tally.concludes told' counted place named' ends (fun _ same retryable => ?_) ?_
    · cases same
      rw [error.isRetryable_asOrdering] at retryable
      cases retryable
    · rw [account]
      rfl
  | astray ready state missing =>
    have ends : Concludes timeline.now coordinator ⟨⟨operation, argument, ordinal⟩, left, stage⟩
        (.error (.invalidArgument (.unknownQualifier argument)))
        [.ended (.error (.invalidArgument (.unknownQualifier argument)))] _ :=
      .final fun _ same => by cases same; rfl
    refine Tally.concludes told counted place named ends (fun _ same retryable => ?_) account
    cases same
    cases retryable
  | sent sends =>
    have told' : Told operation argument retries (later.account before index) (trail :: done) := by
      rw [account]
      exact told
    exact .goes_on told' counts counted place rfl
  | _ => rcases stages with same | ⟨number, same⟩ <;> subst same <;> contradiction

/-- What a client does counts its attempts. -/
theorem Tally.does (wellFormed : operation.check argument = .ok ())
    (executes : Executes before index operation argument retries first timeline
      ⟨coordinator, .busy task⟩)
    (tally : Tally before index operation argument timeline ⟨coordinator, .busy task⟩)
    (does : Does world before index timeline coordinator task effect events client later) :
    Tally before index operation argument later client := by
  have counted := tally.counted
  have place := tally.place task rfl
  cases executes with
  | waiting entries none quiet =>
    have account := does.account
    have deed := does.deed
    cases deed with
    | refused stage refused => cases wellFormed.symm.trans refused
    | began stage accepted =>
      have begun : later.account before index = [.begun operation argument retries] := by
        rw [account, none]
        rfl
      constructor
      · rw [begun]
        trivial
      · intro next busy
        rw [begun]
        cases busy
        rfl
    | sent sends => cases sends <;> contradiction
    | _ => contradiction
  | discovering told failed entries budget quiet =>
    rw [told.attempts] at counted place
    exact .discovers told counted place does
  | opened told failed opened stages budget quiet =>
    rw [told.attempts] at counted place
    rcases stages with ⟨ready, _⟩ | ⟨number, sending, _⟩
    · subst ready
      exact .engages told counted place (.inl rfl) does
    · subst sending
      exact .engages told counted place (.inr ⟨number, rfl⟩) does
  | collecting told failed attempted opened sent budget =>
    rename_i ordinal left round expected trail done
    rw [told.attempts] at counted place
    obtain ⟨counts, counted⟩ := counted
    obtain ⟨_, collector, result, opened', verdict, ends⟩ := does.deed.of_collecting rfl
    have named : trail.ordinal? = some ordinal := counts.ordinal.trans (congrArg some place.symm)
    refine Tally.concludes told counted place named ends (fun error same _ => .inr ?_) does.account
    subst same
    obtain ⟨_, failed, _⟩ := Attempt.error_of_verdict? verdict
    have awaits : timeline.Awaits index coordinator ⟨operation, argument, ordinal⟩ round expected :=
      does.engaged
    exact ⟨awaits.calls_ne_nil does.balanced opened' verdict sent, _, failed⟩

end Does

variable {activity : Activity} {start : Nat} {known : Coordinator}

/-- Wherever an operation has come to, its attempts are counted. -/
theorem Course.tally (reached : before.Reached world settings) (free : before.Free index)
    (found : before.clients[index]? = some ⟨coordinator, activity⟩)
    (wellFormed : operation.check argument = .ok ())
    (course : Course world index (before.submit index operation argument retries start) later)
    (found' : later.clients[index]? = some client) :
    Tally before index operation argument later client := by
  induction course generalizing client with
  | refl =>
    have inside := (List.getElem?_eq_some_iff.mp found).1
    rw [submit_eq found, List.getElem?_set_self inside] at found'
    cases found'
    have none : (before.submit index operation argument retries start).account before index =
        [] := by
      have past : (before.submit index operation argument retries start).past = before.past := by
        rw [submit_eq found]
      exact account_of_since (past.trans (List.nil_append _).symm)
    constructor
    · rw [none]
      trivial
    · intro next busy
      rw [none]
      cases busy
      rfl
  | tail course beside ih =>
    obtain ⟨reached', onward, earlier, at', executes⟩ :=
      Course.executes reached free found wellFormed course
    rcases Beside.cases reached' onward beside with
      ⟨_, task, effect, events, client', busy, after, does⟩ | ⟨middle, _, _, unmoved, unmoved'⟩
    · cases at'.symm.trans busy
      cases found'.symm.trans after
      exact (ih busy).does wellFormed executes does
    · rw [unmoved'.client, unmoved.client] at found'
      exact ((ih found').unmoved unmoved).unmoved unmoved'

theorem Executes.counters
    (executes : Executes before index operation argument retries first timeline
      ⟨coordinator, .busy task⟩)
    (tally : Tally before index operation argument timeline ⟨coordinator, .busy task⟩) :
    ∃ used, used + task.retriesLeft.toNat = retries.toNat ∧
      task.attempt.ordinal = UInt32.ofNat (used + 1) := by
  have place := tally.place task rfl
  cases executes with
  | waiting => exact ⟨0, Nat.zero_add _, rfl⟩
  | discovering told _ _ budget =>
    rw [told.attempts] at place
    exact ⟨_, budget, place⟩
  | opened told _ _ stages budget =>
    rw [told.attempts] at place
    rcases stages with ⟨ready, _⟩ | ⟨number, sending, _⟩
    · subst ready
      exact ⟨_, budget, place⟩
    · subst sending
      exact ⟨_, budget, place⟩
  | collecting told _ _ _ _ budget =>
    rw [told.attempts] at place
    exact ⟨_, budget, place⟩

theorem Course.accepted (reached : before.Reached world settings) (free : before.Free index)
    (found : before.clients[index]? = some ⟨coordinator, activity⟩)
    (course : Course world index (before.submit index operation argument retries start) later)
    (attempts : attemptsOf (later.account before index) ≠ []) :
    operation.check argument = .ok () := by
  cases check : operation.check argument with
  | ok accepted => rfl
  | error error =>
    obtain ⟨_, _, _, ⟨_, account⟩ | ⟨_, _, account⟩⟩ :=
      course.refused_quietly reached free found check
    · rw [account] at attempts
      exact absurd rfl attempts
    · rw [account] at attempts
      exact absurd rfl attempts

theorem Course.counters (reached : before.Reached world settings) (free : before.Free index)
    (found : before.clients[index]? = some ⟨coordinator, activity⟩)
    (course : Course world index (before.submit index operation argument retries start) later)
    (busy : later.clients[index]? = some ⟨known, .busy task⟩) :
    ∃ used, used + task.retriesLeft.toNat = retries.toNat ∧
      task.attempt.ordinal = UInt32.ofNat (used + 1) := by
  cases check : operation.check argument with
  | error error =>
    obtain ⟨_, activity', found', stands⟩ := course.refused_quietly reached free found check
    cases found'.symm.trans busy
    rcases stands with ⟨same, _⟩ | ⟨_, same, _⟩
    · cases same
      exact ⟨0, Nat.zero_add _, rfl⟩
    · cases same
  | ok accepted =>
    obtain ⟨_, _, client, found', executes⟩ := course.executes reached free found check
    cases found'.symm.trans busy
    exact executes.counters (course.tally reached free found check busy)

end Timeline
end ReplicatedSpace
