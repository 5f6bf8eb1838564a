import ReplicatedSpace.Proofs.Account

/-!
What becomes of an operation, attempt by attempt. Every attempt but the last one failed in a way
that is worth another, with all its calls arrived; every attempt looks up replicas if it knows none,
asks for a number if it needs one, and then calls every replica that it has to call, once.
-/
namespace ReplicatedSpace

namespace Trail

/-- The replicas that an attempt knows, once it has looked for some if it knew none. -/
def known (trail : Trail) (initial : List Replica) : Option (List Replica) :=
  if initial = [] then trail.found? else some initial

/-- The replicas that an attempt calls: none if it knows none or has no number for them. -/
def targets (trail : Trail) (operation : Operation) (argument : String)
    (initial : List Replica) : List Replica :=
  match trail.known initial with
  | some known => if trail.answers.all Except.isOk then operation.targets argument known else []
  | none => []

/-- What an attempt knows at its beginning: what the operation began with, or nothing after a
failure. -/
def initialAfter (first : List Replica) : List Trail → List Replica
  | [] => first
  | _ :: _ => []

end Trail

/-- Some events are those of an operation, attempt by attempt. -/
structure Told (operation : Operation) (argument : String) (retries : UInt32)
    (account : List Event) (trails : List Trail) : Prop where
  attempts : attemptsOf account = trails
  all : account = trails.flatMap Trail.events ++ [.begun operation argument retries]
  asked : asked? account = some (operation, argument)

section Told

variable {operation : Operation} {argument : String} {retries : UInt32} {account : List Event}
  {done : List Trail} {trail : Trail}

theorem Told.begun : Told operation argument retries [.begun operation argument retries] [] :=
  ⟨rfl, rfl, rfl⟩

theorem Told.attempt (told : Told operation argument retries account done) (ordinal : UInt32) :
    Told operation argument retries (.attempt ordinal :: account)
      (⟨some (operation, argument), [.attempt ordinal]⟩ :: done) where
  attempts := by rw [attemptsOf_attempt, told.attempts, told.asked]
  all := congrArg (.attempt ordinal :: ·) told.all
  asked := told.asked

theorem Told.extend (told : Told operation argument retries account (trail :: done))
    (news : List Event) (within : ∀ event ∈ news, event.isWithin = true) :
    Told operation argument retries (news ++ account) (trail.extend news :: done) where
  attempts := by
    rw [attemptsOf_append account fun event present =>
      Event.isAttempt_of_isWithin (within event present), told.attempts]
    rfl
  all := by
    rw [told.all]
    simp [Trail.extend]
  asked := (asked?_append account within).trans told.asked

end Told

namespace Timeline

variable {world : World} {settings : List Settings} {before timeline later : Timeline}
  {index : Nat} {operation : Operation} {argument : String} {retries : UInt32}
  {initial first : List Replica} {pending pending' : List Call} {done earlier : List Trail}
  {trail trail' : Trail}

/-- What an attempt did that has come to a result or has sent its calls. Its calls are those that
have arrived and those that are pending. -/
structure Attempted (timeline : Timeline) (index : Nat) (operation : Operation)
    (argument : String) (initial : List Replica) (pending : List Call) (earlier : List Trail)
    (trail : Trail) : Prop where
  asked : trail.asked = some (operation, argument)
  lookups : trail.lookups = if initial = [] then 1 else 0
  answers : trail.answers.length =
    if operation.isOrdered = true ∧ (trail.known initial).isSome = true then 1 else 0
  replicas : ((trail.calls ++ pending).map Call.replica).Perm
    (trail.targets operation argument initial)
  requests : ∀ call ∈ trail.calls ++ pending, call.client = index ∧
    call.request.Fits operation argument ∧
      ∀ number, call.request.number? = some number → trail.answers = [.ok number]
  complete : ∀ call ∈ trail.calls ++ pending,
    (timeline.sentIn call.round).Perm (trail.calls ++ pending)
  fresh : ∀ other ∈ earlier, ∀ call ∈ other.calls, ∀ call' ∈ trail.calls ++ pending,
    call.round < call'.round

theorem Attempted.round_lt (balanced : timeline.Balanced)
    (attempted : timeline.Attempted index operation argument initial pending earlier trail)
    {call : Call} (present : call ∈ trail.calls ++ pending) :
    call.round < timeline.rounds.length := by
  have sent := (attempted.complete call present).symm.subset present
  exact balanced.opened call (List.mem_filter.mp sent).1

theorem Attempted.kept (balanced : timeline.Balanced) (onward : timeline.Onward later)
    (attempted : timeline.Attempted index operation argument initial pending earlier trail)
    (asked : trail'.asked = trail.asked) (lookups : trail'.lookups = trail.lookups)
    (found : trail'.found? = trail.found?) (answers : trail'.answers = trail.answers)
    (sent : (trail'.calls ++ pending').Perm (trail.calls ++ pending)) :
    later.Attempted index operation argument initial pending' earlier trail' := by
  have known : trail'.known initial = trail.known initial := by
    unfold Trail.known
    rw [found]
  refine ⟨asked.trans attempted.asked, lookups.trans attempted.lookups, ?_, ?_, ?_, ?_, ?_⟩
  · rw [answers, known]
    exact attempted.answers
  · have targets : trail'.targets operation argument initial =
        trail.targets operation argument initial := by
      unfold Trail.targets
      rw [known, answers]
    rw [targets]
    exact (sent.map _).trans attempted.replicas
  · intro call present
    rw [answers]
    exact attempted.requests call (sent.subset present)
  · intro call present
    have inside := sent.subset present
    have opened := attempted.round_lt balanced inside
    exact ((onward.sentIn opened).trans (attempted.complete call inside)).trans sent.symm
  · intro other among call present call' inside
    exact attempted.fresh other among call present call' (sent.subset inside)

/-- Attempts that failed in a way that is worth another, each with all its calls arrived. -/
inductive Failed (timeline : Timeline) (index : Nat) (operation : Operation) (argument : String)
    (first : List Replica) : List Trail → Prop
  | none : Failed timeline index operation argument first []
  | more {trail : Trail} {earlier : List Trail} {error : Error}
      (failed : Failed timeline index operation argument first earlier)
      (attempted : timeline.Attempted index operation argument
        (Trail.initialAfter first earlier) [] earlier trail)
      (outcome : trail.outcome? = some (.error error)) (retryable : error.isRetryable = true) :
      Failed timeline index operation argument first (trail :: earlier)

theorem Failed.kept (balanced : timeline.Balanced) (onward : timeline.Onward later)
    (failed : timeline.Failed index operation argument first done) :
    later.Failed index operation argument first done := by
  induction failed with
  | none => exact .none
  | more _ attempted outcome retryable ih =>
    exact .more ih (attempted.kept balanced onward rfl rfl rfl rfl (.refl _)) outcome retryable

theorem Failed.round_lt (balanced : timeline.Balanced)
    (failed : timeline.Failed index operation argument first done) :
    ∀ trail ∈ done, ∀ call ∈ trail.calls, call.round < timeline.rounds.length := by
  induction failed with
  | none => exact fun _ absent => (List.not_mem_nil absent).elim
  | more _ attempted _ _ ih =>
    intro trail present call inside
    rcases List.mem_cons.mp present with same | present
    · subst same
      exact attempted.round_lt balanced (List.mem_append_left _ inside)
    · exact ih trail present call inside

/-- An attempt that has come as far as to know replicas. -/
structure Opened (operation : Operation) (argument : String) (initial known : List Replica)
    (answers : List (Except Error SequenceNumber)) (trail : Trail) : Prop where
  asked : trail.asked = some (operation, argument)
  lookups : trail.lookups = if initial = [] then 1 else 0
  known : trail.known initial = some known
  answers : trail.answers = answers
  calls : trail.calls = []

/-- How an operation that was asked for stands, stage by stage of its client. -/
inductive Executes (before : Timeline) (index : Nat) (operation : Operation) (argument : String)
    (retries : UInt32) (first : List Replica) (timeline : Timeline) : Client → Prop
  | waiting {coordinator : Coordinator} {start : Nat}
      (known : coordinator.replicas.entries = first)
      (account : timeline.account before index = [])
      (pending : timeline.pending before index = []) :
      Executes before index operation argument retries first timeline
        ⟨coordinator, .busy ⟨⟨operation, argument, 1⟩, retries, .waiting start⟩⟩
  | discovering {coordinator : Coordinator} {ordinal left : UInt32} {done : List Trail}
      (told : Told operation argument retries (timeline.account before index) done)
      (failed : timeline.Failed index operation argument first done)
      (known : coordinator.replicas.entries = Trail.initialAfter first done)
      (budget : done.length + left.toNat = retries.toNat)
      (pending : timeline.pending before index = []) :
      Executes before index operation argument retries first timeline
        ⟨coordinator, .busy ⟨⟨operation, argument, ordinal⟩, left, .discovering⟩⟩
  | opened {coordinator : Coordinator} {ordinal left : UInt32} {stage : Stage}
      {answers : List (Except Error SequenceNumber)} {trail : Trail} {done : List Trail}
      (told : Told operation argument retries (timeline.account before index) (trail :: done))
      (failed : timeline.Failed index operation argument first done)
      (opened : Opened operation argument (Trail.initialAfter first done)
        coordinator.replicas.entries answers trail)
      (place : stage = .ready ∧ answers = [] ∨
        ∃ number, stage = .sending number ∧ answers = [.ok number])
      (budget : done.length + left.toNat = retries.toNat)
      (pending : timeline.pending before index = []) :
      Executes before index operation argument retries first timeline
        ⟨coordinator, .busy ⟨⟨operation, argument, ordinal⟩, left, stage⟩⟩
  | collecting {coordinator : Coordinator} {ordinal left : UInt32} {round expected : Nat}
      {trail : Trail} {done : List Trail}
      (told : Told operation argument retries (timeline.account before index) (trail :: done))
      (failed : timeline.Failed index operation argument first done)
      (attempted : timeline.Attempted index operation argument (Trail.initialAfter first done)
        (timeline.pending before index) done trail)
      (opened : round < timeline.rounds.length)
      (sent : (timeline.sentIn round).Perm (trail.calls ++ timeline.pending before index))
      (budget : done.length + left.toNat = retries.toNat) :
      Executes before index operation argument retries first timeline
        ⟨coordinator, .busy ⟨⟨operation, argument, ordinal⟩, left, .collecting round expected⟩⟩
  | finished {coordinator : Coordinator} {result : Except Error Outcome} {time : Nat}
      {trail : Trail} {done : List Trail}
      (told : Told operation argument retries (timeline.account before index) (trail :: done))
      (failed : timeline.Failed index operation argument first done)
      (attempted : timeline.Attempted index operation argument (Trail.initialAfter first done)
        (timeline.pending before index) done trail)
      (outcome : trail.outcome? = some result)
      (budget : done.length ≤ retries.toNat)
      (last : ∀ error, result = .error error → error.isRetryable = true →
        done.length = retries.toNat) :
      Executes before index operation argument retries first timeline
        ⟨coordinator, .finished result time⟩

variable {client : Client} {coordinator : Coordinator} {task : Task}

theorem Attempted.arrival {call : Call} (balanced : timeline.Balanced)
    (onward : timeline.Onward later)
    (attempted : timeline.Attempted index operation argument initial pending earlier trail)
    (taken : pending.Perm (call :: pending')) :
    later.Attempted index operation argument initial pending' earlier
      (trail.extend [.arrived call]) := by
  apply attempted.kept balanced onward
  · rfl
  · rfl
  · rfl
  · rfl
  · have calls : (trail.extend [.arrived call]).calls = call :: trail.calls := rfl
    rw [calls]
    exact List.perm_middle.symm.trans (taken.symm.append_left _)

/-- An operation stands as it did while its client does nothing. -/
theorem Executes.unmoved (balanced : timeline.Balanced)
    (executes : Executes before index operation argument retries first timeline client)
    (unmoved : Unmoved before index timeline later) :
    Executes before index operation argument retries first later client := by
  have onward := unmoved.onward
  cases unmoved.adds with
  | nothing account pending =>
    cases executes with
    | waiting known none quiet =>
      exact .waiting known (account.trans none) (quiet ▸ pending).eq_nil
    | discovering told failed known budget quiet =>
      exact .discovering (account ▸ told) (failed.kept balanced onward) known budget
        (quiet ▸ pending).eq_nil
    | opened told failed opened place budget quiet =>
      exact .opened (account ▸ told) (failed.kept balanced onward) opened place budget
        (quiet ▸ pending).eq_nil
    | collecting told failed attempted opened sent budget =>
      rename_i trail _
      have same := pending.symm.append_left trail.calls
      exact .collecting (account ▸ told) (failed.kept balanced onward)
        (attempted.kept balanced onward rfl rfl rfl rfl same.symm)
        (Nat.lt_of_lt_of_le opened onward.rounds) (((onward.sentIn opened).trans sent).trans same)
        budget
    | finished told failed attempted outcome budget last =>
      exact .finished (account ▸ told) (failed.kept balanced onward)
        (attempted.kept balanced onward rfl rfl rfl rfl (pending.append_left _)) outcome budget last
  | arrival call account taken =>
    cases executes with
    | waiting _ _ quiet | discovering _ _ _ _ quiet | opened _ _ _ _ _ quiet =>
      rw [quiet] at taken
      exact absurd taken.length_eq (by simp)
    | collecting told failed attempted opened sent budget =>
      rename_i trail _
      have told' := told.extend [.arrived call] (by simp [Event.isWithin])
      have same : (trail.calls ++ timeline.pending before index).Perm
          ((trail.extend [.arrived call]).calls ++ later.pending before index) :=
        (taken.append_left _).trans List.perm_middle
      exact .collecting (account ▸ told') (failed.kept balanced onward)
        (attempted.arrival balanced onward taken) (Nat.lt_of_lt_of_le opened onward.rounds)
        (((onward.sentIn opened).trans sent).trans same) budget
    | finished told failed attempted outcome budget last =>
      have told' := told.extend [.arrived call] (by simp [Event.isWithin])
      exact .finished (account ▸ told') (failed.kept balanced onward)
        (attempted.arrival balanced onward taken) outcome budget last

theorem views_of_concludes {now : Nat} {result : Except Error Outcome} {events : List Event}
    (ends : Concludes now coordinator task result events client) (trail : Trail) :
    (trail.extend events.reverse).lookups = trail.lookups ∧
      (trail.extend events.reverse).found? = trail.found? ∧
      (trail.extend events.reverse).answers = trail.answers ∧
      (trail.extend events.reverse).calls = trail.calls ∧
      (trail.extend events.reverse).outcome? = some result := by
  cases ends <;>
    simp [Trail.extend, Trail.lookups, Trail.found?, Trail.answers, Trail.calls, Trail.outcome?]

/-- With the end of an attempt the operation ends too, or it starts over while retries are left. -/
theorem Executes.concludes {account : List Event} {now : Nat} {result : Except Error Outcome}
    {events : List Event} (balanced : timeline.Balanced) (onward : timeline.Onward later)
    (told : Told operation argument retries account (trail :: done))
    (failed : timeline.Failed index operation argument first done)
    (attempted : timeline.Attempted index operation argument (Trail.initialAfter first done) pending
      done trail)
    (budget : done.length + task.retriesLeft.toNat = retries.toNat)
    (same : task.attempt.operation = operation ∧ task.attempt.argument = argument)
    (ends : Concludes now coordinator task result events client)
    (account' : later.account before index = events.reverse ++ account)
    (pending' : later.pending before index = pending)
    (drained : (∃ error, result = .error error ∧ error.isRetryable = true) → pending = []) :
    Executes before index operation argument retries first later client := by
  obtain ⟨lookups, found, answers, calls, outcome⟩ := views_of_concludes ends trail
  have told' := told.extend events.reverse ends.isWithin
  have attempted' : later.Attempted index operation argument (Trail.initialAfter first done)
      (later.pending before index) done (trail.extend events.reverse) :=
    attempted.kept balanced onward rfl lookups found answers (by rw [calls, pending'])
  have failed' := failed.kept balanced onward
  rw [← account'] at told'
  cases ends with
  | final final =>
    refine .finished told' failed' attempted' outcome (by omega) fun error same retryable => ?_
    rw [final error same] at retryable
    cases retryable
  | spent retryable spent =>
    rw [spent] at budget
    have all : done.length = retries.toNat := budget
    exact .finished told' failed' attempted' outcome (Nat.le_of_eq all) fun _ _ _ => all
  | again retryable left =>
    have none := drained ⟨_, rfl, retryable⟩
    rw [pending', none] at attempted'
    have one : 1 ≤ task.retriesLeft.toNat :=
      Nat.pos_of_ne_zero fun zero => left (UInt32.toNat_inj.mp zero)
    have less : (task.retriesLeft - 1).toNat = task.retriesLeft.toNat - 1 :=
      UInt32.toNat_sub_of_le _ _ (UInt32.le_iff_toNat_le.mpr one)
    have failed'' := Failed.more failed' attempted' outcome retryable
    have budget' : done.length + 1 + (task.retriesLeft - 1).toNat = retries.toNat := by omega
    obtain ⟨⟨_, _, ordinal⟩, left, stage⟩ := task
    obtain ⟨operation', argument'⟩ := same
    subst operation'
    subst argument'
    exact .discovering told' failed'' rfl budget' (pending'.trans none)

theorem Attempted.without_calls (asked : trail.asked = some (operation, argument))
    (lookups : trail.lookups = if initial = [] then 1 else 0)
    (answers : trail.answers.length =
      if operation.isOrdered = true ∧ (trail.known initial).isSome = true then 1 else 0)
    (calls : trail.calls = []) (targets : trail.targets operation argument initial = []) :
    timeline.Attempted index operation argument initial [] earlier trail := by
  have none : trail.calls ++ [] = [] := by rw [calls, List.append_nil]
  refine ⟨asked, lookups, answers, ?_, ?_, ?_, ?_⟩
  · rw [none, targets]
    exact .refl _
  · rw [none]
    exact fun _ absent => (List.not_mem_nil absent).elim
  · rw [none]
    exact fun _ absent => (List.not_mem_nil absent).elim
  · rw [none]
    exact fun _ _ _ _ _ absent => (List.not_mem_nil absent).elim

section Does

variable {known : List Replica} {answers : List (Except Error SequenceNumber)} {effect : Effect}
  {events : List Event} {ordinal left : UInt32}

/-- An attempt that begins finds out whom to call, or it has failed already. -/
theorem Executes.discovers
    (told : Told operation argument retries (timeline.account before index) done)
    (failed : timeline.Failed index operation argument first done)
    (entries : coordinator.replicas.entries = Trail.initialAfter first done)
    (budget : done.length + left.toNat = retries.toNat)
    (quiet : timeline.pending before index = [])
    (does : Does world before index timeline coordinator
      ⟨⟨operation, argument, ordinal⟩, left, .discovering⟩ effect events client later) :
    Executes before index operation argument retries first later client := by
  have account := does.account
  have told' := told.attempt ordinal
  have failed' := failed.kept does.balanced does.onward
  have deed := does.deed
  cases deed with
  | known stage nonempty =>
    have entries' : Trail.initialAfter first done ≠ [] :=
      entries ▸ List.isEmpty_eq_false_iff.mp nonempty
    have told'' : Told operation argument retries (later.account before index)
        (⟨some (operation, argument), [.attempt ordinal]⟩ :: done) := by
      rw [account]
      exact told'
    refine .opened told'' failed' ⟨rfl, ?_, ?_, rfl, rfl⟩ (.inl ⟨rfl, rfl⟩) budget
      ((does.pending (.inl rfl)).trans quiet)
    · rw [if_neg entries']; rfl
    · rw [Trail.known, if_neg entries', entries]
  | found stage unknown admitted nonempty =>
    rename_i replicas
    have entries' : Trail.initialAfter first done = [] := entries ▸ List.isEmpty_iff.mp unknown
    have found := told'.extend
      [.discovered replicas, .lookup coordinator.service coordinator.qualifier]
      (by simp [Event.isWithin])
    have told'' : Told operation argument retries (later.account before index)
        (⟨some (operation, argument), [.discovered replicas,
          .lookup coordinator.service coordinator.qualifier, .attempt ordinal]⟩ :: done) := by
      rw [account]
      exact found
    refine .opened told'' failed' ⟨rfl, ?_, ?_, rfl, rfl⟩ (.inl ⟨rfl, rfl⟩) budget
      ((does.pending (.inl rfl)).trans quiet)
    · rw [if_pos entries']; rfl
    · rw [Trail.known, if_pos entries']; rfl
  | lost stage unknown admitted cause ends =>
    have entries' : Trail.initialAfter first done = [] := entries ▸ List.isEmpty_iff.mp unknown
    have told'' := told'.extend [.lookup coordinator.service coordinator.qualifier]
      (by simp [Event.isWithin])
    refine Executes.concludes does.balanced does.onward told'' failed
      (.without_calls rfl ?_ ?_ rfl ?_) budget ⟨rfl, rfl⟩ ends ?_
      ((does.pending (.inl rfl)).trans quiet) fun _ => rfl
    · rw [if_pos entries']; rfl
    · rw [Trail.known, if_pos entries', if_neg (by simp [Trail.found?, Trail.extend])]; rfl
    · rw [Trail.targets, Trail.known, if_pos entries']; rfl
    · rw [account]; simp
  | sent sends => cases sends <;> contradiction
  | _ => contradiction

theorem Engaged.numbers {request : Request} {plan : List (Replica × Span)} {expected : Nat}
    (engaged : timeline.Engaged index coordinator task)
    (place : task.stage = .ready ∧ answers = [] ∨
      ∃ number, task.stage = .sending number ∧ answers = [.ok number])
    (sends : coordinator.Sends task request plan expected) :
    task.attempt.operation.isOrdered = true ∧ (∃ number, answers = [.ok number] ∧
        request = .numbered task.attempt.operation task.attempt.argument number) ∨
      task.attempt.operation.isOrdered = false ∧ answers = [] ∧ request.number? = none := by
  cases sends with
  | ordered stage =>
    rcases place with ⟨ready, _⟩ | ⟨number, sending, same⟩
    · cases stage.symm.trans ready
    · cases stage.symm.trans sending
      exact .inl ⟨engaged.isOrdered _ stage, _, same, rfl⟩
  | read stage read =>
    rcases place with ⟨_, same⟩ | ⟨number, sending, _⟩
    · exact .inr ⟨by rw [read]; rfl, same, rfl⟩
    · cases stage.symm.trans sending
  | state stage state =>
    rcases place with ⟨_, same⟩ | ⟨number, sending, _⟩
    · exact .inr ⟨by rw [state]; rfl, same, rfl⟩
    · cases stage.symm.trans sending

/-- An attempt that sends its calls calls whom it has to call, and nobody else. -/
theorem Opened.attempted {request : Request} {plan : List (Replica × Span)} {expected : Nat}
    (does : Does world before index timeline coordinator task (.volley request plan) [] client
      later)
    (failed : timeline.Failed index operation argument first done)
    (opened : Opened operation argument (Trail.initialAfter first done)
      coordinator.replicas.entries answers trail)
    (place : task.stage = .ready ∧ answers = [] ∨
      ∃ number, task.stage = .sending number ∧ answers = [.ok number])
    (same : task.attempt.operation = operation ∧ task.attempt.argument = argument)
    (sends : coordinator.Sends task request plan expected)
    (quiet : timeline.pending before index = []) :
    later.Attempted index operation argument (Trail.initialAfter first done)
        (later.pending before index) done trail ∧
      (later.sentIn timeline.rounds.length).Perm (trail.calls ++ later.pending before index) := by
  obtain ⟨operation', argument'⟩ := same
  subst operation'
  subst argument'
  obtain ⟨replicas, size, fits⟩ := sends.replicas does.inStep does.engaged.isOrdered
  have numbers := does.engaged.numbers place sends
  have pending : (later.pending before index).Perm
      (timeline.volleyCalls index request plan) := by
    have volley := pending_volley index request plan [] client does.since
    rw [quiet, List.append_nil] at volley
    exact does.form ▸ volley
  have sent : (later.sentIn timeline.rounds.length).Perm
      (timeline.volleyCalls index request plan) := by
    rw [does.form]
    exact does.balanced.sentIn_dispatch index request plan
  have calls : trail.calls ++ later.pending before index = later.pending before index := by
    rw [opened.calls, List.nil_append]
  rw [calls]
  refine ⟨⟨opened.asked, opened.lookups, ?_, ?_, ?_, ?_, ?_⟩, sent.trans pending.symm⟩
  · rw [opened.answers, opened.known]
    rcases numbers with ⟨ordered, number, same, _⟩ | ⟨unordered, same, _⟩
    · rw [same, if_pos ⟨ordered, rfl⟩]
      rfl
    · rw [same, if_neg (by simp [unordered])]
      rfl
  · have targets : trail.targets task.attempt.operation task.attempt.argument
        (Trail.initialAfter first done) = task.attempt.operation.targets task.attempt.argument
          coordinator.replicas.entries := by
      have fine : answers.all Except.isOk = true := by
        rcases numbers with ⟨_, number, same, _⟩ | ⟨_, same, _⟩
        · rw [same]; rfl
        · rw [same]; rfl
      simp only [Trail.targets, opened.known, opened.answers, fine, ↓reduceIte]
    rw [calls, targets]
    refine (pending.map _).trans ?_
    rw [timeline.replica_volleyCalls]
    exact replicas
  · intro call present
    rw [calls] at present
    obtain ⟨own, _, asked⟩ := mem_volleyCalls (pending.subset present)
    refine ⟨own, asked ▸ fits, fun number carries => ?_⟩
    rw [asked] at carries
    rcases numbers with ⟨_, number', same, numbered⟩ | ⟨_, _, none⟩
    · rw [numbered, Request.number?_numbered] at carries
      cases carries
      exact opened.answers.trans same
    · rw [none] at carries
      cases carries
  · intro call present
    rw [calls] at present ⊢
    rw [(mem_volleyCalls (pending.subset present)).2.1]
    exact sent.trans pending.symm
  · intro other among call present call' inside
    rw [calls] at inside
    rw [(mem_volleyCalls (pending.subset inside)).2.1]
    exact failed.round_lt does.balanced other among call present

/-- An attempt that knows whom to call gets a number and sends its calls, or gives up. -/
theorem Executes.engages {stage : Stage}
    (told : Told operation argument retries (timeline.account before index) (trail :: done))
    (failed : timeline.Failed index operation argument first done)
    (opened : Opened operation argument (Trail.initialAfter first done)
      coordinator.replicas.entries answers trail)
    (place : stage = .ready ∧ answers = [] ∨
      ∃ number, stage = .sending number ∧ answers = [.ok number])
    (budget : done.length + left.toNat = retries.toNat)
    (quiet : timeline.pending before index = [])
    (does : Does world before index timeline coordinator
      ⟨⟨operation, argument, ordinal⟩, left, stage⟩ effect events client later) :
    Executes before index operation argument retries first later client := by
  have account := does.account
  have failed' := failed.kept does.balanced does.onward
  have none (ready : stage = .ready) : answers = [] := by
    rcases place with ⟨_, none⟩ | ⟨number, sending, _⟩
    · exact none
    · cases ready.symm.trans sending
  have deed := does.deed
  cases deed with
  | numbered ready ordered admitted =>
    rename_i number
    have told' := told.extend [.next coordinator.handle (.ok number)] (by simp [Event.isWithin])
    have answered : (trail.extend [.next coordinator.handle (.ok number)]).answers =
        .ok number :: trail.answers := rfl
    rw [opened.answers, none ready] at answered
    have opened' : Opened operation argument (Trail.initialAfter first done)
        coordinator.replicas.entries [.ok number]
        (trail.extend [.next coordinator.handle (.ok number)]) :=
      ⟨opened.asked, opened.lookups, opened.known, answered, opened.calls⟩
    refine .opened ?_ failed' opened' (.inr ⟨number, rfl, rfl⟩) budget
      ((does.pending (.inl rfl)).trans quiet)
    rw [account]
    exact told'
  | unnumbered ready ordered admitted =>
    rename_i error
    have told' := told.extend [.reset coordinator.handle (timeline.handles + 1),
      .next coordinator.handle (.error error)] (by simp [Event.isWithin])
    have answered : (trail.extend [.reset coordinator.handle (timeline.handles + 1),
        .next coordinator.handle (.error error)]).answers = .error error :: trail.answers := rfl
    rw [opened.answers, none ready] at answered
    have known : (trail.extend [.reset coordinator.handle (timeline.handles + 1),
        .next coordinator.handle (.error error)]).known (Trail.initialAfter first done) =
          some coordinator.replicas.entries := opened.known
    have ends : Concludes timeline.now
        { coordinator with handle := timeline.handles + 1 }
        ⟨⟨operation, argument, ordinal⟩, left, stage⟩ (.error error.asOrdering)
        [.ended (.error error.asOrdering)] _ :=
      .final fun _ same => by cases same; exact error.isRetryable_asOrdering
    refine Executes.concludes does.balanced does.onward told' failed
      (.without_calls opened.asked opened.lookups ?_ opened.calls ?_) budget ⟨rfl, rfl⟩ ends ?_
      ((does.pending (.inr rfl)).trans quiet) fun _ => rfl
    · rw [answered, known, if_pos ⟨ordered, rfl⟩]
      rfl
    · rw [Trail.targets, known, answered]
      rfl
    · rw [account]
      rfl
  | astray ready state missing =>
    dsimp only at state missing
    have ends : Concludes timeline.now coordinator
        ⟨⟨operation, argument, ordinal⟩, left, stage⟩
        (.error (.invalidArgument (.unknownQualifier argument)))
        [.ended (.error (.invalidArgument (.unknownQualifier argument)))] _ :=
      .final fun _ same => by cases same; rfl
    refine Executes.concludes does.balanced does.onward told failed
      (.without_calls opened.asked opened.lookups ?_ opened.calls ?_) budget ⟨rfl, rfl⟩ ends account
      ((does.pending (.inl rfl)).trans quiet) fun _ => rfl
    · rw [opened.answers, none ready, state]
      rfl
    · rw [Trail.targets, opened.known, opened.answers, none ready, state]
      rw [ReplicaSet.find?_eq] at missing
      simp [Operation.targets, missing]
  | sent sends =>
    obtain ⟨attempted, sent⟩ := opened.attempted does failed place ⟨rfl, rfl⟩ sends quiet
    have told' : Told operation argument retries (later.account before index) (trail :: done) := by
      rw [account]
      exact told
    refine .collecting told' failed' attempted ?_ sent budget
    rw [does.form]
    simp [enact, carry, dispatch_eq]
  | _ => rcases place with ⟨same, _⟩ | ⟨number, same, _⟩ <;> subst same <;> contradiction

theorem Executes.decides {round expected : Nat}
    (told : Told operation argument retries (timeline.account before index) (trail :: done))
    (failed : timeline.Failed index operation argument first done)
    (attempted : timeline.Attempted index operation argument (Trail.initialAfter first done)
      (timeline.pending before index) done trail)
    (sent : (timeline.sentIn round).Perm (trail.calls ++ timeline.pending before index))
    (budget : done.length + left.toNat = retries.toNat)
    (does : Does world before index timeline coordinator
      ⟨⟨operation, argument, ordinal⟩, left, .collecting round expected⟩ effect events client
      later) :
    Executes before index operation argument retries first later client := by
  obtain ⟨quiet, collector, result, opened, verdict, ends⟩ := does.deed.of_collecting rfl
  refine Executes.concludes does.balanced does.onward told failed attempted budget ⟨rfl, rfl⟩ ends
    does.account (does.pending (.inl quiet)) ?_
  rintro ⟨error, failure, _⟩
  have engaged : timeline.Awaits index coordinator ⟨operation, argument, ordinal⟩ round expected :=
    does.engaged
  have all := engaged.underWay_eq_nil does.balanced opened verdict (.inr ⟨error, failure⟩)
  refine List.eq_nil_iff_forall_not_mem.mpr fun call present => ?_
  have own := (List.mem_filter.mp (sent.symm.subset (List.mem_append_right _ present))).2
  have flying : call ∈ timeline.underWay round :=
    List.mem_filter.mpr ⟨List.mem_append_left _ (List.mem_filter.mp present).1, own⟩
  rw [all] at flying
  cases flying

theorem Executes.does (wellFormed : operation.check argument = .ok ())
    (executes : Executes before index operation argument retries first timeline
      ⟨coordinator, .busy task⟩)
    (does : Does world before index timeline coordinator task effect events client later) :
    Executes before index operation argument retries first later client := by
  cases executes with
  | waiting entries none quiet =>
    have account := does.account
    have deed := does.deed
    cases deed with
    | refused stage refused => cases wellFormed.symm.trans refused
    | began stage accepted =>
      have begun : later.account before index = [.begun operation argument retries] := by
        rw [account, none]
        rfl
      exact .discovering (begun ▸ .begun) .none entries (Nat.zero_add _)
        ((does.pending (.inl rfl)).trans quiet)
    | sent sends => cases sends <;> contradiction
    | _ => contradiction
  | discovering told failed entries budget quiet =>
    exact .discovers told failed entries budget quiet does
  | opened told failed opened place budget quiet =>
    exact .engages told failed opened place budget quiet does
  | collecting told failed attempted opened sent budget =>
    exact .decides told failed attempted sent budget does

end Does

/-- What can happen while a client is at an operation: anything but another request of its user. -/
def Beside (world : World) (index : Nat) (timeline later : Timeline) : Prop :=
  timeline.Moves world later ∨ ∃ mover, mover ≠ index ∧ timeline.Requests mover later

abbrev Course (world : World) (index : Nat) : Timeline → Timeline → Prop :=
  Relation.ReflTransGen (Beside world index)

theorem Course.goes {middle : Timeline} {mover : Nat} (course : Course world index timeline middle)
    (proceeds : middle.proceed? mover = some (.moved later)) : Course world index timeline later :=
  .tail course (.inl (.client proceeds (.moved later)))

theorem Course.learns {middle : Timeline} {mover : Nat}
    (course : Course world index timeline middle) {question : Question}
    {resume : question.Answer → Timeline}
    (proceeds : middle.proceed? mover = some (.asks question resume)) (answer : question.Answer)
    (admitted : world question answer) : Course world index timeline (resume answer) :=
  .tail course (.inl (.client proceeds (.answered resume admitted)))

theorem Course.arrives {middle : Timeline} (course : Course world index timeline middle)
    {question : Question} {resume : question.Answer → Timeline}
    (fires : middle.fire? = some (.asks question resume)) (answer : question.Answer)
    (admitted : world question answer) : Course world index timeline (resume answer) :=
  .tail course (.inl (.flight fires (.answered resume admitted)))

theorem Executes.submitted (balanced : before.Balanced)
    (past : later.past = before.past) (outbound : later.outbound = before.outbound)
    (start : Nat) :
    Executes before index operation argument retries coordinator.replicas.entries later
      ⟨coordinator, .busy ⟨⟨operation, argument, 1⟩, retries, .waiting start⟩⟩ := by
  apply Executes.waiting
  · rfl
  · exact account_of_since (past.trans (List.nil_append _).symm)
  · unfold pending
    rw [outbound]
    refine List.filter_eq_nil_iff.mpr fun call present => ?_
    have opened := balanced.opened call (List.mem_append_left _ present)
    simp only [decide_eq_true_eq, not_and]
    intro _
    omega

/-- Wherever an operation has come to, its client is at one of its stages. -/
theorem Course.executes {activity : Activity} {start : Nat}
    (reached : before.Reached world settings) (free : before.Free index)
    (found : before.clients[index]? = some ⟨coordinator, activity⟩)
    (wellFormed : operation.check argument = .ok ())
    (course : Course world index (before.submit index operation argument retries start) later) :
    later.Reached world settings ∧ before.Onward later ∧ ∃ client,
      later.clients[index]? = some client ∧ Executes before index operation argument retries
        coordinator.replicas.entries later client := by
  induction course with
  | refl =>
    have requests := Requests.operation free operation argument retries start
    have inside := (List.getElem?_eq_some_iff.mp found).1
    refine ⟨reached.requests requests, requests.onward, _, ?_,
      .submitted reached.balanced ?_ ?_ start⟩
    · rw [submit_eq found]
      simp [inside]
    · rw [submit_eq found]
    · rw [submit_eq found]
      rfl
  | tail course beside ih =>
    obtain ⟨reached, onward, client, found, executes⟩ := ih
    rcases beside with moves | ⟨mover, other, requests⟩
    · refine ⟨reached.moves moves, onward.trans moves.onward, ?_⟩
      rcases reached.cases onward moves with
        ⟨coordinator, task, effect, events, client', busy, found', does⟩ |
        ⟨middle, balanced, balanced', unmoved, unmoved'⟩
      · cases found.symm.trans busy
        exact ⟨client', found', executes.does wellFormed does⟩
      · refine ⟨client, (unmoved'.client.trans unmoved.client).trans found, ?_⟩
        exact (executes.unmoved balanced unmoved).unmoved balanced' unmoved'
    · have unmoved := requests.unmoved onward other
      exact ⟨reached.requests requests, onward.trans requests.onward, client,
        unmoved.client.trans found, executes.unmoved reached.balanced unmoved⟩

theorem Failed.each (failed : timeline.Failed index operation argument first done)
    {after earlier : List Trail} (split : done = after ++ trail :: earlier) :
    timeline.Attempted index operation argument (Trail.initialAfter first earlier) [] earlier
        trail ∧
      ∃ error, trail.outcome? = some (.error error) ∧ error.isRetryable = true := by
  induction failed generalizing after with
  | none => cases after <;> cases split
  | more _ attempted outcome retryable ih =>
    cases after with
    | nil =>
      cases split
      exact ⟨attempted, _, outcome, retryable⟩
    | cons latest after =>
      cases split
      exact ih rfl

theorem Failed.attempted {latest : Trail} {after : List Trail}
    (failed : timeline.Failed index operation argument first done)
    (attempted : timeline.Attempted index operation argument (Trail.initialAfter first done) pending
      done latest)
    (split : latest :: done = after ++ trail :: earlier) :
    timeline.Attempted index operation argument (Trail.initialAfter first earlier)
      (if after = [] then pending else []) earlier trail := by
  cases after with
  | nil =>
    cases split
    exact attempted
  | cons next after =>
    cases split
    exact (failed.each rfl).1

/-- An operation from its beginning to its end, whoever answers and whatever else happens. It comes
to an end. What has happened then are its attempts, one after the other: at most one more than there
are retries, all but the latest failed in a way that is worth another and with all their calls
arrived, and the latest came to the result; if that is worth another attempt too, no retry was
left. -/
theorem operation_attempt_by_attempt {activity : Activity} (reached : before.Reached world settings)
    (free : before.Free index)
    (found : before.clients[index]? = some ⟨coordinator, activity⟩)
    (wellFormed : operation.check argument = .ok ()) (retries : UInt32) (start : Nat) :
    (∀ (σ : Type) (environment : Environment σ) (state : σ), environment.Keeps world →
      ∃ later result time, (before.submit index operation argument retries start).run environment
          state = later ∧
        Course world index (before.submit index operation argument retries start) later.1 ∧
        later.1.result? index = some (result, time)) ∧
    ∀ later result time,
      Course world index (before.submit index operation argument retries start) later →
      later.result? index = some (result, time) →
      ∃ latest older, attemptsOf (later.account before index) = latest :: older ∧
        later.account before index =
          (latest :: older).flatMap Trail.events ++ [.begun operation argument retries] ∧
        older.length ≤ retries.toNat ∧
        later.Attempted index operation argument
          (Trail.initialAfter coordinator.replicas.entries older) (later.pending before index) older
          latest ∧
        latest.outcome? = some result ∧
        (∀ error, result = .error error → error.isRetryable = true →
          older.length = retries.toNat) ∧
        ∀ after trail earlier, older = after ++ trail :: earlier →
          later.Attempted index operation argument
            (Trail.initialAfter coordinator.replicas.entries earlier) [] earlier trail ∧
          ∃ error, trail.outcome? = some (.error error) ∧ error.isRetryable = true := by
  constructor
  · intro σ environment state keeps
    have submitted := reached.requests (.operation free operation argument retries start)
    have path := submitted.run_path keeps state
    have course : Course world index (before.submit index operation argument retries start)
        ((before.submit index operation argument retries start).run environment state).1 :=
      Relation.ReflTransGen.mono (fun _ _ moves => Or.inl moves) _ _ path
    obtain ⟨_, _, client, found', executes⟩ :=
      Course.executes reached free found wellFormed course
    have idle := submitted.run_isBusy keeps state found'
    cases executes with
    | finished => exact ⟨_, _, _, rfl, course, by rw [result?, found']⟩
    | _ => cases idle
  · intro later result time course ended
    obtain ⟨_, _, client, found', executes⟩ :=
      Course.executes reached free found wellFormed course
    rw [result?, found'] at ended
    cases executes with
    | finished told failed attempted outcome budget last =>
      cases ended
      exact ⟨_, _, told.attempts, told.all, budget, attempted, outcome, last,
        fun _ _ _ split => failed.each split⟩
    | _ => cases ended

/-- A client asks a replica for its state that is down at first, looks it up once more, and then
gets an answer. -/
theorem state_told_at_second_attempt : ∃ (later : Timeline) (latest first : Trail) (error : Error),
    Course .any 0 ((opening [.standard]).submit 0 .getState "A" 1 0) later ∧
    later.result? 0 = some (.ok (.state ["<a>"]), 0) ∧
    attemptsOf (later.account (opening [.standard]) 0) = [latest, first] ∧
    latest.outcome? = some (.ok (.state ["<a>"])) ∧ latest.lookups = 1 ∧
    first.outcome? = some (.error error) ∧ error.isRetryable = true ∧ first.lookups = 1 := by
  let replica : Replica := ⟨"a:1", "A"⟩
  have start : Course .any 0 ((opening [.standard]).submit 0 .getState "A" 1 0) _ := .refl
  have known := (start.goes (rfl : proceed? _ 0 = _)).learns
    (rfl : proceed? _ 0 = some (.asks (.lookup _ _) _)) (.ok [replica]) trivial
  have sent := known.goes (rfl : proceed? _ 0 = _)
  let call : Call := ⟨0, 0, 0, replica, .state⟩
  have down := sent.arrives (rfl : fire? _ = some (.asks (.arrival call) _))
    (⟨0, .failed (.transport "down")⟩ : Reply (List String)) trivial
  have known' := (down.goes (rfl : proceed? _ 0 = _)).learns
    (rfl : proceed? _ 0 = some (.asks (.lookup _ _) _)) (.ok [replica]) trivial
  have sent' := known'.goes (rfl : proceed? _ 0 = _)
  let call' : Call := ⟨1, 0, 1, replica, .state⟩
  have answered := sent'.arrives (rfl : fire? _ = some (.asks (.arrival call') _))
    (⟨0, .answered ["<a>"]⟩ : Reply (List String)) trivial
  have ended := answered.goes (rfl : proceed? _ 0 = _)
  obtain ⟨_, attempts⟩ := @operation_attempt_by_attempt .any [.standard] (opening [.standard]) 0
    .getState "A" _ _ .opening (fun _ found => by cases found; rfl) rfl rfl 1 0
  obtain ⟨latest, older, trails, _, _, attempted, outcome, _, each⟩ := attempts _ _ _ ended rfl
  have count : 2 = (latest :: older).length := congrArg List.length trails
  obtain ⟨first, rfl⟩ := List.length_eq_one_iff.mp (Nat.succ.inj count).symm
  obtain ⟨attempted', error, outcome', retryable⟩ := each [] first [] rfl
  exact ⟨_, latest, first, error, ended, rfl, trails, outcome, attempted.lookups, outcome',
    retryable, attempted'.lookups⟩

end Timeline
end ReplicatedSpace
