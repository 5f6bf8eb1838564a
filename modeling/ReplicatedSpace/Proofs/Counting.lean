import Mathlib.Data.List.Dedup
import ReplicatedSpace.Proofs.Failing

/-!
The number of attempts that the error of an operation tells. If it was the replicas that failed the
operation, as many attempts were made, as long as the counter has room for them; how often the name
server was asked is another matter.
-/
namespace ReplicatedSpace

/-- In how many rounds calls were sent. -/
def Trail.dispatches (trail : Trail) : Nat := (trail.calls.map Call.round).dedup.length

namespace Timeline

variable {world : World} {settings : List Settings} {before timeline : Timeline} {index : Nat}
  {coordinator : Coordinator} {operation : Operation} {argument : String} {activity : Activity}
  {first : List Replica} {trail : Trail} {done : List Trail}

theorem Attempted.dispatches {initial : List Replica} {pending : List Call} {earlier : List Trail}
    (attempted : timeline.Attempted index operation argument initial pending earlier trail)
    (called : trail.calls ≠ []) : trail.dispatches = 1 := by
  obtain ⟨call, present⟩ := List.exists_mem_of_ne_nil _ called
  have together : ∀ round ∈ trail.calls.map Call.round, round = call.round := by
    intro round inside
    obtain ⟨other, among, same⟩ := List.mem_map.mp inside
    have sent := (attempted.complete call (List.mem_append_left _ present)).symm.subset
      (List.mem_append_left _ among)
    rw [← same]
    exact of_decide_eq_true (List.mem_filter.mp sent).2
  have some_ : trail.calls.length ≠ 0 := fun none => called (List.eq_nil_of_length_eq_zero none)
  rw [Trail.dispatches, List.eq_replicate_of_mem together, List.length_map,
    List.replicate_dedup some_]
  rfl

theorem Attempted.calls_eq_nil {initial : List Replica} {pending : List Call}
    {earlier : List Trail}
    (attempted : timeline.Attempted index operation argument initial pending earlier trail)
    (unknown : trail.known initial = none) : trail.calls = [] := by
  have replicas := attempted.replicas
  rw [Trail.targets, unknown, List.map_append] at replicas
  exact List.map_eq_nil_iff.mp (List.append_eq_nil_iff.mp replicas.eq_nil).1

theorem Attempted.known_eq_none {initial : List Replica} {pending : List Call}
    {earlier : List Trail}
    (attempted : timeline.Attempted index operation argument initial pending earlier trail)
    (missing : trail.found? = none) (once : trail.lookups = 1) : trail.known initial = none := by
  by_cases nobody : initial = []
  · rw [Trail.known, if_pos nobody]
    exact missing
  · rw [attempted.lookups, if_neg nobody] at once
    cases once

/-- An attempt that failed in a way that is worth another has sent its calls, if it knew replicas to
call. -/
theorem Attempted.dispatches_of_failed {initial : List Replica} {pending : List Call}
    {earlier : List Trail} {count : Nat} {error : Error}
    (attempted : timeline.Attempted index operation argument initial pending earlier trail)
    (counts : trail.Counts operation argument count)
    (outcome : trail.outcome? = some (.error error)) (retryable : error.isRetryable = true) :
    trail.dispatches = if (trail.known initial).isSome = true then 1 else 0 := by
  rcases counts.failure error outcome retryable with ⟨missing, once⟩ | ⟨called, _⟩
  · have unknown := attempted.known_eq_none missing once
    rw [unknown, Trail.dispatches, attempted.calls_eq_nil unknown]
    rfl
  · cases knows : trail.known initial with
    | none => exact absurd (attempted.calls_eq_nil knows) called
    | some known => exact attempted.dispatches called

theorem Failed.dispatches {pending : List Call} {error : Error} {after earlier : List Trail}
    {latest : Trail} (failed : timeline.Failed index operation argument first done)
    (attempted : timeline.Attempted index operation argument (Trail.initialAfter first done) pending
      done latest)
    (counted : Counted operation argument (latest :: done))
    (outcome : latest.outcome? = some (.error error)) (retryable : error.isRetryable = true)
    (split : latest :: done = after ++ trail :: earlier) :
    trail.dispatches =
      if (trail.known (Trail.initialAfter first earlier)).isSome = true then 1 else 0 := by
  have counts := counted.each split
  cases after with
  | nil =>
    cases split
    exact attempted.dispatches_of_failed counts outcome retryable
  | cons next after =>
    cases split
    obtain ⟨attempted', error', outcome', retryable'⟩ := failed.each rfl
    exact attempted'.dispatches_of_failed counts outcome' retryable'

theorem Failed.lookups_of_split {pending : List Call} {after earlier : List Trail} {latest : Trail}
    (failed : timeline.Failed index operation argument first done)
    (attempted : timeline.Attempted index operation argument (Trail.initialAfter first done) pending
      done latest)
    (split : latest :: done = after ++ trail :: earlier) :
    trail.lookups = if Trail.initialAfter first earlier = [] then 1 else 0 := by
  cases after with
  | nil =>
    cases split
    exact attempted.lookups
  | cons next after =>
    cases split
    obtain ⟨attempted', _⟩ := failed.each rfl
    exact attempted'.lookups

/-- All attempts together ask as often as there are any, or once less if the first one knows
replicas already. -/
theorem Failed.lookups {pending : List Call}
    (failed : timeline.Failed index operation argument first done)
    (attempted : timeline.Attempted index operation argument (Trail.initialAfter first done) pending
      done trail) :
    total ((trail :: done).map Trail.lookups) = done.length + if first = [] then 1 else 0 := by
  induction failed generalizing trail pending with
  | none =>
    have lookups : trail.lookups = if first = [] then 1 else 0 := attempted.lookups
    simp [lookups]
  | more _ attempted' _ _ ih =>
    have lookups : trail.lookups = 1 := attempted.lookups
    rw [List.map_cons, total_cons, ih attempted', lookups, List.length_cons]
    omega

/-- A client knows a replica that is down by now, and asks for its state. -/
theorem state_asked_for_in_vain :
    ∃ (before later : Timeline) (coordinator : Coordinator) (activity : Activity) (reason : String)
      (latest first : Trail),
      before.Reached .any [.standard] ∧ before.Free 0 ∧
      before.clients[0]? = some ⟨coordinator, activity⟩ ∧
      coordinator.replicas.entries = [⟨"a:1", "A"⟩] ∧
      Course .any 0 (before.submit 0 .getState "A" 1 0) later ∧
      later.result? 0 = some (.error (.replicaOperationFailure .getState "A" 2 reason), 0) ∧
      attemptsOf (later.account before 0) = [latest, first] ∧
      latest.calls ≠ [] ∧ latest.lookups = 1 ∧ first.lookups = 0 := by
  have idle : (opening [.standard]).Free 0 := fun client found => by cases found; rfl
  have asked : Reached .any [.standard] _ :=
    Reached.opening.requests (.operation idle .getState "A" 0 0)
  have known := (asked.goes (rfl : proceed? _ 0 = _)).learns
    (rfl : proceed? _ 0 = some (.asks (.lookup _ _) _)) (.ok [⟨"a:1", "A"⟩]) trivial
  have sent := known.goes (rfl : proceed? _ 0 = _)
  let call : Call := ⟨0, 0, 0, ⟨"a:1", "A"⟩, .state⟩
  have answered := sent.moves (.flight (rfl : fire? _ = some (.asks (.arrival call) _))
    (@Step.Leads.answered _ (.arrival call) _ (⟨0, .answered ["<a>"]⟩ : Reply (List String))
      trivial))
  have warm := answered.goes (rfl : proceed? _ 0 = _)
  have start {before : Timeline} (_ : before.Reached .any [.standard]) :
      Course .any 0 (before.submit 0 .getState "A" 1 0) _ := .refl
  have sent' := (((start warm).goes (rfl : proceed? _ 0 = _)).goes (rfl : proceed? _ 0 = _)).goes
    (rfl : proceed? _ 0 = _)
  let call' : Call := ⟨1, 0, 1, ⟨"a:1", "A"⟩, .state⟩
  have down := sent'.arrives (rfl : fire? _ = some (.asks (.arrival call') _))
    (⟨0, .failed (.transport "down")⟩ : Reply (List String)) trivial
  have known' := (down.goes (rfl : proceed? _ 0 = _)).learns
    (rfl : proceed? _ 0 = some (.asks (.lookup _ _) _)) (.ok [⟨"a:1", "A"⟩]) trivial
  have sent'' := known'.goes (rfl : proceed? _ 0 = _)
  let call'' : Call := ⟨2, 0, 2, ⟨"a:1", "A"⟩, .state⟩
  have down' := sent''.arrives (rfl : fire? _ = some (.asks (.arrival call'') _))
    (⟨0, .failed (.transport "down")⟩ : Reply (List String)) trivial
  have ended := down'.goes (rfl : proceed? _ 0 = _)
  refine ⟨_, _, _, _, _, _, _, warm, ?_, rfl, rfl, ended, rfl, rfl, ?_, rfl, rfl⟩
  · intro client found
    cases found
    rfl
  · exact List.cons_ne_nil _ _

/-- The error of an operation that the replicas have failed tells how many attempts it has made, and
these are one more than there were retries. They have been numbered one after the other: at any time
the number of the attempt and the retries that are left make up one more than there were retries,
unless there were more than the counter has room for. An attempt has asked the name server once if
it began without replicas, as every one but the first does, and else not; and each has sent one
round of calls, but for those that found no replicas to call. -/
theorem attempts_told_are_attempts_made (reached : before.Reached world settings)
    (free : before.Free index) (found : before.clients[index]? = some ⟨coordinator, activity⟩)
    (operation : Operation) (argument : String) (retries : UInt32) (start : Nat) :
    (retries.toNat + 1 < UInt32.size → ∀ middle known task,
      Course world index (before.submit index operation argument retries start) middle →
      middle.clients[index]? = some ⟨known, .busy task⟩ →
      task.attempt.ordinal.toNat + task.retriesLeft.toNat = retries.toNat + 1) ∧
    ∀ later named text attempts reason time latest older,
      Course world index (before.submit index operation argument retries start) later →
      later.result? index =
        some (.error (.replicaOperationFailure named text attempts reason), time) →
      attemptsOf (later.account before index) = latest :: older → latest.calls ≠ [] →
      named = operation ∧ text = argument ∧ (latest :: older).length = retries.toNat + 1 ∧
      (retries.toNat + 1 < UInt32.size → attempts.toNat = (latest :: older).length) ∧
      total ((latest :: older).map Trail.lookups) =
        retries.toNat + (if coordinator.replicas.entries = [] then 1 else 0) ∧
      ∀ after trail earlier, latest :: older = after ++ trail :: earlier →
        (retries.toNat + 1 < UInt32.size →
          trail.ordinal?.map UInt32.toNat = some (earlier.length + 1)) ∧
        trail.lookups =
          (if Trail.initialAfter coordinator.replicas.entries earlier = [] then 1 else 0) ∧
        trail.dispatches = if (trail.known (Trail.initialAfter coordinator.replicas.entries
          earlier)).isSome = true then 1 else 0 := by
  constructor
  · intro room middle known task course busy
    obtain ⟨used, sum, ordinal⟩ := course.counters reached free found busy
    rw [ordinal, UInt32.toNat_ofNat_of_lt' (by omega)]
    omega
  · intro later named text attempts reason time latest older course ended trails called
    have accepted := course.accepted reached free found (by rw [trails]; exact List.cons_ne_nil _ _)
    obtain ⟨_, _, client, found', executes⟩ := course.executes reached free found accepted
    have counted := (course.tally reached free found accepted found').counted
    rw [trails] at counted
    rw [result?, found'] at ended
    cases executes with
    | finished told failed attempted outcome budget last =>
      cases ended
      cases told.attempts.symm.trans trails
      have made : (latest :: older).length = retries.toNat + 1 :=
        congrArg (· + 1) (last _ rfl rfl)
      rcases counted.1.failure _ outcome rfl with ⟨missing, once⟩ | ⟨_, reason', same⟩
      · exact absurd (attempted.calls_eq_nil (attempted.known_eq_none missing once)) called
      · cases same
        refine ⟨rfl, rfl, made, fun room => ?_, ?_, fun after trail earlier split =>
          ⟨?_, ?_, ?_⟩⟩
        · exact UInt32.toNat_ofNat_of_lt' (lt_of_eq_of_lt made room)
        · rw [← last _ rfl rfl]
          exact failed.lookups attempted
        · exact fun room => counted.ordinal split (lt_of_eq_of_lt made room)
        · exact failed.lookups_of_split attempted split
        · exact failed.dispatches attempted counted outcome rfl split
    | _ => cases ended

/-- A client that knows a replica makes two attempts, and the error says so. -/
theorem two_attempts_are_told :
    ∃ (before later : Timeline) (reason : String) (latest first : Trail),
      before.Reached .any [.standard] ∧
      Course .any 0 (before.submit 0 .getState "A" 1 0) later ∧
      later.result? 0 = some (.error (.replicaOperationFailure .getState "A" 2 reason), 0) ∧
      attemptsOf (later.account before 0) = [latest, first] ∧
      (2 : UInt32).toNat = [latest, first].length ∧
      first.ordinal?.map UInt32.toNat = some 1 ∧ latest.ordinal?.map UInt32.toNat = some 2 := by
  obtain ⟨before, later, coordinator, activity, reason, latest, first, reached, free, found, _,
    course, ended, trails, called, _⟩ := state_asked_for_in_vain
  obtain ⟨_, told⟩ := attempts_told_are_attempts_made reached free found .getState "A" 1 0
  obtain ⟨_, _, _, counted, _, each⟩ := told _ _ _ _ _ _ _ _ course ended trails called
  have room : (1 : UInt32).toNat + 1 < UInt32.size := by decide
  exact ⟨before, later, reason, latest, first, reached, course, ended, trails, counted room,
    (each [latest] first [] rfl).1 room, (each [] latest [first] rfl).1 room⟩

/-- A client that knows a replica makes two attempts and one lookup. And where a put may start over
as often as the counter can count, and all calls fail, the error says that no attempt was made: the
counter is back at zero. -/
theorem lookups_and_attempts_part :
    (∃ (before later : Timeline) (reason : String) (latest first : Trail),
      before.Reached .any [.standard] ∧
      Course .any 0 (before.submit 0 .getState "A" 1 0) later ∧
      later.result? 0 = some (.error (.replicaOperationFailure .getState "A" 2 reason), 0) ∧
      attemptsOf (later.account before 0) = [latest, first] ∧ latest.calls ≠ [] ∧
      total ([latest, first].map Trail.lookups) = 1) ∧
    let environment : Environment Unit :=
      .fixed (.ok [⟨"a:1", "A"⟩]) (.ok ⟨1⟩) fun _ => ⟨0, .crashed "down"⟩
    let later := (((opening [.standard]).submit 0 .put "<a>" 4294967295 0).run environment ()).1
    ∃ reason time, later.result? 0 =
        some (.error (.replicaOperationFailure .put "<a>" 0 reason), time) ∧
      (attemptsOf (later.account (opening [.standard]) 0)).length = 4294967296 := by
  constructor
  · obtain ⟨before, later, coordinator, activity, reason, latest, first, reached, free, found, _,
      course, ended, trails, called, once, never⟩ := state_asked_for_in_vain
    refine ⟨before, later, reason, latest, first, reached, course, ended, trails, called, ?_⟩
    rw [List.map_cons, List.map_cons, List.map_nil, total_cons, total_cons, once, never]
    rfl
  · intro environment later
    have keeps : environment.Keeps .failing := by
      intro state question
      cases question with
      | lookup => exact ⟨_, rfl, List.cons_ne_nil _ _⟩
      | next => exact ⟨_, rfl⟩
      | arrival call => exact ⟨_, rfl⟩
    have idle : (opening [.standard]).Free 0 := fun client found => by cases found; rfl
    have accepted : Operation.put.check "<a>" = .ok () := rfl
    obtain ⟨made, reason, time, told⟩ :=
      Reached.run_fails keeps accepted (by decide) .opening idle rfl 4294967295 0 ()
    exact ⟨reason, time, told, made⟩

end Timeline
end ReplicatedSpace
