import ReplicatedSpace.Proofs.Account
import ReplicatedSpace.Proofs.Timetable

/-!
Delays that users set, and the calls that wait for them. A delay is set for a qualifier and reaches
one replica, the first with the qualifier among those that are known when the calls are sent,
whatever has been discovered since. Others with the qualifier keep the defaults of their places.
-/
namespace ReplicatedSpace.Timeline

variable {world : World} {settings : List Settings} {before timeline middle later sent : Timeline}
  {index : Nat} {client : Client} {coordinator : Coordinator} {task : Task} {qualifier : String}
  {delay : Span}

theorem lastDelay?_of_account (onward : timeline.Onward later)
    (last : ∀ other, .delaySet qualifier other ∉ later.account timeline index) :
    later.lastDelay? index qualifier = timeline.lastDelay? index qualifier := by
  obtain ⟨moments, since⟩ := onward.log
  unfold lastDelay?
  rw [since, List.findSome?_append]
  generalize found : List.findSome? _ moments = meanwhile
  cases meanwhile with
  | none => exact Option.none_or
  | some other =>
    obtain ⟨moment, present, set⟩ := List.exists_of_findSome?_eq_some found
    split at set
    · rename_i qualifier' delay same
      split at set
      · rename_i own
        obtain ⟨mine, rfl⟩ := own
        have counted : moment.eventOf? index timeline.rounds.length = some moment.event := by
          simp [Moment.eventOf?, mine, same]
        refine absurd ?_ (last delay)
        rw [account_of_since since]
        exact List.mem_filterMap.mpr ⟨moment, present, counted.trans (congrArg some same)⟩
      · cases set
    · cases set

theorem lastDelay?_of_setDelay (known : before.clients[index]? = some client)
    (set : before.setDelay index qualifier delay = .ok timeline) :
    timeline.lastDelay? index qualifier = some delay := by
  have request : before.requestDelay index qualifier delay = timeline := by
    simp [requestDelay, set]
  rcases before.setDelay_cases index known qualifier delay with ⟨refused, _⟩ | ⟨changed, _, same⟩
  · rw [refused] at set
    cases set
  · rw [← request, same, lastDelay?_set]
    simp

/-- Each call arrives once, after its own delay. -/
theorem filter_arrivalsAfter (timer : Timer) (time : Nat) {calls : List Call} {delays : List Span}
    (distinct : calls.Nodup) {place : Nat} {call : Call} (own : calls[place]? = some call)
    (waits : delays[place]? = some delay) :
    (arrivalsAfter timer time calls delays).filter (·.call = call) =
      [⟨time + timer.wait delay, call⟩] := by
  induction calls generalizing delays place with
  | nil => cases own
  | cons first calls ih =>
    obtain ⟨absent, distinct⟩ := List.nodup_cons.mp distinct
    cases delays with
    | nil => cases waits
    | cons shortest delays =>
      have split : arrivalsAfter timer time (first :: calls) (shortest :: delays) =
          ⟨time + timer.wait shortest, first⟩ :: arrivalsAfter timer time calls delays := rfl
      cases place with
      | zero =>
        obtain rfl : first = call := Option.some.inj own
        obtain rfl : shortest = delay := Option.some.inj waits
        have others : (arrivalsAfter timer time calls delays).filter (·.call = first) = [] := by
          apply List.filter_eq_nil_iff.mpr
          intro arrival present same
          obtain ⟨⟨other, _⟩, paired, from_⟩ := List.mem_map.mp present
          subst from_
          have same : other = first := of_decide_eq_true same
          exact absent (same ▸ (List.of_mem_zip paired).1)
        rw [split, List.filter_cons_of_pos (by simp), others]
      | succ place =>
        have other : first ≠ call := fun same => absent (same ▸ List.mem_of_getElem? own)
        rw [split, List.filter_cons_of_neg (by simpa using other)]
        exact ih distinct own waits

theorem Balanced.arrived_of_itinerary {round : Nat} {call : Call} {arrival : Arrival}
    (balanced : later.Balanced)
    (alone : (later.itinerary round).filter (·.call = call) = [arrival])
    (passed : arrival.time < later.now) : arrival ∈ later.arrived := by
  have listed : arrival ∈ (later.itinerary round).filter (·.call = call) :=
    alone ▸ List.mem_singleton_self arrival
  rcases List.mem_append.mp (List.mem_filter.mp (List.mem_filter.mp listed).1).1 with past | coming
  · exact List.mem_reverse.mp past
  · exact absurd passed (Nat.not_lt_of_le (balanced.expected_onTime arrival coming))

/-- The calls of an attempt to replicas with one qualifier: the first replica's waits for the delay
that was set last, every other for the default of its place. -/
theorem Reached.namesakes_sent (reached : middle.Reached world settings)
    (remembered : middle.lastDelay? index qualifier = some delay)
    (found : middle.clients[index]? = some ⟨coordinator, .busy task⟩)
    (everywhere : task.attempt.operation ≠ .getState)
    (sends : middle.proceed? index = some (.moved sent))
    (opens : middle.rounds.length < sent.rounds.length) :
    ∃ (own : Settings) (calls : List Call), settings[index]? = some own ∧ calls.Nodup ∧
      calls.map Call.replica = coordinator.replicas.entries ∧
      (∀ call ∈ calls, call.client = index ∧
        call.request.Fits task.attempt.operation task.attempt.argument) ∧
      ∀ place call, calls[place]? = some call → call.replica.qualifier = qualifier →
        let wait := if coordinator.replicas.position? qualifier = some place then delay
          else own.stagger.scale place
        let arrival : Arrival := ⟨middle.now + middle.timer.wait wait, call⟩
        (∀ limit, middle.timer.Keeps limit → wait.ceilMillis ≤ limit →
          arrival.time = middle.now + wait.ceilMillis) ∧
        ∀ later, sent.Unfolds world later →
          (later.itinerary middle.rounds.length).filter (·.call = call) = [arrival] ∧
            (arrival.time < later.now → arrival ∈ later.arrived) := by
  have reachedSent : sent.Reached world settings := reached.moves (.client sends (.moved sent))
  obtain ⟨inStep, slot, recalls⟩ := reached.scheduled found
  obtain ⟨own, listed, slot⟩ := Option.map_eq_some_iff.mp slot
  obtain ⟨calls, replicas, distinct, _, asked, same⟩ :=
    reached.itinerary_sent found everywhere sends opens
  refine ⟨own, calls, listed, distinct, replicas, ?_, ?_⟩
  · intro call present
    obtain ⟨client, fits, _⟩ := asked call present
    exact ⟨client, fits⟩
  · intro place call here namesake wait arrival
    refine ⟨fun limit keeps within => congrArg (middle.now + ·) (keeps.wait_eq within), ?_⟩
    intro later unfolds
    have replica : coordinator.replicas.get? place = some call.replica := by
      rw [ReplicaSet.get?, ← replicas, List.getElem?_map, here]
      rfl
    have delays : coordinator.stagger.delays[place]? = some wait := by
      refine (inStep.delay replica).trans ?_
      rw [Coordinator.ownDelay, namesake, recalls, remembered, ← slot]
      rfl
    have alone : (later.itinerary middle.rounds.length).filter (·.call = call) = [arrival] := by
      apply List.perm_singleton.mp
      refine (((Unfolds.itinerary reachedSent opens unfolds).trans same).filter _).trans (.of_eq ?_)
      exact filter_arrivalsAfter middle.timer middle.now distinct here delays
    exact ⟨alone, (reachedSent.unfolds unfolds).balanced.arrived_of_itinerary alone⟩

/-- A delay that a user sets counts for every attempt to put, read or take until it is set anew for
the same qualifier, whatever has been discovered, failed and forgotten meanwhile. It is the delay of
the first known replica with the qualifier, which is called just once, when the timer has waited for
it; any other replica with the qualifier is called after the default delay of its place. -/
theorem override_reaches_first_namesake (reached : before.Reached world settings)
    (known : before.clients[index]? = some client) (free : before.Free index)
    (set : before.setDelay index qualifier delay = .ok timeline)
    (unfolds : timeline.Unfolds world middle)
    (last : ∀ other, .delaySet qualifier other ∉ middle.account timeline index)
    (found : middle.clients[index]? = some ⟨coordinator, .busy task⟩)
    (everywhere : task.attempt.operation ≠ .getState)
    (sends : middle.proceed? index = some (.moved sent))
    (opens : middle.rounds.length < sent.rounds.length) :
    ∃ (own : Settings) (calls : List Call), settings[index]? = some own ∧ calls.Nodup ∧
      calls.map Call.replica = coordinator.replicas.entries ∧
      (∀ call ∈ calls, call.client = index ∧
        call.request.Fits task.attempt.operation task.attempt.argument) ∧
      ∀ place call, calls[place]? = some call → call.replica.qualifier = qualifier →
        let wait := if coordinator.replicas.position? qualifier = some place then delay
          else own.stagger.scale place
        let arrival : Arrival := ⟨middle.now + middle.timer.wait wait, call⟩
        (∀ limit, middle.timer.Keeps limit → wait.ceilMillis ≤ limit →
          arrival.time = middle.now + wait.ceilMillis) ∧
        ∀ later, sent.Unfolds world later →
          (later.itinerary middle.rounds.length).filter (·.call = call) = [arrival] ∧
            (arrival.time < later.now → arrival ∈ later.arrived) := by
  have request : before.requestDelay index qualifier delay = timeline := by
    simp [requestDelay, set]
  have reachedSet : timeline.Reached world settings :=
    request ▸ reached.requests (.delay free qualifier delay)
  have remembered : middle.lastDelay? index qualifier = some delay :=
    (lastDelay?_of_account (Unfolds.onward unfolds) last).trans (lastDelay?_of_setDelay known set)
  exact (reachedSet.unfolds unfolds).namesakes_sent remembered found everywhere sends opens

/-- Of two replicas with the qualifier of the delay that was set, the first is called after that
delay, and the second after its default. -/
theorem override_reaches_first_of_two : ∃ (middle sent : Timeline) (calls : List Call),
    middle.Reached .any [.standard] ∧ middle.proceed? 0 = some (.moved sent) ∧
    calls.map Call.replica = [⟨"a:1", "A"⟩, ⟨"b:1", "B"⟩, ⟨"b:2", "B"⟩] ∧
    ∀ later, sent.Unfolds .any later →
      (∀ call, calls[1]? = some call →
        (later.itinerary middle.rounds.length).filter (·.call = call) = [⟨3000, call⟩]) ∧
      ∀ call, calls[2]? = some call →
        (later.itinerary middle.rounds.length).filter (·.call = call) = [⟨2000, call⟩] := by
  have free (timeline : Timeline) (rests : timeline.isBusyAt 0 = false) : timeline.Free 0 :=
    free_of_isBusyAt (Bool.eq_false_iff.mp rests)
  have set : (opening [.standard]).setDelay 0 "B" (.ofMillis 3000) = .ok _ := rfl
  have asked : Unfolds .any _ _ := .single (.inr ⟨0,
    .operation (free ((opening [.standard]).requestDelay 0 "B" (.ofMillis 3000)) rfl)
      .put "<a>" 1 0⟩)
  have begun := asked.goes (rfl : proceed? _ 0 = _)
  have known := begun.learns (rfl : proceed? _ 0 = some (.asks (.lookup _ _) _))
    (.ok [⟨"a:1", "A"⟩, ⟨"b:1", "B"⟩, ⟨"b:2", "B"⟩]) trivial
  have numbered := known.learns (rfl : proceed? _ 0 = some (.asks (.next _) _)) (.ok ⟨7⟩) trivial
  have reached : Reached .any [.standard]
      ((opening [.standard]).requestDelay 0 "B" (.ofMillis 3000)) :=
    Reached.opening.requests (.delay (free _ rfl) "B" (.ofMillis 3000))
  obtain ⟨own, calls, listed, _, replicas, _, times⟩ :=
    @override_reaches_first_namesake _ _ _ _ _ _ 0 _ _ _ "B" (.ofMillis 3000) Reached.opening rfl
      (free _ rfl) set numbered (by
        intro other present
        change _ ∈ [Event.next _ _, .discovered _, .lookup _ _, .attempt _, .begun _ _ _] at present
        simp at present) rfl (by decide) rfl (lt_rounds_collect ..)
  cases listed
  have replicas : calls.map Call.replica = [⟨"a:1", "A"⟩, ⟨"b:1", "B"⟩, ⟨"b:2", "B"⟩] := replicas
  refine ⟨_, _, calls, reached.unfolds numbered, rfl, replicas, ?_⟩
  intro later unfolds
  have qualifier {place : Nat} {call : Call} (here : calls[place]? = some call) :
      ([⟨"a:1", "A"⟩, ⟨"b:1", "B"⟩, ⟨"b:2", "B"⟩] : List Replica)[place]? = some call.replica := by
    have seen : (calls.map Call.replica)[place]? = some call.replica := by
      rw [List.getElem?_map, here]
      rfl
    exact replicas ▸ seen
  constructor
  · intro call here
    have namesake : call.replica.qualifier = "B" :=
      congrArg Replica.qualifier (Option.some.inj (qualifier here)).symm
    exact ((times 1 call here namesake).2 later unfolds).1
  · intro call here
    have namesake : call.replica.qualifier = "B" :=
      congrArg Replica.qualifier (Option.some.inj (qualifier here)).symm
    exact ((times 2 call here namesake).2 later unfolds).1

/-- The second replica with a qualifier is not called after the delay that was set for it, and a
delay for which the clock has no room is not waited for. -/
theorem namesake_keeps_default : ∃ (timeline sent : Timeline) (far near : Span),
    timeline.Reached .any [.standard] ∧ timeline.lastDelay? 0 "A" = some far ∧
    timeline.lastDelay? 0 "B" = some near ∧ timeline.proceed? 0 = some (.moved sent) ∧
    ((sent.itinerary timeline.rounds.length).map fun arrival =>
        (arrival.call.replica, arrival.time)).Perm
      [(⟨"a:1", "A"⟩, timeline.now + 946080000000), (⟨"b:1", "B"⟩, timeline.now + 3000),
        (⟨"b:2", "B"⟩, timeline.now + 2000)] ∧
    near.ceilMillis = 3000 ∧ 946080000000 < far.ceilMillis := by
  let far : Span := ⟨9223372036854775808000000000, by decide⟩
  have free (timeline : Timeline) (rests : timeline.isBusyAt 0 = false) : timeline.Free 0 :=
    free_of_isBusyAt (Bool.eq_false_iff.mp rests)
  have first : Reached .any [.standard] _ :=
    Reached.opening.requests (.delay (free _ rfl) "A" far)
  have second := first.requests (.delay (free _ rfl) "B" (.ofMillis 3000))
  have asked := second.requests (.operation (free _ rfl) .put "<a>" 1 0)
  have begun := asked.goes (rfl : proceed? _ 0 = _)
  have known := begun.learns (rfl : proceed? _ 0 = some (.asks (.lookup _ _) _))
    (.ok [⟨"a:1", "A"⟩, ⟨"b:1", "B"⟩, ⟨"b:2", "B"⟩]) trivial
  have numbered := known.learns (rfl : proceed? _ 0 = some (.asks (.next _) _)) (.ok ⟨7⟩) trivial
  obtain ⟨calls, replicas, _, _, _, same⟩ :=
    @Reached.itinerary_sent _ _ _ _ 0 _ _ numbered rfl (by decide) rfl (lt_rounds_collect ..)
  have times (time : Nat) {pairs : List (Replica × Span)}
      (own : pairs = [(⟨"a:1", "A"⟩, far), (⟨"b:1", "B"⟩, .ofMillis 3000),
        (⟨"b:2", "B"⟩, Settings.standard.stagger.scale 2)]) :
      pairs.map (fun planned => (planned.1, time + Timer.standard.wait planned.2)) =
        [(⟨"a:1", "A"⟩, time + 946080000000), (⟨"b:1", "B"⟩, time + 3000),
          (⟨"b:2", "B"⟩, time + 2000)] := by
    have wait : Timer.standard.wait far = 946080000000 := by decide
    have wait' : Timer.standard.wait (.ofMillis 3000) = 3000 := by decide
    have wait'' : Timer.standard.wait (Settings.standard.stagger.scale 2) = 2000 := by decide
    simp [own, wait, wait', wait'']
  refine ⟨_, _, far, .ofMillis 3000, numbered, rfl, rfl, rfl, ?_, by decide, by decide⟩
  refine (same.map _).trans (.of_eq ?_)
  rw [replicas_arrivalsAfter, replicas]
  exact times _ rfl

end ReplicatedSpace.Timeline
