import ReplicatedSpace.Proofs.Course

/-!
Replicas and their delays stay in step: whatever happens to a client, it has one delay for each of
its replicas, and that is the one its user set last for the first replica with that qualifier, or
the default of its place.
-/
namespace ReplicatedSpace

theorem ReplicaSet.qualifier_of_position? {replicas : ReplicaSet} {qualifier : String}
    {index : Nat} (found : replicas.position? qualifier = some index) :
    ∃ replica, replicas.get? index = some replica ∧ replica.qualifier = qualifier := by
  obtain ⟨inside, same, _⟩ := List.findIdx?_eq_some_iff_getElem.mp found
  exact ⟨_, List.getElem?_eq_getElem inside, of_decide_eq_true same⟩

theorem ReplicaSet.qualifier_of_get? {replicas : ReplicaSet} {replica : Replica}
    {qualifier : String} {index : Nat} (listed : replicas.get? index = some replica)
    (found : replicas.position? qualifier = some index) : replica.qualifier = qualifier := by
  obtain ⟨other, listed', same⟩ := qualifier_of_position? found
  cases listed.symm.trans listed'
  exact same

namespace Stagger

variable {stagger : Stagger} {replicas : ReplicaSet}

theorem ext_delay? {first second : Stagger}
    (same : ∀ index, first.delay? index = second.delay? index) : first = second :=
  congrArg Stagger.mk (List.ext_getElem? same)

@[simp] theorem size_override (qualifier : String) (delay : Span) :
    (stagger.override replicas qualifier delay).size = stagger.size := by
  unfold override
  split
  · cases set : stagger.setDelay? _ delay with
    | none => rfl
    | some changed => exact size_setDelay? set
  · rfl

theorem delay?_override (inStep : stagger.size = replicas.size) (qualifier : String)
    (delay : Span) (index : Nat) :
    (stagger.override replicas qualifier delay).delay? index =
      if replicas.position? qualifier = some index then some delay else stagger.delay? index := by
  unfold override
  split
  · rename_i position found
    have inside : position < stagger.size := inStep ▸ ReplicaSet.position?_lt found
    have set : stagger.setDelay? position delay = some ⟨stagger.delays.set position delay⟩ :=
      if_pos inside
    rw [set, Option.getD_some, delay?_setDelay? set, found]
    simp only [Option.some.injEq, eq_comm]
  · rename_i missing
    simp [missing]

/-- Overrides one after the other. -/
def overrideAll (stagger : Stagger) (replicas : ReplicaSet) (entries : List (String × Span)) :
    Stagger :=
  entries.foldl (fun stagger (qualifier, delay) =>
    stagger.override replicas qualifier delay) stagger

@[simp] theorem size_overrideAll (entries : List (String × Span)) :
    (stagger.overrideAll replicas entries).size = stagger.size := by
  unfold overrideAll
  induction entries generalizing stagger with
  | nil => rfl
  | cons entry rest ih => rw [List.foldl_cons, ih, size_override]

theorem override_comm (inStep : stagger.size = replicas.size) {first second : String}
    (different : first ≠ second) (delay delay' : Span) :
    (stagger.override replicas first delay).override replicas second delay' =
      (stagger.override replicas second delay').override replicas first delay := by
  refine ext_delay? fun index => ?_
  rw [delay?_override (by simpa using inStep), delay?_override inStep,
    delay?_override (by simpa using inStep), delay?_override inStep]
  by_cases one : replicas.position? first = some index
  · by_cases other : replicas.position? second = some index
    · obtain ⟨replica, listed, same⟩ := ReplicaSet.qualifier_of_position? one
      exact absurd (same.symm.trans (ReplicaSet.qualifier_of_get? listed other)) different
    · simp [one, other]
  · simp [one]

theorem overrideAll_perm (inStep : stagger.size = replicas.size)
    {entries others : List (String × Span)} (same : entries.Perm others)
    (distinct : (entries.map (·.1)).Nodup) :
    stagger.overrideAll replicas entries = stagger.overrideAll replicas others := by
  unfold overrideAll
  induction same generalizing stagger with
  | nil => rfl
  | cons entry same ih =>
    exact ih (by simpa using inStep) (List.nodup_cons.mp distinct).2
  | swap first second rest =>
    obtain ⟨qualifier, delay⟩ := first
    obtain ⟨qualifier', delay'⟩ := second
    have different : qualifier' ≠ qualifier := by
      have absent := (List.nodup_cons.mp distinct).1
      intro same
      simp [same] at absent
    simp only [List.foldl_cons]
    rw [override_comm inStep different]
  | trans first second ih ih' =>
    exact (ih inStep distinct).trans (ih' inStep ((first.map _).nodup_iff.mp distinct))

theorem delay?_overrideAll (inStep : stagger.size = replicas.size)
    {entries : List (String × Span)} (distinct : (entries.map (·.1)).Nodup) {index : Nat}
    {replica : Replica} (listed : replicas.get? index = some replica) :
    (stagger.overrideAll replicas entries).delay? index =
      if replicas.position? replica.qualifier = some index then
        (((entries.find? (·.1 = replica.qualifier)).map (·.2)).or (stagger.delay? index))
      else stagger.delay? index := by
  unfold overrideAll
  induction entries generalizing stagger with
  | nil => simp
  | cons entry rest ih =>
    obtain ⟨absent, distinct⟩ := List.nodup_cons.mp distinct
    rw [List.foldl_cons, ih (by simpa using inStep) distinct, delay?_override inStep,
      List.find?_cons]
    by_cases own : entry.1 = replica.qualifier
    · have missing : rest.find? (·.1 = replica.qualifier) = none := by
        refine List.find?_eq_none.mpr fun other present => ?_
        intro same
        exact absent (List.mem_map.mpr ⟨other, present, (of_decide_eq_true same).trans own.symm⟩)
      by_cases first : replicas.position? replica.qualifier = some index <;>
        simp [own, missing, first]
    · have elsewhere : replicas.position? entry.1 ≠ some index := fun found =>
        own (ReplicaSet.qualifier_of_get? listed found).symm
      simp only [own, elsewhere, decide_false, ↓reduceIte]

end Stagger

namespace Coordinator

variable {coordinator : Coordinator}

/-- The delay that a replica in a place should have. -/
def ownDelay (coordinator : Coordinator) (place : Nat) (replica : Replica) : Span :=
  if coordinator.replicas.position? replica.qualifier = some place then
    (coordinator.overrides.find? replica.qualifier).getD (coordinator.slot.scale place)
  else coordinator.slot.scale place

/-- There is one delay for each replica, and it is the one that the replica should have. -/
structure InStep (coordinator : Coordinator) : Prop where
  distinct : (coordinator.overrides.entries.map (·.1)).Nodup
  size : coordinator.stagger.size = coordinator.replicas.size
  delay {place : Nat} {replica : Replica}
    (listed : coordinator.replicas.get? place = some replica) :
    coordinator.stagger.delay? place = some (coordinator.ownDelay place replica)

theorem InStep.ofSettings (settings : Settings) : (ofSettings settings).InStep :=
  ⟨.nil, rfl, fun listed => by cases listed⟩

theorem InStep.delays_eq_nil (inStep : coordinator.InStep)
    (unknown : coordinator.replicas.entries = []) : coordinator.stagger.delays = [] := by
  have size : coordinator.stagger.delays.length = coordinator.replicas.entries.length :=
    inStep.size
  rw [unknown] at size
  exact List.length_eq_zero_iff.mp size

theorem InStep.invalidate (inStep : coordinator.InStep) : coordinator.invalidate.InStep :=
  ⟨inStep.distinct, rfl, fun listed => by cases listed⟩

theorem InStep.renew (inStep : coordinator.InStep) (handle : Nat) :
    { coordinator with handle }.InStep :=
  ⟨inStep.distinct, inStep.size, inStep.delay⟩

theorem InStep.install (inStep : coordinator.InStep) (entries : List Replica) :
    (coordinator.install entries).InStep := by
  let replicas : ReplicaSet := ⟨entries⟩
  have uniform : (Stagger.uniform replicas.size coordinator.slot).size = replicas.size :=
    Stagger.size_uniform ..
  refine ⟨inStep.distinct, ?_, ?_⟩
  · exact (Stagger.size_overrideAll coordinator.overrides.entries).trans uniform
  · intro place replica listed
    have inside : place < replicas.size := (List.getElem?_eq_some_iff.mp listed).1
    have delay := Stagger.delay?_overrideAll uniform inStep.distinct listed
    rw [Stagger.delay?_uniform _ _ _ inside] at delay
    refine delay.trans ?_
    change _ = some (if replicas.position? replica.qualifier = some place then
      (coordinator.overrides.find? replica.qualifier).getD (coordinator.slot.scale place)
      else coordinator.slot.scale place)
    split
    · unfold Overrides.find?
      cases coordinator.overrides.entries.find? (·.1 = replica.qualifier) <;> rfl
    · rfl

theorem setDelay_eq (coordinator : Coordinator) (qualifier : String) (delay : Span) :
    coordinator.setDelay qualifier delay =
      if coordinator.replicas.entries ≠ [] ∧ coordinator.replicas.position? qualifier = none then
        .error (.invalidArgument (.unknownQualifier qualifier))
      else .ok { coordinator with
        stagger := coordinator.stagger.override coordinator.replicas qualifier delay
        overrides := coordinator.overrides.set qualifier delay } := by
  simp only [setDelay, ReplicaSet.isEmpty, Bool.and_eq_true, Bool.not_eq_true',
    List.isEmpty_eq_false_iff, Option.isNone_iff_eq_none]

theorem InStep.setDelay (inStep : coordinator.InStep) {qualifier : String} {delay : Span}
    {later : Coordinator} (set : coordinator.setDelay qualifier delay = .ok later) :
    later.InStep := by
  rw [setDelay_eq] at set
  split at set
  · cases set
  · cases set
    refine ⟨?_, by simpa using inStep.size, ?_⟩
    · refine List.nodup_cons.mpr ⟨?_, (inStep.distinct.sublist (List.filter_sublist.map _))⟩
      simp
    · intro place replica listed
      rw [Stagger.delay?_override inStep.size, inStep.delay listed]
      simp only [ownDelay, Overrides.find?_set]
      by_cases own : replica.qualifier = qualifier
      · subst own
        by_cases first : coordinator.replicas.position? replica.qualifier = some place <;>
          simp [first]
      · have elsewhere : coordinator.replicas.position? qualifier ≠ some place := fun found =>
          own (ReplicaSet.qualifier_of_get? listed found)
        simp [elsewhere, own]

theorem InStep.install_perm (inStep : coordinator.InStep) {entries : List (String × Span)}
    (same : entries.Perm coordinator.overrides.entries) (replicas : List Replica) :
    ({ coordinator with overrides := ⟨entries⟩ }.install replicas).stagger =
      (coordinator.install replicas).stagger :=
  Stagger.overrideAll_perm (Stagger.size_uniform ..) same
    ((same.map _).nodup_iff.mpr inStep.distinct)

end Coordinator

namespace Timeline

variable {world : World} {settings : List Settings} {timeline later : Timeline}

/-- The delay that the user of a client set last for a qualifier, as the log tells. -/
def lastDelay? (timeline : Timeline) (index : Nat) (qualifier : String) : Option Span :=
  timeline.past.findSome? fun moment =>
    match moment.event with
    | .delaySet other delay =>
      if moment.client = index ∧ other = qualifier then some delay else none
    | _ => none

theorem lastDelay?_of_append {moments : List Moment} (index : Nat) (qualifier : String)
    (past : later.past = moments ++ timeline.past)
    (others : ∀ moment ∈ moments, ∀ qualifier delay, moment.event ≠ .delaySet qualifier delay) :
    later.lastDelay? index qualifier = timeline.lastDelay? index qualifier := by
  unfold lastDelay?
  rw [past, List.findSome?_append]
  have nothing : moments.findSome? (fun moment =>
      match moment.event with
      | .delaySet other delay =>
        if moment.client = index ∧ other = qualifier then some delay else none
      | _ => none) = none := by
    refine List.findSome?_eq_none_iff.mpr fun moment present => ?_
    have other := others moment present
    split
    · rename_i same; exact absurd same (other _ _)
    · rfl
  rw [nothing, Option.none_or]

/-- A client's coordinator is in step, with the slot of its settings, and knows the delays that its
user set. -/
structure Scheduled (settings : List Settings) (timeline : Timeline) (index : Nat)
    (coordinator : Coordinator) : Prop where
  inStep : coordinator.InStep
  slot : (settings[index]?).map Settings.stagger = some coordinator.slot
  recalls (qualifier : String) :
    coordinator.overrides.find? qualifier = timeline.lastDelay? index qualifier

variable {index : Nat} {coordinator : Coordinator}

theorem Scheduled.kept (scheduled : Scheduled settings timeline index coordinator)
    (same : ∀ qualifier, later.lastDelay? index qualifier = timeline.lastDelay? index qualifier) :
    Scheduled settings later index coordinator :=
  ⟨scheduled.inStep, scheduled.slot,
    fun qualifier => (scheduled.recalls qualifier).trans (same qualifier).symm⟩

theorem Scheduled.of_deed {task : Task} {effect : Effect} {events : List Event} {client : Client}
    (scheduled : Scheduled settings timeline index coordinator)
    (deed : Deed world timeline coordinator task effect events client) :
    Scheduled settings timeline index client.coordinator := by
  obtain ⟨inStep, slot, recalls⟩ := scheduled
  rcases deed.coordinator with same | same | ⟨replicas, same⟩ | ⟨handle, same⟩
  · rw [same]; exact ⟨inStep, slot, recalls⟩
  · rw [same]; exact ⟨inStep.invalidate, slot, recalls⟩
  · rw [same]; exact ⟨inStep.install replicas, slot, recalls⟩
  · rw [same]; exact ⟨inStep.renew handle, slot, recalls⟩

theorem setDelay_cases (timeline : Timeline) (index : Nat) {client : Client}
    (found : timeline.clients[index]? = some client) (qualifier : String) (delay : Span) :
    (timeline.setDelay index qualifier delay =
        .error (.invalidArgument (.unknownQualifier qualifier)) ∧
      timeline.requestDelay index qualifier delay = timeline) ∨
    ∃ changed, client.coordinator.setDelay qualifier delay = .ok changed ∧
      timeline.requestDelay index qualifier delay =
        (timeline.log index (.delaySet qualifier delay)).setClient index
          { client with coordinator := changed } := by
  unfold requestDelay
  simp only [setDelay, found]
  cases set : client.coordinator.setDelay qualifier delay with
  | ok changed => exact .inr ⟨changed, rfl, rfl⟩
  | error error =>
    rw [Coordinator.setDelay_eq] at set
    split at set
    · cases set; exact .inl ⟨rfl, rfl⟩
    · cases set

theorem lastDelay?_set (timeline : Timeline) (mover : Nat) (qualifier : String) (delay : Span)
    (client : Client) (name : String) :
    ((timeline.log mover (.delaySet qualifier delay)).setClient mover client).lastDelay? index
        name =
      if index = mover ∧ name = qualifier then some delay else timeline.lastDelay? index name := by
  simp only [lastDelay?, setClient, log, List.findSome?_cons]
  by_cases hit : index = mover ∧ name = qualifier
  · simp [hit]
  · have miss : ¬ (mover = index ∧ qualifier = name) := fun same => hit ⟨same.1.symm, same.2.symm⟩
    simp [hit, miss]

private theorem scheduled_requestDelay {mover : Nat} {client : Client}
    (known : ∀ {index client}, timeline.clients[index]? = some client →
      Scheduled settings timeline index client.coordinator)
    (qualifier : String) (delay : Span)
    (found : (timeline.requestDelay mover qualifier delay).clients[index]? = some client) :
    Scheduled settings (timeline.requestDelay mover qualifier delay) index client.coordinator := by
  cases own : timeline.clients[mover]? with
  | none =>
    have same : timeline.requestDelay mover qualifier delay = timeline := by
      simp [requestDelay, setDelay, own]
    rw [same] at found ⊢
    exact known found
  | some mine =>
    rcases timeline.setDelay_cases mover own qualifier delay with ⟨_, same⟩ | ⟨changed, set, same⟩
    · rw [same] at found ⊢
      exact known found
    · rw [same] at found ⊢
      simp only [setClient, log, List.getElem?_set] at found
      split at found
      · rename_i here
        subst here
        split at found
        · cases found
          have earlier := known own
          have inStep := earlier.inStep.setDelay set
          rw [Coordinator.setDelay_eq] at set
          split at set
          · cases set
          · cases set
            refine ⟨inStep, earlier.slot, fun name => ?_⟩
            rw [lastDelay?_set]
            simp [earlier.recalls name]
        · cases found
      · rename_i elsewhere
        refine (known found).kept fun name => ?_
        rw [lastDelay?_set]
        simp [Ne.symm elsewhere]

theorem Reached.scheduled (reached : timeline.Reached world settings) {client : Client}
    (found : timeline.clients[index]? = some client) :
    Scheduled settings timeline index client.coordinator := by
  induction reached generalizing index client with
  | opening =>
    simp only [Timeline.opening, List.getElem?_map, Option.map_eq_some_iff] at found
    obtain ⟨own, listed, same⟩ := found
    subst same
    exact ⟨.ofSettings own, by rw [listed]; rfl, fun _ => rfl⟩
  | moves reached moves ih =>
    obtain ⟨moments, past, others⟩ := moves.past
    have same (qualifier : String) := lastDelay?_of_append index qualifier past others
    rcases moves.client? found with found | ⟨coordinator, task, effect, events, busy, deed, _⟩
    · exact (ih found).kept same
    · exact ((ih busy).of_deed deed).kept same
  | requests reached requests ih =>
    rename_i timeline _ mover
    cases requests with
    | operation free operation argument retries start =>
      have same (name : String) :
          (timeline.submit mover operation argument retries start).lastDelay?
          index name = timeline.lastDelay? index name := by
        unfold submit; split <;> rfl
      rcases client?_of_submit found with found | ⟨_, earlier, own, renewed⟩
      · exact (ih found).kept same
      · subst renewed
        exact (ih own).kept same
    | delay free qualifier delay => exact scheduled_requestDelay ih qualifier delay found

/-- At any time, during an operation or between two, a client has one delay for each of its
replicas: the first replica with a qualifier has the delay that the user set last for it, if there
is one, and every other the default of its place. A request that is refused changes nothing, and
when delays are set again after a discovery, their order does not matter. -/
theorem delays_in_step (reached : timeline.Reached world settings) {client : Client}
    (found : timeline.clients[index]? = some client) :
    ∃ own, settings[index]? = some own ∧
      client.coordinator.stagger.size = client.coordinator.replicas.size ∧
      (∀ place replica, client.coordinator.replicas.get? place = some replica →
        client.coordinator.stagger.delay? place = some
          (if client.coordinator.replicas.position? replica.qualifier = some place then
            (timeline.lastDelay? index replica.qualifier).getD (own.stagger.scale place)
          else own.stagger.scale place)) ∧
      (∀ qualifier delay,
        (∃ error, timeline.setDelay index qualifier delay = .error error) ∧
          timeline.requestDelay index qualifier delay = timeline ∨
        timeline.setDelay index qualifier delay =
            .ok (timeline.requestDelay index qualifier delay) ∧
          ∀ other name, (timeline.requestDelay index qualifier delay).lastDelay? other name =
            if other = index ∧ name = qualifier then some delay
            else timeline.lastDelay? other name) ∧
      ∀ entries : List (String × Span), entries.Perm client.coordinator.overrides.entries →
        ∀ replicas, ({ client.coordinator with overrides := ⟨entries⟩ }.install replicas).stagger =
          (client.coordinator.install replicas).stagger := by
  obtain ⟨inStep, slot, recalls⟩ := reached.scheduled found
  obtain ⟨own, listed, slot⟩ := Option.map_eq_some_iff.mp slot
  refine ⟨own, listed, inStep.size, ?_, ?_, fun _ same _ => inStep.install_perm same _⟩
  · intro place replica known
    rw [inStep.delay known, Coordinator.ownDelay, recalls, slot]
  · intro qualifier delay
    rcases timeline.setDelay_cases index found qualifier delay with
      ⟨refused, same⟩ | ⟨changed, set, same⟩
    · exact .inl ⟨⟨_, refused⟩, same⟩
    · refine .inr ⟨?_, fun other name => ?_⟩
      · rw [same]
        simp only [setDelay, found, set]
        rfl
      · rw [same]
        exact lastDelay?_set ..

/-- A delay that is set before the replicas are known is that of the first with the qualifier. -/
theorem delay_of_first_namesake : ∃ (timeline : Timeline) (client : Client),
    timeline.Reached .any [.standard] ∧ timeline.clients[0]? = some client ∧
      client.coordinator.stagger.delay? 1 = some (.ofMillis 3000) ∧
      client.coordinator.stagger.delay? 2 = some (Settings.standard.stagger.scale 2) := by
  have set : Reached .any [.standard] _ := Reached.opening.requests
    (.delay (fun _ found => by cases found; rfl) "B" (.ofMillis 3000) : Requests 0 _ _)
  have asked := set.requests
    (.operation (fun _ found => by cases found; rfl) .read "<a>" 1 0 : Requests 0 _ _)
  have begun := asked.goes (rfl : proceed? _ 0 = _)
  have known := begun.learns (rfl : proceed? _ 0 = some (.asks (.lookup _ _) _))
    (.ok [⟨"a:1", "A"⟩, ⟨"b:1", "B"⟩, ⟨"b:2", "B"⟩]) trivial
  obtain ⟨own, listed, _, delays, _⟩ := @delays_in_step _ _ _ 0 known _ rfl
  cases listed
  exact ⟨_, _, known, rfl, delays 1 ⟨"b:1", "B"⟩ rfl, delays 2 ⟨"b:2", "B"⟩ rfl⟩

end Timeline
end ReplicatedSpace
