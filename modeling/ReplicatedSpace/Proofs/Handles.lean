import ReplicatedSpace.Proofs.Lifetime

/-!
Handles of the sequencer. A client asks through one handle until that fails, gives it up there and
then for one that it never had, and never comes back to it. The operation that met with the failure
ends without a number: nobody is called, nothing is forgotten, and there is no other attempt.
-/
namespace ReplicatedSpace

/-- Through which handle the sequencer was asked, if it was. -/
def Event.handle? : Event → Option Nat
  | .next handle _ => some handle
  | _ => none

/-- Neither is a handle used nor is it given up. -/
def Event.sparesHandles : Event → Bool
  | .next .. | .reset .. => false
  | _ => true

/-- Events, the earliest first, that lead from one handle to another. Each handle is used as long as
it gives numbers; the one that fails is given up at once, for a greater one. -/
inductive Succession : Nat → Nat → List Event → Prop
  | nothing (handle : Nat) : Succession handle handle []
  | aside {first last : Nat} {event : Event} {rest : List Event}
      (spares : event.sparesHandles = true) (succession : Succession first last rest) :
      Succession first last (event :: rest)
  | numbered {first last : Nat} {rest : List Event} (number : SequenceNumber)
      (succession : Succession first last rest) :
      Succession first last (.next first (.ok number) :: rest)
  | renewed {first new last : Nat} {rest : List Event} (error : Error) (greater : first < new)
      (succession : Succession new last rest) :
      Succession first last (.next first (.error error) :: .reset first new :: rest)

namespace Succession

variable {first middle last handle new : Nat} {events earlier later : List Event} {error : Error}
  {answer : Except Error SequenceNumber}

theorem append (succession : Succession first middle earlier)
    (succession' : Succession middle last later) : Succession first last (earlier ++ later) := by
  induction succession with
  | nothing => exact succession'
  | aside spares _ ih => exact .aside spares (ih succession')
  | numbered number _ ih => exact .numbered number (ih succession')
  | renewed error greater _ ih => exact .renewed error greater (ih succession')

theorem of_sparing (spares : ∀ event ∈ events, event.sparesHandles = true) :
    Succession handle handle events := by
  induction events with
  | nil => exact .nothing handle
  | cons event rest ih =>
    obtain ⟨here, there⟩ := List.forall_mem_cons.mp spares
    exact .aside here (ih there)

theorem le (succession : Succession first last events) : first ≤ last := by
  induction succession with
  | nothing => exact Nat.le_refl _
  | aside _ _ ih | numbered _ _ ih => exact ih
  | renewed _ greater _ ih => exact Nat.le_trans (Nat.le_of_lt greater) ih

theorem of_next (succession : Succession first last events)
    (asked : .next handle answer ∈ events) :
    first ≤ handle ∧ handle ≤ last ∧ ∀ error, answer = .error error → handle < last := by
  induction succession with
  | nothing => cases asked
  | aside spares succession ih =>
    rcases List.mem_cons.mp asked with same | asked
    · rw [← same] at spares
      cases spares
    · exact ih asked
  | numbered number succession ih =>
    rcases List.mem_cons.mp asked with same | asked
    · cases same
      refine ⟨Nat.le_refl _, succession.le, ?_⟩
      intro error impossible
      cases impossible
    · exact ih asked
  | renewed error greater succession ih =>
    have less := Nat.lt_of_lt_of_le greater succession.le
    rcases List.mem_cons.mp asked with same | asked
    · cases same
      exact ⟨Nat.le_refl _, Nat.le_of_lt less, fun _ _ => less⟩
    · rcases List.mem_cons.mp asked with same | asked
      · cases same
      · obtain ⟨least, bound⟩ := ih asked
        exact ⟨Nat.le_trans (Nat.le_of_lt greater) least, bound⟩

theorem of_reset (succession : Succession first last events)
    (given : .reset handle new ∈ events) : first ≤ handle ∧ handle < last := by
  induction succession with
  | nothing => cases given
  | aside spares succession ih =>
    rcases List.mem_cons.mp given with same | given
    · rw [← same] at spares
      cases spares
    · exact ih given
  | numbered number succession ih =>
    rcases List.mem_cons.mp given with same | given
    · cases same
    · exact ih given
  | renewed error greater succession ih =>
    rcases List.mem_cons.mp given with same | given
    · cases same
    · rcases List.mem_cons.mp given with same | given
      · cases same
        exact ⟨Nat.le_refl _, Nat.lt_of_lt_of_le greater succession.le⟩
      · obtain ⟨least, bound⟩ := ih given
        exact ⟨Nat.le_trans (Nat.le_of_lt greater) least, bound⟩

theorem first_handle (succession : Succession first last events) :
    ∀ handle, events.findSome? Event.handle? = some handle → handle = first := by
  intro handle found
  induction succession with
  | nothing => cases found
  | aside spares succession ih =>
    rename_i event _
    have none : event.handle? = none := by
      cases event <;> first | rfl | cases spares
    rw [List.findSome?_cons, none] at found
    exact ih found
  | numbered | renewed =>
    cases found
    rfl

/-- Events can be parted anywhere but between the failure of a handle and its end. -/
theorem part (succession : Succession first last (earlier ++ later)) :
    (∃ middle, Succession first middle earlier ∧ Succession middle last later) ∨
      ∃ before handle error new rest, earlier = before ++ [.next handle (.error error)] ∧
        later = .reset handle new :: rest := by
  generalize form : earlier ++ later = events at succession
  induction succession generalizing earlier with
  | nothing handle =>
    obtain ⟨none, none'⟩ := List.append_eq_nil_iff.mp form
    subst none
    subst none'
    exact .inl ⟨handle, .nothing handle, .nothing handle⟩
  | aside spares succession ih =>
    cases earlier with
    | nil =>
      cases form
      exact .inl ⟨_, .nothing _, .aside spares succession⟩
    | cons event earlier =>
      cases form
      rcases ih rfl with ⟨middle, before, after⟩ | ⟨before, handle, error, new, rest, same, same'⟩
      · exact .inl ⟨middle, .aside spares before, after⟩
      · exact .inr ⟨_ :: before, handle, error, new, rest, congrArg (_ :: ·) same, same'⟩
  | numbered number succession ih =>
    cases earlier with
    | nil =>
      cases form
      exact .inl ⟨_, .nothing _, .numbered number succession⟩
    | cons event earlier =>
      cases form
      rcases ih rfl with ⟨middle, before, after⟩ | ⟨before, handle, error, new, rest, same, same'⟩
      · exact .inl ⟨middle, .numbered number before, after⟩
      · exact .inr ⟨_ :: before, handle, error, new, rest, congrArg (_ :: ·) same, same'⟩
  | renewed error greater succession ih =>
    cases earlier with
    | nil =>
      cases form
      exact .inl ⟨_, .nothing _, .renewed error greater succession⟩
    | cons event earlier =>
      cases earlier with
      | nil =>
        cases form
        exact .inr ⟨[], _, error, _, _, rfl, rfl⟩
      | cons event' earlier =>
        cases form
        rcases ih rfl with
          ⟨middle, before, after⟩ | ⟨before, handle, error', new, rest, same, same'⟩
        · exact .inl ⟨middle, .renewed error greater before, after⟩
        · exact .inr ⟨_ :: _ :: before, handle, error', new, rest,
            congrArg (_ :: _ :: ·) same, same'⟩

/-- A handle that has failed is given up at once for one that was never used. It had not failed or
been given up before; it is neither used nor given up any more, and the next one to be used is the
new one. -/
theorem of_failure
    (succession : Succession first last (earlier ++ .next handle (.error error) :: later)) :
    ∃ new rest, later = .reset handle new :: rest ∧
      (∀ answer, .next new answer ∉ earlier) ∧
      (∀ error, .next handle (.error error) ∉ earlier) ∧ (∀ new, .reset handle new ∉ earlier) ∧
      (∀ answer, .next handle answer ∉ rest) ∧ (∀ new, .reset handle new ∉ rest) ∧
      ∀ next, rest.findSome? Event.handle? = some next → next = new := by
  rcases succession.part with ⟨middle, before, after⟩ | ⟨_, _, _, _, _, _, other⟩
  · cases after with
    | aside spares => cases spares
    | renewed _ greater after =>
      refine ⟨_, _, rfl, ?_, ?_, ?_, ?_, ?_, after.first_handle⟩
      · intro answer asked
        exact Nat.not_le_of_lt greater (before.of_next asked).2.1
      · intro error failed
        exact Nat.lt_irrefl _ ((before.of_next failed).2.2 error rfl)
      · intro new given
        exact Nat.lt_irrefl _ (before.of_reset given).2
      · intro answer asked
        exact Nat.not_le_of_lt greater (after.of_next asked).1
      · intro new given
        exact Nat.not_le_of_lt greater (after.of_reset given).1
  · cases other

theorem of_renewal
    (succession : Succession first last (earlier ++ .reset handle new :: later)) :
    ∃ before error, earlier = before ++ [.next handle (.error error)] := by
  rcases succession.part with ⟨middle, _, after⟩ | ⟨before, _, error, _, _, same, other⟩
  · cases after with
    | aside spares => cases spares
  · cases other
    exact ⟨before, error, same⟩

end Succession

namespace Timeline

variable {world : World} {settings : List Settings} {before timeline later : Timeline}
  {index : Nat} {client : Client} {coordinator : Coordinator} {task : Task} {effect : Effect}
  {events : List Event}

theorem Concludes.sparesHandles {now : Nat} {result : Except Error Outcome}
    (ends : Concludes now coordinator task result events client) :
    client.coordinator.handle = coordinator.handle ∧
      ∀ event ∈ events, event.sparesHandles = true := by
  cases ends <;> simp [Coordinator.invalidate, Event.sparesHandles]

theorem Deed.succession (deed : Deed world timeline coordinator task effect events client)
    (known : coordinator.handle ≤ timeline.handles) :
    Succession coordinator.handle client.coordinator.handle events := by
  cases deed with
  | numbered => exact .numbered _ (.nothing _)
  | unnumbered =>
    refine .renewed _ (Nat.lt_succ_of_le known) (.aside rfl (.nothing _))
  | lost _ _ _ _ ends =>
    obtain ⟨handle, spares⟩ := Concludes.sparesHandles ends
    rw [handle]
    exact .aside rfl (.aside rfl (.of_sparing spares))
  | decided _ _ _ ends =>
    obtain ⟨handle, spares⟩ := Concludes.sparesHandles ends
    rw [handle]
    exact .of_sparing spares
  | _ => exact .of_sparing (by simp [Event.sparesHandles])

theorem Deed.handle (deed : Deed world timeline coordinator task effect events client) :
    client.coordinator.handle = coordinator.handle ∨
      effect = .renewal ∧ client.coordinator.handle = timeline.handles + 1 := by
  cases deed with
  | unnumbered => exact .inr ⟨rfl, rfl⟩
  | lost _ _ _ _ ends | decided _ _ _ ends => exact .inl (Concludes.sparesHandles ends).1
  | _ => exact .inl rfl

theorem handles_le_carry (timeline : Timeline) (index : Nat) (effect : Effect) :
    timeline.handles ≤ (timeline.carry index effect).handles := by
  cases effect <;> simp [carry, dispatch_eq]

theorem Moves.handles_le (moves : timeline.Moves world later) :
    timeline.handles ≤ later.handles := by
  have hops {timeline later : Timeline} (hop : timeline.Hop world later) :
      timeline.handles = later.handles := by
    cases hop <;> rfl
  cases moves with
  | client proceeds leads =>
    rename_i mover step
    obtain ⟨_, _, effect, _, _, _, _, same⟩ := deed_of_proceed? proceeds leads
    rw [same]
    exact timeline.handles_le_carry mover effect
  | flight fires leads =>
    cases lands_of_fire? fires leads with
    | once hop => exact Nat.le_of_eq (hops hop)
    | twice hop hop' _ => exact Nat.le_of_eq ((hops hop).trans (hops hop'))
  | clock | shuffle => exact Nat.le_refl _

theorem Requests.handles (requests : timeline.Requests index later) :
    later.handles = timeline.handles := by
  cases requests with
  | operation free operation argument retries start =>
    obtain ⟨clients, turns, same⟩ := timeline.submit_books index operation argument retries start
    rw [same]
  | delay free qualifier delay =>
    rcases timeline.requestDelay_books index qualifier delay with same | ⟨clients, same⟩
    · rw [same]
    · rw [same]
      rfl

/-- No client has a handle that is yet to come. -/
theorem Reached.handle_le (reached : timeline.Reached world settings)
    (found : timeline.clients[index]? = some client) :
    client.coordinator.handle ≤ timeline.handles := by
  induction reached generalizing client with
  | opening =>
    simp only [Timeline.opening, List.getElem?_map, Option.map_eq_some_iff] at found
    obtain ⟨own, _, same⟩ := found
    subst same
    exact Nat.le_refl _
  | moves reached moves ih =>
    rcases moves.client? found with found | ⟨coordinator, task, effect, events, busy, deed, same⟩
    · exact Nat.le_trans (ih found) moves.handles_le
    · subst same
      rcases Deed.handle deed with kept | ⟨renewal, renewed⟩
      · rw [kept]
        exact Nat.le_trans (ih busy) (handles_le_carry _ index effect)
      · subst renewal
        exact Nat.le_of_eq renewed
  | requests reached requests ih =>
    rename_i mover
    rw [requests.handles]
    by_cases own : mover = index
    · subst own
      obtain ⟨earlier, found', ⟨same, _⟩ | ⟨_, _, set, _⟩⟩ :=
        requests.own reached.onward found
      · rw [same]
        exact ih found'
      · rw [(Coordinator.setDelay_kept set).1]
        exact ih found'
    · rw [requests.client?_other own] at found
      exact ih found

theorem Reached.succession (reached : timeline.Reached world settings)
    (found : timeline.clients[index]? = some client) :
    Succession 0 client.coordinator.handle
      (timeline.account (Timeline.opening settings) index).reverse := by
  refine reached.account_induction
    (motive := fun account coordinator => Succession 0 coordinator.handle account.reverse)
    ?_ ?_ ?_ ?_ found
  · intro own
    exact .nothing 0
  · intro timeline coordinator task effect events client account reached busy deed succession
    rw [List.reverse_append, List.reverse_reverse]
    exact succession.append (Deed.succession deed (reached.handle_le busy))
  · intro coordinator account call succession
    rw [List.reverse_cons]
    exact succession.append (.aside rfl (.nothing _))
  · intro coordinator changed account qualifier delay set succession
    rw [List.reverse_cons, (Coordinator.setDelay_kept set).1]
    exact succession.append (.aside rfl (.nothing _))

/-- All that has happened to a client, the earliest first. -/
def history (timeline : Timeline) (settings : List Settings) (index : Nat) : List Event :=
  (timeline.account (opening settings) index).reverse

theorem order_error (timeline : Timeline) (index : Nat) (coordinator : Coordinator) (task : Task)
    (error : Error) :
    timeline.order index coordinator task (.error error) =
      (timeline.carry index .renewal).enact index
        [.next coordinator.handle (.error error),
          .reset coordinator.handle (timeline.handles + 1), .ended (.error error.asOrdering)]
        ⟨{ coordinator with handle := timeline.handles + 1 },
          .finished (.error error.asOrdering) timeline.now⟩ := by
  simp only [order, conclude, error.isRetryable_asOrdering, Bool.false_eq_true, ↓reduceIte]
  rfl

/-- The operation that met with the failure of a handle ends with the reason that the sequencer
gave, or with the text of any other error. All that is new to its client is the handle. The attempt
called nobody, and there is no other one. -/
theorem Course.ends_without_number {activity : Activity} {operation : Operation}
    {argument : String} {retries : UInt32} {start handle : Nat} {error : Error}
    {middle : Timeline} {resume : (Question.next handle).Answer → Timeline}
    (reached : before.Reached world settings) (free : before.Free index)
    (found : before.clients[index]? = some ⟨coordinator, activity⟩)
    (course : Course world index (before.submit index operation argument retries start) middle)
    (asks : middle.proceed? index = some (.asks (.next handle) resume))
    (admitted : world (.next handle) (.error error))
    (course' : Course world index (resume (.error error)) later) :
    ∃ (known : Coordinator) (task : Task) (reason : String) (latest : Trail) (older : List Trail),
      middle.clients[index]? = some ⟨known, .busy task⟩ ∧ known.handle = handle ∧
      known.replicas.entries ≠ [] ∧
      (error = .orderingUnavailable reason ∨
        (∀ own, error ≠ .orderingUnavailable own) ∧ reason = error.message) ∧
      later.clients[index]? = some ⟨{ known with handle := middle.handles + 1 },
        .finished (.error (.orderingUnavailable reason)) middle.now⟩ ∧
      attemptsOf (middle.account before index) = latest :: older ∧ latest.calls = [] ∧
      attemptsOf (later.account before index) =
        latest.extend [.ended (.error (.orderingUnavailable reason)),
          .reset handle (middle.handles + 1), .next handle (.error error)] :: older ∧
      later.pending before index = [] := by
  obtain ⟨known, task, busy, inquires⟩ := inquires_of_asks asks
  cases inquires with
  | next stage ordered =>
    obtain ⟨reached', onward, executes⟩ :=
      Course.begun reached free found course busy (by simp [stage])
    have nonempty := (reached'.engaged busy).2
    rw [Engaged, stage] at nonempty
    have moves : middle.Moves world _ := .client asks (.answered _ admitted)
    obtain ⟨reason, told, cause⟩ := error.asOrdering_cases
    rw [order_error, told] at moves course'
    cases executes with
    | opened story failed opened place budget quiet =>
      obtain ⟨rests, account, quiet'⟩ := Course.rests_after reached' onward busy moves
        (by simp [Event.isDeed]) (.inr rfl) rfl quiet course'
      have story' := story.extend [.ended (.error (.orderingUnavailable reason)),
        .reset known.handle (middle.handles + 1), .next known.handle (.error error)]
        (by simp [Event.isWithin])
      refine ⟨known, _, reason, _, _, busy, rfl, nonempty, cause, rests, story.attempts,
        opened.calls, ?_, quiet'⟩
      rw [account]
      exact story'.attempts
    | _ => cases stage

/-- A handle that has failed is never used again. Whatever happens to a client, each handle fails at
most once, is given up right then and only then, and all that is asked later is asked through other
ones, first of all through the one that takes its place. The operation that met with the failure
ends for want of a number, whatever the error was: it calls nobody, it does not start over, and the
replicas stay known with their delays. -/
theorem failed_handle_is_given_up (reached : timeline.Reached world settings) :
    (∀ index client, timeline.clients[index]? = some client →
      ∀ earlier handle error later,
        timeline.history settings index = earlier ++ .next handle (.error error) :: later →
        ∃ new rest, later = .reset handle new :: rest ∧
          (∀ answer, .next new answer ∉ earlier) ∧
          (∀ error, .next handle (.error error) ∉ earlier) ∧ (∀ new, .reset handle new ∉ earlier) ∧
          (∀ answer, .next handle answer ∉ rest) ∧ (∀ new, .reset handle new ∉ rest) ∧
          ∀ next, rest.findSome? Event.handle? = some next → next = new) ∧
    (∀ index client, timeline.clients[index]? = some client →
      ∀ earlier handle new later,
        timeline.history settings index = earlier ++ .reset handle new :: later →
        ∃ before error, earlier = before ++ [.next handle (.error error)]) ∧
    ∀ index coordinator activity, timeline.Free index →
      timeline.clients[index]? = some ⟨coordinator, activity⟩ →
      ∀ operation argument retries start middle handle
        (resume : (Question.next handle).Answer → Timeline) (error : Error) later,
        Course world index (timeline.submit index operation argument retries start) middle →
        middle.proceed? index = some (.asks (.next handle) resume) →
        world (.next handle) (.error error) → Course world index (resume (.error error)) later →
        ∃ (known : Coordinator) (task : Task) (reason : String) (latest : Trail)
          (older : List Trail),
          middle.clients[index]? = some ⟨known, .busy task⟩ ∧ known.handle = handle ∧
          known.replicas.entries ≠ [] ∧
          (error = .orderingUnavailable reason ∨
            (∀ own, error ≠ .orderingUnavailable own) ∧ reason = error.message) ∧
          later.clients[index]? = some ⟨{ known with handle := middle.handles + 1 },
            .finished (.error (.orderingUnavailable reason)) middle.now⟩ ∧
          attemptsOf (middle.account timeline index) = latest :: older ∧ latest.calls = [] ∧
          attemptsOf (later.account timeline index) =
            latest.extend [.ended (.error (.orderingUnavailable reason)),
              .reset handle (middle.handles + 1), .next handle (.error error)] :: older ∧
          later.pending timeline index = [] := by
  refine ⟨?_, ?_, ?_⟩
  · intro index client found earlier handle error later split
    have succession := reached.succession found
    rw [← history, split] at succession
    exact succession.of_failure
  · intro index client found earlier handle new later split
    have succession := reached.succession found
    rw [← history, split] at succession
    exact succession.of_renewal
  · intro index coordinator activity free found operation argument retries start middle handle
      resume error later course asks admitted course'
    exact Course.ends_without_number reached free found course asks admitted course'

/-- A put meets with a failure that would be worth another attempt if it were a replica's, and ends
with it. The next put gets its number through the new handle. -/
theorem put_uses_new_handle : ∃ (failed later : Timeline) (begun rest : List Event),
    failed.result? 0 = some (.error (.orderingUnavailable
      (Error.replicaOperationFailure .read "<x>" 1 "down").message), 0) ∧
    later.Reached .any [.standard] ∧ later.history [.standard] 0 = begun ++
      .next 0 (.error (.replicaOperationFailure .read "<x>" 1 "down")) :: .reset 0 1 :: rest ∧
    (∀ answer, .next 0 answer ∉ rest) ∧ .next 1 (.ok ⟨7⟩) ∈ rest := by
  let failure : Error := .replicaOperationFailure .read "<x>" 1 "down"
  have idle : (opening [.standard]).Free 0 := fun client found => by cases found; rfl
  have start : Course .any 0 ((opening [.standard]).submit 0 .put "<a>" 1 0) _ := .refl
  have known := (start.goes (rfl : proceed? _ 0 = _)).learns
    (rfl : proceed? _ 0 = some (.asks (.lookup _ _) _)) (.ok [⟨"a:1", "A"⟩]) trivial
  have submitted : Reached .any [.standard] _ :=
    Reached.opening.requests (.operation idle .put "<a>" 1 0)
  have failed := (submitted.course known).learns
    (rfl : proceed? _ 0 = some (.asks (.next _) _)) (.error failure) trivial
  have asked := failed.requests
    (.operation (fun _ found => by cases found; rfl) .put "<b>" 1 0 : Requests 0 _ _)
  have begun := (asked.goes (rfl : proceed? _ 0 = _)).goes (rfl : proceed? _ 0 = _)
  have numbered := begun.learns (rfl : proceed? _ 0 = some (.asks (.next 1) _)) (.ok ⟨7⟩) trivial
  let before : List Event :=
    [.begun .put "<a>" 1, .attempt 1, .lookup "TupleSpaces" none, .discovered [⟨"a:1", "A"⟩]]
  let rest : List Event :=
    [.ended (.error failure.asOrdering), .begun .put "<b>" 1, .attempt 1, .next 1 (.ok ⟨7⟩)]
  obtain ⟨_, _, ends⟩ := @failed_handle_is_given_up .any [.standard] _ .opening
  obtain ⟨_, _, reason, _, _, _, _, _, cause, finished, _⟩ := ends 0 _ _ idle rfl .put "<a>" 1 0 _ 0
    _ failure _ known (rfl : proceed? _ 0 = some (.asks (.next 0) _)) trivial .refl
  obtain ⟨replaces, _⟩ := failed_handle_is_given_up numbered
  obtain ⟨_, _, form, _, _, _, never, _⟩ :=
    replaces 0 _ rfl before 0 failure (.reset 0 1 :: rest) rfl
  cases form
  rcases cause with same | ⟨_, same⟩
  · exact absurd same (by simp [failure])
  · subst same
    exact ⟨_, _, before, rest, result?_of_found finished, numbered, rfl, never, by simp [rest]⟩

end Timeline
end ReplicatedSpace
