import ReplicatedSpace.Proofs.Hush
import ReplicatedSpace.Proofs.Pace

/-!
Two timelines that look alike to somebody who does not see some calls come back go on alike. One
that has to let such a call come back first does so, which is seen to change nothing but how late it
is; and what is seen of all other steps is the same.
-/
namespace ReplicatedSpace.Timeline

variable {σ : Type} {environment environment' : Environment σ}

variable {hides : Call → Bool} {timeline other later : Timeline} {index : Nat}

/-- Environments that differ in nothing but the replies to calls whose return is not seen. -/
structure AgreeBut (hides : Call → Bool) (environment environment' : Environment σ) : Prop where
  others (state : σ) (question : Question)
    (seen : ∀ call, question = .arrival call → hides call = false) :
    environment state question = environment' state question
  states (state : σ) (call : Call) :
    (environment state (.arrival call)).2 = (environment' state (.arrival call)).2

/-- A step after which nothing is seen of the reply to a call whose return is not seen. -/
def Blind (hides : Call → Bool) (step : Step) : Prop :=
  ∀ (call : Call) (resume : Reply call.operation.Answer → Timeline),
    step = .asks (.arrival call) resume → hides call = true →
      ∀ reply reply', (resume reply).hush hides = (resume reply').hush hides

/-- Steps that look alike lead to what looks alike. -/
theorem hush_resolve (agree : AgreeBut hides environment environment') {step step' : Step}
    (same : step.view (hush hides) = step'.view (hush hides)) (blind : Blind hides step)
    (state : σ) : (step.resolve environment state).1.hush hides =
        (step'.resolve environment' state).1.hush hides ∧
      (step.resolve environment state).2 = (step'.resolve environment' state).2 := by
  cases step with
  | moved later =>
    cases step' with
    | moved later' => exact ⟨Step.moved.inj same, rfl⟩
    | asks question resume => cases same
  | asks question resume =>
    cases step' with
    | moved later' => cases same
    | asks question' resume' =>
      obtain ⟨question_eq, looks⟩ := Step.asks.inj same
      subst question_eq
      have looks (answer : question.Answer) :
          (resume answer).hush hides = (resume' answer).hush hides :=
        congrFun (eq_of_heq looks) answer
      by_cases hidden : ∃ call, question = .arrival call ∧ hides call = true
      · obtain ⟨call, asked, hidden⟩ := hidden
        subst asked
        refine ⟨?_, agree.states state call⟩
        exact (blind call resume rfl hidden _ _).trans (looks _)
      · have answers : environment state question = environment' state question := by
          apply agree.others
          intro call asked
          apply Bool.eq_false_iff.mpr
          intro hides
          exact hidden ⟨call, asked, hides⟩
        dsimp only [Step.resolve]
        rw [answers]
        exact ⟨looks _, rfl⟩

theorem blind_of_proceed? {step : Step} (proceeds : timeline.proceed? index = some step) :
    Blind hides step := by
  intro call resume same
  exfalso
  subst same
  unfold proceed? at proceeds
  split at proceeds
  · split at proceeds
    · split at proceeds <;> cases proceeds
    · unfold attempt at proceeds
      dsimp only at proceeds
      split at proceeds <;> cases proceeds
    · unfold engage at proceeds
      split at proceeds
      · cases proceeds
      · cases proceeds
      · cases proceeds
      · split at proceeds <;> cases proceeds
    · cases proceeds
    · obtain ⟨_, _, same⟩ := Option.map_eq_some_iff.mp proceeds
      cases same
  · cases proceeds

theorem blind_of_fire? (inOrder : timeline.flights.Pairwise (·.due ≤ ·.due)) {step : Step}
    (fires : timeline.fire? = some step) : Blind hides step := by
  intro call resume same hidden reply reply'
  subst same
  unfold fire? at fires
  split at fires
  · cases fires
  · rename_i flight rest first
    dsimp only at fires
    rw [first] at inOrder
    split at fires
    · cases fires
      have inOrder := (List.pairwise_cons.mp inOrder).2
      rw [hush_arrive, hush_arrive, if_pos hidden, if_pos hidden]
      · exact inOrder
      · exact inOrder
    · cases fires

/-- Where the same call gets somewhere, it does the same. -/
theorem view_fire? {flight : Flight} {rest rest' : List Flight}
    (first : timeline.flights = flight :: rest) (first' : other.flights = flight :: rest')
    (seen : flight.isHidden hides = false)
    (inOrder : timeline.flights.Pairwise (·.due ≤ ·.due))
    (inOrder' : other.flights.Pairwise (·.due ≤ ·.due))
    (same : (timeline.reach flight rest).hush hides = (other.reach flight rest').hush hides) :
    ∃ step step', timeline.fire? = some step ∧ other.fire? = some step' ∧
      step.view (hush hides) = step'.view (hush hides) := by
  rw [first] at inOrder
  rw [first'] at inOrder'
  have rest_inOrder : (timeline.reach flight rest).flights.Pairwise (·.due ≤ ·.due) :=
    (List.pairwise_cons.mp inOrder).2
  have rest_inOrder' : (other.reach flight rest').flights.Pairwise (·.due ≤ ·.due) :=
    (List.pairwise_cons.mp inOrder').2
  simp only [fire?, first, first']
  refine ⟨_, _, rfl, rfl, ?_⟩
  cases leg : flight.leg with
  | outbound =>
    refine congrArg (Step.asks _) (funext fun reply => ?_)
    have arrives := @hush_arrive hides _ rest_inOrder flight.call reply
    have arrives' := @hush_arrive hides _ rest_inOrder' flight.call reply
    rw [same] at arrives
    exact arrives.trans arrives'.symm
  | inbound result =>
    refine congrArg Step.moved ?_
    have own : hides flight.call = false := by
      rw [Flight.isHidden, leg] at seen
      exact seen
    have completes := @hush_complete hides (timeline.reach flight rest) flight.call own result
    have completes' := @hush_complete hides (other.reach flight rest') flight.call own result
    rw [same] at completes
    exact completes.trans completes'.symm

/-- All that is seen of a timeline but how late it is. -/
def sight (hides : Call → Bool) (timeline : Timeline) : Timeline :=
  { timeline.hush hides with now := 0, settled := true }

/-- All that is seen of a timeline and makes a difference. -/
def outline (hides : Call → Bool) (timeline : Timeline) : Timeline := (timeline.hush hides).calm

theorem outline_of_hush (same : timeline.hush hides = other.hush hides) :
    timeline.outline hides = other.outline hides :=
  congrArg calm same

theorem sight_of_outline (same : timeline.outline hides = other.outline hides) :
    timeline.sight hides = other.sight hides :=
  congrArg (fun seen : Timeline => { seen with now := 0, settled := true }) same

theorem now_of_outline (same : timeline.outline hides = other.outline hides) :
    timeline.now = other.now := by
  have now : (timeline.outline hides).now = (other.outline hides).now := by rw [same]
  exact now

theorem choice_of_outline (same : timeline.outline hides = other.outline hides) :
    (timeline.hush hides).choice = (other.hush hides).choice := by
  rw [← choice_calm (timeline.hush hides), ← choice_calm (other.hush hides)]
  exact congrArg choice same

theorem flights_of_sight (same : timeline.sight hides = other.sight hides) :
    (timeline.hush hides).flights = (other.hush hides).flights := by
  have flights : (timeline.sight hides).flights = (other.sight hides).flights := by rw [same]
  exact flights

theorem clients_of_sight (same : timeline.sight hides = other.sight hides) :
    timeline.clients = other.clients := by
  have clients : (timeline.sight hides).clients = (other.sight hides).clients := by rw [same]
  exact clients

theorem past_of_sight (same : timeline.sight hides = other.sight hides) :
    timeline.past.filter (fun moment => !moment.isHidden hides) =
      other.past.filter fun moment => !moment.isHidden hides := by
  have past : (timeline.sight hides).past = (other.sight hides).past := by rw [same]
  exact past

/-- The call that gets somewhere next comes back unseen. -/
def Lurks (hides : Call → Bool) (timeline : Timeline) : Prop :=
  ∃ flight rest, timeline.flights = flight :: rest ∧ flight.isHidden hides = true

theorem isDueBy_of_hush (inOrder : timeline.flights.Pairwise (·.due ≤ ·.due)) {time : Nat}
    (due : (timeline.hush hides).isDueBy time = true) : timeline.isDueBy time = true := by
  apply Bool.of_not_eq_false
  intro clear
  have ahead := due_of_isDueBy inOrder clear
  unfold isDueBy at due
  split at due
  · cases due
  · rename_i flight rest first
    have listed : flight ∈ (timeline.hush hides).flights := first ▸ List.mem_cons_self
    have after := ahead flight (List.mem_filter.mp listed).1
    have before := of_decide_eq_true due
    omega

theorem flights_of_not_lurks (open_ : ¬ timeline.Lurks hides) :
    timeline.flights = [] ∧ (timeline.hush hides).flights = [] ∨
      ∃ flight rest, timeline.flights = flight :: rest ∧ flight.isHidden hides = false ∧
        (timeline.hush hides).flights =
          flight :: rest.filter fun flight => !flight.isHidden hides := by
  cases flights : timeline.flights with
  | nil => exact .inl ⟨rfl, by simp [hush, flights]⟩
  | cons flight rest =>
    have seen : flight.isHidden hides = false := by
      apply Bool.eq_false_iff.mpr
      intro hidden
      exact open_ ⟨flight, rest, flights, hidden⟩
    exact .inr ⟨flight, rest, rfl, seen, by simp [hush, flights, seen]⟩

theorem isDueBy_hush (open_ : ¬ timeline.Lurks hides) (time : Nat) :
    (timeline.hush hides).isDueBy time = timeline.isDueBy time := by
  rcases flights_of_not_lurks open_ with ⟨none, none'⟩ | ⟨flight, rest, first, _, first'⟩
  · simp only [isDueBy, none, none']
  · simp only [isDueBy, first, first']

theorem view_proceedFirst? (balanced : timeline.Balanced) (sealed : timeline.Sealed hides)
    {time : Nat} (onward : timeline.now ≤ time)
    (clear : ∀ flight ∈ timeline.flights, time ≤ flight.due) :
    { timeline.hush hides with now := time }.proceedFirst? =
      ({ timeline with now := time }.proceedFirst?).map (Step.view (hush hides)) := by
  let later : Timeline := { timeline with now := time, settled := true }
  have balanced' : later.Balanced := (@Moves.clock .any timeline time true onward clear).balanced
    balanced
  have each : (later.hush hides).proceed? =
      Option.map (Step.view (hush hides)) ∘ later.proceed? :=
    funext fun index => proceed?_hush balanced' sealed index
  have all : timeline.turns.findSome? (later.hush hides).proceed? =
      (timeline.turns.findSome? later.proceed?).map (Step.view (hush hides)) := by
    rw [each, List.map_findSome?]
  exact all

theorem proceedFirst?_hush (balanced : timeline.Balanced) (sealed : timeline.Sealed hides) :
    (timeline.hush hides).proceedFirst?.isSome = timeline.proceedFirst?.isSome := by
  have views := view_proceedFirst? balanced sealed (Nat.le_refl _) balanced.ahead
  have same : { timeline.hush hides with now := timeline.now }.proceedFirst?.isSome =
      timeline.proceedFirst?.isSome := by
    rw [views, Option.isSome_map]
  exact same

theorem await_hush (inOrder : timeline.flights.Pairwise (·.due ≤ ·.due))
    (other : timeline.await ≠ .call) : (timeline.hush hides).await = timeline.await := by
  have clear (time : Nat) (clear : ¬ timeline.isDueBy time = true) :
      ¬ (timeline.hush hides).isDueBy time = true :=
    fun due => clear (isDueBy_of_hush inOrder due)
  by_cases due : timeline.isDueBy timeline.now = true
  · exact absurd (if_pos due) other
  · have waits := await_of_clear (Bool.eq_false_iff.mpr due)
    have waits' := await_of_clear (Bool.eq_false_iff.mpr (clear timeline.now due))
    have next : (timeline.hush hides).nextStart? = timeline.nextStart? := rfl
    rw [waits] at other ⊢
    refine waits'.trans ?_
    rw [next]
    cases starts : timeline.nextStart? with
    | none => rfl
    | some start =>
      rw [starts] at other
      dsimp only at other ⊢
      by_cases due' : timeline.isDueBy start = true
      · exact absurd (if_pos due') other
      · rw [if_neg due', if_neg (clear start due')]
        rfl

/-- Unless a call comes back unseen, what comes next is what is seen to come next. -/
theorem choice_hush (balanced : timeline.Balanced) (sealed : timeline.Sealed hides)
    (plain : ¬ (timeline.Lurks hides ∧ timeline.choice = .call)) :
    (timeline.hush hides).choice = timeline.choice := by
  have proceeds := proceedFirst?_hush balanced sealed
  by_cases busy : timeline.clients.any (·.isBusy) = true
  · have busy' : (timeline.hush hides).clients.any (·.isBusy) = true := busy
    by_cases lurks : timeline.Lurks hides
    · have other : timeline.choice ≠ .call := fun call => plain ⟨lurks, call⟩
      have awake : ¬ (timeline.isDueBy timeline.now && !timeline.settled) = true := by
        intro due
        apply other
        unfold choice
        rw [if_pos busy, if_pos due]
      have awake' : ¬ ((timeline.hush hides).isDueBy (timeline.hush hides).now &&
          !(timeline.hush hides).settled) = true := by
        intro due
        obtain ⟨due, wakes⟩ := Bool.and_eq_true_iff.mp due
        exact awake (Bool.and_eq_true_iff.mpr ⟨isDueBy_of_hush balanced.inOrder due, wakes⟩)
      unfold choice at other ⊢
      rw [if_pos busy, if_neg awake] at other
      rw [if_pos busy, if_neg awake, if_pos busy', if_neg awake', proceeds]
      split
      · rfl
      · rename_i blocked
        rw [if_neg blocked] at other
        exact await_hush balanced.inOrder other
    · have dues := isDueBy_hush lurks
      have awaits : (timeline.hush hides).await = timeline.await := by
        unfold await
        simp only [dues]
        rfl
      unfold choice
      rw [if_pos busy, if_pos busy', dues, proceeds, awaits]
      rfl
  · have idle : (timeline.hush hides).choice = .nothing := if_neg busy
    exact idle.trans (if_neg busy).symm

theorem Lurks.fire? (lurks : timeline.Lurks hides) :
    ∃ flight rest later, timeline.flights = flight :: rest ∧
      timeline.fire? = some (.moved later) ∧ later.hush hides =
        { timeline.hush hides with now := max timeline.now flight.due, settled := false } := by
  obtain ⟨flight, rest, first, hidden⟩ := lurks
  cases leg : flight.leg with
  | outbound =>
    rw [Flight.isHidden, leg] at hidden
    cases hidden
  | inbound result =>
    refine ⟨flight, rest, (timeline.reach flight rest).complete flight.call result, first, ?_, ?_⟩
    · simp only [Timeline.fire?, first, leg, reach]
    · have own : hides flight.call = true := by
        rw [Flight.isHidden, leg] at hidden
        exact hidden
      have flights : timeline.flights.filter (fun flight => !flight.isHidden hides) =
          rest.filter fun flight => !flight.isHidden hides := by
        rw [first, List.filter_cons, hidden]
        rfl
      rw [hush_complete_hidden own, hush, hush, flights]
      rfl

theorem Lurks.sight (lurks : timeline.Lurks hides) :
    ∃ later, timeline.fire? = some (.moved later) ∧
      later.sight hides = timeline.sight hides := by
  obtain ⟨_, _, later, _, fires, looks⟩ := lurks.fire?
  refine ⟨later, fires, ?_⟩
  rw [Timeline.sight, looks]
  rfl

/-- Nor does it change what comes next. -/
theorem Lurks.step? (balanced : timeline.Balanced) (sealed : timeline.Sealed hides)
    (lurks : timeline.Lurks hides) (calls : timeline.choice = .call) :
    ∃ later, timeline.step? = some (.moved later) ∧ later.sight hides = timeline.sight hides ∧
      (later.hush hides).choice = (timeline.hush hides).choice := by
  obtain ⟨flight, rest, later, first, fires, looks⟩ := lurks.fire?
  obtain ⟨busy, cause⟩ := call_cases calls
  have due_iff (time : Nat) : timeline.isDueBy time = true ↔ flight.due ≤ time := by
    rw [isDueBy, first]
    exact decide_eq_true_iff
  refine ⟨later, ?_, ?_, ?_⟩
  · rw [step?_eq_follow, calls]
    exact fires
  · rw [Timeline.sight, looks]
    rfl
  · rw [looks]
    rcases cause with ⟨due, awake⟩ | ⟨quiet, due⟩
    · have now : max timeline.now flight.due = timeline.now :=
        Nat.max_eq_left ((due_iff _).mp due)
      have same : { timeline.hush hides with now := timeline.now, settled := false } =
          timeline.hush hides := by
        rw [← awake]
        rfl
      rw [now, same]
    · have quiet' : (timeline.hush hides).proceedFirst? = none := by
        have proceeds := proceedFirst?_hush balanced sealed
        rw [quiet] at proceeds
        exact Option.not_isSome_iff_eq_none.mp (by rw [proceeds]; decide)
      by_cases now : timeline.isDueBy timeline.now = true
      · have same : max timeline.now flight.due = timeline.now :=
          Nat.max_eq_left ((due_iff _).mp now)
        let awake : Timeline := { timeline.hush hides with settled := false }
        have busy' : (timeline.hush hides).clients.any (·.isBusy) = true := busy
        have waits := choice_of_quiet quiet' busy'
        have waits' := @choice_of_quiet awake quiet' busy'
        rw [same]
        exact waits'.trans waits.symm
      · have starts := due.resolve_left now
        apply choice_later (Nat.le_max_left ..) quiet'
        · apply Bool.eq_false_iff.mpr
          intro due
          exact now (isDueBy_of_hush balanced.inOrder due)
        · intro start next
          have before := (due_iff start).mp (starts start next)
          have ahead := balanced.ahead flight (first ▸ List.mem_cons_self)
          exact Nat.max_le.mpr ⟨Nat.le_trans ahead before, before⟩

/-- What two timelines do next: one lets a call come back unseen, neither does anything, or what is
seen of their steps is the same. -/
inductive Matched (hides : Call → Bool) (next : Timeline → Option Step)
    (alike : Timeline → Timeline → Prop) (timeline other : Timeline) : Prop
  | first {later : Timeline} (steps : next timeline = some (.moved later))
      (same : alike later other)
  | second {later : Timeline} (steps : next other = some (.moved later))
      (same : alike timeline later)
  | ends (stands : next timeline = none) (stands' : next other = none)
  | both {step step' : Step} (steps : next timeline = some step) (steps' : next other = some step')
      (blind : Blind hides step) (looks : step.view (hush hides) = step'.view (hush hides))

/-- What is seen of two timelines makes the same difference, although one may be later than the
other while a client is at an operation. -/
def Alike (hides : Call → Bool) (timeline other : Timeline) : Prop :=
  timeline.outline hides = other.outline hides ∨
    timeline.clients.any (·.isBusy) = true ∧ timeline.sight hides = other.sight hides ∧
      (timeline.hush hides).choice = (other.hush hides).choice

theorem Alike.sight (alike : Alike hides timeline other) :
    timeline.sight hides = other.sight hides := by
  rcases alike with same | ⟨_, same, _⟩
  · exact sight_of_outline same
  · exact same

theorem Alike.choice (alike : Alike hides timeline other) :
    (timeline.hush hides).choice = (other.hush hides).choice := by
  rcases alike with same | ⟨_, _, same⟩
  · exact choice_of_outline same
  · exact same

section Matched

variable {next : Timeline → Option Step} {alike : Timeline → Timeline → Prop}
  (balanced : timeline.Balanced) (balanced' : other.Balanced)

include balanced balanced'

/-- Where no call comes back unseen, the first call is the same in both. -/
theorem Matched.fire (open_ : ¬ timeline.Lurks hides) (open_' : ¬ other.Lurks hides)
    (same : timeline.sight hides = other.sight hides)
    (fires : next timeline = timeline.fire?) (fires' : next other = other.fire?) :
    Matched hides next alike timeline other := by
  have flights := flights_of_sight same
  rcases flights_of_not_lurks open_ with ⟨none, shown⟩ | ⟨flight, rest, first, seen, shown⟩ <;>
    rcases flights_of_not_lurks open_' with ⟨none', shown'⟩ | ⟨flight', rest', first', _, shown'⟩
  · apply Matched.ends
    · rw [fires, fire?, none]
    · rw [fires', fire?, none']
  · rw [shown, shown'] at flights
    cases flights
  · rw [shown, shown'] at flights
    cases flights
  · rw [shown, shown'] at flights
    obtain ⟨same_flight, same_rest⟩ := List.cons.inj flights
    subst same_flight
    have reached {timeline : Timeline} {rest : List Flight} (balanced : timeline.Balanced)
        (first : timeline.flights = flight :: rest) : (timeline.reach flight rest).hush hides =
          { timeline.sight hides with
            now := flight.due
            settled := false
            flights := rest.filter fun flight => !flight.isHidden hides } := by
      rw [reach, balanced.now_reach first]
      rfl
    have looks : (timeline.reach flight rest).hush hides =
        (other.reach flight rest').hush hides := by
      rw [reached balanced first, reached balanced' first', same, same_rest]
    obtain ⟨step, step', steps, steps', views⟩ :=
      view_fire? first first' seen balanced.inOrder balanced'.inOrder looks
    exact .both (fires.trans steps) (fires'.trans steps') (blind_of_fire? balanced.inOrder steps)
      views

/-- While time passes, calls get somewhere alike. -/
theorem Matched.pause (time : Nat) (same : timeline.sight hides = other.sight hides) :
    Matched hides (fireBy? time) (fun timeline other => timeline.sight hides = other.sight hides)
      timeline other := by
  have dues : (timeline.hush hides).isDueBy time = (other.hush hides).isDueBy time := by
    unfold isDueBy
    rw [flights_of_sight same]
  by_cases lurks : timeline.Lurks hides ∧ timeline.isDueBy time = true
  · obtain ⟨lurks, due⟩ := lurks
    obtain ⟨later, fires, sight⟩ := lurks.sight
    exact .first ((if_pos due).trans fires) (sight.trans same)
  · by_cases lurks' : other.Lurks hides ∧ other.isDueBy time = true
    · obtain ⟨lurks', due⟩ := lurks'
      obtain ⟨later, fires, sight⟩ := lurks'.sight
      exact .second ((if_pos due).trans fires) (same.trans sight.symm)
    · by_cases due : timeline.isDueBy time = true
      · have open_ : ¬ timeline.Lurks hides := fun unseen => lurks ⟨unseen, due⟩
        have due' : other.isDueBy time = true := by
          apply isDueBy_of_hush balanced'.inOrder
          rw [← dues, isDueBy_hush open_]
          exact due
        have open_' : ¬ other.Lurks hides := fun unseen => lurks' ⟨unseen, due'⟩
        exact .fire balanced balanced' open_ open_' same (if_pos due) (if_pos due')
      · have due' : ¬ other.isDueBy time = true := by
          intro due'
          have open_' : ¬ other.Lurks hides := fun unseen => lurks' ⟨unseen, due'⟩
          apply due
          apply isDueBy_of_hush balanced.inOrder
          rw [dues, isDueBy_hush open_']
          exact due'
        exact .ends (if_neg due) (if_neg due')

variable (sealed : timeline.Sealed hides) (sealed' : other.Sealed hides)

include sealed sealed'

theorem Matched.client {time : Nat} (same : timeline.sight hides = other.sight hides)
    (turn : timeline.choice = .client time) (turn' : other.choice = .client time) :
    Matched hides step? alike timeline other := by
  have steps := timeline.step?_eq_follow
  have steps' := other.step?_eq_follow
  rw [turn] at steps
  rw [turn'] at steps'
  obtain ⟨onward, clear⟩ := clear_of_choice balanced turn
  obtain ⟨onward', clear'⟩ := clear_of_choice balanced' turn'
  have views := view_proceedFirst? balanced sealed onward clear
  have views' := view_proceedFirst? balanced' sealed' onward' clear'
  have seen : { timeline.hush hides with now := time }.proceedFirst? =
      { other.hush hides with now := time }.proceedFirst? :=
    congrArg (fun seen : Timeline => { seen with now := time }.proceedFirst?) same
  rw [views, views'] at seen
  cases goes : { timeline with now := time }.proceedFirst? with
  | none =>
    rw [goes, Option.map_none] at seen
    have goes' := Option.map_eq_none_iff.mp seen.symm
    exact .ends (steps.trans goes) (steps'.trans goes')
  | some step =>
    rw [goes, Option.map_some] at seen
    obtain ⟨step', goes', looks⟩ := Option.map_eq_some_iff.mp seen.symm
    obtain ⟨index, _, proceeds⟩ := List.exists_of_findSome?_eq_some goes
    exact .both (steps.trans goes) (steps'.trans goes') (blind_of_proceed? proceeds) looks.symm

/-- Timelines that are alike go on alike. -/
theorem Matched.run (same : Alike hides timeline other) :
    Matched hides step? (Alike hides) timeline other := by
  have clients := clients_of_sight same.sight
  by_cases lurks : timeline.Lurks hides ∧ timeline.choice = .call
  · obtain ⟨lurks, calls⟩ := lurks
    obtain ⟨later, steps, sight, choice⟩ := lurks.step? balanced sealed calls
    refine .first steps (.inr ⟨?_, sight.trans same.sight, choice.trans same.choice⟩)
    rw [clients_of_sight sight]
    exact (call_cases calls).1
  · by_cases lurks' : other.Lurks hides ∧ other.choice = .call
    · obtain ⟨lurks', calls⟩ := lurks'
      obtain ⟨later, steps, sight, choice⟩ := lurks'.step? balanced' sealed' calls
      refine .second steps (.inr ⟨?_, same.sight.trans sight.symm, same.choice.trans choice.symm⟩)
      rw [clients]
      exact (call_cases calls).1
    · have choice : timeline.choice = other.choice := by
        rw [← choice_hush balanced sealed lurks, ← choice_hush balanced' sealed' lurks',
          same.choice]
      have steps := timeline.step?_eq_follow
      have steps' := other.step?_eq_follow
      cases turn : timeline.choice with
      | nothing =>
        rw [turn] at steps
        rw [← choice, turn] at steps'
        exact .ends steps steps'
      | call =>
        rw [turn] at steps
        rw [← choice, turn] at steps'
        have open_ : ¬ timeline.Lurks hides := fun unseen => lurks ⟨unseen, turn⟩
        have open_' : ¬ other.Lurks hides := fun unseen => lurks' ⟨unseen, choice ▸ turn⟩
        exact .fire balanced balanced' open_ open_' same.sight steps steps'
      | client time =>
        exact .client balanced balanced' sealed sealed' same.sight turn (choice ▸ turn)

end Matched

theorem outline_of_clear (hides : Call → Bool)
    (inOrder : timeline.flights.Pairwise (·.due ≤ ·.due)) {time : Nat}
    (clear : timeline.fireBy? time = none) :
    { timeline with now := time }.outline hides = { timeline.sight hides with now := time } := by
  have due : ({ timeline with now := time }.hush hides).isDueBy time = false := by
    apply Bool.eq_false_iff.mpr
    intro due
    have due' : timeline.isDueBy time = true := isDueBy_of_hush inOrder due
    have fires := fire?_of_isDueBy due'
    rw [fireBy?, if_pos due'] at clear
    rw [clear] at fires
    cases fires
  have settled : (timeline.settled ||
      !({ timeline with now := time }.hush hides).isDueBy time) = true := by
    rw [due, Bool.not_false, Bool.or_true]
  exact congrArg (fun settled => { timeline.hush hides with now := time, settled }) settled

/-- What holds before every step, and seals the rounds of calls that come back unseen. -/
structure Guards (hides : Call → Bool) (next : Timeline → Option Step)
    (environment : Environment σ) (Holds : Timeline → Prop) : Prop where
  balanced {timeline : Timeline} (holds : Holds timeline) : timeline.Balanced
  sealed {timeline : Timeline} (holds : Holds timeline) : timeline.Sealed hides
  step {timeline : Timeline} {step : Step} (state : σ) (holds : Holds timeline)
    (steps : next timeline = some step) : Holds (step.resolve environment state).1

theorem Guards.keepPace {next : Timeline → Option Step} {Holds Holds' : Timeline → Prop}
    {alike : Timeline → Timeline → Prop} (guards : Guards hides next environment Holds)
    (guards' : Guards hides next environment' Holds')
    (agree : AgreeBut hides environment environment')
    (close : ∀ timeline other, timeline.outline hides = other.outline hides → alike timeline other)
    (matched : ∀ timeline other, Holds timeline → Holds' other → alike timeline other →
      Matched hides next alike timeline other) :
    KeepPace next environment environment' fun timeline other =>
      Holds timeline ∧ Holds' other ∧ alike timeline other := by
  intro timeline other state ⟨holds, holds', same⟩
  cases matched timeline other holds holds' same with
  | first steps same => exact .first steps ⟨guards.step state holds steps, holds', same⟩
  | second steps same => exact .second steps ⟨holds, guards'.step state holds' steps, same⟩
  | ends stands stands' => exact .ends stands stands'
  | both steps steps' blind looks =>
    obtain ⟨later, states⟩ := hush_resolve agree looks blind state
    exact .both steps steps' ⟨guards.step state holds steps, guards'.step state holds' steps',
      close _ _ (outline_of_hush later)⟩ states

section Guards

variable {Holds Holds' : Timeline → Prop} (agree : AgreeBut hides environment environment')

include agree

theorem Guards.keepPace_run (guards : Guards hides step? environment Holds)
    (guards' : Guards hides step? environment' Holds') :
    KeepPace step? environment environment' fun timeline other =>
      Holds timeline ∧ Holds' other ∧ Alike hides timeline other := by
  apply guards.keepPace guards' agree
  · intro timeline other same
    exact .inl same
  · intro timeline other holds holds' same
    exact .run (guards.balanced holds) (guards'.balanced holds') (guards.sealed holds)
      (guards'.sealed holds') same

theorem Guards.keepPace_pause {time : Nat} (guards : Guards hides (fireBy? time) environment Holds)
    (guards' : Guards hides (fireBy? time) environment' Holds') :
    KeepPace (fireBy? time) environment environment' fun timeline other =>
      Holds timeline ∧ Holds' other ∧ timeline.sight hides = other.sight hides := by
  apply guards.keepPace guards' agree
  · intro timeline other same
    exact sight_of_outline same
  · intro timeline other holds holds' same
    exact .pause (guards.balanced holds) (guards'.balanced holds') time same

theorem Guards.run (guards : Guards hides step? environment Holds)
    (guards' : Guards hides step? environment' Holds') (holds : Holds timeline)
    (holds' : Holds' other) (alike : Alike hides timeline other) (state : σ) :
    Holds (timeline.run environment state).1 ∧ Holds' (other.run environment' state).1 ∧
      Alike hides (timeline.run environment state).1 (other.run environment' state).1 ∧
      (timeline.run environment state).2 = (other.run environment' state).2 := by
  obtain ⟨both, states, _⟩ := (guards.keepPace_run agree guards').ends ends_step?
    (run_eq environment) (run_eq environment') ⟨holds, holds', alike⟩ state
  exact ⟨both.1, both.2.1, both.2.2, states⟩

theorem Guards.elapse {millis : Nat}
    (guards : Guards hides (fireBy? (timeline.now + millis)) environment Holds)
    (guards' : Guards hides (fireBy? (timeline.now + millis)) environment' Holds')
    (holds : Holds timeline) (holds' : Holds' other)
    (same : timeline.outline hides = other.outline hides) (state : σ) :
    (timeline.elapse environment state millis).1.outline hides =
        (other.elapse environment' state millis).1.outline hides ∧
      (timeline.elapse environment state millis).2 =
        (other.elapse environment' state millis).2 := by
  let time := timeline.now + millis
  have same_time : other.now + millis = time := congrArg (· + millis) (now_of_outline same).symm
  obtain ⟨both, states, ends, ends'⟩ := (guards.keepPace_pause agree guards').ends
    (ends_fireBy? time) (drain_eq environment time) (drain_eq environment' time)
      ⟨holds, holds', sight_of_outline same⟩ state
  have late := outline_of_clear hides (guards.balanced both.1).inOrder ends
  have late' := outline_of_clear hides (guards'.balanced both.2.1).inOrder ends'
  rw [both.2.2] at late
  dsimp only [Timeline.elapse]
  rw [same_time]
  exact ⟨late.trans late'.symm, states⟩

end Guards

end ReplicatedSpace.Timeline
