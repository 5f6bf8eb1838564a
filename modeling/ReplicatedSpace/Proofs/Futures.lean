import ReplicatedSpace.Proofs.Progress

/-!
What becomes of a timeline: whatever happens by itself, whatever users do meanwhile, and among all
that what runs and pauses bring about.
-/
namespace ReplicatedSpace

/-- What the users of clients do. -/
inductive Act
  /-- An operation is asked for, which starts at that time. -/
  | operation (index : Nat) (operation : Operation) (argument : String) (retries : UInt32)
    (start : Nat)
  | delay (index : Nat) (qualifier : String) (delay : Span)
  /-- Everybody waits until all clients are done. -/
  | run
  /-- Everybody waits for that many milliseconds. -/
  | pause (millis : Nat)

namespace Timeline

variable {world : World} {settings : List Settings} {timeline later : Timeline} {index : Nat}

/-- What happens by itself or is done by a user. Here calls that get somewhere at one time do so in
the order in which they were sent. -/
inductive Happens (world : World) : Timeline → Timeline → Prop
  | client {timeline later : Timeline} {index : Nat} {step : Step}
      (proceeds : timeline.proceed? index = some step) (leads : step.Leads world later) :
      Happens world timeline later
  | flight {timeline later : Timeline} {step : Step}
      (fires : timeline.fire? = some step) (leads : step.Leads world later) :
      Happens world timeline later
  | clock (timeline : Timeline) {time : Nat} (settled : Bool) (onward : timeline.now ≤ time)
      (clear : ∀ flight ∈ timeline.flights, time ≤ flight.due) :
      Happens world timeline { timeline with now := time, settled }
  | user {timeline later : Timeline} {index : Nat} (requests : timeline.Requests index later) :
      Happens world timeline later

theorem Happens.cases (happens : timeline.Happens world later) :
    timeline.Moves world later ∨ ∃ index, timeline.Requests index later := by
  cases happens with
  | client proceeds leads => exact .inl (.client proceeds leads)
  | flight fires leads => exact .inl (.flight fires leads)
  | clock settled onward clear => exact .inl (.clock _ settled onward clear)
  | user requests => exact .inr ⟨_, requests⟩

/-- What becomes of a timeline. -/
abbrev Future (world : World) : Timeline → Timeline → Prop :=
  Relation.ReflTransGen (Happens world)

/-- Anything that can become of a timeline. -/
abbrev Unfolds (world : World) : Timeline → Timeline → Prop :=
  Relation.ReflTransGen fun timeline later =>
    timeline.Moves world later ∨ ∃ index, timeline.Requests index later

theorem Reached.unfolds (reached : timeline.Reached world settings)
    (unfolds : timeline.Unfolds world later) : later.Reached world settings := by
  induction unfolds with
  | refl => exact reached
  | tail _ next ih =>
    rcases next with moves | ⟨_, requests⟩
    · exact ih.moves moves
    · exact ih.requests requests

theorem Unfolds.onward (unfolds : timeline.Unfolds world later) : timeline.Onward later := by
  induction unfolds with
  | refl => exact .refl _
  | tail _ next ih =>
    rcases next with moves | ⟨_, requests⟩
    · exact ih.trans moves.onward
    · exact ih.trans requests.onward

theorem Unfolds.timer (unfolds : timeline.Unfolds world later) : later.timer = timeline.timer := by
  induction unfolds with
  | refl => rfl
  | tail _ next ih =>
    rcases next with moves | ⟨_, requests⟩
    · exact moves.timer.trans ih
    · exact requests.timer.trans ih

theorem Future.unfolds (future : timeline.Future world later) : timeline.Unfolds world later :=
  Relation.ReflTransGen.mono (fun _ _ happens => happens.cases) _ _ future

theorem Reached.future (reached : timeline.Reached world settings)
    (future : timeline.Future world later) : later.Reached world settings :=
  reached.unfolds future.unfolds

theorem Future.onward (future : timeline.Future world later) : timeline.Onward later :=
  future.unfolds.onward

theorem Unfolds.goes {middle : Timeline} (unfolds : timeline.Unfolds world middle)
    (proceeds : middle.proceed? index = some (.moved later)) : timeline.Unfolds world later :=
  .tail unfolds (.inl (.client proceeds (.moved later)))

theorem Unfolds.learns {middle : Timeline} (unfolds : timeline.Unfolds world middle)
    {question : Question} {resume : question.Answer → Timeline}
    (proceeds : middle.proceed? index = some (.asks question resume)) (answer : question.Answer)
    (admitted : world question answer) : timeline.Unfolds world (resume answer) :=
  .tail unfolds (.inl (.client proceeds (.answered resume admitted)))

theorem Unfolds.waits {middle : Timeline} (unfolds : timeline.Unfolds world middle) {time : Nat}
    (onward : middle.now ≤ time) (clear : ∀ flight ∈ middle.flights, time ≤ flight.due) :
    timeline.Unfolds world { middle with now := time } :=
  .tail unfolds (.inl (.clock middle middle.settled onward clear))

theorem Future.goes {before : Timeline} (future : before.Future world timeline)
    (proceeds : timeline.proceed? index = some (.moved later)) : before.Future world later :=
  future.tail (.client proceeds (.moved later))

theorem Future.learns {before : Timeline} (future : before.Future world timeline)
    {question : Question} {resume : question.Answer → Timeline}
    (proceeds : timeline.proceed? index = some (.asks question resume)) (answer : question.Answer)
    (admitted : world question answer) : before.Future world (resume answer) :=
  future.tail (.client proceeds (.answered resume admitted))

theorem Balanced.future_of_step? {step : Step} (balanced : timeline.Balanced)
    (steps : timeline.step? = some step) (leads : step.Leads world later) :
    timeline.Future world later := by
  rcases step?_cases steps with ⟨fires, _⟩ | ⟨index, time, proceeds, onward, cause⟩
  · exact .single (.flight fires leads)
  · refine .tail (.single (.clock timeline true onward ?_)) (.client proceeds leads)
    intro flight present
    rcases cause with same | ⟨_, clear⟩
    · exact same ▸ balanced.ahead flight present
    · exact Nat.le_of_lt (due_of_isDueBy balanced.inOrder clear flight present)

section Environment

variable {σ : Type} {environment : Environment σ}

theorem fire?_of_isDueBy {time : Nat} (due : timeline.isDueBy time = true) :
    timeline.fire?.isSome = true := by
  apply fire?_isSome
  intro none
  rw [isDueBy, none] at due
  cases due

/-- What holds where nothing is due by that time, and before a call gets somewhere if it holds
after it, holds of all that time lets happen. -/
theorem drain_induction (keeps : environment.Keeps world) (time : Nat)
    {motive : Timeline → Timeline → Prop}
    (ends : ∀ timeline, timeline.isDueBy time = false → motive timeline timeline)
    (steps : ∀ timeline step later last, timeline.isDueBy time = true →
      timeline.fire? = some step → step.Leads world later → motive later last →
      motive timeline last)
    (state : σ) (timeline : Timeline) :
    motive timeline (timeline.drain environment state time).1 := by
  induction state, timeline using drain.induct environment time with
  | case1 state timeline due stands =>
    have fires := fire?_of_isDueBy due
    rw [stands] at fires
    cases fires
  | case2 state timeline due later next ih =>
    rw [drain, if_pos due]
    split
    · rename_i other; rw [next] at other; cases other
    · rename_i same
      rw [next] at same
      cases same
      exact steps timeline _ later _ due next (.moved later) ih
    · rename_i other; rw [next] at other; cases other
  | case3 state timeline due question resume next answer after asked ih =>
    rw [drain, if_pos due]
    split
    · rename_i other; rw [next] at other; cases other
    · rename_i other; rw [next] at other; cases other
    · rename_i same
      rw [next] at same
      cases same
      have admitted := keeps state question
      rw [asked] at admitted ⊢
      exact steps timeline _ _ _ due next (.answered resume admitted) ih
  | case4 state timeline clear =>
    rw [drain, if_neg clear]
    exact ends timeline (Bool.eq_false_iff.mpr clear)

theorem now_of_fire? {time : Nat} {step : Step} (due : timeline.isDueBy time = true)
    (fires : timeline.fire? = some step) (leads : step.Leads world later)
    (onward : timeline.now ≤ time) : later.now ≤ time := by
  obtain ⟨flight, rest, first, now⟩ := (lands_of_fire? fires leads).now
  rw [isDueBy, first] at due
  rw [now]
  exact Nat.max_le.mpr ⟨onward, of_decide_eq_true due⟩

theorem Reached.elapse_future (reached : timeline.Reached world settings)
    (keeps : environment.Keeps world) (state : σ) (millis : Nat) :
    timeline.Future world (timeline.elapse environment state millis).1 ∧
      ∀ flight ∈ (timeline.elapse environment state millis).1.flights,
        timeline.now + millis < flight.due := by
  let time := timeline.now + millis
  have drains : timeline.Future world (timeline.drain environment state time).1 ∧
      (timeline.drain environment state time).1.now ≤ time ∧
        ∀ flight ∈ (timeline.drain environment state time).1.flights, time < flight.due := by
    refine drain_induction keeps time (motive := fun timeline last =>
      timeline.Reached world settings → timeline.now ≤ time → timeline.Future world last ∧
        last.now ≤ time ∧ ∀ flight ∈ last.flights, time < flight.due) ?_ ?_ state timeline reached
        (Nat.le_add_right ..)
    · intro timeline clear reached onward
      exact ⟨.refl, onward, due_of_isDueBy reached.balanced.inOrder clear⟩
    · intro timeline step later last due fires leads ih reached onward
      have happens : timeline.Happens world later := .flight fires leads
      obtain ⟨future, clock, clear⟩ := ih (reached.future (.single happens))
        (now_of_fire? due fires leads onward)
      exact ⟨.head happens future, clock, clear⟩
  obtain ⟨future, clock, clear⟩ := drains
  refine ⟨.tail future ?_, clear⟩
  apply Happens.clock _ _ clock
  intro flight present
  exact Nat.le_of_lt (clear flight present)

theorem Reached.run_future (reached : timeline.Reached world settings)
    (keeps : environment.Keeps world) (state : σ) :
    timeline.Future world (timeline.run environment state).1 := by
  refine run_induction keeps (motive := fun timeline last =>
    timeline.Reached world settings → timeline.Future world last) ?_ ?_ state timeline reached
  · intro timeline _ _
    exact .refl
  · intro timeline step later last next leads ih reached
    have future := reached.balanced.future_of_step? next leads
    exact future.trans (ih (reached.future future))

/-- Whether there is a client of that number, at an operation. -/
def isBusyAt (timeline : Timeline) (index : Nat) : Bool :=
  (timeline.clients[index]?).any Client.isBusy

theorem free_of_isBusyAt (rests : ¬ timeline.isBusyAt index = true) : timeline.Free index := by
  intro client found
  unfold isBusyAt at rests
  rw [found] at rests
  exact Bool.eq_false_iff.mpr rests

/-- What a user does is done, and everybody waits as long as that takes. A client at an operation
takes no request. -/
def perform (environment : Environment σ) : Timeline × σ → Act → Timeline × σ
  | (timeline, state), .operation index operation argument retries start =>
    (if timeline.isBusyAt index then timeline
      else timeline.submit index operation argument retries start, state)
  | (timeline, state), .delay index qualifier delay =>
    (if timeline.isBusyAt index then timeline
      else timeline.requestDelay index qualifier delay, state)
  | (timeline, state), .run => timeline.run environment state
  | (timeline, state), .pause millis => timeline.elapse environment state millis

/-- All that users do, one after the other. -/
def performAll (environment : Environment σ) (place : Timeline × σ) (acts : List Act) :
    Timeline × σ :=
  acts.foldl (perform environment) place

theorem Reached.perform_future (reached : timeline.Reached world settings)
    (keeps : environment.Keeps world) (state : σ) (act : Act) :
    timeline.Future world (perform environment (timeline, state) act).1 := by
  cases act with
  | operation index operation argument retries start =>
    unfold perform
    dsimp only
    split
    · exact .refl
    · rename_i rests
      exact .single (.user (.operation (free_of_isBusyAt rests) operation argument retries start))
  | delay index qualifier delay =>
    unfold perform
    dsimp only
    split
    · exact .refl
    · rename_i rests
      exact .single (.user (.delay (free_of_isBusyAt rests) qualifier delay))
  | run => exact reached.run_future keeps state
  | pause millis => exact (reached.elapse_future keeps state millis).1

end Environment

end Timeline
end ReplicatedSpace
