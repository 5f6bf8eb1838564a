import ReplicatedSpace.Proofs.Futures

/-!
Two timelines that go on step by step and keep pace, although they need not take the same number of
steps: one may take a step that the other takes no notice of. Where both come to an end, they are
alike.
-/
namespace ReplicatedSpace

/-- Where a step leads, as an environment answers. -/
def Step.resolve {σ : Type} (environment : Environment σ) (state : σ) :
    Step → Timeline × σ
  | moved later => (later, state)
  | asks question resume =>
    let (answer, after) := environment state question
    (resume answer, after)

theorem Step.yields_resolve {σ : Type} (environment : Environment σ) (state : σ) (step : Step) :
    step.Yields (step.resolve environment state).1 := by
  cases step with
  | moved later => exact yields_moved later
  | asks question resume => exact yields_asks question resume _

theorem Step.leads_resolve {σ : Type} {environment : Environment σ} {world : World}
    (keeps : environment.Keeps world) (state : σ) (step : Step) :
    step.Leads world (step.resolve environment state).1 := by
  cases step with
  | moved later => exact .moved later
  | asks question resume => exact .answered resume (keeps state question)

namespace Timeline

variable {σ : Type} {environment environment' : Environment σ}

/-- The call that gets somewhere next, if it does so by that time. -/
def fireBy? (time : Nat) (timeline : Timeline) : Option Step :=
  if timeline.isDueBy time then timeline.fire? else none

theorem run_eq (environment : Environment σ) (place : Timeline × σ) :
    place.1.run environment place.2 = match place.1.step? with
      | none => place
      | some step => (step.resolve environment place.2).1.run environment
          (step.resolve environment place.2).2 := by
  rw [run]
  split
  · rename_i next
    rw [next]
  · rename_i next
    rw [next]
    rfl
  · rename_i next
    rw [next]
    rfl

theorem drain_eq (environment : Environment σ) (time : Nat) (place : Timeline × σ) :
    place.1.drain environment place.2 time = match place.1.fireBy? time with
      | none => place
      | some step => (step.resolve environment place.2).1.drain environment
          (step.resolve environment place.2).2 time := by
  rw [drain, fireBy?]
  split
  · split
    · rename_i next
      rw [next]
    · rename_i next
      rw [next]
      rfl
    · rename_i next
      rw [next]
      rfl
  · rfl

/-- Steps of some kind that come to an end. -/
def Ends (next : Timeline → Option Step) : Prop :=
  ∀ timeline step later, next timeline = some step → step.Yields later → later.Less timeline

theorem ends_step? : Ends step? := fun _ _ _ next yields => less_of_step? next yields

theorem ends_fireBy? (time : Nat) : Ends (fireBy? time) := by
  intro timeline step later next yields
  unfold fireBy? at next
  split at next
  · obtain ⟨same, less⟩ := fire?_spends next yields
    unfold Less
    rw [same]
    exact .right _ less
  · cases next

theorem less_wf : WellFounded Less :=
  InvImage.wf (fun timeline : Timeline => (timeline.credit, timeline.weight))
    (Prod.lex Nat.lt_wfRel Nat.lt_wfRel).wf

/-- One step after the other. -/
abbrev Passes (next : Timeline → Option Step) (environment : Environment σ) :
    Timeline × σ → Timeline × σ → Prop :=
  Relation.ReflTransGen fun place later =>
    ∃ step, next place.1 = some step ∧ step.resolve environment place.2 = later

/-- What is passed while users do one thing after the other. -/
inductive Sees (environment : Environment σ) : List Act → Timeline × σ → Timeline × σ → Prop
  | here (acts : List Act) (place : Timeline × σ) : Sees environment acts place place
  | running {acts : List Act} {place seen : Timeline × σ}
      (passes : Passes step? environment place seen) : Sees environment (.run :: acts) place seen
  | pausing {millis : Nat} {acts : List Act} {place seen : Timeline × σ}
      (passes : Passes (fireBy? (place.1.now + millis)) environment place seen) :
      Sees environment (.pause millis :: acts) place seen
  | later {act : Act} {acts : List Act} {place seen : Timeline × σ}
      (sees : Sees environment acts (perform environment place act) seen) :
      Sees environment (act :: acts) place seen

/-- What two timelines do next that are alike: one takes a step that the other takes no notice of,
neither takes any, or both take one; and they are alike again. -/
inductive Paced (next : Timeline → Option Step) (environment environment' : Environment σ)
    (alike : Timeline → Timeline → Prop) (timeline other : Timeline) (state : σ) : Prop
  | first {later : Timeline} (steps : next timeline = some (.moved later))
      (same : alike later other)
  | second {later : Timeline} (steps : next other = some (.moved later))
      (same : alike timeline later)
  | ends (stands : next timeline = none) (stands' : next other = none)
  | both {step step' : Step} (steps : next timeline = some step) (steps' : next other = some step')
      (same : alike (step.resolve environment state).1 (step'.resolve environment' state).1)
      (states : (step.resolve environment state).2 = (step'.resolve environment' state).2)

/-- Timelines that are alike keep pace. -/
def KeepPace (next : Timeline → Option Step) (environment environment' : Environment σ)
    (alike : Timeline → Timeline → Prop) : Prop :=
  ∀ (timeline other : Timeline) (state : σ), alike timeline other →
    Paced next environment environment' alike timeline other state

section KeepPace

variable {next : Timeline → Option Step} {alike : Timeline → Timeline → Prop}

theorem KeepPace.step (pace : KeepPace next environment environment' alike) (ends : Ends next)
    {timeline other : Timeline} {step : Step} (same : alike timeline other)
    (steps : next timeline = some step) (state : σ) :
    ∃ later, Passes next environment' (other, state) later ∧
      alike (step.resolve environment state).1 later.1 ∧
      (step.resolve environment state).2 = later.2 := by
  induction other using less_wf.induction with
  | _ other ih =>
    cases pace timeline other state same with
    | first steps' alike =>
      cases steps.symm.trans steps'
      exact ⟨(other, state), .refl, alike, rfl⟩
    | second steps' alike =>
      obtain ⟨last, passes, both⟩ := ih _ (ends other _ _ steps' (Step.yields_moved _)) alike
      exact ⟨last, .head ⟨_, steps', rfl⟩ passes, both⟩
    | ends stands => cases steps.symm.trans stands
    | both own steps' alike states =>
      cases steps.symm.trans own
      exact ⟨_, .single ⟨_, steps', rfl⟩, alike, states⟩

theorem KeepPace.passes (pace : KeepPace next environment environment' alike) (ends : Ends next)
    {timeline other : Timeline} {state : σ} {seen : Timeline × σ} (same : alike timeline other)
    (passes : Passes next environment (timeline, state) seen) :
    ∃ seen', Passes next environment' (other, state) seen' ∧ alike seen.1 seen'.1 ∧
      seen.2 = seen'.2 := by
  induction passes with
  | refl => exact ⟨(other, state), .refl, same, rfl⟩
  | tail _ steps ih =>
    obtain ⟨step, next, leads⟩ := steps
    obtain ⟨⟨middle, after⟩, before, alike, states⟩ := ih
    obtain ⟨last, onward, both⟩ := pace.step ends alike next after
    subst leads
    dsimp only at states
    subst states
    exact ⟨last, before.trans onward, both⟩

/-- Where both come to an end, they are alike. -/
theorem KeepPace.ends (pace : KeepPace next environment environment' alike) (ends : Ends next)
    {go go' : Timeline × σ → Timeline × σ}
    (goes : ∀ place, go place = match next place.1 with
      | none => place
      | some step => go (step.resolve environment place.2))
    (goes' : ∀ place, go' place = match next place.1 with
      | none => place
      | some step => go' (step.resolve environment' place.2))
    {timeline other : Timeline} (same : alike timeline other) (state : σ) :
    alike (go (timeline, state)).1 (go' (other, state)).1 ∧
      (go (timeline, state)).2 = (go' (other, state)).2 ∧
      next (go (timeline, state)).1 = none ∧ next (go' (other, state)).1 = none := by
  induction timeline using less_wf.induction generalizing other state with
  | _ timeline ih =>
    induction other using less_wf.induction with
    | _ other ih' =>
      cases pace timeline other state same with
      | first steps alike =>
        rw [goes, steps]
        exact ih _ (ends timeline _ _ steps (Step.yields_moved _)) alike state
      | second steps alike =>
        rw [goes' (other, state), steps]
        exact ih' _ (ends other _ _ steps (Step.yields_moved _)) alike
      | ends stands stands' =>
        rw [goes, goes' (other, state), stands, stands']
        exact ⟨same, rfl, stands, stands'⟩
      | both steps steps' alike states =>
        rename_i step step'
        rw [goes, goes' (other, state), steps, steps']
        dsimp only
        have less := ends timeline step _ steps (Step.yields_resolve environment state step)
        have results := ih _ less alike (step.resolve environment state).2
        have place : ((step'.resolve environment' state).1, (step.resolve environment state).2) =
            step'.resolve environment' state := by
          rw [states]
        rw [place] at results
        exact results

end KeepPace

end Timeline
end ReplicatedSpace
