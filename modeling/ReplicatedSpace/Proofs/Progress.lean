import Mathlib.Logic.Relation
import ReplicatedSpace.Proofs.Engagement

/-!
Runs get on. While a client is at an operation there is a next step, since a client that waits for
results has calls under way; so a run, which ends anyway, ends with no client at an operation.
-/
namespace ReplicatedSpace

/-- An environment that gives each answer again and again. -/
def Environment.fixed (replicas : Except Error (List Replica))
    (number : Except Error SequenceNumber) (reply : (call : Call) → Reply call.operation.Answer) :
    Environment Unit := fun state question =>
  (match question with
    | .lookup _ _ => replicas
    | .next _ => number
    | .arrival call => reply call, state)

/-- An environment whose answers are those of a world. -/
def Environment.Keeps {σ : Type} (environment : Environment σ) (world : World) : Prop :=
  ∀ state question, world question (environment state question).1

namespace Timeline

variable {world : World} {settings : List Settings} {timeline later : Timeline} {index : Nat}
  {coordinator : Coordinator} {task : Task}

/-- Whether a task can enter its next stage. -/
def Enabled (timeline : Timeline) (task : Task) : Prop :=
  match task.stage with
  | .waiting start => start ≤ timeline.now
  | .discovering | .ready | .sending _ => True
  | .collecting round expected =>
    ∃ collector result, timeline.rounds[round]? = some collector ∧
      task.attempt.verdict? expected collector = some result

theorem proceed?_isSome_iff (found : timeline.clients[index]? = some ⟨coordinator, .busy task⟩) :
    (timeline.proceed? index).isSome = true ↔ timeline.Enabled task := by
  simp only [proceed?, found]
  cases stage : task.stage with
  | waiting start => by_cases late : start ≤ timeline.now <;> simp [Enabled, stage, late]
  | discovering | ready | sending number => simp [Enabled, stage]
  | collecting round expected =>
    simp only [Enabled, stage, Option.isSome_map, Option.isSome_iff_exists,
      Option.bind_eq_some_iff]
    constructor
    · rintro ⟨result, collector, opened, verdict⟩
      exact ⟨collector, result, opened, verdict⟩
    · rintro ⟨collector, result, opened, verdict⟩
      exact ⟨result, collector, opened, verdict⟩

theorem Awaits.enabled {round expected : Nat} (balanced : timeline.Balanced)
    (awaits : timeline.Awaits index coordinator task.attempt round expected)
    (stage : task.stage = .collecting round expected) (all : timeline.underWay round = []) :
    timeline.Enabled task := by
  obtain ⟨collector, opened⟩ : ∃ collector, timeline.rounds[round]? = some collector :=
    ⟨_, List.getElem?_eq_getElem awaits.opened⟩
  have counted := (balanced.collected opened).2
  have back := (balanced.sentIn_perm round).length_eq
  rw [all, List.nil_append, List.length_map, awaits.count] at back
  have reaches : collector.reaches expected = true :=
    decide_eq_true (Nat.le_of_eq (back.trans counted.symm))
  obtain ⟨result, verdict⟩ :=
    Option.isSome_iff_exists.mp (task.attempt.verdict?_isSome reaches)
  rw [Enabled, stage]
  exact ⟨_, result, opened, verdict⟩

theorem not_enabled (nobody : timeline.proceedFirst? = none) (listed : index ∈ timeline.turns)
    (found : timeline.clients[index]? = some ⟨coordinator, .busy task⟩) :
    ¬ timeline.Enabled task := by
  intro enabled
  have blocked := List.findSome?_eq_none_iff.mp nobody index listed
  have settled : { timeline with settled := true }.clients[index]? =
      some ⟨coordinator, .busy task⟩ := found
  have free := (proceed?_isSome_iff settled).mpr enabled
  rw [blocked] at free
  cases free

theorem proceedFirst?_isSome (listed : index ∈ timeline.turns)
    (found : timeline.clients[index]? = some ⟨coordinator, .busy task⟩)
    (enabled : timeline.Enabled task) : timeline.proceedFirst?.isSome = true := by
  refine Option.isSome_iff_ne_none.mpr fun nobody => ?_
  exact not_enabled nobody listed found enabled

theorem fire?_isSome (some : timeline.flights ≠ []) : timeline.fire?.isSome = true := by
  unfold fire?
  split
  · rename_i none; exact absurd none some
  · rfl

theorem due_of_isDueBy {time : Nat} (inOrder : timeline.flights.Pairwise (·.due ≤ ·.due))
    (clear : timeline.isDueBy time = false) : ∀ flight ∈ timeline.flights, time < flight.due := by
  intro flight present
  unfold isDueBy at clear
  split at clear
  · rename_i none; rw [none] at present; cases present
  · rename_i first rest flights
    rw [flights] at inOrder present
    have least := (List.pairwise_cons.mp inOrder).1
    have later := of_decide_eq_false clear
    rcases List.mem_cons.mp present with same | present
    · subst same; omega
    · have := least flight present; omega

/-- A step of a run is that of a call that gets somewhere or of a client, and time passes only while
no client can go on. -/
theorem step?_cases {step : Step} (steps : timeline.step? = some step) :
    (timeline.fire? = some step ∧
      (timeline.isDueBy timeline.now = true ∨ timeline.proceedFirst? = none)) ∨
    ∃ index time, { timeline with now := time, settled := true }.proceed? index = some step ∧
      timeline.now ≤ time ∧ (time = timeline.now ∨
        timeline.proceedFirst? = none ∧ timeline.isDueBy time = false) := by
  unfold step? at steps
  split at steps
  · dsimp only at steps
    split at steps
    · rename_i due
      exact .inl ⟨steps, .inl (Bool.and_eq_true_iff.mp due).1⟩
    · rcases Option.or_eq_some_iff.mp steps with proceeds | ⟨nobody, waits⟩
      · obtain ⟨index, _, found⟩ := List.exists_of_findSome?_eq_some proceeds
        exact .inr ⟨index, timeline.now, found, Nat.le_refl _, .inl rfl⟩
      · split at waits
        · exact .inl ⟨waits, .inr nobody⟩
        · unfold await? at waits
          split at waits
          · split at waits
            · exact .inl ⟨waits, .inr nobody⟩
            · rename_i quiet _ start _ clear
              obtain ⟨index, _, found⟩ := List.exists_of_findSome?_eq_some waits
              refine .inr
                ⟨index, max timeline.now start, found, Nat.le_max_left .., .inr ⟨nobody, ?_⟩⟩
              unfold isDueBy at quiet clear ⊢
              split
              · rfl
              · rename_i first rest flights
                simp only [flights, decide_eq_true_eq] at quiet clear
                exact decide_eq_false (by omega)
          · exact .inl ⟨waits, .inr nobody⟩
  · cases steps

/-- One move after the other. -/
abbrev Path (world : World) : Timeline → Timeline → Prop := Relation.ReflTransGen (Moves world)

theorem Reached.path (reached : timeline.Reached world settings)
    (path : timeline.Path world later) : later.Reached world settings := by
  induction path with
  | refl => exact reached
  | tail _ moves reached => exact reached.moves moves

theorem Path.balanced (path : timeline.Path world later) (balanced : timeline.Balanced) :
    later.Balanced := by
  induction path with
  | refl => exact balanced
  | tail _ moves balanced => exact moves.balanced balanced

theorem Path.onward (path : timeline.Path world later) : timeline.Onward later := by
  induction path with
  | refl => exact .refl _
  | tail _ moves onward => exact onward.trans moves.onward

theorem path_of_step? {step : Step} (balanced : timeline.Balanced)
    (steps : timeline.step? = some step) (leads : step.Leads world later) :
    timeline.Path world later := by
  rcases step?_cases steps with ⟨fires, _⟩ | ⟨index, time, proceeds, onward, cause⟩
  · exact .single (.flight fires leads)
  · refine .tail (.single (.clock timeline true onward fun flight present => ?_))
      (.client proceeds leads)
    rcases cause with same | ⟨_, clear⟩
    · exact same ▸ balanced.ahead flight present
    · exact Nat.le_of_lt (due_of_isDueBy balanced.inOrder clear flight present)

theorem not_waiting (none : timeline.nextStart? = none)
    (found : timeline.clients[index]? = some ⟨coordinator, .busy task⟩) (start : Nat) :
    task.stage ≠ .waiting start := by
  intro waiting
  have nobody := List.min?_eq_none_iff.mp none
  have absent := List.filterMap_eq_nil_iff.mp nobody _ (List.mem_of_getElem? found)
  obtain ⟨attempt, retries, stage⟩ := task
  dsimp only at waiting
  subst waiting
  cases absent

theorem flights_ne_nil (balanced : timeline.Balanced)
    (engaged : timeline.Engaged index coordinator task) (blocked : ¬ timeline.Enabled task)
    (started : ∀ start, task.stage ≠ .waiting start) : timeline.flights ≠ [] := by
  intro none
  cases stage : task.stage with
  | waiting start => exact started start stage
  | discovering | ready | sending number => exact blocked (by simp [Enabled, stage])
  | collecting round expected =>
    rw [Engaged, stage] at engaged
    exact blocked (Awaits.enabled balanced engaged stage (by
      simp [underWay, outbound, inbound, none]))

/-- While a client is at an operation, something happens next. -/
theorem Reached.step?_isSome (reached : timeline.Reached world settings)
    (found : timeline.clients[index]? = some ⟨coordinator, .busy task⟩) :
    timeline.step?.isSome = true := by
  have busy : timeline.clients.any (·.isBusy) = true :=
    List.any_eq_true.mpr ⟨_, List.mem_of_getElem? found, rfl⟩
  obtain ⟨listed, engaged⟩ := reached.engaged found
  -- Whoever waits for the start of an operation can go on at the first start.
  have starts (start : Nat) (next : timeline.nextStart? = some start) :
      { timeline with now := max timeline.now start }.proceedFirst?.isSome = true := by
    obtain ⟨client, present, own⟩ := List.mem_filterMap.mp (List.min?_mem next)
    obtain ⟨place, mine⟩ := List.getElem?_of_mem present
    split at own
    · rename_i attempt retries first activity
      cases own
      obtain ⟨known, activity'⟩ := client
      dsimp only at activity
      subst activity
      exact proceedFirst?_isSome (reached.engaged mine).1 mine (Nat.le_max_right ..)
    · cases own
  have due {time : Nat} (due : timeline.isDueBy time = true) : timeline.fire?.isSome = true := by
    refine fire?_isSome fun none => ?_
    rw [isDueBy, none] at due
    cases due
  unfold step?
  rw [if_pos busy]
  dsimp only
  split
  · rename_i isDue
    exact due (Bool.and_eq_true_iff.mp isDue).1
  · cases nobody : timeline.proceedFirst? with
    | some step => rfl
    | none =>
      rw [Option.none_or]
      split
      · rename_i isDue
        exact due isDue
      · unfold await?
        split
        · rename_i start next
          split
          · rename_i isDue
            exact due isDue
          · exact starts start next
        · rename_i next
          exact fire?_isSome (flights_ne_nil reached.balanced engaged
            (not_enabled nobody listed found) (not_waiting next found))

/-- What holds where nothing happens next, and before a step if it holds after it, holds of every
run. -/
theorem run_induction {σ : Type} {environment : Environment σ} (keeps : environment.Keeps world)
    {motive : Timeline → Timeline → Prop}
    (ends : ∀ timeline, timeline.step? = none → motive timeline timeline)
    (steps : ∀ timeline step later last, timeline.step? = some step → step.Leads world later →
      motive later last → motive timeline last)
    (state : σ) (timeline : Timeline) : motive timeline (timeline.run environment state).1 := by
  induction state, timeline using run.induct environment with
  | case1 state timeline stands =>
    rw [run]
    split
    · exact ends timeline stands
    · rename_i other; rw [stands] at other; cases other
    · rename_i other; rw [stands] at other; cases other
  | case2 state timeline later next ih =>
    rw [run]
    split
    · rename_i other; rw [next] at other; cases other
    · rename_i same
      rw [next] at same
      cases same
      exact steps timeline _ later _ next (.moved later) ih
    · rename_i other; rw [next] at other; cases other
  | case3 state timeline question resume next answer after asked ih =>
    rw [run]
    split
    · rename_i other; rw [next] at other; cases other
    · rename_i other; rw [next] at other; cases other
    · rename_i same
      rw [next] at same
      cases same
      have admitted := keeps state question
      rw [asked] at admitted ⊢
      exact steps timeline _ _ _ next (.answered resume admitted) ih

variable {σ : Type} {environment : Environment σ}

theorem Reached.run_path (reached : timeline.Reached world settings)
    (keeps : environment.Keeps world) (state : σ) :
    timeline.Path world (timeline.run environment state).1 := by
  refine run_induction keeps (motive := fun timeline last =>
    timeline.Reached world settings → timeline.Path world last) (fun _ _ _ => .refl) ?_ state
    timeline reached
  intro timeline step later last next leads ih reached
  have path := path_of_step? reached.balanced next leads
  exact path.trans (ih (reached.path path))

theorem Reached.run_isBusy (reached : timeline.Reached world settings)
    (keeps : environment.Keeps world) (state : σ) {client : Client}
    (found : (timeline.run environment state).1.clients[index]? = some client) :
    client.isBusy = false := by
  refine run_induction keeps (motive := fun timeline last =>
    timeline.Reached world settings → last.clients[index]? = some client → client.isBusy = false)
    ?_ ?_ state timeline reached found
  · intro timeline stands reached found
    obtain ⟨coordinator, activity⟩ := client
    cases activity with
    | idle | finished => rfl
    | busy task =>
      have next := reached.step?_isSome found
      rw [stands] at next
      cases next
  · intro timeline step later last next leads ih reached
    exact ih (reached.path (path_of_step? reached.balanced next leads))

end Timeline
end ReplicatedSpace
