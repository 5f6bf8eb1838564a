import ReplicatedSpace.Proofs.Progress

/-!
What a run does next is either that the first call gets somewhere or that a client goes on. Which of
both it is hangs on the clients and on the first call only; and while nobody can go on, it makes no
difference how late it is, as long as nothing starts before.
-/
namespace ReplicatedSpace.Timeline

variable {timeline : Timeline} {time : Nat}

/-- What comes next: nothing, that the first call gets somewhere, or that a client goes on at that
time. -/
inductive Choice
  | nothing
  | call
  | client (time : Nat)

/-- What a run does next while no client can go on. -/
def await (timeline : Timeline) : Choice :=
  if timeline.isDueBy timeline.now then .call
  else match timeline.nextStart? with
    | some start => if timeline.isDueBy start then .call else .client (max timeline.now start)
    | none => .call

def choice (timeline : Timeline) : Choice :=
  if timeline.clients.any (·.isBusy) then
    if timeline.isDueBy timeline.now && !timeline.settled then .call
    else if timeline.proceedFirst?.isSome then .client timeline.now
    else timeline.await
  else .nothing

def follow (timeline : Timeline) : Choice → Option Step
  | .nothing => none
  | .call => timeline.fire?
  | .client time => { timeline with now := time }.proceedFirst?

theorem step?_eq_follow (timeline : Timeline) :
    timeline.step? = timeline.follow timeline.choice := by
  unfold step? choice
  split
  · dsimp only
    split
    · rfl
    · cases proceeds : timeline.proceedFirst? with
      | some step => exact proceeds.symm
      | none =>
        rw [Option.none_or]
        unfold await await?
        simp only [Option.isSome_none, Bool.false_eq_true, ↓reduceIte]
        split
        · rfl
        · cases timeline.nextStart? with
          | none => rfl
          | some start =>
            dsimp only
            split <;> rfl
  · rfl

/-- Whether a timeline is settled does not matter while nothing is due. -/
def calm (timeline : Timeline) : Timeline :=
  { timeline with settled := timeline.settled || !timeline.isDueBy timeline.now }

theorem choice_calm (timeline : Timeline) : timeline.calm.choice = timeline.choice := by
  cases due : timeline.isDueBy timeline.now with
  | true =>
    have same : timeline.calm = timeline := by
      rw [calm, due, Bool.not_true, Bool.or_false]
    rw [same]
  | false =>
    have due' : timeline.calm.isDueBy timeline.calm.now = false := due
    unfold choice
    rw [due, due', Bool.false_and, Bool.false_and]
    rfl

/-- A call gets somewhere because it is due, or because nobody can go on before. -/
theorem call_cases (calls : timeline.choice = .call) :
    timeline.clients.any (·.isBusy) = true ∧
      (timeline.isDueBy timeline.now = true ∧ timeline.settled = false ∨
        timeline.proceedFirst? = none ∧ (timeline.isDueBy timeline.now = true ∨
          ∀ start, timeline.nextStart? = some start → timeline.isDueBy start = true)) := by
  unfold choice at calls
  split at calls
  · rename_i busy
    refine ⟨busy, ?_⟩
    split at calls
    · rename_i due
      obtain ⟨due, awake⟩ := Bool.and_eq_true_iff.mp due
      exact .inl ⟨due, by simpa using awake⟩
    · split at calls
      · cases calls
      · rename_i blocked
        refine .inr ⟨Option.not_isSome_iff_eq_none.mp blocked, ?_⟩
        unfold await at calls
        split at calls
        · rename_i due
          exact .inl due
        · refine .inr fun start next => ?_
          rw [next] at calls
          dsimp only at calls
          split at calls
          · assumption
          · cases calls
  · cases calls

theorem clear_of_choice (balanced : timeline.Balanced) (turn : timeline.choice = .client time) :
    timeline.now ≤ time ∧ ∀ flight ∈ timeline.flights, time ≤ flight.due := by
  have now : timeline.now ≤ timeline.now ∧
      ∀ flight ∈ timeline.flights, timeline.now ≤ flight.due := ⟨Nat.le_refl _, balanced.ahead⟩
  unfold choice at turn
  split at turn
  · split at turn
    · cases turn
    · split at turn
      · cases turn
        exact now
      · unfold await at turn
        split at turn
        · cases turn
        · split at turn
          · rename_i start _
            split at turn
            · cases turn
            · rename_i clear
              cases turn
              refine ⟨Nat.le_max_left .., ?_⟩
              intro flight present
              have after :=
                due_of_isDueBy balanced.inOrder (Bool.eq_false_iff.mpr clear) flight present
              have before := balanced.ahead flight present
              omega
          · cases turn
  · cases turn

theorem nextStart?_le {index start : Nat} {coordinator : Coordinator} {task : Task}
    (found : timeline.clients[index]? = some ⟨coordinator, .busy task⟩)
    (stage : task.stage = .waiting start) :
    ∃ least, timeline.nextStart? = some least ∧ least ≤ start := by
  cases next : timeline.nextStart? with
  | none => exact absurd stage (not_waiting next found start)
  | some least =>
    refine ⟨least, rfl, (List.min?_eq_some_iff.mp next).2 start ?_⟩
    refine List.mem_filterMap.mpr ⟨_, List.mem_of_getElem? found, ?_⟩
    obtain ⟨attempt, retries, _⟩ := task
    dsimp only at stage
    subst stage
    rfl

/-- Whoever cannot go on has to wait for the next start or for a call. -/
theorem proceedFirst?_later (quiet : timeline.proceedFirst? = none)
    (starts : ∀ start, timeline.nextStart? = some start → time < start) :
    { timeline with now := time }.proceedFirst? = none := by
  apply List.findSome?_eq_none_iff.mpr
  intro index listed
  have blocked := List.findSome?_eq_none_iff.mp quiet index listed
  apply Option.not_isSome_iff_eq_none.mp
  intro free
  let settled : Timeline := { timeline with settled := true }
  let later : Timeline := { timeline with now := time, settled := true }
  cases found : timeline.clients[index]? with
  | none => simp [proceed?, found] at free
  | some client =>
    obtain ⟨coordinator, activity⟩ := client
    cases activity with
    | idle | finished => simp [proceed?, found] at free
    | busy task =>
      have enabled := (@proceed?_isSome_iff later index coordinator task found).mp free
      have stuck : ¬ settled.Enabled task := by
        intro enabled
        have free := (@proceed?_isSome_iff settled index coordinator task found).mpr enabled
        rw [blocked] at free
        cases free
      -- Nothing but the start of an operation hangs on the time.
      apply stuck
      unfold Enabled at enabled ⊢
      cases stage : task.stage with
      | waiting start =>
        rw [stage] at enabled
        obtain ⟨least, next, before⟩ := nextStart?_le found stage
        have after := starts least next
        exact absurd (Nat.lt_of_lt_of_le after before) (Nat.not_lt_of_le enabled)
      | discovering | ready | sending number => trivial
      | collecting round expected =>
        rw [stage] at enabled
        exact enabled

theorem isDueBy_mono {later : Nat} (onward : time ≤ later) (due : timeline.isDueBy time = true) :
    timeline.isDueBy later = true := by
  unfold isDueBy at due ⊢
  split at due
  · cases due
  · exact decide_eq_true (Nat.le_trans (of_decide_eq_true due) onward)

theorem choice_of_quiet (quiet : timeline.proceedFirst? = none)
    (busy : timeline.clients.any (·.isBusy) = true) : timeline.choice = timeline.await := by
  unfold choice
  rw [if_pos busy, quiet]
  split
  · rename_i due
    unfold await
    rw [if_pos (Bool.and_eq_true_iff.mp due).1]
  · rfl

theorem choice_of_due (busy : timeline.clients.any (·.isBusy) = true)
    (due : timeline.isDueBy timeline.now = true) (awake : timeline.settled = false) :
    timeline.choice = .call := by
  unfold choice
  rw [if_pos busy, due, awake]
  rfl

theorem await_of_clear (clear : timeline.isDueBy timeline.now = false) :
    timeline.await = match timeline.nextStart? with
      | some start => if timeline.isDueBy start then .call else .client (max timeline.now start)
      | none => .call :=
  if_neg (Bool.eq_false_iff.mp clear)

/-- While nobody can go on, it makes no difference to be later, as long as nothing starts before. -/
theorem choice_later (onward : timeline.now ≤ time) (quiet : timeline.proceedFirst? = none)
    (clear : timeline.isDueBy timeline.now = false)
    (starts : ∀ start, timeline.nextStart? = some start → time ≤ start) :
    { timeline with now := time, settled := false }.choice = timeline.choice := by
  let later : Timeline := { timeline with now := time, settled := false }
  by_cases busy : timeline.clients.any (·.isBusy) = true
  · rw [choice_of_quiet quiet busy, await_of_clear clear]
    by_cases due : timeline.isDueBy time = true
    · have calls : later.choice = .call := @choice_of_due later busy due rfl
      refine calls.trans ?_
      cases next : timeline.nextStart? with
      | none => rfl
      | some start => exact (if_pos (isDueBy_mono (starts start next) due)).symm
    · have clear' : later.isDueBy later.now = false := Bool.eq_false_iff.mpr due
      have waits (after : ∀ start, timeline.nextStart? = some start → time < start) :
          later.choice = match timeline.nextStart? with
            | some start => if timeline.isDueBy start then .call else .client (max time start)
            | none => .call := by
        have quiet' : later.proceedFirst? = none := proceedFirst?_later quiet after
        exact (@choice_of_quiet later quiet' busy).trans (await_of_clear clear')
      cases next : timeline.nextStart? with
      | none =>
        rw [next] at waits
        exact waits (by simp)
      | some start =>
        rcases Nat.lt_or_eq_of_le (starts start next) with before | same
        · rw [next] at waits
          have latest : max timeline.now start = max time start := by omega
          dsimp only
          rw [latest]
          exact waits (by simpa using before)
        · subst same
          have turn : later.choice = .client time := by
            unfold choice
            rw [if_pos busy, clear', Bool.false_and, if_neg (by decide)]
            split
            · rfl
            · rw [await_of_clear clear']
              have same : later.nextStart? = some time := next
              have still : ¬ later.isDueBy time = true := due
              rw [same]
              dsimp only
              rw [if_neg still, Nat.max_self]
          refine turn.trans ?_
          dsimp only
          rw [if_neg due, Nat.max_eq_right onward]
  · have idle : later.choice = .nothing := if_neg busy
    exact idle.trans (if_neg busy).symm

end ReplicatedSpace.Timeline
