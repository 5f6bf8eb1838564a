import ReplicatedSpace.Timeline.Stages

/-!
Running a timeline until its clients are done. What is due comes before a client goes on, and time
passes only while no client can. Every step spends something: a stage of an operation spends credit,
of which a retry has enough for all stages, and a call that gets somewhere spends weight.
-/
namespace ReplicatedSpace

/-- The stages that are left. -/
def Stage.rank : Stage → Nat
  | waiting _ => 5
  | discovering => 4
  | ready => 3
  | sending _ => 2
  | collecting .. => 1

/-- An upper bound of the stages that are left, in this attempt and all later ones. -/
def Task.credit (task : Task) : Nat := 6 * task.retriesLeft.toNat + task.stage.rank

def Client.credit (client : Client) : Nat :=
  match client.activity with
  | .busy task => task.credit
  | .idle | .finished .. => 0

/-- The legs that are left. -/
def Flight.weight (flight : Flight) : Nat :=
  match flight.leg with
  | .outbound => 2
  | .inbound _ => 1

theorem Stage.rank_pos (stage : Stage) : 0 < stage.rank := by
  cases stage <;> simp [rank]

theorem Flight.total_weight_enqueue (flight : Flight) (flights : List Flight) :
    total ((flight.enqueue flights).map Flight.weight) =
      flight.weight + total (flights.map Flight.weight) := by
  induction flights with
  | nil => rfl
  | cons first rest ih =>
    unfold enqueue
    split
    · simp only [List.map_cons, total_cons, ih]; omega
    · simp

namespace Timeline

def credit (timeline : Timeline) : Nat := total (timeline.clients.map Client.credit)

def weight (timeline : Timeline) : Nat := total (timeline.flights.map Flight.weight)

/-- One client has spent credit, and no other has changed. -/
def Spends (before : Timeline) (index limit : Nat) (after : Timeline) : Prop :=
  ∃ client : Client, client.credit < limit ∧ after.clients = before.clients.set index client

private theorem spends_of_finished {before after : Timeline} {index limit time : Nat}
    {coordinator : Coordinator} {result : Except Error Outcome} (more : 0 < limit)
    (kept : after.clients = before.clients.set index ⟨coordinator, .finished result time⟩) :
    before.Spends index limit after :=
  ⟨⟨coordinator, .finished result time⟩, more, kept⟩

private theorem spends_of_busy {before after : Timeline} {index limit : Nat}
    {coordinator : Coordinator} {task : Task} (less : task.credit < limit)
    (kept : after.clients = before.clients.set index ⟨coordinator, .busy task⟩) :
    before.Spends index limit after :=
  ⟨⟨coordinator, .busy task⟩, less, kept⟩

private theorem conclude_spends (timeline : Timeline) (index : Nat) (coordinator : Coordinator)
    (task : Task) (result : Except Error Outcome) :
    timeline.Spends index task.credit (timeline.conclude index coordinator task result) := by
  have left : 0 < task.credit := Nat.add_pos_right _ task.stage.rank_pos
  cases result with
  | ok outcome => exact spends_of_finished left rfl
  | error error =>
    unfold conclude restart
    dsimp only
    split
    · split
      · exact spends_of_finished left rfl
      · rename_i more
        refine spends_of_busy ?_ rfl
        have one : 1 ≤ task.retriesLeft.toNat :=
          Nat.pos_of_ne_zero fun zero => more (UInt32.toNat_inj.mp zero)
        have less : (task.retriesLeft - 1).toNat = task.retriesLeft.toNat - 1 :=
          UInt32.toNat_sub_of_le _ _ (UInt32.le_iff_toNat_le.mpr one)
        have := task.stage.rank_pos
        simp only [Task.credit, less, Stage.rank]
        omega
    · exact spends_of_finished left rfl

private theorem begin_spends (timeline : Timeline) (index start : Nat)
    (coordinator : Coordinator) (task : Task) (stage : task.stage = .waiting start) :
    timeline.Spends index task.credit (timeline.begin index coordinator task) := by
  have left : 0 < task.credit := Nat.add_pos_right _ task.stage.rank_pos
  unfold begin
  dsimp only
  split
  · exact spends_of_finished left rfl
  · refine spends_of_busy ?_ rfl
    simp [Task.credit, stage, Stage.rank]

private theorem discover_spends (timeline : Timeline) (index : Nat) (coordinator : Coordinator)
    (task : Task) (found : Except Error (List Replica)) (stage : task.stage = .discovering) :
    timeline.Spends index task.credit (timeline.discover index coordinator task found) := by
  have less : { task with stage := .ready }.credit < task.credit := by
    simp [Task.credit, stage, Stage.rank]
  unfold discover
  dsimp only
  split
  · exact conclude_spends _ _ _ _ _
  · exact conclude_spends _ _ _ _ _
  · exact spends_of_busy less rfl

private theorem attempt_spends (timeline : Timeline) (index : Nat) (coordinator : Coordinator)
    (task : Task) (stage : task.stage = .discovering) {later : Timeline}
    (yields : (timeline.attempt index coordinator task).Yields later) :
    timeline.Spends index task.credit later := by
  unfold attempt at yields
  dsimp only at yields
  split at yields
  · obtain ⟨found, rfl⟩ := yields
    exact discover_spends _ _ _ _ _ stage
  · cases yields
    exact spends_of_busy (by simp [Task.credit, stage, Stage.rank]) rfl

private theorem clients_dispatch (timeline : Timeline) (client : Nat) (request : Request)
    (plan : List (Replica × Span)) :
    (timeline.dispatch client request plan).clients = timeline.clients := by
  unfold dispatch
  suffices kept : ∀ earlier : Timeline,
      (plan.foldl (send client timeline.rounds.length request) earlier).clients =
        earlier.clients by rw [kept]
  induction plan with
  | nil => exact fun _ => rfl
  | cons first rest ih => exact fun earlier => by rw [List.foldl_cons, ih]; rfl

private theorem collect_spends (timeline : Timeline) (index : Nat) (coordinator : Coordinator)
    (task : Task) (request : Request) (plan : List (Replica × Span)) (expected : Nat)
    (early : 1 < task.stage.rank) :
    timeline.Spends index task.credit
      (timeline.collect index coordinator task request plan expected) := by
  let later : Task := { task with stage := .collecting timeline.rounds.length expected }
  have less : later.credit < task.credit := Nat.add_lt_add_left early _
  have kept : (timeline.collect index coordinator task request plan expected).clients =
      timeline.clients.set index ⟨coordinator, .busy later⟩ := by
    simp only [collect, busy, setClient, clients_dispatch, later]
  exact spends_of_busy less kept

private theorem order_spends (timeline : Timeline) (index : Nat) (coordinator : Coordinator)
    (task : Task) (answer : Except Error SequenceNumber) (stage : task.stage = .ready) :
    timeline.Spends index task.credit (timeline.order index coordinator task answer) := by
  unfold order
  dsimp only
  split
  · exact spends_of_busy (by simp [Task.credit, stage, Stage.rank]) rfl
  · exact conclude_spends _ _ _ _ _

private theorem engage_spends (timeline : Timeline) (index : Nat) (coordinator : Coordinator)
    (task : Task) (stage : task.stage = .ready) {later : Timeline}
    (yields : (timeline.engage index coordinator task).Yields later) :
    timeline.Spends index task.credit later := by
  have early : 1 < task.stage.rank := by simp [stage, Stage.rank]
  unfold engage at yields
  split at yields
  · obtain ⟨answer, rfl⟩ := yields; exact order_spends _ _ _ _ _ stage
  · obtain ⟨answer, rfl⟩ := yields; exact order_spends _ _ _ _ _ stage
  · cases yields; exact collect_spends _ _ _ _ _ _ _ early
  · split at yields
    · cases yields; exact collect_spends _ _ _ _ _ _ _ early
    · cases yields; exact conclude_spends _ _ _ _ _

private theorem total_set_lt {credits : List Client} {index : Nat} {old new : Client}
    (found : credits[index]? = some old) (less : new.credit < old.credit) :
    total ((credits.set index new).map Client.credit) < total (credits.map Client.credit) := by
  induction credits generalizing index with
  | nil => simp at found
  | cons first rest ih =>
    cases index with
    | zero =>
      simp only [List.getElem?_cons_zero, Option.some.injEq] at found
      subst found
      simp only [List.set_cons_zero, List.map_cons, total_cons]
      omega
    | succ index =>
      have := ih (by simpa using found)
      simp only [List.set_cons_succ, List.map_cons, total_cons]
      omega

theorem credit_of_proceed? {timeline later : Timeline} {index : Nat} {step : Step}
    (proceeds : timeline.proceed? index = some step) (yields : step.Yields later) :
    later.credit < timeline.credit := by
  unfold proceed? at proceeds
  split at proceeds
  · rename_i coordinator task found
    have spends : timeline.Spends index task.credit later := by
      split at proceeds
      · split at proceeds
        · cases proceeds; cases yields; exact begin_spends _ _ _ _ _ ‹_›
        · cases proceeds
      · cases proceeds; exact attempt_spends _ _ _ _ ‹_› yields
      · cases proceeds; exact engage_spends _ _ _ _ ‹_› yields
      · cases proceeds; cases yields
        exact collect_spends _ _ _ _ _ _ _ (by rename_i stage; simp [stage, Stage.rank])
      · obtain ⟨result, _, rfl⟩ := Option.map_eq_some_iff.mp proceeds
        cases yields
        exact conclude_spends _ _ _ _ _
    obtain ⟨client, less, kept⟩ := spends
    simp only [credit, kept]
    exact total_set_lt found less
  · cases proceeds

theorem fire?_spends {timeline later : Timeline} {step : Step} (fires : timeline.fire? = some step)
    (yields : step.Yields later) :
    later.credit = timeline.credit ∧ later.weight < timeline.weight := by
  unfold fire? at fires
  split at fires
  · cases fires
  · rename_i flight rest waiting
    simp only [weight, waiting, List.map_cons, total_cons]
    dsimp only at fires
    split at fires
    · rename_i outbound
      cases fires
      obtain ⟨reply, rfl⟩ := yields
      simp only [arrive, Flight.weight, outbound]
      split
      · exact ⟨rfl, by simp only [complete, log]; omega⟩
      · refine ⟨rfl, ?_⟩
        simp only [Flight.total_weight_enqueue, Flight.weight, log]
        omega
    · rename_i inbound
      cases fires
      cases yields
      exact ⟨rfl, by simp only [complete, log, Flight.weight, inbound]; omega⟩

/-- The next stage of the first client in turn that can enter one now. -/
def proceedFirst? (timeline : Timeline) : Option Step :=
  let settled := { timeline with settled := true }
  timeline.turns.findSome? settled.proceed?

/-- The next start of an operation. -/
def nextStart? (timeline : Timeline) : Option Nat :=
  (timeline.clients.filterMap fun client =>
    match client.activity with
    | .busy ⟨_, _, .waiting start⟩ => some start
    | _ => none).min?

/-- Whether a call gets somewhere by that time. -/
def isDueBy (timeline : Timeline) (time : Nat) : Bool :=
  match timeline.flights with
  | [] => false
  | flight :: _ => flight.due ≤ time

/-- Lets time pass to the next call that gets somewhere or the next operation that starts. -/
def await? (timeline : Timeline) : Option Step :=
  match timeline.nextStart? with
  | some start =>
    if timeline.isDueBy start then timeline.fire?
    else { timeline with now := max timeline.now start }.proceedFirst?
  | none => timeline.fire?

/-- The next step while some client is busy. What is due now happens first, unless clients are
taking their turns. -/
def step? (timeline : Timeline) : Option Step :=
  if timeline.clients.any (·.isBusy) then
    let isDue := timeline.isDueBy timeline.now
    if isDue && !timeline.settled then timeline.fire?
    else timeline.proceedFirst?.or (if isDue then timeline.fire? else timeline.await?)
  else none

private theorem credit_of_proceedFirst? {timeline later : Timeline} {step : Step}
    (proceeds : timeline.proceedFirst? = some step) (yields : step.Yields later) :
    later.credit < timeline.credit := by
  obtain ⟨index, _, found⟩ := List.exists_of_findSome?_eq_some proceeds
  have less : later.credit < { timeline with settled := true }.credit :=
    credit_of_proceed? found yields
  exact less

/-- Credit before weight. -/
def Less (later earlier : Timeline) : Prop :=
  Prod.Lex (· < ·) (· < ·) (later.credit, later.weight) (earlier.credit, earlier.weight)

private theorem fire?_less {timeline later : Timeline} {step : Step}
    (fires : timeline.fire? = some step) (yields : step.Yields later) : later.Less timeline := by
  obtain ⟨same, less⟩ := fire?_spends fires yields
  unfold Less
  rw [same]
  exact .right _ less

theorem less_of_step? {timeline later : Timeline} {step : Step}
    (steps : timeline.step? = some step) (yields : step.Yields later) : later.Less timeline := by
  unfold step? at steps
  split at steps
  · dsimp only at steps
    split at steps
    · exact fire?_less steps yields
    · rcases Option.or_eq_some_iff.mp steps with proceeds | ⟨_, waits⟩
      · exact .left _ _ (credit_of_proceedFirst? proceeds yields)
      · split at waits
        · exact fire?_less waits yields
        · unfold await? at waits
          split at waits
          · split at waits
            · exact fire?_less waits yields
            · rename_i start _ _
              have less : later.credit < { timeline with now := max timeline.now start }.credit :=
                credit_of_proceedFirst? waits yields
              exact .left _ _ less
          · exact fire?_less waits yields
  · cases steps

/-- When a step of a timeline happens. -/
def timeOf (timeline : Timeline) : Step → Nat
  | .moved later => later.now
  | .asks (.arrival _) _ => ((timeline.flights.head?).map (·.due)).getD timeline.now
  | .asks (.lookup ..) _ | .asks (.next _) _ => timeline.now

/-- Runs until every client is done. -/
def run {σ : Type} (environment : Environment σ) (state : σ) (timeline : Timeline) :
    Timeline × σ :=
  match _stepped : timeline.step? with
  | none => (timeline, state)
  | some (.moved later) => later.run environment state
  | some (.asks question resume) =>
    let (answer, after) := environment state question
    (resume answer).run environment after
termination_by (timeline.credit, timeline.weight)
decreasing_by
  · exact less_of_step? ‹_› (Step.yields_moved _)
  · exact less_of_step? ‹_› (Step.yields_asks question resume answer)

/-- Lets the calls that get somewhere by that time do so. -/
def drain {σ : Type} (environment : Environment σ) (state : σ) (timeline : Timeline) (time : Nat) :
    Timeline × σ :=
  if timeline.isDueBy time then
    match _fires : timeline.fire? with
    | none => (timeline, state)
    | some (.moved later) => later.drain environment state time
    | some (.asks question resume) =>
      let (answer, after) := environment state question
      (resume answer).drain environment after time
  else (timeline, state)
termination_by timeline.weight
decreasing_by
  · exact (fire?_spends ‹_› (Step.yields_moved _)).2
  · exact (fire?_spends ‹_› (Step.yields_asks question resume answer)).2

/-- Lets that many milliseconds pass. -/
def elapse {σ : Type} (environment : Environment σ) (state : σ) (timeline : Timeline)
    (millis : Nat) : Timeline × σ :=
  let time := timeline.now + millis
  let (drained, after) := timeline.drain environment state time
  ({ drained with now := time }, after)

/-- Asks a client for an operation that starts at that time. Its turn comes after those of clients
that were asked before. -/
def submit (timeline : Timeline) (index : Nat) (operation : Operation) (argument : String)
    (retries : UInt32) (start : Nat) : Timeline :=
  match timeline.clients[index]? with
  | some client =>
    { timeline with turns := timeline.turns.filter (· ≠ index) ++ [index] }.busy index
      client.coordinator ⟨⟨operation, argument, 1⟩, retries, .waiting start⟩
  | none => timeline

/-- How a client's last operation ended, and when. -/
def result? (timeline : Timeline) (index : Nat) : Option (Except Error Outcome × Nat) :=
  match timeline.clients[index]? with
  | some ⟨_, .finished result time⟩ => some (result, time)
  | _ => none

/-- A client's operation from now to its end. -/
def execute {σ : Type} (environment : Environment σ) (state : σ) (timeline : Timeline)
    (index : Nat) (operation : Operation) (argument : String) (retries : UInt32) : Timeline × σ :=
  (timeline.submit index operation argument retries timeline.now).run environment state

/-- A client's user sets a delay. -/
def setDelay (timeline : Timeline) (index : Nat) (qualifier : String) (delay : Span) :
    Except Error Timeline :=
  match timeline.clients[index]? with
  | some client => (client.coordinator.setDelay qualifier delay).map fun coordinator =>
      (timeline.log index (.delaySet qualifier delay)).setClient index
        { client with coordinator }
  | none => .ok timeline

end Timeline
end ReplicatedSpace
