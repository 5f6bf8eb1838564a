import ReplicatedSpace.Proofs.Unanimity

/-!
Reading takes the first success. A reader looks at the results whenever there is one more, and goes
on at the first success among them; what failed before does not matter, nor what is still to come.
Only if all calls fail does it wait for the last of them.
-/
namespace ReplicatedSpace

namespace Attempt

variable {attempt : Attempt} {expected : Nat} {collector : Collector Outcome}

theorem verdict?_read (read : attempt.operation = .read) :
    attempt.verdict? expected collector = attempt.readVerdict? expected collector := by
  unfold verdict?
  rw [read]

/-- A reader does not begin anew when more results have come. It goes on with the next threshold,
and comes to the same as one that only now begins. -/
theorem readVerdict?_resumes {earlier later : Collector Outcome}
    (whole : earlier.results.length = earlier.counted)
    (whole' : later.results.length = later.counted) (grows : earlier.results <+: later.results)
    (waits : attempt.readVerdict? expected earlier = none) (last? : Option ReplicaFailure) :
    attempt.readOver? later (List.range' (earlier.counted + 1) (expected - earlier.counted)) last? =
      attempt.readVerdict? expected later := by
  have positive : 0 < expected := by
    apply Nat.pos_of_ne_zero
    rintro rfl
    cases waits
  have none : earlier.successes = [] := by
    cases successes : earlier.successes with
    | nil => rfl
    | cons outcome rest =>
      have first : earlier.successes.head? = some outcome := successes ▸ rfl
      cases (attempt.readVerdict?_of_success whole positive first).symm.trans waits
  have early : earlier.counted < expected := by
    rw [attempt.readVerdict?_of_no_success _ none] at waits
    split at waits
    · cases waits
    · rename_i unreached
      exact Nat.lt_of_not_le fun enough => unreached (decide_eq_true enough)
  obtain ⟨more, results⟩ := grows
  have counts : earlier.counted ≤ later.counted := by
    rw [← whole, ← whole', ← results, List.length_append]
    exact Nat.le_add_right ..
  cases successes : later.successes with
  | nil =>
    rw [attempt.readOver?_of_no_success successes, attempt.readVerdict?_of_no_success _ successes]
    have some_ : expected - earlier.counted ≠ 0 := Nat.sub_ne_zero_of_lt early
    have last : (∀ threshold ∈ List.range' (earlier.counted + 1) (expected - earlier.counted),
        threshold ≤ later.counted) ↔ later.reaches expected = true := by
      simp only [List.mem_range'_1, Collector.reaches, decide_eq_true_eq]
      exact ⟨fun each => each expected (by omega), by omega⟩
    simp only [last, List.range'_eq_nil_iff, some_, if_false, Nat.pos_iff_ne_zero.mp positive]
  | cons outcome rest =>
    -- the first success is among the results that have come since
    have first : later.successes.head? = some outcome := successes ▸ rfl
    have reached : earlier.counted + 1 ≤ later.counted := by
      have some_ : more ≠ [] := by
        rintro rfl
        rw [List.append_nil] at results
        rw [Collector.successes, ← results, ← Collector.successes, none] at successes
        cases successes
      have := List.length_pos_iff.mpr some_
      have length := congrArg List.length results
      rw [List.length_append] at length
      omega
    obtain ⟨left, same⟩ := Nat.exists_eq_add_one.mpr (Nat.sub_pos_of_lt early)
    rw [same, List.range'_succ, attempt.readOver?_of_success first reached,
      attempt.readVerdict?_of_success whole' positive first]

end Attempt

/-- A call that came back with an outcome. -/
def Return.Succeeds (back : Return) : Prop := ∃ outcome, back.result = .ok outcome

theorem Return.not_succeeds {back : Return} (fails : ¬ back.Succeeds) :
    ∃ failure, back.result = .error failure := by
  cases result : back.result with
  | ok outcome => exact absurd ⟨outcome, result⟩ fails
  | error failure => exact ⟨failure, rfl⟩

namespace Timeline

variable {world : World} {settings : List Settings} {timeline later sent : Timeline} {index : Nat}
  {coordinator : Coordinator} {task : Task} {replies : Replies} {round expected : Nat}

theorem Balanced.success_cases (balanced : timeline.Balanced) {collector : Collector Outcome}
    (opened : timeline.rounds[round]? = some collector) :
    (collector.successes = [] ∧ ∀ back ∈ timeline.returnsIn round, ¬ back.Succeeds) ∨
    ∃ outcome, collector.successes.head? = some outcome ∧ ∃ back ∈ timeline.returnsIn round,
      back.result = .ok outcome ∧
      ∀ other ∈ timeline.returnsIn round, other.Succeeds → back.time ≤ other.time := by
  cases successes : collector.successes with
  | nil =>
    refine .inl ⟨rfl, ?_⟩
    rintro back present ⟨outcome, result⟩
    have none := List.filterMap_eq_nil_iff.mp successes _ (balanced.mem_results opened present)
    rw [result] at none
    cases none
  | cons outcome rest =>
    exact .inr ⟨outcome, rfl, balanced.first_success opened successes⟩

/-- Where all that came back are failures, the first in the collector is the first that came back.
-/
theorem Balanced.first_of_failures (balanced : timeline.Balanced) {collector : Collector Outcome}
    (opened : timeline.rounds[round]? = some collector) (some_ : timeline.returnsIn round ≠ [])
    (failed : ∀ back ∈ timeline.returnsIn round, ¬ back.Succeeds) :
    ∃ back ∈ timeline.returnsIn round, ∃ failure, back.result = .error failure ∧
      (∀ other ∈ timeline.returnsIn round, back.time ≤ other.time) ∧
      collector.failures.head? = some failure := by
  cases failures : collector.failures with
  | nil =>
    obtain ⟨back, present⟩ := List.exists_mem_of_ne_nil _ some_
    obtain ⟨failure, result⟩ := Return.not_succeeds (failed back present)
    have none := List.filterMap_eq_nil_iff.mp failures _ (balanced.mem_results opened present)
    rw [result] at none
    cases none
  | cons failure rest =>
    obtain ⟨back, present, result, least⟩ := balanced.first_failure opened failures
    refine ⟨back, present, failure, result, ?_, rfl⟩
    intro other among
    exact least other among (Return.not_succeeds (failed other among))

/-- No success of the round has been back for any time. -/
def Prompt (sent : Timeline) (replies : Replies) (round : Nat) (timeline : Timeline) : Prop :=
  ∀ back ∈ sent.outlook replies round, back.Succeeds → timeline.now ≤ back.time

theorem Underway.prompt_of_blocked
    (underway : Underway settings sent index coordinator task replies round timeline)
    (stage : task.stage = .collecting round expected) (read : task.attempt.operation = .read)
    (blocked : ¬ timeline.Enabled task) {time : Nat}
    (clear : ∀ flight ∈ timeline.flights, time ≤ flight.due) :
    ∀ back ∈ sent.outlook replies round, back.Succeeds → time ≤ back.time := by
  have balanced := underway.reached.balanced
  obtain ⟨collector, opened⟩ : ∃ collector, timeline.rounds[round]? = some collector :=
    ⟨_, List.getElem?_eq_getElem (underway.awaits stage).opened⟩
  have none : ∀ back ∈ timeline.returnsIn round, ¬ back.Succeeds := by
    rcases balanced.success_cases opened with ⟨_, none⟩ | ⟨outcome, first, _⟩
    · exact none
    · refine absurd ?_ blocked
      rw [Enabled, stage]
      refine ⟨collector, .ok outcome, opened, ?_⟩
      rw [Attempt.verdict?_read read]
      exact task.attempt.readVerdict?_of_success (balanced.whole opened)
        (underway.awaits stage).positive first
  intro back present succeeds
  obtain ⟨all, own⟩ := List.mem_filter.mp (underway.outlook.symm.subset present)
  rcases List.mem_append.mp all with coming | past
  · obtain ⟨flight, inside, same⟩ := List.mem_map.mp coming
    subst same
    exact Nat.le_trans (clear flight inside) (flight.due_le_outlook replies)
  · exact absurd succeeds (none back (List.mem_filter.mpr ⟨past, own⟩))

/-- Time passes only while the waiting client cannot go on, and not beyond a call under way. -/
theorem Underway.clock {step : Step}
    (underway : Underway settings sent index coordinator task replies round timeline)
    (next : timeline.step? = some step) (leads : step.Leads world later) :
    later.now = timeline.now ∨
      ¬ timeline.Enabled task ∧ ∀ flight ∈ timeline.flights, later.now ≤ flight.due := by
  have balanced := underway.reached.balanced
  have listed := (underway.reached.engaged underway.found).1
  rcases step?_cases next with ⟨fires, cause⟩ | ⟨mover, time, proceeds, _, cause⟩
  · obtain ⟨flight, rest, first, now⟩ := (lands_of_fire? fires leads).now
    rcases cause with due | nobody
    · rw [isDueBy, first] at due
      rw [now]
      exact .inl (Nat.max_eq_left (of_decide_eq_true due))
    · refine .inr ⟨not_enabled nobody listed underway.found, ?_⟩
      intro other present
      have inOrder := balanced.inOrder
      rw [now, balanced.now_reach first]
      rw [first] at inOrder present
      rcases List.mem_cons.mp present with same | present
      · exact same ▸ Nat.le_refl _
      · exact (List.pairwise_cons.mp inOrder).1 other present
  · obtain ⟨_, _, _, _, _, _, _, same⟩ := deed_of_proceed? proceeds leads
    have now : later.now = time := by
      rw [same]
      simp [enact]
    rw [now]
    rcases cause with same | ⟨nobody, clear⟩
    · exact .inl same
    · refine .inr ⟨not_enabled nobody listed underway.found, ?_⟩
      intro flight present
      exact Nat.le_of_lt (due_of_isDueBy balanced.inOrder clear flight present)

theorem Prompt.step {step : Step} (prompt : Prompt sent replies round timeline)
    (underway : Underway settings sent index coordinator task replies round timeline)
    (stage : task.stage = .collecting round expected) (read : task.attempt.operation = .read)
    (next : timeline.step? = some step) (leads : step.Leads world later) :
    Prompt sent replies round later := by
  rcases underway.clock next leads with same | ⟨blocked, clear⟩
  · unfold Prompt
    rw [same]
    exact prompt
  · exact underway.prompt_of_blocked stage read blocked clear

/-- The verdict on an attempt to read, from what its calls come to. -/
theorem Decides.read {backs : List Return}
    (underway : Underway settings sent index coordinator task replies round timeline)
    (prompt : Prompt sent replies round timeline)
    (stage : task.stage = .collecting round expected) (read : task.attempt.operation = .read)
    (same : (sent.outlook replies round).Perm backs)
    (decides : Decides index coordinator task round expected timeline later) :
    ∃ result events client, Concludes timeline.now coordinator task result events client ∧
      later.past = (events.map fun event => ⟨timeline.now, index, event⟩).reverse ++ timeline.past ∧
      ((∃ back ∈ backs, ∃ outcome, back.result = .ok outcome ∧ back.time = timeline.now ∧
          (∀ other ∈ backs, other.Succeeds → back.time ≤ other.time) ∧ result = .ok outcome) ∨
        (∀ back ∈ backs, ¬ back.Succeeds ∧ back.time ≤ timeline.now) ∧
          (∃ back ∈ backs, back.time = timeline.now) ∧
          ∃ back ∈ backs, ∃ failure, back.result = .error failure ∧
            (∀ other ∈ backs, back.time ≤ other.time) ∧
            result = .error (task.attempt.failure failure.message)) := by
  obtain ⟨collector, result, events, client, opened, verdict, ends, past, _⟩ := decides
  have balanced := underway.reached.balanced
  have awaits := underway.awaits stage
  refine ⟨result, events, client, ends, past, ?_⟩
  have elapsed (back : Return) (present : back ∈ timeline.returnsIn round) :
      back.time ≤ timeline.now :=
    balanced.elapsed back (List.mem_filter.mp present).1
  have known (back : Return) (present : back ∈ timeline.returnsIn round) : back ∈ backs := by
    apply same.subset
    apply underway.outlook.subset
    obtain ⟨inside, own⟩ := List.mem_filter.mp present
    exact List.mem_filter.mpr ⟨List.mem_append_right _ inside, own⟩
  rcases balanced.success_cases opened with ⟨none, failed⟩ | ⟨outcome, first, back, present, own, _⟩
  · have decided := verdict
    rw [Attempt.verdict?_read read, task.attempt.readVerdict?_of_no_success _ none,
      if_neg (Nat.pos_iff_ne_zero.mp awaits.positive)] at decided
    split at decided
    · cases decided
      have all := awaits.underWay_eq_nil balanced opened verdict (.inr ⟨_, rfl⟩)
      have backs_perm : (timeline.returnsIn round).Perm backs :=
        outlook_eq_returnsIn all ▸ underway.outlook.trans same
      refine .inr ⟨?_, ?_, ?_⟩
      · intro back present
        have present := backs_perm.symm.subset present
        exact ⟨failed back present, elapsed back present⟩
      · obtain ⟨back, present, late⟩ := underway.inTime
        have present := same.subset present
        exact ⟨back, present, Nat.le_antisymm (elapsed back (backs_perm.symm.subset present)) late⟩
      · obtain ⟨last, present, _⟩ := underway.inTime
        have some_ : timeline.returnsIn round ≠ [] :=
          List.ne_nil_of_mem (backs_perm.symm.subset (same.subset present))
        obtain ⟨back, present, failure, result, least, first⟩ :=
          balanced.first_of_failures opened some_ failed
        refine ⟨back, backs_perm.subset present, failure, result, ?_, ?_⟩
        · intro other among
          exact least other (backs_perm.symm.subset among)
        · rw [first]
          rfl
    · cases decided
  · have decided := verdict
    rw [Attempt.verdict?_read read, task.attempt.readVerdict?_of_success (balanced.whole opened)
      awaits.positive first] at decided
    cases decided
    have time : back.time = timeline.now := by
      apply Nat.le_antisymm (elapsed back present)
      exact prompt back (same.symm.subset (known back present)) ⟨outcome, own⟩
    refine .inl ⟨back, known back present, outcome, own, time, ?_, rfl⟩
    intro other among succeeds
    rw [time]
    exact prompt other (same.symm.subset among) succeeds

theorem Reached.underway_read (reached : timeline.Reached world settings)
    (found : timeline.clients[index]? = some ⟨coordinator, .busy task⟩)
    (stage : task.stage = .ready) (read : task.attempt.operation = .read)
    (sends : timeline.proceed? index = some (.moved sent)) (replies : Replies) :
    let backs := (timeline.volley index (.read task.attempt.argument) coordinator.plan).map
      (Flight.outlook replies)
    let sending : Task :=
      { task with stage := .collecting timeline.rounds.length coordinator.replicas.size }
    (backs.map (·.call.replica)).Perm coordinator.replicas.entries ∧ backs ≠ [] ∧
      (sent.outlook replies timeline.rounds.length).Perm backs ∧
      Underway settings sent index coordinator sending replies timeline.rounds.length sent ∧
      Prompt sent replies timeline.rounds.length sent := by
  intro backs sending
  have known := (reached.engaged found).2
  rw [Engaged, stage] at known
  have form : sent = (timeline.dispatch index (.read task.attempt.argument)
      coordinator.plan).enact index [] ⟨coordinator, .busy sending⟩ := by
    simp only [proceed?, found, stage, engage, read, Option.some.injEq, Step.moved.injEq] at sends
    exact sends.symm
  obtain ⟨replicas, nonempty, outlook, underway⟩ := reached.underway_sent found known sends form
  refine ⟨replicas, nonempty, outlook, underway, ?_⟩
  intro back present _
  have now : sent.now = timeline.now := by
    rw [form]
    simp [enact, dispatch_eq]
  rw [now]
  exact (of_mem_outlook_volley (outlook.subset present)).1

theorem Underway.reads {σ : Type} {environment : Environment σ} {backs : List Return}
    (underway : Underway settings sent index coordinator task replies round sent)
    (prompt : Prompt sent replies round sent)
    (stage : task.stage = .collecting round expected) (read : task.attempt.operation = .read)
    (same : (sent.outlook replies round).Perm backs)
    (faithful : ∀ state (call : Call), call.round = round →
      (environment state (.arrival call)).1 = replies call) (state : σ) :
    ∃ time result, (sent.run environment state).1.decision? sent index = some (time, result) ∧
      ((∃ back ∈ backs, ∃ outcome, back.result = .ok outcome ∧ back.time = time ∧
          (∀ other ∈ backs, other.Succeeds → back.time ≤ other.time) ∧ result = .ok outcome) ∨
        (∀ back ∈ backs, ¬ back.Succeeds ∧ back.time ≤ time) ∧
          (∃ back ∈ backs, back.time = time) ∧
          ∃ back ∈ backs, ∃ failure, back.result = .error failure ∧
            (∀ other ∈ backs, back.time ≤ other.time) ∧
            result = .error (task.attempt.failure failure.message)) := by
  obtain ⟨middle, decided, underway', prompt', decides, moments, past⟩ :=
    underway.run_keeping (Prompt sent replies round) prompt stage environment.keeps_answers
      (environment.faithful_answers faithful)
      (fun _ _ _ underway next leads prompt => prompt.step underway stage read next leads) state
  obtain ⟨result, events, client, ends, past', verdict⟩ :=
    decides.read underway' prompt' stage read same
  exact ⟨middle.now, result, underway'.decision ends past' past, verdict⟩

/-- An attempt to read, from where it sends its calls. One call goes to each replica, and is back
when its delay and its latency are over. The attempt succeeds just when some replica answers: at the
time when the first answer is back, with the tuple of that answer. Otherwise it fails when the last
call is back, and its error tells of the replica and the fault of the reply that came back first. -/
theorem read_takes_first_success {σ : Type} {environment : Environment σ}
    (reached : timeline.Reached world settings)
    (found : timeline.clients[index]? = some ⟨coordinator, .busy task⟩)
    (stage : task.stage = .ready) (read : task.attempt.operation = .read)
    (sends : timeline.proceed? index = some (.moved sent))
    (faithful : ∀ state (call : Call), call.round = timeline.rounds.length →
      (environment state (.arrival call)).1 = replies call) (state : σ) :
    let request := Request.read task.attempt.argument
    let backs := (timeline.volley index request coordinator.plan).map (Flight.outlook replies)
    (backs.map (·.call.replica)).Perm coordinator.replicas.entries ∧ backs ≠ [] ∧
    (∀ back ∈ backs, ∃ delay, (back.call.replica, delay) ∈ coordinator.plan ∧
      back.time = timeline.now + timeline.timer.wait delay + (replies back.call).latency) ∧
    ∃ time result, (sent.run environment state).1.decision? sent index = some (time, result) ∧
      ((∃ outcome, result = .ok outcome) ↔
        ∃ back ∈ backs, ∃ value, (replies back.call).ending = .answered value) ∧
      (∀ outcome, result = .ok outcome → ∃ back ∈ backs, ∃ text,
        back.call.operation.tuple? (replies back.call).ending = some text ∧
        outcome = .tuple text ∧ time = back.time ∧
        ∀ other ∈ backs, (∃ value, (replies other.call).ending = .answered value) →
          back.time ≤ other.time) ∧
      ∀ error, result = .error error →
        (∀ back ∈ backs, back.time ≤ time) ∧ (∃ back ∈ backs, back.time = time) ∧
        ∃ back ∈ backs, ∃ fault, (replies back.call).ending.fault? = some fault ∧
          (∀ other ∈ backs, back.time ≤ other.time) ∧
          error = .replicaOperationFailure .read task.attempt.argument task.attempt.ordinal
            (⟨.read, back.call.replica, fault⟩ : ReplicaFailure).message := by
  intro request backs
  obtain ⟨replicas, nonempty, outlook, underway, prompt⟩ :=
    reached.underway_read found stage read sends replies
  obtain ⟨time, result, decision, verdict⟩ :=
    underway.reads prompt rfl read outlook faithful state
  have answered (back : Return) (present : back ∈ backs) : back.Succeeds ↔
      ∃ value, (replies back.call).ending = .answered value :=
    ok_iff_of_mem_outlook_volley present
  refine ⟨replicas, nonempty, fun back present => (of_mem_outlook_volley present).2.2.2, time,
    result, decision, ?_⟩
  rcases verdict with ⟨back, present, outcome, success, time, least, same⟩ | ⟨failed, last, first⟩
  · refine ⟨⟨fun _ => ?_, fun _ => ⟨outcome, same⟩⟩, ?_, ?_⟩
    · exact ⟨back, present, (answered back present).mp ⟨outcome, success⟩⟩
    · intro outcome' succeeded
      cases succeeded.symm.trans same
      obtain ⟨_, asked, ends, _⟩ := of_mem_outlook_volley present
      obtain ⟨text, given, tuple⟩ :=
        Call.tuple?_of_result (.inl (congrArg Request.operation asked)) (ends.symm.trans success)
      refine ⟨back, present, text, given, tuple, time.symm, fun other among value => ?_⟩
      exact least other among ((answered other among).mpr value)
    · intro error failure
      cases failure.symm.trans same
  · obtain ⟨back, present, failure, failing, least, same⟩ := first
    refine ⟨⟨?_, ?_⟩, ?_, ?_⟩
    · rintro ⟨outcome, success⟩
      cases success.symm.trans same
    · rintro ⟨other, among, value⟩
      exact absurd ((answered other among).mpr value) (failed other among).1
    · intro outcome success
      cases success.symm.trans same
    · intro error told
      cases told.symm.trans same
      obtain ⟨fault, given, rfl⟩ := (error_iff_of_mem_outlook_volley present failure).mp failing
      refine ⟨fun other among => (failed other among).2, last, back, present, fault, given, least,
        ?_⟩
      rw [Attempt.failure, read]
      rfl

/-- One of two replicas fails at once, the other answers later. -/
theorem read_skips_fast_failure :
    let down : ReplyLine := ⟨0, none, some (.status 500 "down"), none, []⟩
    let late : ReplyLine := ⟨7, none, none, some "<b>", []⟩
    let replies : Replies := fun call =>
      (if call.replica.qualifier = "B" then late else down).reply call.request
    let environment : Environment Unit := .fixed (.ok []) (.ok ⟨1⟩) replies
    ∃ timeline sent : Timeline, timeline.Reached .any [.standard] ∧
      timeline.proceed? 0 = some (.moved sent) ∧
      ∃ time text,
        (sent.run environment ()).1.decision? sent 0 = some (time, .ok (.tuple text)) := by
  intro down late replies environment
  have idle : (opening [.standard]).Free 0 := fun client found => by cases found; rfl
  have asked : Reached .any [.standard] _ :=
    Reached.opening.requests (.operation idle .read "<a>" 1 0)
  have begun := asked.goes (rfl : proceed? _ 0 = _)
  have known := begun.learns (rfl : proceed? _ 0 = some (.asks (.lookup _ _) _))
    (.ok [⟨"a:1", "A"⟩, ⟨"b:1", "B"⟩]) trivial
  obtain ⟨replicas, _, _, time, result, decision, succeeds, first, _⟩ :=
    @read_takes_first_success _ _ _ _ 0 _ _ replies _ environment known rfl rfl rfl rfl
      (fun _ _ _ => rfl) ()
  refine ⟨_, _, known, rfl, time, ?_⟩
  have listed := replicas.symm.subset (List.mem_cons_of_mem _ (List.mem_singleton.mpr rfl))
  obtain ⟨back, present, same⟩ := List.mem_map.mp listed
  have answers : (replies back.call).ending = .answered (late.answer back.call.request) := by
    simp [replies, same, ReplyLine.reply, late]
  obtain ⟨outcome, success⟩ := succeeds.mpr ⟨back, present, _, answers⟩
  obtain ⟨_, _, text, _, tuple, _⟩ := first outcome success
  refine ⟨text, ?_⟩
  rw [decision, success, tuple]

end Timeline
end ReplicatedSpace
