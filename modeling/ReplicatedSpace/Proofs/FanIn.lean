import Mathlib.Data.List.Perm.Basic
import ReplicatedSpace.Collector.FanIn

/-!
Tasks around one collector, whose steps come in any order. What is stored stays, in the order in
which it came, and is counted once; a task that waits for some results is let go just when so many
records are complete, and what it sees then is a beginning of all that comes in.
-/
namespace ReplicatedSpace

variable {α : Type}

theorem exists_perm_set {items : List α} {index : Nat} {item : α}
    (found : items[index]? = some item) :
    ∃ others, items.Perm (item :: others) ∧
      ∀ other, (items.set index other).Perm (other :: others) := by
  obtain ⟨inside, same⟩ := List.getElem?_eq_some_iff.mp found
  refine ⟨items.eraseIdx index, ?_, List.set_perm_cons_eraseIdx inside⟩
  rw [← same]
  exact (List.getElem_cons_eraseIdx_perm inside).symm

theorem of_getElem?_set {items : List α} {index other : Nat} {item new : α}
    (found : (items.set index new)[other]? = some item) :
    other = index ∧ item = new ∨ items[other]? = some item := by
  rw [List.getElem?_set] at found
  split at found
  · rename_i here
    split at found
    · exact .inl ⟨here.symm, (Option.some.inj found).symm⟩
    · cases found
  · exact .inr found

theorem of_getElem?_concat {items : List α} {index : Nat} {item new : α}
    (found : (items ++ [new])[index]? = some item) :
    item = new ∨ items[index]? = some item := by
  rw [List.getElem?_append] at found
  split at found
  · exact .inr found
  · exact .inl (List.mem_singleton.mp (List.mem_of_getElem? found))

namespace Collector

theorem length_successes_failures (collector : Collector α) :
    collector.successes.length + collector.failures.length = collector.results.length := by
  obtain ⟨results, counted⟩ := collector
  unfold successes failures
  induction results with
  | nil => rfl
  | cons result rest ih =>
    cases result with
    | ok payload =>
      simp only [List.filterMap_cons, List.length_cons] at ih ⊢
      omega
    | error failure =>
      simp only [List.filterMap_cons, List.length_cons] at ih ⊢
      omega

/-- What is seen of some results, in the order in which they came. -/
def look (results : List (CallResult α)) : Snapshot α :=
  (⟨results, results.length⟩ : Collector α).snapshot

end Collector

namespace Recorder

/-- The result that is still to be stored. -/
def held? : Recorder α → Option (CallResult α)
  | holding result => some result
  | stored | counted => none

/-- The result is stored and not counted yet. -/
def isHalfDone : Recorder α → Bool
  | stored => true
  | holding _ | counted => false

def isComplete : Recorder α → Bool
  | counted => true
  | holding _ | stored => false

end Recorder

namespace FanIn

variable {state later : FanIn α} {move : Move α}

/-- The result that a task starts with, if it is one to record it. -/
def Move.added? : Move α → Option (CallResult α)
  | addRecorder result => some result
  | recorder _ | waiter _ | addWaiter _ => none

/-- The results that are not stored yet. -/
def held (state : FanIn α) : List (CallResult α) := state.recorders.filterMap Recorder.held?

/-- The number of records of which one step is done. -/
def halfDone (state : FanIn α) : Nat := state.recorders.countP Recorder.isHalfDone

/-- The number of complete records. -/
def complete (state : FanIn α) : Nat := state.recorders.countP Recorder.isComplete

/-- Steps one after the other. One that cannot be taken changes nothing. -/
def follow (state : FanIn α) (moves : List (Move α)) : FanIn α := moves.foldl tryStep state

/-- The result that a step stores. -/
def stored? (state : FanIn α) : Move α → Option (CallResult α)
  | .recorder index => (state.recorders[index]?).bind Recorder.held?
  | .waiter _ | .addRecorder _ | .addWaiter _ => none

/-- The results that steps store, one after the other. -/
def arrivals (state : FanIn α) : List (Move α) → List (CallResult α)
  | [] => []
  | move :: rest => (state.stored? move).toList ++ (state.tryStep move).arrivals rest

theorem follow_append (state : FanIn α) (moves more : List (Move α)) :
    state.follow (moves ++ more) = (state.follow moves).follow more :=
  List.foldl_append ..

/-- Everything that a step can do. -/
inductive Changes (state : FanIn α) : Move α → FanIn α → Prop
  | stores {index : Nat} {result : CallResult α}
      (holding : state.recorders[index]? = some (.holding result)) :
      Changes state (.recorder index) { state with
        collector := state.collector.store result
        recorders := state.recorders.set index .stored }
  | counts {index : Nat} (stored : state.recorders[index]? = some .stored) :
      Changes state (.recorder index) { state with
        collector := state.collector.count
        recorders := state.recorders.set index .counted }
  | releases {index threshold : Nat}
      (waiting : state.waiters[index]? = some (.waiting threshold))
      (reached : threshold ≤ state.collector.counted) :
      Changes state (.waiter index) { state with
        waiters := state.waiters.set index (.released threshold) }
  | serves {index threshold : Nat}
      (released : state.waiters[index]? = some (.released threshold)) :
      Changes state (.waiter index) { state with
        waiters := state.waiters.set index (.served threshold state.collector.snapshot) }
  | addsRecorder (result : CallResult α) :
      Changes state (.addRecorder result) { state with
        recorders := state.recorders ++ [.holding result] }
  | addsWaiter (threshold : Nat) :
      Changes state (.addWaiter threshold) { state with
        waiters := state.waiters ++ [.waiting threshold] }
  | nothing {move : Move α} (none : state.stored? move = none) (start : move.added? = Option.none) :
      Changes state move state

theorem changes_tryStep (state : FanIn α) (move : Move α) :
    state.Changes move (state.tryStep move) := by
  cases move with
  | recorder index =>
    unfold tryStep step? stepRecorder?
    dsimp only
    split
    · exact .stores ‹_›
    · exact .counts ‹_›
    · rename_i counted
      exact .nothing (by simp [stored?, counted, Recorder.held?]) rfl
    · rename_i missing
      exact .nothing (by simp [stored?, missing]) rfl
  | waiter index =>
    unfold tryStep step? stepWaiter?
    dsimp only
    split
    · rename_i waiting
      split
      · rename_i reaches
        exact .releases waiting (of_decide_eq_true reaches)
      · exact .nothing rfl rfl
    · exact .serves ‹_›
    · exact .nothing rfl rfl
    · exact .nothing rfl rfl
  | addRecorder result => exact .addsRecorder result
  | addWaiter threshold => exact .addsWaiter threshold

theorem follow_induction {motive : FanIn α → Prop}
    (steps : ∀ state move later, Changes state move later → motive state → motive later)
    (holds : motive state) (moves : List (Move α)) : motive (state.follow moves) := by
  induction moves generalizing state with
  | nil => exact holds
  | cons move rest ih => exact ih (steps _ _ _ (state.changes_tryStep move) holds)

/-- Whatever is stored is counted, except by tasks that are half done. -/
structure Kept (state : FanIn α) : Prop where
  counted : state.collector.counted = state.complete
  stored : state.collector.counted + state.halfDone = state.collector.results.length

theorem Kept.empty : (empty : FanIn α).Kept := ⟨rfl, rfl⟩

theorem Changes.kept (changes : state.Changes move later) (kept : state.Kept) : later.Kept := by
  obtain ⟨counted, stored⟩ := kept
  cases changes with
  | stores holding =>
    obtain ⟨others, before, after⟩ := exists_perm_set holding
    have after := after .stored
    constructor
    · simp only [complete, before.countP_eq, after.countP_eq] at counted ⊢
      simpa [Collector.store, Recorder.isComplete] using counted
    · simp only [halfDone, before.countP_eq, after.countP_eq] at stored ⊢
      simp only [Collector.store, Recorder.isHalfDone, List.countP_cons, List.length_append,
        List.length_singleton, Bool.false_eq_true, ↓reduceIte] at stored ⊢
      omega
  | counts halfDone' =>
    obtain ⟨others, before, after⟩ := exists_perm_set halfDone'
    have after := after .counted
    constructor
    · simp only [complete, before.countP_eq, after.countP_eq] at counted ⊢
      simpa [Collector.count, Recorder.isComplete, List.countP_cons] using counted
    · simp only [halfDone, before.countP_eq, after.countP_eq] at stored ⊢
      simp only [Collector.count, Recorder.isHalfDone, List.countP_cons, Bool.false_eq_true,
        ↓reduceIte] at stored ⊢
      omega
  | addsRecorder result =>
    constructor
    · simpa [complete, Recorder.isComplete] using counted
    · simpa [halfDone, Recorder.isHalfDone] using stored
  | releases | serves | addsWaiter | nothing => exact ⟨counted, stored⟩

theorem Changes.results (changes : state.Changes move later) :
    later.collector.results = state.collector.results ++ (state.stored? move).toList := by
  cases changes with
  | stores holding => simp [stored?, holding, Recorder.held?, Collector.store]
  | counts stored => simp [stored?, stored, Recorder.held?, Collector.count]
  | nothing none => simp [none]
  | _ => simp [stored?]

theorem results_follow (state : FanIn α) (moves : List (Move α)) :
    (state.follow moves).collector.results =
      state.collector.results ++ state.arrivals moves := by
  induction moves generalizing state with
  | nil => exact (List.append_nil _).symm
  | cons move rest ih =>
    rw [arrivals, ← List.append_assoc, ← (state.changes_tryStep move).results]
    exact ih (state.tryStep move)

theorem Changes.balance (changes : state.Changes move later) :
    (later.collector.results ++ later.held).Perm
      (state.collector.results ++ state.held ++ move.added?.toList) := by
  cases changes with
  | stores holding =>
    rename_i index result
    obtain ⟨others, before, after⟩ := exists_perm_set holding
    have held : state.held.Perm (result :: others.filterMap Recorder.held?) :=
      before.filterMap Recorder.held?
    have left : ((state.recorders.set index .stored).filterMap Recorder.held?).Perm
        (others.filterMap Recorder.held?) := (after .stored).filterMap Recorder.held?
    simp only [Move.added?, Option.toList_none, List.append_nil, Collector.store,
      List.append_assoc, List.singleton_append]
    exact ((left.cons result).trans held.symm).append_left _
  | counts stored =>
    rename_i index
    obtain ⟨others, before, after⟩ := exists_perm_set stored
    have held : state.held.Perm (others.filterMap Recorder.held?) :=
      before.filterMap Recorder.held?
    have left : ((state.recorders.set index .counted).filterMap Recorder.held?).Perm
        (others.filterMap Recorder.held?) := (after .counted).filterMap Recorder.held?
    simp only [Move.added?, Option.toList_none, List.append_nil, Collector.count]
    exact (left.trans held.symm).append_left _
  | addsRecorder result =>
    simp [held, Move.added?, Recorder.held?]
  | nothing _ start => simp [start]
  | releases | serves | addsWaiter => simp [held, Move.added?]

theorem balance_follow (state : FanIn α) (moves : List (Move α)) :
    ((state.follow moves).collector.results ++ (state.follow moves).held).Perm
      (state.collector.results ++ state.held ++ moves.filterMap Move.added?) := by
  induction moves generalizing state with
  | nil => simp [follow]
  | cons move rest ih =>
    have step := (state.changes_tryStep move).balance
    have all : (move :: rest).filterMap Move.added? =
        move.added?.toList ++ rest.filterMap Move.added? := by
      cases added : move.added? <;> simp [added]
    rw [all, ← List.append_assoc]
    exact (ih (state.tryStep move)).trans (step.append_right _)

theorem Changes.complete_le (changes : state.Changes move later) :
    state.complete ≤ later.complete := by
  cases changes with
  | stores holding =>
    obtain ⟨others, before, after⟩ := exists_perm_set holding
    simp [complete, before.countP_eq, (after .stored).countP_eq, Recorder.isComplete]
  | counts stored =>
    obtain ⟨others, before, after⟩ := exists_perm_set stored
    simp [complete, before.countP_eq, (after .counted).countP_eq, List.countP_cons,
      Recorder.isComplete]
  | addsRecorder result => simp [complete]
  | releases | serves | addsWaiter | nothing => exact Nat.le_refl _

theorem complete_le_follow (state : FanIn α) (moves : List (Move α)) :
    state.complete ≤ (state.follow moves).complete :=
  follow_induction (motive := fun later => state.complete ≤ later.complete)
    (fun _ _ _ changes less => Nat.le_trans less changes.complete_le) (Nat.le_refl _) moves

/-- Who is let go has found enough results, and has seen a beginning of what is stored. -/
structure Served (state : FanIn α) : Prop where
  released {index threshold : Nat}
    (found : state.waiters[index]? = some (.released threshold)) :
    threshold ≤ state.collector.results.length
  served {index threshold : Nat} {seen : Collector.Snapshot α}
    (found : state.waiters[index]? = some (.served threshold seen)) :
    ∃ results, results <+: state.collector.results ∧ threshold ≤ results.length ∧
      seen = Collector.look results

theorem Served.empty : (empty : FanIn α).Served := by
  constructor
  · intro index threshold found
    cases found
  · intro index threshold seen found
    cases found

theorem Served.grown (served : state.Served) (same : later.waiters = state.waiters)
    (grown : state.collector.results <+: later.collector.results) : later.Served := by
  constructor
  · intro index threshold found
    rw [same] at found
    exact Nat.le_trans (served.released found) grown.length_le
  · intro index threshold seen found
    rw [same] at found
    obtain ⟨results, beginning, enough, look⟩ := served.served found
    exact ⟨results, beginning.trans grown, enough, look⟩

theorem Changes.served (changes : state.Changes move later) (kept : state.Kept)
    (served : state.Served) : later.Served := by
  have grown : state.collector.results <+: later.collector.results :=
    changes.results ▸ List.prefix_append ..
  cases changes with
  | stores | counts | addsRecorder | nothing => exact served.grown rfl grown
  | releases waiting reached =>
    have enough := Nat.le_trans reached (Nat.le.intro kept.stored)
    constructor
    · intro other threshold found
      rcases of_getElem?_set found with ⟨_, same⟩ | found
      · cases same
        exact enough
      · exact served.released found
    · intro other threshold seen found
      rcases of_getElem?_set found with ⟨_, same⟩ | found
      · cases same
      · exact served.served found
  | serves released =>
    constructor
    · intro other threshold found
      rcases of_getElem?_set found with ⟨_, same⟩ | found
      · cases same
      · exact served.released found
    · intro other threshold seen found
      rcases of_getElem?_set found with ⟨_, same⟩ | found
      · cases same
        exact ⟨_, List.prefix_rfl, served.released released, rfl⟩
      · exact served.served found
  | addsWaiter =>
    constructor
    · intro other threshold found
      rcases of_getElem?_concat found with same | found
      · cases same
      · exact served.released found
    · intro other threshold seen found
      rcases of_getElem?_concat found with same | found
      · cases same
      · exact served.served found

theorem Changes.stays (changes : state.Changes move later) {index threshold : Nat}
    {seen : Collector.Snapshot α}
    (found : state.waiters[index]? = some (.served threshold seen)) :
    later.waiters[index]? = some (.served threshold seen) := by
  cases changes with
  | stores | counts | addsRecorder | nothing => exact found
  | releases waiting =>
    rw [List.getElem?_set_ne]
    · exact found
    · rintro rfl
      cases waiting.symm.trans found
  | serves released =>
    rw [List.getElem?_set_ne]
    · exact found
    · rintro rfl
      cases released.symm.trans found
  | addsWaiter =>
    rw [List.getElem?_append_left (List.getElem?_eq_some_iff.mp found).1]
    exact found

theorem stays_follow {index threshold : Nat} {seen : Collector.Snapshot α}
    (found : state.waiters[index]? = some (.served threshold seen)) (moves : List (Move α)) :
    (state.follow moves).waiters[index]? = some (.served threshold seen) :=
  follow_induction (fun _ _ _ changes found => changes.stays found) found moves

theorem step?_of_waiting {index threshold : Nat}
    (waiting : state.waiters[index]? = some (.waiting threshold)) :
    state.step? (.waiter index) = if threshold ≤ state.collector.counted then
      some { state with waiters := state.waiters.set index (.released threshold) } else none := by
  simp [step?, stepWaiter?, waiting, Collector.reaches]

theorem waiters_of_released {index threshold : Nat}
    (released : state.waiters[index]? = some (.released threshold)) :
    (state.tryStep (.waiter index)).waiters[index]? =
      some (.served threshold state.collector.snapshot) := by
  have inside := (List.getElem?_eq_some_iff.mp released).1
  have step : state.tryStep (.waiter index) = { state with
      waiters := state.waiters.set index (.served threshold state.collector.snapshot) } := by
    simp only [tryStep, step?, stepWaiter?, released, Option.getD_some]
  rw [step]
  simp [inside]

theorem runs_of_waiting {index threshold : Nat}
    (waiting : state.waiters[index]? = some (.waiting threshold))
    (enough : threshold ≤ state.collector.counted) :
    ((state.tryStep (.waiter index)).tryStep (.waiter index)).waiters[index]? =
      some (.served threshold state.collector.snapshot) := by
  have inside := (List.getElem?_eq_some_iff.mp waiting).1
  have step : state.tryStep (.waiter index) =
      { state with waiters := state.waiters.set index (.released threshold) } := by
    rw [tryStep, step?_of_waiting waiting, if_pos enough]
    rfl
  rw [step]
  apply waiters_of_released
  simp [inside]

/-- After any steps of any tasks, in any order, and after any more of them:
- so many results are counted as records are complete, and those that are stored and not counted
  belong to tasks that are half done;
- the results stand in the order in which they came, each that a task was started with once, or its
  task still holds it;
- who waits can go on just when so many records are complete, and so many results are stored then;
  once it can, it can as long as it waits, and whoever starts to wait later can too;
- who is served has seen at least so many results, a beginning of all that come in, and has seen
  the same for ever. -/
theorem collector_loses_nothing (moves more : List (Move α)) :
    let state := (empty : FanIn α).follow moves
    let final := state.follow more
    (state.collector.counted = state.complete ∧
      state.collector.counted + state.halfDone = state.collector.results.length) ∧
    (state.collector.results = empty.arrivals moves ∧
      final.collector.results = state.collector.results ++ state.arrivals more ∧
      (final.collector.results ++ final.held).Perm ((moves ++ more).filterMap Move.added?)) ∧
    (∀ index threshold : Nat, state.waiters[index]? = some (.waiting threshold) →
      ((state.step? (.waiter index)).isSome ↔ threshold ≤ state.complete) ∧
      ((state.step? (.waiter index)).isSome → threshold ≤ state.collector.results.length)) ∧
    (∀ index threshold : Nat, final.waiters[index]? = some (.waiting threshold) →
      threshold ≤ state.complete →
      ((final.tryStep (.waiter index)).tryStep (.waiter index)).waiters[index]? =
        some (.served threshold final.collector.snapshot)) ∧
    ∀ (index threshold : Nat) (seen : Collector.Snapshot α),
      state.waiters[index]? = some (.served threshold seen) →
      threshold ≤ seen.successes.length + seen.failures.length ∧
      seen.successes <+: final.collector.successes ∧
      seen.failures <+: final.collector.failures ∧
      final.waiters[index]? = some (.served threshold seen) := by
  intro state final
  obtain ⟨kept, served⟩ : state.Kept ∧ state.Served :=
    follow_induction (motive := fun state => state.Kept ∧ state.Served)
      (fun _ _ _ changes holds => ⟨changes.kept holds.1, changes.served holds.1 holds.2⟩)
      ⟨Kept.empty, Served.empty⟩ moves
  have finalKept : final.Kept :=
    follow_induction (fun _ _ _ changes kept => changes.kept kept) kept more
  have grown : final.collector.results = state.collector.results ++ state.arrivals more :=
    results_follow state more
  refine ⟨⟨kept.counted, kept.stored⟩, ⟨?_, grown, ?_⟩, ?_, ?_, ?_⟩
  · exact results_follow empty moves
  · have balance := balance_follow (empty : FanIn α) (moves ++ more)
    rw [follow_append] at balance
    exact balance
  · intro index threshold waiting
    rw [step?_of_waiting waiting, ← kept.counted]
    constructor
    · by_cases enough : threshold ≤ state.collector.counted <;> simp [enough]
    · intro goes
      have enough : threshold ≤ state.collector.counted := by
        by_contra few
        simp [few] at goes
      exact Nat.le_trans enough (Nat.le.intro kept.stored)
  · intro index threshold waiting enough
    apply runs_of_waiting waiting
    rw [finalKept.counted]
    exact Nat.le_trans enough (complete_le_follow state more)
  · intro index threshold seen found
    obtain ⟨results, beginning, enough, rfl⟩ := served.served found
    have within : results <+: final.collector.results :=
      beginning.trans (grown ▸ List.prefix_append ..)
    refine ⟨?_, within.filterMap _, within.filterMap _, stays_follow found more⟩
    have all := (⟨results, results.length⟩ : Collector α).length_successes_failures
    exact all ▸ enough

/-- One task waits for a result, two record one each, and the second comes after the look. -/
theorem collector_loses_nothing_of_straggler :
    let state := (empty : FanIn Nat).follow
      [.addWaiter 1, .addRecorder (.ok 5), .addRecorder (.ok 7), .recorder 0, .waiter 0,
        .recorder 0, .waiter 0, .waiter 0]
    let final := state.follow [.recorder 1, .recorder 1]
    state.waiters[0]? = some (.served 1 ⟨[5], []⟩) ∧
      final.waiters[0]? = some (.served 1 ⟨[5], []⟩) ∧ final.collector.successes = [5, 7] := by
  intro state final
  have seen : state.waiters[0]? = some (.served 1 ⟨[5], []⟩) := rfl
  have laws := collector_loses_nothing
    (α := Nat) [.addWaiter 1, .addRecorder (.ok 5), .addRecorder (.ok 7), .recorder 0, .waiter 0,
      .recorder 0, .waiter 0, .waiter 0] [.recorder 1, .recorder 1]
  exact ⟨seen, (laws.2.2.2.2 0 1 ⟨[5], []⟩ seen).2.2.2, rfl⟩

end FanIn
end ReplicatedSpace
