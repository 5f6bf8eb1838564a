import ReplicatedSpace.Collector

/-!
Tasks around one collector. A recorder takes two steps: it stores its result, and it counts it. A
waiter takes two steps: it is let go at its threshold, and it takes a snapshot. Steps of different
tasks may come in any order.
-/
namespace ReplicatedSpace

/-- A task that has one result to record. -/
inductive Recorder (α : Type)
  | holding (result : CallResult α)
  | stored
  | counted

/-- A task that waits for a number of results. -/
inductive Waiter (α : Type)
  | waiting (threshold : Nat)
  | released (threshold : Nat)
  | served (threshold : Nat) (seen : Collector.Snapshot α)

namespace Waiter

variable {α : Type}

def seen? : Waiter α → Option (Collector.Snapshot α)
  | served _ seen => some seen
  | waiting _ | released _ => none

def threshold : Waiter α → Nat
  | waiting threshold | released threshold | served threshold _ => threshold

end Waiter

/-- A collector with the tasks that use it. -/
structure FanIn (α : Type) where
  collector : Collector α
  recorders : List (Recorder α)
  waiters : List (Waiter α)

namespace FanIn

variable {α : Type}

/-- A step of one of the tasks, or the start of another task. -/
inductive Move (α : Type)
  | recorder (index : Nat)
  | waiter (index : Nat)
  | addRecorder (result : CallResult α)
  | addWaiter (threshold : Nat)

def empty : FanIn α := ⟨.empty, [], []⟩

/-- The next step of a recorder. -/
def stepRecorder? (state : FanIn α) (index : Nat) : Option (FanIn α) :=
  match state.recorders[index]? with
  | some (.holding result) => some { state with
      collector := state.collector.store result
      recorders := state.recorders.set index .stored }
  | some .stored => some { state with
      collector := state.collector.count
      recorders := state.recorders.set index .counted }
  | some .counted | none => none

/-- The next step of a waiter, once its threshold is reached. -/
def stepWaiter? (state : FanIn α) (index : Nat) : Option (FanIn α) :=
  match state.waiters[index]? with
  | some (.waiting threshold) =>
    if state.collector.reaches threshold then
      some { state with waiters := state.waiters.set index (.released threshold) }
    else none
  | some (.released threshold) => some { state with
      waiters := state.waiters.set index (.served threshold state.collector.snapshot) }
  | some (.served _ _) | none => none

def step? (state : FanIn α) : Move α → Option (FanIn α)
  | .recorder index => state.stepRecorder? index
  | .waiter index => state.stepWaiter? index
  | .addRecorder result => some { state with recorders := state.recorders ++ [.holding result] }
  | .addWaiter threshold => some { state with waiters := state.waiters ++ [.waiting threshold] }

def tryStep (state : FanIn α) (move : Move α) : FanIn α := (state.step? move).getD state

/-- A task records its result in one go. -/
def recordNow (state : FanIn α) (result : CallResult α) : FanIn α :=
  let index := state.recorders.length
  ((state.tryStep (.addRecorder result)).tryStep (.recorder index)).tryStep (.recorder index)

/-- Every waiter goes as far as it can, by its number. -/
def serve (state : FanIn α) : FanIn α :=
  (List.range state.waiters.length).foldl
    (fun state index => (state.tryStep (.waiter index)).tryStep (.waiter index)) state

/-- The waiters that have been served, with their numbers. -/
def served (state : FanIn α) : List (Nat × Collector.Snapshot α) :=
  state.waiters.zipIdx.filterMap fun (waiter, index) => waiter.seen?.map (index, ·)

end FanIn
end ReplicatedSpace
