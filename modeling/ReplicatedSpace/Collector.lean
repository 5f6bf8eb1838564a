import ReplicatedSpace.Replica.Failure

/-!
The collector of one round of calls. Every call leaves exactly one result, stored first and counted
after, so a count never promises a result that is not there. Whoever waits for a number of results
is let go once that many are counted, and then looks at all that are stored.
-/
namespace ReplicatedSpace

abbrev CallResult (α : Type) := Except ReplicaFailure α

/-- The results of a round, in the order of their arrival, and how many of them are counted. -/
structure Collector (α : Type) where
  results : List (CallResult α)
  counted : Nat

namespace Collector

variable {α : Type}

def empty : Collector α := ⟨[], 0⟩

def successes (collector : Collector α) : List α :=
  collector.results.filterMap fun
    | .ok payload => some payload
    | .error _ => none

def failures (collector : Collector α) : List ReplicaFailure :=
  collector.results.filterMap fun
    | .ok _ => none
    | .error failure => some failure

/-- The first half of a record: the result is stored. -/
def store (collector : Collector α) (result : CallResult α) : Collector α :=
  { collector with results := collector.results ++ [result] }

/-- The second half of a record: the result is counted. -/
def count (collector : Collector α) : Collector α :=
  { collector with counted := collector.counted + 1 }

/-- A whole record. -/
def record (collector : Collector α) (result : CallResult α) : Collector α :=
  (collector.store result).count

def reaches (collector : Collector α) (threshold : Nat) : Bool := threshold ≤ collector.counted

/-- What somebody sees who looks now. -/
structure Snapshot (α : Type) where
  successes : List α
  failures : List ReplicaFailure

def snapshot (collector : Collector α) : Snapshot α := ⟨collector.successes, collector.failures⟩

@[simp] theorem successes_record (collector : Collector α) (result : CallResult α) :
    (collector.record result).successes = collector.successes ++ match result with
      | .ok payload => [payload]
      | .error _ => [] := by
  cases result <;> simp [record, store, count, successes]

@[simp] theorem failures_record (collector : Collector α) (result : CallResult α) :
    (collector.record result).failures = collector.failures ++ match result with
      | .ok _ => []
      | .error failure => [failure] := by
  cases result <;> simp [record, store, count, failures]

end Collector
end ReplicatedSpace
