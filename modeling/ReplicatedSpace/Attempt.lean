import ReplicatedSpace.Collector
import ReplicatedSpace.Error

/-!
One attempt at an operation and its verdict. Operations that change the space need every replica,
reading needs one, and a question about the state goes to one replica alone.
-/
namespace ReplicatedSpace

/-- An operation on its argument, and which attempt at it this is, counted from one. -/
structure Attempt where
  operation : Operation
  argument : String
  ordinal : UInt32
deriving DecidableEq

namespace Attempt

/-- The error of an attempt that the replicas failed. -/
def failure (attempt : Attempt) (reason : String) : Error :=
  .replicaOperationFailure attempt.operation attempt.argument attempt.ordinal reason

/-- The error for the failure that arrived first. -/
def firstFailure (attempt : Attempt) (failure? : Option ReplicaFailure) : Error :=
  attempt.failure (match failure? with
    | some failure => failure.message
    | none => "no replica answered")

/-- A reader waits for more and more results, and each time looks at all that are there. It is done
with the first success that it sees; if there was none at the last threshold, it fails for the first
failure that it saw there. -/
def readOver? (attempt : Attempt) (collector : Collector Outcome) :
    List Nat → Option ReplicaFailure → Option (Except Error Outcome)
  | [], last? => some (.error (attempt.firstFailure last?))
  | threshold :: thresholds, _ =>
    if collector.reaches threshold then
      let seen := collector.snapshot
      match seen.successes.head? with
      | some outcome => some (.ok outcome)
      | none => readOver? attempt collector thresholds seen.failures.head?
    else none

/-- Whoever reads waits for one result, then for two, and so on, up to all of them. -/
def readVerdict? (attempt : Attempt) (expected : Nat) (collector : Collector Outcome) :
    Option (Except Error Outcome) :=
  attempt.readOver? collector (List.range' 1 expected) none

/-- Every other operation is decided once all results are there, and one failure fails it. -/
def jointVerdict? (attempt : Attempt) (expected : Nat) (collector : Collector Outcome) :
    Option (Except Error Outcome) :=
  if collector.reaches expected then
    some <| match collector.failures, attempt.operation, collector.successes.head? with
      | [], .put, _ => .ok .done
      | [], _, some outcome => .ok outcome
      | failures, _, _ => .error (attempt.firstFailure failures.head?)
  else none

/-- What the results of an attempt that called so many replicas amount to, once that is decided. -/
def verdict? (attempt : Attempt) (expected : Nat) (collector : Collector Outcome) :
    Option (Except Error Outcome) :=
  match attempt.operation with
  | .read => attempt.readVerdict? expected collector
  | .put | .take | .getState => attempt.jointVerdict? expected collector

end Attempt
end ReplicatedSpace
