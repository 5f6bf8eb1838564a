import ReplicatedSpace.Span
import ReplicatedSpace.Timeline.Call

/-!
What can be seen of clients from outside: what they ask the environment, and how their operations
go.
-/
namespace ReplicatedSpace

inductive Event
  /-- An operation was asked for. -/
  | begun (operation : Operation) (argument : String) (retries : UInt32)
  /-- An attempt at the operation began. -/
  | attempt (ordinal : UInt32)
  /-- The name server was asked. -/
  | lookup (service : String) (qualifier : Option String)
  /-- The replicas of a discovery were taken over. -/
  | discovered (replicas : List Replica)
  /-- The sequencer was asked through a handle. -/
  | next (handle : Nat) (answer : Except Error SequenceNumber)
  /-- A handle was given up for a new one. -/
  | reset (handle new : Nat)
  /-- A call arrived at its replica. -/
  | arrived (call : Call)
  /-- A call came back. -/
  | completed (call : Call) (result : CallResult Outcome)
  /-- The replicas failed an attempt. -/
  | attemptFailed (operation : Operation) (error : Error)
  /-- The known replicas, so many, were forgotten. -/
  | invalidated (count : Nat)
  /-- The operation starts over. -/
  | retrying
  /-- The operation ended. -/
  | ended (result : Except Error Outcome)
  /-- The delay of a qualifier was set. -/
  | delaySet (qualifier : String) (delay : Span)

/-- An event, when it happened, and to which client. -/
structure Moment where
  time : Nat
  client : Nat
  event : Event

end ReplicatedSpace
