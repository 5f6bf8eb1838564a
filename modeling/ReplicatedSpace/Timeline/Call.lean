import ReplicatedSpace.Collector
import ReplicatedSpace.Error
import ReplicatedSpace.Text.Quoted

/-!
Calls of replicas: what is asked, and what comes back and when. The name server, the sequencer and
the replicas form the environment, which answers all questions of the clients.
-/
namespace ReplicatedSpace

/-- What a replica is asked. Requests that change the space carry a sequence number. -/
inductive Request
  | put (tuple : String) (number : SequenceNumber)
  | read (pattern : String)
  | take (pattern : String) (number : SequenceNumber)
  | state
deriving DecidableEq

namespace Request

/-- The request of an operation that changes the space. -/
def numbered (operation : Operation) (argument : String) (number : SequenceNumber) : Request :=
  match operation with
  | .take => .take argument number
  | .put | .read | .getState => .put argument number

def operation : Request → Operation
  | put .. => .put
  | read _ => .read
  | take .. => .take
  | state => .getState

/-- The tuple or pattern. -/
def argument? : Request → Option String
  | put tuple _ => some tuple
  | read pattern | take pattern _ => some pattern
  | state => none

def number? : Request → Option SequenceNumber
  | put _ number | take _ number => some number
  | read _ | state => none

end Request

/-- What a replica answers to a call of an operation that succeeds. -/
abbrev Operation.Answer : Operation → Type
  | .put => Unit
  | .read | .take => String
  | .getState => List String

/-- The outcome that one answer amounts to. -/
def Operation.outcome : (operation : Operation) → operation.Answer → Outcome
  | .put, _ => .done
  | .read, tuple | .take, tuple => .tuple tuple
  | .getState, tuples => .state tuples

/-- One call: whom it asks and what, the round of calls it belongs to, and a ticket that no other
call has. -/
structure Call where
  ticket : Nat
  client : Nat
  round : Nat
  replica : Replica
  request : Request
deriving DecidableEq

abbrev Call.operation (call : Call) : Operation := call.request.operation

/-- How a call ends. Whatever makes the call may also break down. -/
inductive Ending (α : Type)
  | answered (value : α)
  | failed (fault : CallFault)
  | crashed (text : String)

/-- An ending, and the milliseconds from the arrival of the call until then. -/
structure Reply (α : Type) where
  latency : Nat
  ending : Ending α

/-- A call that breaks down counts as a failure to reach the replica. -/
def Ending.result {α : Type} : Ending α → Except CallFault α
  | answered value => .ok value
  | failed fault => .error fault
  | crashed text =>
    .error (.transport s!"call aborted: task # panicked with message {Text.quoted text}")

/-- The result that the collector of a call's round is given. -/
def Call.result (call : Call) (ending : Ending call.operation.Answer) :
    CallResult Outcome :=
  match ending.result with
  | .ok value => .ok (call.operation.outcome value)
  | .error fault => .error ⟨call.operation, call.replica, fault⟩

/-- What clients ask the outside world. -/
inductive Question
  /-- The name server is asked for the replicas of a service and, if one is given, a qualifier. -/
  | lookup (service : String) (qualifier : Option String)
  /-- The sequencer is asked for its next number, through the handle of that number. -/
  | next (handle : Nat)
  /-- A call has arrived at its replica. -/
  | arrival (call : Call)
deriving DecidableEq

abbrev Question.Answer : Question → Type
  | lookup .. => Except Error (List Replica)
  | next _ => Except Error SequenceNumber
  | arrival call => Reply call.operation.Answer

abbrev Environment (σ : Type) := σ → (question : Question) → question.Answer × σ

end ReplicatedSpace
