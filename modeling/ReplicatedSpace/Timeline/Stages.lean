import ReplicatedSpace.Timeline

/-!
The stages of an operation. Whatever fails before the calls are sent ends the operation with its
error; a failure of the replicas drops them all and starts over while retries are left.
-/
namespace ReplicatedSpace

/-- Refuses an argument that an operation cannot have. -/
def Operation.check (operation : Operation) (argument : String) : Except Error Unit :=
  match operation with
  | .getState =>
    if Text.isAllBlank argument then .error (.invalidArgument .missingQualifier) else .ok ()
  | .put | .read | .take => checkTuple argument

/-- Whatever the sequencer reports, its number is what is missing. -/
def Error.asOrdering : Error → Error
  | .orderingUnavailable reason => .orderingUnavailable reason
  | error => .orderingUnavailable error.message

namespace Timeline

/-- The client goes on with its operation. -/
def busy (timeline : Timeline) (index : Nat) (coordinator : Coordinator) (task : Task) :
    Timeline :=
  timeline.setClient index ⟨coordinator, .busy task⟩

/-- The client's operation ends. -/
def finish (timeline : Timeline) (index : Nat) (coordinator : Coordinator)
    (result : Except Error Outcome) : Timeline :=
  (timeline.log index (.ended result)).setClient index
    ⟨coordinator, .finished result timeline.now⟩

/-- Drops all replicas after they failed an attempt, and starts over or gives up. -/
def restart (timeline : Timeline) (index : Nat) (coordinator : Coordinator) (task : Task)
    (error : Error) : Timeline :=
  let told := (timeline.log index (.attemptFailed task.attempt.operation error)).log index
    (.invalidated coordinator.replicas.size)
  if task.retriesLeft = 0 then told.finish index coordinator.invalidate (.error error)
  else (told.log index .retrying).busy index coordinator.invalidate
    { attempt := { task.attempt with ordinal := task.attempt.ordinal + 1 }
      retriesLeft := task.retriesLeft - 1
      stage := .discovering }

/-- An attempt has come to a result. -/
def conclude (timeline : Timeline) (index : Nat) (coordinator : Coordinator) (task : Task)
    (result : Except Error Outcome) : Timeline :=
  match result with
  | .ok outcome => timeline.finish index coordinator (.ok outcome)
  | .error error =>
    if error.isRetryable then timeline.restart index coordinator task error
    else timeline.finish index coordinator (.error error)

/-- The operation starts, if its argument is one. -/
def begin (timeline : Timeline) (index : Nat) (coordinator : Coordinator) (task : Task) :
    Timeline :=
  let attempt := task.attempt
  let begun := timeline.log index (.begun attempt.operation attempt.argument task.retriesLeft)
  match attempt.operation.check attempt.argument with
  | .error error => begun.finish index coordinator (.error error)
  | .ok _ => begun.busy index coordinator { task with stage := .discovering }

/-- The name server has answered an attempt. -/
def discover (timeline : Timeline) (index : Nat) (coordinator : Coordinator) (task : Task)
    (found : Except Error (List Replica)) : Timeline :=
  let asked := timeline.log index (.lookup coordinator.service coordinator.qualifier)
  match found with
  | .error error => asked.conclude index coordinator task (.error error)
  | .ok [] => asked.conclude index coordinator task
      (.error (.noReplicasFound coordinator.service (coordinator.qualifier.getD "")))
  | .ok replicas => (asked.log index (.discovered replicas)).busy index
      (coordinator.install replicas) { task with stage := .ready }

/-- An attempt begins: the name server is asked if no replicas are known. -/
def attempt (timeline : Timeline) (index : Nat) (coordinator : Coordinator) (task : Task) : Step :=
  let begun := timeline.log index (.attempt task.attempt.ordinal)
  if coordinator.replicas.isEmpty then
    .asks (.lookup coordinator.service coordinator.qualifier)
      (begun.discover index coordinator task)
  else .moved (begun.busy index coordinator { task with stage := .ready })

/-- A handle that failed is given up for a new one. -/
def reset (timeline : Timeline) (index : Nat) (coordinator : Coordinator) :
    Timeline × Coordinator :=
  let new := timeline.handles + 1
  ({ timeline with handles := new }.log index (.reset coordinator.handle new),
    { coordinator with handle := new })

/-- The sequencer has answered an attempt. -/
def order (timeline : Timeline) (index : Nat) (coordinator : Coordinator) (task : Task)
    (answer : Except Error SequenceNumber) : Timeline :=
  let asked := timeline.log index (.next coordinator.handle answer)
  match answer with
  | .ok number => asked.busy index coordinator { task with stage := .sending number }
  | .error error =>
    let (renewed, coordinator) := asked.reset index coordinator
    renewed.conclude index coordinator task (.error error.asOrdering)

/-- The calls of an attempt are sent, and the client waits for so many results. -/
def collect (timeline : Timeline) (index : Nat) (coordinator : Coordinator) (task : Task)
    (request : Request) (plan : List (Replica × Span)) (expected : Nat) : Timeline :=
  (timeline.dispatch index request plan).busy index coordinator
    { task with stage := .collecting timeline.rounds.length expected }

/-- An attempt that knows replicas asks for a number or sends its calls. -/
def engage (timeline : Timeline) (index : Nat) (coordinator : Coordinator) (task : Task) : Step :=
  match task.attempt.operation with
  | .put | .take => .asks (.next coordinator.handle) (timeline.order index coordinator task)
  | .read => .moved (timeline.collect index coordinator task (.read task.attempt.argument)
      coordinator.plan coordinator.replicas.size)
  | .getState =>
    match coordinator.replicas.find? task.attempt.argument with
    | some replica =>
      .moved (timeline.collect index coordinator task .state [(replica, .zero)] 1)
    | none => .moved (timeline.conclude index coordinator task
        (.error (.invalidArgument (.unknownQualifier task.attempt.argument))))

/-- The next stage of a client's operation, if it can be entered now. -/
def proceed? (timeline : Timeline) (index : Nat) : Option Step :=
  match timeline.clients[index]? with
  | some ⟨coordinator, .busy task⟩ =>
    match task.stage with
    | .waiting start =>
      if start ≤ timeline.now then some (.moved (timeline.begin index coordinator task)) else none
    | .discovering => some (timeline.attempt index coordinator task)
    | .ready => some (timeline.engage index coordinator task)
    | .sending number => some (.moved (timeline.collect index coordinator task
        (.numbered task.attempt.operation task.attempt.argument number)
        coordinator.plan coordinator.replicas.size))
    | .collecting round expected =>
      ((timeline.rounds[round]?).bind (task.attempt.verdict? expected)).map fun result =>
        .moved (timeline.conclude index coordinator task result)
  | _ => none

end Timeline
end ReplicatedSpace
