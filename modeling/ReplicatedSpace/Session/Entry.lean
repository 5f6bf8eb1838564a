import ReplicatedSpace.Http.Exchange
import ReplicatedSpace.Log
import ReplicatedSpace.Timeline.Event

/-!
What a session does, entry by entry. An entry shows on the standard output, among the complaints, in
the log, or in several of them.
-/
namespace ReplicatedSpace.Session

def version : String := "0.1.0"

inductive Entry
  | opened
  /-- A line is asked for. -/
  | prompted
  /-- Something happened to the client. -/
  | happened (event : Event)
  /-- An operation had an outcome. -/
  | shown (outcome : Outcome)
  /-- An operation had none. -/
  | failed (operation : Operation) (argument : String) (error : Error)
  /-- A line asked for nothing that can be done. -/
  | refused (error : Error)
  | closed

namespace Entry

def output : Entry → String
  | prompted => "> "
  | shown outcome => outcome.render ++ "\n"
  | opened | happened _ | failed .. | refused _ | closed => ""

def complaint? : Entry → Option Error
  | failed _ _ error | refused error => some error
  | opened | prompted | happened _ | shown _ | closed => none

end Entry

def coordinatorTarget : String := "tuplespaces::client::coordinator"

def nameServerTarget : String := "tuplespaces::transport::name_server"

def sequencerTarget : String := "tuplespaces::transport::sequencer"

def sessionTarget : String := "tuplespaces_client"

def shownOption : Option String → String
  | some text => s!"Some({Text.quoted text})"
  | none => "None"

/-- The record of an event, if it leaves one. -/
def eventRecord? (directory : Http.Directory) (identity : String) : Event → Option Log.Record
  | .begun operation argument retries => some <| .plain .debug coordinatorTarget
      (s!"execute: client={identity}, command={operation.name}, args={argument}, " ++
        s!"retries={Nat.repr retries.toNat}")
  | .lookup service qualifier => some <| .plain .debug nameServerTarget
      s!"lookup: service={service}, qualifier={shownOption qualifier}"
  | .discovered replicas => some <| .plain .info coordinatorTarget
      (s!"Discovered {Nat.repr replicas.length} replica(s): " ++
        ", ".intercalate (replicas.map (·.render)))
  | .next _ (.ok number) => some <| .plain .debug coordinatorTarget
      s!"Got sequence number {number.toString}"
  | .next _ (.error error) => some <| .plain .error coordinatorTarget
      s!"Failed to get sequence number: {error.message}"
  | .reset handle _ => some <| .plain .debug sequencerTarget
      s!"Reconnecting to sequencer at {directory.sequencerBase handle}"
  | .arrived call => some <| .plain .debug coordinatorTarget
      (s!"Sending {call.operation.name} to replica {call.replica.qualifier} " ++
        s!"({call.replica.address})")
  | .completed _ (.error failure) => some <| .plain .debug coordinatorTarget
      (s!"{failure.operation.name} on replica {failure.replica.qualifier} failed: " ++
        failure.fault.message)
  | .attemptFailed operation error => some <| .plain .error coordinatorTarget
      s!"Failed {operation.name} RPC: {error.message}"
  | .invalidated count => some <| .plain .warn coordinatorTarget
      s!"Invalidating all {Nat.repr count} known replica(s)"
  | .retrying => some <| .plain .warn coordinatorTarget
      "Assuming all servers are down, retrying with new servers"
  | .delaySet qualifier delay => some <| .plain .info coordinatorTarget
      s!"Delay for replica {qualifier} set to {delay.render}"
  | .attempt _ | .completed _ (.ok _) | .ended _ => none

/-- The records of an entry. -/
def Entry.records (directory : Http.Directory) (identity : String) : Entry → List Log.Record
  | opened =>
    [.plain .info coordinatorTarget s!"Name server: {directory.nameServer}",
      .plain .info coordinatorTarget s!"Sequencer: {directory.sequencer}",
      .plain .debug coordinatorTarget s!"Client ID: {identity}",
      .plain .info sessionTarget s!"tuplespaces client {version} ready (id {identity})"]
  | happened event => (eventRecord? directory identity event).toList
  | failed operation argument error =>
    [⟨.warn, sessionTarget, s!"{operation.name} {argument} failed", [("kind", error.kind)]⟩]
  | closed => [.plain .info sessionTarget s!"Client {identity} shutting down"]
  | prompted | shown _ | refused _ => []

end ReplicatedSpace.Session
