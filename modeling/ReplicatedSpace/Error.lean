import ReplicatedSpace.Operation

/-!
What can go wrong, by cause. Every error has a kind, a text, and a say in whether the operation is
worth another attempt with other replicas.
-/
namespace ReplicatedSpace

/-- Why an argument is refused. -/
inductive ArgumentFault
  | notTuple (text : String)
  | missingQualifier
  | unknownQualifier (qualifier : String)
  | unknownCommand (name : String)
  | missingArgument (command : String)
  | delayUsage
  | badSeconds (text : String)
  | reported (text : String)
deriving DecidableEq

def ArgumentFault.message : ArgumentFault → String
  | notTuple text => s!"'{text}' is not a tuple or search pattern (expected <...>)"
  | missingQualifier => "missing replica qualifier"
  | unknownQualifier qualifier => s!"No servers found for qualifier {qualifier}"
  | unknownCommand name => s!"unknown command: {name}"
  | missingArgument command => s!"{command} expects an argument"
  | delayUsage => "usage: setdelay <qualifier> <seconds>"
  | badSeconds text => s!"invalid number of seconds: {text}"
  | reported text => text

/-- Why a configuration is refused. -/
inductive SettingsFault
  | blank (field : String)
  | unreadable
  | reported (text : String)
deriving DecidableEq

def SettingsFault.message : SettingsFault → String
  | blank field => s!"{field} cannot be empty"
  | unreadable => "the configuration could not be read"
  | reported text => text

inductive Error
  | invalidArgument (fault : ArgumentFault)
  | orderingUnavailable (reason : String)
  | discoveryUnavailable (reason : String)
  | noReplicasFound (service qualifier : String)
  | replicaOperationFailure (operation : Operation) (argument : String) (attempts : UInt32)
      (reason : String)
  | invalidConfig (fault : SettingsFault)
deriving DecidableEq

namespace Error

/-- A failed replica may be replaced by another discovery; all else is final. -/
def isRetryable : Error → Bool
  | replicaOperationFailure .. => true
  | _ => false

def kind : Error → String
  | invalidArgument _ => "invalid_argument"
  | orderingUnavailable _ => "ordering_unavailable"
  | discoveryUnavailable _ => "discovery_unavailable"
  | noReplicasFound _ _ => "no_replicas_found"
  | replicaOperationFailure .. => "replica_operation_failure"
  | invalidConfig _ => "invalid_config"

def message : Error → String
  | invalidArgument fault => s!"Invalid argument: {fault.message}"
  | orderingUnavailable reason => s!"Couldn't get a sequence number from the sequencer: {reason}"
  | discoveryUnavailable reason => s!"Failed communicating with name server: {reason}"
  | noReplicasFound service qualifier =>
    s!"No servers available for service {service} (qualifier: {qualifier})"
  | replicaOperationFailure operation argument attempts reason =>
    s!"Couldn't complete {operation.name} with argument {argument} " ++
      s!"after {attempts.toNat} attempt(s): {reason}"
  | invalidConfig fault => s!"Invalid configuration: {fault.message}"

end Error

/-- Refuses an argument that is no tuple or search pattern. -/
def checkTuple (text : String) : Except Error Unit :=
  if isTuple text then .ok () else .error (.invalidArgument (.notTuple text))

end ReplicatedSpace
