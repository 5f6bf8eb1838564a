import ReplicatedSpace.Operation
import ReplicatedSpace.Replica

/-!
Why a call of one replica failed, and the record of such a failure.
-/
namespace ReplicatedSpace

inductive CallFault
  | transport (reason : String)
  | status (code : UInt16) (text : String)
  | decode (reason : String)
deriving DecidableEq

namespace CallFault

def kind : CallFault → String
  | transport _ => "transport"
  | status _ _ => "status"
  | decode _ => "decode"

def message : CallFault → String
  | transport reason => s!"transport failure: {reason}"
  | status code text => s!"status {code.toNat}: {text}"
  | decode reason => s!"malformed response: {reason}"

end CallFault

structure ReplicaFailure where
  operation : Operation
  replica : Replica
  fault : CallFault
deriving DecidableEq

def ReplicaFailure.message (failure : ReplicaFailure) : String :=
  s!"{failure.operation.name} on replica {failure.replica.qualifier} " ++
    s!"({failure.replica.address}): {failure.fault.message}"

end ReplicatedSpace
