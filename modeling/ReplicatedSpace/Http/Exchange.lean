import ReplicatedSpace.Http.Request
import ReplicatedSpace.Http.Response

/-!
Exchanges of a request for a response, and what clients make of them. The name server's failures
leave the replicas unknown, the sequencer's leave an operation without a number, and a replica's are
failed calls.
-/
namespace ReplicatedSpace.Http

/-- Why there is no response. -/
inductive Fault
  /-- The address is none. -/
  | unbuildable
  /-- No request can be sent to the address. -/
  | unsendable (url : Url)
  /-- The request did not get through. -/
  | unsent (url : Url)

def Fault.message : Fault → String
  | unbuildable => "builder error"
  | unsendable url => s!"builder error for url ({url.render})"
  | unsent url => s!"error sending request for url ({url.render})"

def undecodable : String := "error decoding response body"

abbrev Exchange := Except Fault Response

/-- What becomes of a request on its way: its response, if it got through, and how many milliseconds
that took. -/
structure Passage where
  response? : Option Response
  millis : Nat

abbrev Network (σ : Type) := σ → Request → Passage × σ

def unreachable : Network Unit := fun _ _ => (⟨none, 0⟩, ())

/-- What comes of a request, by its response if there is one. -/
def exchangeOf (request : Request) : Option Response → Exchange
  | some response => .ok response
  | none => .error (.unsent request.url)

/-- Sends a request, if it is one and can be sent: what comes of it, and after how many
milliseconds. -/
def send {σ : Type} (network : Network σ) (state : σ) : Option Request → Exchange × Nat × σ
  | none => (.error .unbuildable, 0, state)
  | some request =>
    if request.url.isSendable then
      let (passage, after) := network state request
      (exchangeOf request passage.response?, passage.millis, after)
    else (.error (.unsendable request.url), 0, state)

/-- The outcome of a request of that name whose response says only whether it was a success. -/
def acknowledged (path : String) : Exchange → Except Error Unit
  | .error fault => .error (.discoveryUnavailable fault.message)
  | .ok response =>
    if response.isSuccess then .ok ()
    else .error (.discoveryUnavailable
      s!"{path} failed with status {Nat.repr response.status.toNat}: {response.explanation}")

/-- The replicas that a lookup found; there has to be one. -/
def found (service : String) (qualifier : Option String) (exchange : Exchange) :
    Except Error (List Replica) := do
  acknowledged "lookup" exchange
  match exchange.toOption.bind (·.decode? LookupReply.codec) with
  | none => .error (.discoveryUnavailable s!"malformed lookup reply: {undecodable}")
  | some ⟨[]⟩ => .error (.noReplicasFound service (qualifier.getD ""))
  | some ⟨replicas⟩ => .ok replicas

/-- The number that the sequencer gave. -/
def numbered : Exchange → Except Error SequenceNumber
  | .error fault => .error (.orderingUnavailable fault.message)
  | .ok response =>
    if response.isSuccess then
      match response.decode? NumberReply.codec with
      | some reply => .ok reply.seq
      | none => .error (.orderingUnavailable s!"malformed reply: {undecodable}")
    else .error (.orderingUnavailable
      s!"status {Nat.repr response.status.toNat}: {response.explanation}")

/-- The body of a replica's success. -/
def accepted : Exchange → Except CallFault Response
  | .error fault => .error (.transport fault.message)
  | .ok response =>
    if response.isSuccess then .ok response
    else .error (.status response.status response.explanation)

/-- A value from the body of a replica's success. -/
def decoded {α : Type} (codec : Json.Codec α) (exchange : Exchange) : Except CallFault α := do
  match (← accepted exchange).decode? codec with
  | some value => .ok value
  | none => .error (.decode undecodable)

/-- The answer of a replica. -/
def answered : (operation : Operation) → Exchange → Except CallFault operation.Answer
  | .put, exchange => (accepted exchange).map fun _ => ()
  | .read, exchange | .take, exchange => (decoded TupleReply.codec exchange).map (·.tuple)
  | .getState, exchange => (decoded StateReply.codec exchange).map (·.tuples)

namespace Directory

/-- The request that puts a question. -/
def request? (directory : Directory) : Question → Option Request
  | .lookup service qualifier =>
    Request.lookup? (Endpoint.base directory.nameServer) service qualifier
  | .next handle => Request.next? (directory.sequencerBase handle)
  | .arrival call => Request.ofCall? (Endpoint.base call.replica.address) call.request

end Directory

/-- The answer that an exchange of so many milliseconds gives to a question. -/
def answer : (question : Question) → Exchange → Nat → question.Answer
  | .lookup service qualifier, exchange, _ => found service qualifier exchange
  | .next _, exchange, _ => numbered exchange
  | .arrival call, exchange, millis =>
    { latency := millis
      ending := match answered call.operation exchange with
        | .ok value => .answered value
        | .error fault => .failed fault }

/-- The name server, the sequencer and the replicas at the other end of a network. -/
def environment {σ : Type} (directory : Directory) (network : Network σ) : Environment σ :=
  fun state question =>
    let (exchange, millis, after) := send network state (directory.request? question)
    (answer question exchange millis, after)

end ReplicatedSpace.Http
