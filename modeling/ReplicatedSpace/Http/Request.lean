import ReplicatedSpace.Endpoint
import ReplicatedSpace.Message
import ReplicatedSpace.Timeline.Call
import ReplicatedSpace.Url

/-!
Requests to the name server, the sequencer and the replicas. Questions that change something carry a
body; lookups carry their fields in the address.
-/
namespace ReplicatedSpace.Http

inductive Method
  | get
  | post
deriving DecidableEq

def Method.name : Method → String
  | get => "GET"
  | post => "POST"

structure Request where
  method : Method
  url : Url
  body : Option String

namespace Request

def under? (method : Method) (base path : String) (body : Option String) : Option Request :=
  (Url.read? (Endpoint.join base path)).map fun url => ⟨method, url, body⟩

def contentType? (request : Request) : Option String :=
  request.body.map fun _ => "application/json"

/-- The name server is asked for replicas. -/
def lookup? (base service : String) (qualifier : Option String) : Option Request :=
  (under? .get base "lookup" none).map fun request =>
    let asked := request.url.addField "service" service
    { request with url := match qualifier with
        | some qualifier => asked.addField "qualifier" qualifier
        | none => asked }

def register? (base : String) (registration : Registration) : Option Request :=
  under? .post base "register" (some (Registration.codec.encode registration))

def withdraw? (base : String) (withdrawal : Withdrawal) : Option Request :=
  under? .post base "delete" (some (Withdrawal.codec.encode withdrawal))

def next? (base : String) : Option Request := under? .post base "next" none

/-- A replica is asked for an operation. -/
def ofCall? (base : String) : ReplicatedSpace.Request → Option Request
  | .put tuple number => under? .post base "put" (some (PutRequest.codec.encode ⟨tuple, number⟩))
  | .read pattern => under? .post base "read" (some (ReadRequest.codec.encode ⟨pattern⟩))
  | .take pattern number =>
    under? .post base "take" (some (TakeRequest.codec.encode ⟨pattern, number⟩))
  | .state => under? .get base "state" none

end Request
end ReplicatedSpace.Http
