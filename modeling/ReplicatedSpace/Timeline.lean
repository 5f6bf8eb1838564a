import ReplicatedSpace.Attempt
import ReplicatedSpace.Coordinator
import ReplicatedSpace.Timeline.Event

/-!
Clients at work, on one clock that counts milliseconds. Only calls of replicas take time: each
arrives when the timer has waited for its delay and comes back after its latency, whatever its
client does meanwhile. A client goes through an operation in stages, and an attempt that the
replicas failed takes it back to the first of them, with nothing known, while it has retries left.
-/
namespace ReplicatedSpace

def total (numbers : List Nat) : Nat := numbers.foldr (· + ·) 0

@[simp] theorem total_nil : total [] = 0 := rfl

@[simp] theorem total_cons (first : Nat) (rest : List Nat) :
    total (first :: rest) = first + total rest := rfl

/-- How far an operation has come. -/
inductive Stage
  /-- It starts at that time. -/
  | waiting (start : Nat)
  /-- An attempt begins, and needs replicas. -/
  | discovering
  /-- Replicas are known. -/
  | ready
  /-- The calls of the attempt carry this number. -/
  | sending (number : SequenceNumber)
  /-- So many calls were sent, and their results go into this round's collector. -/
  | collecting (round expected : Nat)

/-- An operation that a client is at: the attempt, the retries that are left, and the stage. -/
structure Task where
  attempt : Attempt
  retriesLeft : UInt32
  stage : Stage

inductive Activity
  | idle
  | busy (task : Task)
  | finished (result : Except Error Outcome) (time : Nat)

structure Client where
  coordinator : Coordinator
  activity : Activity

def Client.isBusy (client : Client) : Bool :=
  match client.activity with
  | .busy _ => true
  | .idle | .finished .. => false

/-- A call on its way to a replica, or its result on the way back. -/
inductive Leg
  | outbound
  | inbound (result : CallResult Outcome)

/-- A call under way, and when it gets there. -/
structure Flight where
  due : Nat
  call : Call
  leg : Leg

/-- Adds a flight behind all that are due no later. -/
def Flight.enqueue (flight : Flight) : List Flight → List Flight
  | [] => [flight]
  | first :: rest =>
    if first.due ≤ flight.due then first :: flight.enqueue rest else flight :: first :: rest

/-- Clients, the order in which they take turns, the calls under way in the order in which they get
there, a collector for each round of calls, and all that has happened, the latest first. A timeline
is settled while all clients that can go on do so, before calls that take no time get there. -/
structure Timeline where
  timer : Timer
  now : Nat
  settled : Bool
  clients : List Client
  turns : List Nat
  flights : List Flight
  tickets : Nat
  rounds : List (Collector Outcome)
  handles : Nat
  past : List Moment

/-- What happens next: something by itself, or as the answer to a question has it. -/
inductive Step
  | moved (later : Timeline)
  | asks (question : Question) (resume : question.Answer → Timeline)

/-- What a step can lead to. -/
def Step.Yields (step : Step) (later : Timeline) : Prop :=
  match step with
  | moved only => later = only
  | asks question resume => ∃ answer : question.Answer, later = resume answer

theorem Step.yields_moved (later : Timeline) : (moved later).Yields later := rfl

theorem Step.yields_asks (question : Question) (resume : question.Answer → Timeline)
    (answer : question.Answer) : (asks question resume).Yields (resume answer) := ⟨answer, rfl⟩

namespace Timeline

/-- Some clients with the same settings, before anything has happened. -/
def start (settings : Settings) (count : Nat) (timer : Timer := .standard) : Timeline :=
  { timer
    now := 0
    settled := false
    clients := List.replicate count ⟨.ofSettings settings, .idle⟩
    turns := []
    flights := []
    tickets := 0
    rounds := []
    handles := 0
    past := [] }

def completed (timeline : Timeline) : Nat := total (timeline.rounds.map (·.counted))

def log (timeline : Timeline) (client : Nat) (event : Event) : Timeline :=
  { timeline with past := ⟨timeline.now, client, event⟩ :: timeline.past }

def setClient (timeline : Timeline) (index : Nat) (client : Client) : Timeline :=
  { timeline with clients := timeline.clients.set index client }

/-- A call comes back: its round's collector has the result. -/
def complete (timeline : Timeline) (call : Call) (result : CallResult Outcome) : Timeline :=
  { timeline with rounds := timeline.rounds.modify call.round (·.record result) }.log call.client
    (.completed call result)

/-- A call has arrived: its replica's reply sets out, and is back at once if it takes no time. -/
def arrive (timeline : Timeline) (call : Call) (reply : Reply call.operation.Answer) : Timeline :=
  let after := timeline.log call.client (.arrived call)
  let result := call.result reply.ending
  if reply.latency = 0 then after.complete call result
  else { after with
    flights := Flight.enqueue ⟨after.now + reply.latency, call, .inbound result⟩ after.flights }

/-- The first call under way gets there, and the clock with it. -/
def fire? (timeline : Timeline) : Option Step :=
  match timeline.flights with
  | [] => none
  | flight :: rest =>
    let reached := { timeline with
      flights := rest
      now := max timeline.now flight.due
      settled := false }
    some <| match flight.leg with
      | .outbound => .asks (.arrival flight.call) (reached.arrive flight.call)
      | .inbound result => .moved (reached.complete flight.call result)

/-- Sends a call, which arrives when its delay is over. -/
def send (client round : Nat) (request : Request) (timeline : Timeline) :
    Replica × Span → Timeline
  | (replica, delay) =>
    let call : Call := ⟨timeline.tickets, client, round, replica, request⟩
    { timeline with
      tickets := timeline.tickets + 1
      flights := Flight.enqueue ⟨timeline.now + timeline.timer.wait delay, call, .outbound⟩
        timeline.flights }

/-- Opens a round and sends its calls. -/
def dispatch (timeline : Timeline) (client : Nat) (request : Request)
    (plan : List (Replica × Span)) : Timeline :=
  plan.foldl (send client timeline.rounds.length request)
    { timeline with rounds := timeline.rounds ++ [.empty] }

end Timeline
end ReplicatedSpace
