import ReplicatedSpace.Command
import ReplicatedSpace.Session.Entry
import ReplicatedSpace.Timeline.Run

/-!
Sessions: one client does what the lines of an input ask for, one after the other, until a line asks
to exit or there are no more. Whatever goes wrong with a line, the next one is read.
-/
namespace ReplicatedSpace

/-- What has happened since an earlier time, the earliest first. -/
def Timeline.since (timeline earlier : Timeline) : List Moment :=
  (timeline.past.take (timeline.past.length - earlier.past.length)).reverse

namespace Session

/-- What there is to do for a line. -/
inductive Turn
  /-- Nothing more; the line may have been refused. -/
  | done (timeline : Timeline) (complaint : Option Error)
  /-- The client is at an operation. -/
  | work (timeline : Timeline) (operation : Operation) (argument : String)
  | pause (duration : Span)
  | exit

def client : Nat := 0

/-- Takes up a line. -/
def takeUp (retries : UInt32) (timeline : Timeline) (line : String) : Turn :=
  match Command.ofLine line with
  | .error error => .done timeline (some error)
  | .ok none => .done timeline none
  | .ok (some (.operation operation argument)) =>
    .work (timeline.submit client operation argument retries timeline.now) operation argument
  | .ok (some (.setDelay qualifier delay)) =>
    match timeline.setDelay client qualifier delay with
    | .ok later => .done later none
    | .error error => .done timeline (some error)
  | .ok (some (.sleep duration)) => .pause duration
  | .ok (some .exit) => .exit

/-- What has happened to the client since an earlier time. -/
def happenedSince (timeline earlier : Timeline) : List Entry :=
  (timeline.since earlier).map fun moment => .happened moment.event

/-- How the client's operation ended. -/
def reported (timeline : Timeline) (operation : Operation) (argument : String) : List Entry :=
  match timeline.result? client with
  | some (.ok outcome, _) => [.shown outcome]
  | some (.error error, _) => [.failed operation argument error]
  | none => []

/-- Where a session is. -/
structure Place (σ : Type) where
  timeline : Timeline
  state : σ

/-- What a line did, and where that leaves the session, which is over if the line asks to exit. -/
def enter {σ : Type} (environment : Environment σ) (retries : UInt32) (place : Place σ)
    (line : String) : Option (Place σ) × List Entry :=
  match takeUp retries place.timeline line with
  | .done timeline complaint =>
    (some ⟨timeline, place.state⟩,
      happenedSince timeline place.timeline ++ (complaint.map Entry.refused).toList)
  | .work timeline operation argument =>
    let (after, state) := timeline.run environment place.state
    (some ⟨after, state⟩,
      happenedSince after place.timeline ++ reported after operation argument)
  | .pause duration =>
    let (after, state) := place.timeline.elapse environment place.state
      (place.timeline.timer.sleep duration)
    (some ⟨after, state⟩, happenedSince after place.timeline)
  | .exit => (none, [])

/-- All that lines do. A session that is not over at the end asks for one line more. -/
def follow {σ : Type} (environment : Environment σ) (retries : UInt32) (place : Place σ) :
    List String → Option (Place σ) × List Entry
  | [] => (some place, [.prompted])
  | line :: rest =>
    match enter environment retries place line with
    | (none, entries) => (none, .prompted :: entries)
    | (some after, entries) =>
      let (last, later) := follow environment retries after rest
      (last, .prompted :: entries ++ later)

end Session
end ReplicatedSpace
