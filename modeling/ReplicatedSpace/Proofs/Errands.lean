import ReplicatedSpace.Proofs.Lines
import ReplicatedSpace.Proofs.Milestones
import ReplicatedSpace.Session.Run

/-!
A session is its lines. Each line up to the first that asks to exit is an errand, which begins where
the one before it ended and ends where the next one begins, whatever it came to. What is on the
standard output, what the user is told of errors and what happened to the client are those of the
errands, one after the other, and nothing else.
-/
namespace ReplicatedSpace.Session

/-- Whether a line asks to exit. -/
def asksToExit (line : String) : Bool :=
  match Command.ofLine line with
  | .ok (some .exit) => true
  | _ => false

/-- Lines up to the first that asks to exit, and with it. -/
def heeded : List String → List String
  | [] => []
  | line :: rest => if asksToExit line then [line] else line :: heeded rest

/-- An input up to the first line that asks to exit, as if there were no more. -/
def Input.heeded (input : Input) : Input :=
  { lines := Session.heeded input.lines
    fault := if input.lines.any asksToExit then none else input.fault }

/-- What the user gets for a line. -/
inductive Report
  | nothing
  | shown (outcome : Outcome)
  | failure (operation : Operation) (argument : String) (error : Error)
  | refusal (error : Error)

namespace Report

def ofResult (operation : Operation) (argument : String) : Except Error Outcome → Report
  | .ok outcome => .shown outcome
  | .error error => .failure operation argument error

/-- What is on the standard output. -/
def output : Report → String
  | shown outcome => outcome.render ++ "\n"
  | nothing | failure .. | refusal _ => ""

/-- What the user is told of an error. -/
def complaint : Report → String
  | failure _ _ error | refusal error => "[ERROR] " ++ error.message ++ "\n"
  | nothing | shown _ => ""

def entries : Report → List Entry
  | nothing => []
  | shown outcome => [.shown outcome]
  | failure operation argument error => [.failed operation argument error]
  | refusal error => [.refused error]

end Report

variable {σ : Type}

/-- A line that is done, from where to where, and what came of it. -/
structure Errand (σ : Type) where
  line : String
  before : Place σ
  after : Place σ
  report : Report

namespace Errand

/-- What has happened meanwhile, the earliest first. -/
def events (errand : Errand σ) : List Event :=
  (errand.after.timeline.since errand.before.timeline).map (·.event)

def entries (errand : Errand σ) : List Entry :=
  errand.events.map .happened ++ errand.report.entries

end Errand

variable {environment : Environment σ} {retries : UInt32} {settings : Settings}
  {place : Place σ} {own : Client} {line : String}

def Entry.event? : Entry → Option Event
  | happened event => some event
  | opened | prompted | shown _ | failed .. | refused _ | closed => none

namespace Run

def Notice.text? : Notice → Option String
  | .text told => some told
  | .record _ => none

/-- All that the user is told besides the output and the log. -/
def told (run : Run) (filter : Log.Filter) (identity : String) : String :=
  String.join ((run.notices filter identity).filterMap Notice.text?)

/-- All that happened to the client. -/
def events (run : Run) : List Event := run.entries.filterMap Entry.event?

end Run

end ReplicatedSpace.Session
