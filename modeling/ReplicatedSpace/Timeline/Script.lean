import ReplicatedSpace.Timeline.Call

/-!
An environment that follows a script. Every question uses up a line of its script; the last line for
the name server and for a replica stays, and a sequencer without lines counts on.
-/
namespace ReplicatedSpace

/-- What a replica is to do with the next call that arrives. What a line leaves open follows the
call. -/
structure ReplyLine where
  latency : Nat
  crash : Option String
  fault : Option CallFault
  tuple : Option String
  tuples : List String

/-- The answer of a line to a request that succeeds. -/
def ReplyLine.answer (line : ReplyLine) : (request : Request) → request.operation.Answer
  | .put .. => ()
  | .read pattern | .take pattern _ => line.tuple.getD pattern
  | .state => line.tuples

def ReplyLine.reply (line : ReplyLine) (request : Request) : Reply request.operation.Answer :=
  { latency := line.latency
    ending := match line.crash, line.fault with
      | some text, _ => .crashed text
      | none, some fault => .failed fault
      | none, none => .answered (line.answer request) }

def ReplyLine.plain : ReplyLine := ⟨0, none, none, none, []⟩

structure Script where
  discovery : List (Except Error (List Replica))
  numbers : List (Except Error SequenceNumber)
  lastNumber : SequenceNumber
  replies : List (String × List ReplyLine)

namespace Script

/-- The next line, and the lines that are left: all but a last one are used up. -/
def takeLine {α : Type} (fallback : α) : List α → α × List α
  | [] => (fallback, [])
  | [last] => (last, [last])
  | first :: rest => (first, rest)

/-- The lines for a replica. -/
def linesFor (script : Script) (qualifier : String) : List ReplyLine :=
  ((script.replies.find? (·.1 = qualifier)).map (·.2)).getD []

/-- Gives a replica other lines. -/
def setLines (script : Script) (qualifier : String) (lines : List ReplyLine) : Script :=
  { script with
    replies := (qualifier, lines) :: script.replies.filter (·.1 ≠ qualifier) }

def lookup (script : Script) : Except Error (List Replica) × Script :=
  let (found, rest) := takeLine (.ok []) script.discovery
  (found, { script with discovery := rest })

def next (script : Script) : Except Error SequenceNumber × Script :=
  match script.numbers with
  | [] =>
    let number : SequenceNumber := ⟨script.lastNumber.value + 1⟩
    (.ok number, { script with lastNumber := number })
  | .ok number :: rest => (.ok number, { script with numbers := rest, lastNumber := number })
  | .error error :: rest => (.error error, { script with numbers := rest })

def answer (script : Script) (call : Call) : Reply call.operation.Answer × Script :=
  let (line, rest) := takeLine .plain (script.linesFor call.replica.qualifier)
  (line.reply call.request, script.setLines call.replica.qualifier rest)

def environment : Environment Script
  | script, .lookup _ _ => script.lookup
  | script, .next _ => script.next
  | script, .arrival call => script.answer call

end Script
end ReplicatedSpace
