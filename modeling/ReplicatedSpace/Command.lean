import ReplicatedSpace.Error
import ReplicatedSpace.Span

/-!
The command language, one command a line: the word that names the command, and what it needs.
A blank line holds no command.
-/
namespace ReplicatedSpace

inductive Command
  | operation (kind : Operation) (argument : String)
  | setDelay (qualifier : String) (delay : Span)
  | sleep (duration : Span)
  | exit
deriving DecidableEq

namespace Command

/-- A span from a text of seconds. -/
def readSpan (text : String) : Except Error Span :=
  match Span.ofSeconds? text with
  | some span => .ok span
  | none => .error (.invalidArgument (.badSeconds text))

/-- An operation takes the whole rest of its line. -/
def readOperation (kind : Operation) (rest : List Char) : Except Error Command :=
  if rest.isEmpty then .error (.invalidArgument (.missingArgument kind.name))
  else .ok (.operation kind (.ofList rest))

/-- A delay setting takes a qualifier and a number of seconds, each one word. -/
def readSetDelay (rest : List Char) : Except Error Command :=
  match Text.words rest with
  | [qualifier, seconds] => (readSpan (.ofList seconds)).map (.setDelay (.ofList qualifier))
  | _ => .error (.invalidArgument .delayUsage)

/-- A command from its name and the trimmed rest of its line. -/
def ofWords (name : String) (rest : List Char) : Except Error Command :=
  match Operation.ofName? name with
  | some kind => readOperation kind rest
  | none =>
    if name = "setdelay" then readSetDelay rest
    else if name = "sleep" then (readSpan (.ofList rest)).map .sleep
    else if name = "exit" then .ok .exit
    else .error (.invalidArgument (.unknownCommand name))

/-- Reads a line. -/
def ofLine (line : String) : Except Error (Option Command) :=
  let text := Text.trim line.toList
  if text.isEmpty then .ok none
  else
    let (name, rest) := Text.cutAtBlank text
    (ofWords (.ofList name) (Text.trim rest)).map some

end Command
end ReplicatedSpace
