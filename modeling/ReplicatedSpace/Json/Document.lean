import ReplicatedSpace.Json.Magnitude
import ReplicatedSpace.Json.Quoted
import ReplicatedSpace.Json.Skip
import ReplicatedSpace.Settings.Value

/-!
Settings in JSON: an object whose members are the settings. All of its text is read, also what no
setting takes.
-/
namespace ReplicatedSpace.Json.Document

open Settings (Value)

/-- What a number says. Integers that do not fit 64 bits, and the negative zero, are taken by their
doubles. -/
def numberValue (number : Number) : Value :=
  let size : Int := Decimal.readDigits 0 number.whole
  let value := if number.negative then -size else size
  let isPlain := number.isInteger && !(number.negative && size = 0)
  if isPlain && Settings.fitsLong value then .integer value else .float number.double

/-- A value without parts, from its first character on. -/
def readScalar : List Char → Parsed Value
  | [] => .error .truncated
  | mark :: rest =>
    if mark = 'n' then (takeWord "ull".toList rest).map (Value.null, ·)
    else if mark = 't' then (takeWord "rue".toList rest).map (Value.boolean true, ·)
    else if mark = 'f' then (takeWord "alse".toList rest).map (Value.boolean false, ·)
    else if mark = '\x22' then
      (readQuoted rest).map fun (text, rest) => (.string (.ofList text), rest)
    else if mark = '-' then
      (readNumber true rest).map fun (number, rest) => (numberValue number, rest)
    else (readNumber false (mark :: rest)).map fun (number, rest) => (numberValue number, rest)

def nestingLimit : Nat := 127

mutual

/-- A value with at most so many levels of arrays and objects; `fuel` is the length of the text. -/
def readValue : Nat → Nat → List Char → Parsed Value
  | 0, _, _ => .error .truncated
  | fuel + 1, levels, text =>
    match levels, dropBlanks text with
    | 0, '[' :: _ | 0, '\x7b' :: _ => .error .malformed
    | levels + 1, '[' :: rest => (readItems fuel levels true rest).map (.compound, ·)
    | levels + 1, '\x7b' :: rest =>
      (readMembers fuel levels true [] rest).map fun (_, rest) => (.compound, rest)
    | _, start => readScalar start

/-- The items of an array, and the text behind its closing bracket. -/
def readItems : Nat → Nat → Bool → List Char → Except Fault (List Char)
  | 0, _, _, _ => .error .truncated
  | fuel + 1, levels, first, text => do
    match ← nextItem first text with
    | none => return behindBracket text
    | some start =>
      let (_, rest) ← readValue fuel levels start
      readItems fuel levels false rest

/-- The members of an object behind some others; of those with one name the last one counts. -/
def readMembers : Nat → Nat → Bool → Settings.Members → List Char →
    Except Fault (Settings.Members × List Char)
  | 0, _, _, _, _ => .error .truncated
  | fuel + 1, levels, first, members, text => do
    match ← nextName first text with
    | none => return (members, behindBracket text)
    | some start =>
      let (name, rest) ← readQuoted start
      let (value, rest) ← readValue fuel levels (← takeMark ':' rest)
      readMembers fuel levels false (members.set (.ofList name) value) rest

end

/-- Reads a file. -/
def read? (content : String) : Option Settings.Members :=
  match dropBlanks content.toList with
  | '\x7b' :: rest =>
    match readMembers (rest.length + 1) (nestingLimit - 1) true [] rest with
    | .ok (members, behind) => if (dropBlanks behind).isEmpty then some members else none
    | .error _ => none
  | _ => none

end ReplicatedSpace.Json.Document
