import ReplicatedSpace.Log
import ReplicatedSpace.Settings.Field
import ReplicatedSpace.Text.Alphanumeric
import ReplicatedSpace.Text.Letter

/-!
Directives say up to which level records are shown. One is a level alone, or the start of targets
with a level behind an equals sign; brackets between the two narrow it to a span, and braces within
these to records with some fields.
-/
namespace ReplicatedSpace.Log

structure FieldPattern where
  name : String
  hasValue : Bool
deriving DecidableEq

/-- What is shown: the levels up to a rank. -/
structure Directive where
  start : Option String
  span : Option String
  fields : List FieldPattern
  limit : Nat
deriving DecidableEq

namespace Directive

inductive Fault
  | malformed
  | badLevel

def Fault.message : Fault → String
  | malformed => "invalid filter directive"
  | badLevel => "error parsing level filter: expected one of \"off\", \"error\", \"warn\", " ++
      "\"info\", \"debug\", \"trace\", or a number 0-5"

def everything : Nat := 5

def whole : Directive := ⟨none, none, [], everything⟩

def rankNames : List (String × Nat) :=
  [("off", 0), ("error", 1), ("warn", 2), ("info", 3), ("debug", 4), ("trace", everything)]

def readRank? (text : String) : Option Nat :=
  match Settings.readNatural? text.toList with
  | some number => if number ≤ everything then some number else none
  | none => (rankNames.find? (·.1 = Settings.lowered text)).map (·.2)

def dropBytes : Nat → List Char → List Char
  | _, [] => []
  | 0, text => text
  | count, letter :: rest => dropBytes (count - letter.utf8Size) rest

def takeBytes : Nat → List Char → List Char
  | _, [] => []
  | 0, _ => []
  | count, letter :: rest => letter :: takeBytes (count - letter.utf8Size) rest

/-- What is being read, and where it started, in bytes. -/
inductive Stage
  | start
  | target
  | span (start : Nat)
  | field (start : Nat)
  | fields
  | narrowed
  | level (start : Nat)

structure Draft where
  stage : Stage
  offset : Nat
  directive : Directive

def begins (letter : Char) : Bool :=
  ['-', ':', '_'].contains letter || Text.isAlphanumeric letter

def readField (text : List Char) : FieldPattern :=
  ⟨.ofList (text.takeWhile (· ≠ '=')), text.contains '='⟩

/-- Reads one more character. Parts are cut out of the `whole` text, by the places that they have
without the blanks at its ends. -/
def Draft.read (whole : List Char) (draft : Draft) (letter : Char) : Except Fault Draft :=
  let here := draft.offset
  let next := here + letter.utf8Size
  let directive := draft.directive
  let part (first : Nat) := takeBytes (here - first) (dropBytes first whole)
  let go (stage : Stage) (directive : Directive) : Except Fault Draft :=
    .ok ⟨stage, next, directive⟩
  match draft.stage with
  | .start =>
    if letter = '[' then go (.span next) directive
    else if begins letter then go .target directive
    else .error .malformed
  | .target =>
    if letter = '=' then go (.level next) { directive with start := some (.ofList (part 0)) }
    else if letter = '[' then go (.span next) { directive with start := some (.ofList (part 0)) }
    else go .target directive
  | .span first =>
    if letter = ']' then go .narrowed { directive with span := some (.ofList (part first)) }
    else if letter = '\x7b' then
      go (.field next) { directive with
        span := if (part first).isEmpty then none else some (.ofList (part first)) }
    else go (.span first) directive
  | .field first =>
    if letter = '\x7d' then
      if (part first).isEmpty then .error .malformed
      else go .fields { directive with fields := directive.fields ++ [readField (part first)] }
    else go (.field first) directive
  | .fields => if letter = ']' then go .narrowed directive else .error .malformed
  | .narrowed => if letter = '=' then go (.level next) directive else .error .malformed
  | .level first => go (.level first) directive

/-- The directive at the end of its text. A lone word that names no rank is a target. -/
def Draft.finish (whole : List Char) (draft : Draft) : Except Fault Directive :=
  let directive := draft.directive
  match draft.stage with
  | .target =>
    let word := String.ofList whole
    match readRank? word with
    | some limit => .ok { directive with limit }
    | none => .ok { directive with start := some word }
  | .level first =>
    let level := String.ofList (dropBytes first whole)
    if level.isEmpty then .ok directive
    else match readRank? level with
      | some limit => .ok { directive with limit }
      | none => .error .badLevel
  | .narrowed => .ok directive
  | .start | .span _ | .field _ | .fields => .error .malformed

def read (text : String) : Except Fault Directive := do
  let draft ← (Text.trim text.toList).foldlM (Draft.read text.toList) ⟨.start, 0, whole⟩
  draft.finish text.toList

/-- Whether a directive is about records by themselves, and not by the spans that they are in or the
values that they have. -/
def isPlain (directive : Directive) : Bool :=
  directive.span.isNone && !directive.fields.any (·.hasValue)

def isAbout (directive : Directive) (record : Record) : Bool :=
  directive.isPlain &&
    directive.start.all (fun start => start.toList.isPrefixOf record.target.toList) &&
    directive.fields.all fun field => record.fieldNames.contains field.name

def closeness (directive : Directive) : Nat :=
  (directive.start.map fun start => start.utf8ByteSize + 1).getD 0

/-- Whether a directive goes before another one about the same record: it has a longer start, or
else more fields, or else greater ones. -/
def goesBefore (directive other : Directive) : Bool :=
  if directive.closeness ≠ other.closeness then other.closeness < directive.closeness
  else if directive.fields.length ≠ other.fields.length then
    other.fields.length < directive.fields.length
  else decide (other.fields.map (·.name) < directive.fields.map (·.name))

end Directive
end ReplicatedSpace.Log
