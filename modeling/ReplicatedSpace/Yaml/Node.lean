import ReplicatedSpace.Settings.Field
import ReplicatedSpace.Yaml.Tag

/-!
What a document is made of. A text without marks around it may be a number, a truth value or nothing
at all, and a tag may settle which it is.
-/
namespace ReplicatedSpace.Yaml

open Settings (Members Value)

inductive Node
  /-- Something that a tag does not fit, or a name for what has not ended yet. -/
  | missing
  | null
  | string (content : String)
  | integer (value : Int)
  | boolean (value : Bool)
  /-- A number with a point, by its text. -/
  | real (text : String)
  /-- A list; `isSound` if all of its items have values. -/
  | list (isSound : Bool)
  /-- A table; without members if these have no names or no values. -/
  | table (members? : Option Members)
deriving DecidableEq

namespace Node

/-- An integer of 64 bits with digits in a base, with an optional sign. -/
def readInteger? (base : Nat) (text : List Char) : Option Int := do
  let (negative, digits) := Decimal.takeSign text
  let values ← digits.mapM Text.Hex.digitValue?
  if values.isEmpty || values.any (base ≤ ·) then none
  let size : Int := (values.foldl (fun number value => base * number + value) 0 : Nat)
  let value := if negative then -size else size
  if Settings.fitsLong value then return value else none

def words : List String :=
  [".inf", ".Inf", ".INF", "+.inf", "+.Inf", "+.INF", "-.inf", "-.Inf", "-.INF", ".nan", ".NaN",
    ".NAN"]

def isReal (text : String) : Bool :=
  words.contains text ||
    (text.toList.any Char.isDigit && (Decimal.Literal.read? text.toList).isSome)

/-- What a text without marks is. -/
def ofPlain (text : String) : Node :=
  let integer? := match text.toList with
    | '0' :: 'x' :: digits => readInteger? 16 digits
    | '0' :: 'o' :: digits => readInteger? 8 digits
    | '+' :: digits => readInteger? 10 digits
    | _ => none
  match integer?.or (readInteger? 10 text.toList) with
  | some value => .integer value
  | none =>
    if ["", "~", "null"].contains text then .null
    else if text = "true" then .boolean true
    else if text = "false" then .boolean false
    else if isReal text then .real text
    else .string text

/-- What a text without marks is under a tag of a kind that every document knows. -/
def ofKind (kind text : String) : Node :=
  if kind = "bool" then
    if text = "true" then .boolean true else if text = "false" then .boolean false else .missing
  else if kind = "int" then ((readInteger? 10 text.toList).map .integer).getD .missing
  else if kind = "float" then if isReal text then .real text else .missing
  else if kind = "null" then if text = "~" ∨ text = "null" then .null else .missing
  else .string text

def ofScalar (tag? : Option Tag) (isPlain : Bool) (text : String) : Node :=
  if !isPlain then .string text
  else match tag? with
    | none => ofPlain text
    | some tag => if tag.handle = Tag.core then ofKind tag.name text else .string text

/-- The value that a setting takes. The words for numbers have none. -/
def value? : Node → Option Value
  | missing | null => some .null
  | string content => some (.string content)
  | integer value => some (.integer value)
  | boolean value => some (.boolean value)
  | real text => (Decimal.Literal.read? text.toList).map fun literal => .float (.ofLiteral literal)
  | list isSound => if isSound then some .compound else none
  | table members? => members?.map fun _ => .compound

/-- The name that something is as a key. -/
def name? : Node → Option String
  | string content => some content
  | integer value => Settings.asText? (.integer value)
  | boolean value => Settings.asText? (.boolean value)
  | real text => some text
  | missing | null | list _ | table _ => none

def ofItems (items : List Node) : Node := .list (items.all (·.value?.isSome))

/-- Keys with their values. What is missing is no key: the next node takes its place. -/
def pairs : List Node → List (Node × Node)
  | .missing :: rest => pairs rest
  | key :: value :: rest => (key, value) :: pairs rest
  | _ => []

/-- A table of keys and values one after the other, in which no key comes twice. Of different keys
with one name the last one counts. -/
def ofPairs? (nodes : List Node) : Option Node :=
  let pairs := pairs nodes
  if (pairs.map (·.1)).Nodup then
    some (.table (pairs.foldlM (fun (members : Members) (key, node) => do
      return members.set (← key.name?) (← node.value?)) []))
  else none

end Node
end ReplicatedSpace.Yaml
