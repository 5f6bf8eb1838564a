import ReplicatedSpace.Ron.Scalar

/-!
Settings in structures: fields in round brackets, or keys in braces. Lists, tuples and other
structures within them are read for their form alone.
-/
namespace ReplicatedSpace.Ron.Document

open Settings (Members Value)

/-- What a name stands for that no brackets follow; a name of a structure without fields says
nothing. -/
def wordValue (name : List Char) : Value :=
  if name = "true".toList then .boolean true
  else if name = "false".toList then .boolean false
  else if name = "inf".toList ∨ name = "inff32".toList ∨ name = "inff64".toList then
    .float (.infinite false)
  else if name = "NaN".toList ∨ name = "NaNf32".toList ∨ name = "NaNf64".toList then
    .float .notANumber
  else .null

def isLone (name : List Char) : Bool := wordValue name != .null || name = "None".toList

def readField? (fuel : Nat) (text : List Char) : Option (List Char × List Char) := do
  let (name, rest) ← readName? text
  match ← skip? fuel rest with
  | ':' :: rest => return (name, ← skip? fuel rest)
  | _ => none

/-- What follows an item: the next one, or the bracket that closes them all. -/
def next? (fuel : Nat) (close : Char) (text : List Char) : Option (List Char) := do
  match ← skip? fuel text with
  | [] => none
  | mark :: rest =>
    if mark = ',' then skip? fuel rest
    else if mark = close then return mark :: rest
    else none

/-- What is between brackets. -/
inductive Body
  /-- Values one after the other. -/
  | items (close : Char)
  /-- Values with the names of fields. -/
  | fields
  /-- Values with keys in quotation marks. -/
  | keys

def Body.close : Body → Char
  | items close => close
  | fields => ')'
  | keys => '\x7d'

/-- The body behind an opening bracket, if it is one. -/
def bodyOf? (fuel : Nat) (bracket : Char) (text : List Char) : Option Body :=
  if bracket = '[' then some (.items ']')
  else if bracket = '\x7b' then some .keys
  else if bracket = '(' then
    some (if ((skip? fuel text).bind (readField? fuel)).isSome then .fields else .items ')')
  else none

mutual

/-- A value with at most so many levels of brackets; `fuel` is the length of the text. -/
def readValue : Nat → Nat → List Char → Option (Value × List Char)
  | 0, _, _ | _, _, [] => none
  | fuel + 1, levels, first :: rest =>
    match readQuoted? (first :: rest) with
    | some (content, rest) => some (.string (.ofList content), rest)
    | none =>
      if first = '(' && rest.head? = some ')' then some (.null, rest.drop 1)
      else match bodyOf? fuel first rest with
        | some body => do
          let levels + 1 := levels | none
          let (_, behind) ← readBody fuel levels body [] (← skip? fuel rest)
          return (.compound, behind)
        | none =>
          match readName? (first :: rest) with
          | none => readNumber? (first :: rest)
          | some (name, behind) =>
            if isLone name then some (wordValue name, behind)
            else readNamed fuel levels name behind

/-- What stands behind a name: brackets, or nothing. -/
def readNamed : Nat → Nat → List Char → List Char → Option (Value × List Char)
  | 0, _, _, _ => none
  | fuel + 1, levels, name, text => do
    match ← skip? fuel text with
    | '(' :: rest =>
      let levels + 1 := levels | none
      if name = "Some".toList then
        let (value, behind) ← readValue fuel levels (← skip? fuel rest)
        match ← next? fuel ')' behind with
        | ')' :: behind => return (value, behind)
        | _ => none
      else
        let body ← bodyOf? fuel '(' rest
        let (_, behind) ← readBody fuel levels body [] (← skip? fuel rest)
        return (.compound, behind)
    | _ => if name = "Some".toList then none else return (.null, text)

/-- The members of a body behind some others, and the text behind its closing bracket. Items have no
names; of members with one name the last one counts. -/
def readBody : Nat → Nat → Body → Members → List Char → Option (Members × List Char)
  | 0, _, _, _, _ | _, _, _, _, [] => none
  | fuel + 1, levels, body, members, first :: rest =>
    if first = body.close then some (members, rest)
    else do
      let text := first :: rest
      let (name, start) ← match body with
        | .items _ => pure ("", text)
        | .fields => (readField? fuel text).map fun (name, start) => (String.ofList name, start)
        | .keys => do
          let (key, behind) ← readQuoted? text
          match ← skip? fuel behind with
          | ':' :: start => pure (String.ofList key, ← skip? fuel start)
          | _ => none
      let (value, behind) ← readValue fuel levels start
      readBody fuel levels body (members.set name value) (← next? fuel body.close behind)

end

def nestingLimit : Nat := 128

def features : List String :=
  ["implicit_some", "unwrap_newtypes", "unwrap_variant_newtypes", "explicit_struct_names"]

/-- Skips the lines that turn features on; `fuel` bounds their number. -/
def skipFeatures? : Nat → List Char → Option (List Char)
  | 0, text => some text
  | fuel + 1, text =>
    let opening := "#![enable(".toList
    if opening.isPrefixOf text then do
      let inner := text.drop opening.length
      let names := ((String.ofList (inner.takeWhile (· ≠ ')'))).splitOn ",").map fun name =>
        String.ofList (name.toList.filter fun letter => !isBlank letter)
      if names.all features.contains then
        match inner.dropWhile (· ≠ ')') with
        | ')' :: ']' :: rest => (skip? text.length rest).bind (skipFeatures? fuel)
        | _ => none
      else none
    else some text

/-- The opening bracket of the whole, behind the name of the structure if it has one. -/
def behindName? (fuel : Nat) (text : List Char) : Option (List Char) :=
  match readName? text with
  | some (name, rest) => if isLone name || name = "Some".toList then none else skip? fuel rest
  | none => some text

/-- Reads a file. -/
def read? (content : String) : Option Members := do
  let fuel := content.length + 1
  let start ← skipFeatures? fuel (← skip? fuel content.toList)
  match ← behindName? fuel start with
  | [] => none
  | bracket :: rest =>
    let body ← bodyOf? fuel bracket rest
    let (members, behind) ← match body with
      | .items _ => none
      | .fields | .keys => readBody fuel (nestingLimit - 1) body [] (← skip? fuel rest)
    if (← skip? fuel behind).isEmpty then return members else none

end ReplicatedSpace.Ron.Document
