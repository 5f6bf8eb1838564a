import ReplicatedSpace.Text.Utf8
import ReplicatedSpace.Toml.Scalar

/-!
Documents: tables of values, kept flat. Every table and value has the path that leads to it, and a
path is given a meaning only once, apart from tables that were only passed through.
-/
namespace ReplicatedSpace.Toml

open Settings (Value)

inductive Step
  | name (key : String)
  /-- An item of a list of tables. -/
  | item (index : Nat)
deriving DecidableEq

abbrev Path := List Step

/-- What stands at a path. -/
inductive Place
  | value (value : Value)
  /-- A table that a header passed through. -/
  | passed
  /-- A table that has a header of its own. -/
  | headed
  /-- A table that a dotted key made. -/
  | dotted
  /-- A list of so many tables. -/
  | items (count : Nat)

def Place.asValue : Place → Value
  | .value content => content
  | passed | headed | dotted | items _ => .compound

structure Document where
  places : List (Path × Place)

namespace Document

def empty : Document := ⟨[]⟩

def find? (document : Document) (path : Path) : Option Place :=
  (document.places.find? (·.1 = path)).map (·.2)

def set (document : Document) (path : Path) (place : Place) : Document :=
  ⟨(path, place) :: document.places⟩

/-- The keys at the top, with their values. The latest place of a path is the one that counts. -/
def top (document : Document) : Settings.Members :=
  let keys := document.places.filterMap fun place =>
    match place.1 with
    | [.name key] => some key
    | _ => none
  keys.eraseDups.filterMap fun key =>
    (document.find? [.name key]).map fun place => (key, place.asValue)

/-- Follows the keys of a header to the table before the last one. -/
def pass? (document : Document) (base : Path) : List String → Option (Document × Path)
  | [] => some (document, base)
  | key :: keys =>
    let path := base ++ [.name key]
    match document.find? path with
    | none => (document.set path .passed).pass? path keys
    | some .passed | some .headed | some .dotted => document.pass? path keys
    | some (.items count) => document.pass? (path ++ [.item (count - 1)]) keys
    | some (.value _) => none

/-- Opens the table of a header. -/
def openTable? (document : Document) (keys : List String) : Option (Document × Path) := do
  let (document, base) ← document.pass? [] keys.dropLast
  let path := base ++ [.name (← keys.getLast?)]
  match document.find? path with
  | none | some .passed => return (document.set path .headed, path)
  | some _ => none

/-- Opens another table of a list of tables. -/
def openItem? (document : Document) (keys : List String) : Option (Document × Path) := do
  let (document, base) ← document.pass? [] keys.dropLast
  let path := base ++ [.name (← keys.getLast?)]
  match document.find? path with
  | none => return (document.set path (.items 1), path ++ [.item 0])
  | some (.items count) => return (document.set path (.items (count + 1)), path ++ [.item count])
  | some _ => none

/-- Follows a dotted key to the table before its last part. -/
def descend? (document : Document) (base : Path) : List String → Option (Document × Path)
  | [] => some (document, base)
  | key :: keys =>
    let path := base ++ [.name key]
    match document.find? path with
    | none => (document.set path .dotted).descend? path keys
    | some .passed | some .dotted => document.descend? path keys
    | some .headed | some (.items _) | some (.value _) => none

/-- Gives a key of a table its value. -/
def insert? (document : Document) (base : Path) (keys : List String) (value : Value) :
    Option Document := do
  let (document, base) ← document.descend? base keys.dropLast
  let path := base ++ [.name (← keys.getLast?)]
  match document.find? path with
  | none => some (document.set path (.value value))
  | some _ => none

def skipSpaces (text : List Char) : List Char := text.dropWhile isSpace

/-- The text from the end of the line on, if the line holds only a comment or nothing. -/
def skipComment? (text : List Char) : Option (List Char) :=
  let line := text.takeWhile (· ≠ '\n')
  match line with
  | [] => some text
  | first :: comment =>
    if first = '#' ∧ comment.all (fun letter => isVisible letter || letter = '\r') then
      some (text.dropWhile (· ≠ '\n'))
    else none

/-- Skips blanks, line breaks and comments; `fuel` bounds their number. -/
def skipGaps? : Nat → List Char → Option (List Char)
  | 0, text => some text
  | fuel + 1, text =>
    match skipSpaces text with
    | [] => some []
    | first :: rest =>
      if first = '\n' then skipGaps? fuel rest
      else if first = '#' then (skipComment? (first :: rest)).bind (skipGaps? fuel)
      else some (first :: rest)

def inKey (letter : Char) : Bool := letter.isAlphanum || letter = '_' || letter = '-'

/-- One part of a key. -/
def readPart : Reader String
  | [] => none
  | first :: rest =>
    if Quoted.isMark first then
      (Quoted.readLine first rest).map fun (key, rest) => (.ofList key, rest)
    else if inKey first then
      some (.ofList ((first :: rest).takeWhile inKey), (first :: rest).dropWhile inKey)
    else none

/-- How deep arrays and tables in braces may nest, and how many parts a key may have. -/
def nestingLimit : Nat := 80

/-- The parts of a key, and the blanks around it; `fuel` bounds their number. -/
def readParts : Nat → Reader (List String)
  | 0, _ => none
  | fuel + 1, text => do
    let (part, rest) ← readPart (skipSpaces text)
    match skipSpaces rest with
    | '.' :: rest =>
      let (parts, rest) ← readParts fuel rest
      return (part :: parts, rest)
    | rest => return ([part], rest)

def readKey (fuel : Nat) (text : List Char) : Option (List String × List Char) := do
  let (parts, rest) ← readParts fuel text
  if parts.length ≤ nestingLimit then some (parts, rest) else none

mutual

/-- A value with at most so many levels of arrays and tables; `fuel` is the length of the text. -/
def readValue : Nat → Nat → Reader Value
  | 0, _, _ => none
  | fuel + 1, levels, text =>
    match levels, text with
    | 0, '[' :: _ | 0, '\x7b' :: _ => none
    | levels + 1, '[' :: rest => (readItems fuel levels rest).map (.compound, ·)
    | levels + 1, '\x7b' :: rest => (readMembers fuel levels .empty rest).map (.compound, ·)
    | _, _ => Scalar.read text

/-- The values of an array, to its closing bracket. -/
def readItems : Nat → Nat → List Char → Option (List Char)
  | 0, _, _ => none
  | fuel + 1, levels, text => do
    match ← skipGaps? fuel text with
    | ']' :: rest => return rest
    | start =>
      let (_, rest) ← readValue fuel levels start
      match ← skipGaps? fuel rest with
      | ',' :: rest => readItems fuel levels rest
      | ']' :: rest => return rest
      | _ => none

/-- The members of a table in braces, to its closing brace. -/
def readMembers : Nat → Nat → Document → List Char → Option (List Char)
  | 0, _, _, _ => none
  | fuel + 1, levels, members, text => do
    match ← skipGaps? fuel text with
    | '\x7d' :: rest => return rest
    | start =>
      let (keys, rest) ← readKey fuel start
      let behind ← Moment.expect? '=' (← skipGaps? fuel rest)
      let (value, rest) ← readValue fuel levels (← skipGaps? fuel behind)
      let members ← members.insert? [] keys value
      match ← skipGaps? fuel rest with
      | ',' :: rest => readMembers fuel levels members rest
      | '\x7d' :: rest => return rest
      | _ => none

end

/-- A header, from behind its first bracket: one bracket opens a table and two a list's table. -/
def readHeader (fuel : Nat) (document : Document) (text : List Char) :
    Option ((Document × Path) × List Char) :=
  match text with
  | '[' :: rest => do
    let (keys, rest) ← readKey fuel rest
    return (← document.openItem? keys, ← Moment.expect? ']' (← Moment.expect? ']' rest))
  | rest => do
    let (keys, rest) ← readKey fuel rest
    return (← document.openTable? keys, ← Moment.expect? ']' rest)

def readMember (fuel : Nat) (document : Document) (base : Path) (text : List Char) :
    Option ((Document × Path) × List Char) := do
  let (keys, rest) ← readKey fuel text
  let (value, rest) ← readValue fuel nestingLimit (skipSpaces (← Moment.expect? '=' rest))
  return ((← document.insert? base keys value, base), rest)

/-- The lines that are left, under the table that is open; `fuel` is the length of the text. -/
def readLines : Nat → Document → Path → List Char → Option Document
  | 0, _, _, _ => none
  | fuel + 1, document, base, text => do
    match ← skipGaps? fuel text with
    | [] => return document
    | first :: rest =>
      let ((document, base), rest) ←
        if first = '[' then readHeader fuel document rest
        else readMember fuel document base (first :: rest)
      match ← skipComment? (skipSpaces rest) with
      | [] => return document
      | _ :: rest => readLines fuel document base rest

/-- Whether every carriage return stands before a line feed. -/
def hasWholeBreaks : List Char → Bool
  | [] => true
  | '\r' :: rest => rest.head? = some '\n' && hasWholeBreaks rest
  | _ :: rest => hasWholeBreaks rest

def read? (content : String) : Option Document := do
  let text := Text.Utf8.dropMark content.toList
  if hasWholeBreaks text then readLines (text.length + 2) .empty [] text else none

end Document
end ReplicatedSpace.Toml
