import ReplicatedSpace.Settings.Value
import ReplicatedSpace.Text.Letter

/-!
Settings in lines of a name, a mark and a text. Names in brackets open sections, which are tables of
their own; a comment takes a whole line. All values are texts.
-/
namespace ReplicatedSpace.Ini

open Settings (Members)

inductive Entry
  | opened (name : String)
  | member (name content : String)

/-- The character with a code in base sixteen, which may have a plus sign in front. -/
def ofHex? (digits : List Char) : Option Char :=
  Text.Hex.readChar? (if digits.head? = some '+' then digits.drop 1 else digits)

/-- The character for the letter behind a backslash. -/
def escaped (letter : Char) : Char :=
  if letter = '0' then '\x00'
  else if letter = 'a' then '\x07'
  else if letter = 'b' then '\x08'
  else if letter = 't' then '\t'
  else if letter = 'r' then '\r'
  else if letter = 'n' then '\n'
  else letter

/-- The text up to a mark, with its escapes replaced, and what begins with the mark. Only if it may
be cut does the text end where the file ends. Behind a backslash at the end of a line the line goes
on with the second character of the next. -/
def readUntil (isMark : Char → Bool) (mayBeCut : Bool) : List Char → Option (List Char × List Char)
  | [] => if mayBeCut then some ([], []) else none
  | '\\' :: 'x' :: a :: b :: c :: d :: rest => do
    let letter ← ofHex? [a, b, c, d]
    let (text, behind) ← readUntil isMark mayBeCut rest
    return (letter :: text, behind)
  | ['\\', '\n'] => if mayBeCut then some ([], []) else none
  | '\\' :: '\n' :: _ :: rest => readUntil isMark mayBeCut rest
  | '\\' :: letter :: rest =>
    if letter = 'x' then none
    else (readUntil isMark mayBeCut rest).map fun (text, behind) => (escaped letter :: text, behind)
  | letter :: rest =>
    if isMark letter then some ([], letter :: rest)
    else if letter = '\\' then none
    else (readUntil isMark mayBeCut rest).map fun (text, behind) => (letter :: text, behind)

def isBreak (letter : Char) : Bool := letter = '\n' || letter = '\r'

def readLine (text : List Char) : Option (List Char × List Char) := readUntil isBreak true text

def readMarked (mark : Char) (text : List Char) : Option (List Char × List Char) := do
  let (inner, rest) ← readUntil (· = mark) false text
  let (outer, rest) ← readLine (rest.drop 1)
  return (inner ++ outer, rest)

/-- A value, from behind its mark. -/
def readValue (text : List Char) : Option (List Char × List Char) :=
  let start := text.dropWhile fun letter => Text.isBlank letter && !isBreak letter
  match start with
  | '\x22' :: rest => readMarked '\x22' rest
  | '\x27' :: rest => readMarked '\x27' rest
  | _ => readLine start

def trimmed (text : List Char) : String := .ofList (Text.trim text)

/-- The entries that are left. A comment needs a `fresh` line, on which nothing stands yet; `fuel`
is the length of the text. -/
def readEntries : Nat → Bool → List Char → Option (List Entry)
  | 0, _, _ => none
  | fuel + 1, fresh, text =>
    let blanks := text.takeWhile Text.isBlank
    let fresh := if blanks.isEmpty then fresh else blanks.getLast? = some '\n'
    match text.dropWhile Text.isBlank with
    | [] => some []
    | letter :: rest =>
      if letter = ';' ∨ letter = '#' then
        if fresh then readEntries fuel true ((rest.dropWhile (· ≠ '\n')).drop 1) else none
      else if letter = '[' then do
        let (name, rest) ← readUntil (· = ']') false rest
        return .opened (trimmed name) :: (← readEntries fuel false (rest.drop 1))
      else do
        let (name, rest) ← readUntil (['=', ':'].contains ·) false (letter :: rest)
        if (trimmed name).isEmpty then none
        else
          let (content, rest) ← readValue (rest.drop 1)
          return .member (trimmed name) (trimmed content) :: (← readEntries fuel false rest)

def Entry.opens : Entry → Bool
  | opened _ => true
  | member .. => false

/-- The members in front of all sections, and the sections. Of those with one name the last one
counts, and a section counts before members. -/
def members (entries : List Entry) : Members :=
  let own := entries.takeWhile fun entry => !entry.opens
  (own ++ entries.filter Entry.opens).foldl (fun (members : Members) entry => match entry with
    | .opened name => members.set name .compound
    | .member name content => members.set name (.string content)) []

def read? (content : String) : Option Members :=
  (readEntries (content.length + 1) true content.toList).map members

end ReplicatedSpace.Ini
