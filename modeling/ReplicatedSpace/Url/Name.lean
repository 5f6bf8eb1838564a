import ReplicatedSpace.Text.Composition
import ReplicatedSpace.Url.Name.Mapping
import ReplicatedSpace.Url.Name.Script
import ReplicatedSpace.Url.Punycode

/-!
Names of hosts in the scripts of the world. A name is brought into one form, in which capitals and
other variants are replaced; each of its labels, the parts between its points, has to be one that
can be read without doubt. A label outside the Latin alphabet is written with its letters.
-/
namespace ReplicatedSpace.Url

/-- The parts of a text between its marks. -/
def splitAt (mark : Char) : List Char → List (List Char)
  | [] => [[]]
  | letter :: rest =>
    match splitAt mark rest with
    | [] => [[letter]]
    | first :: others =>
      if letter = mark then [] :: first :: others else (letter :: first) :: others

namespace Name

def isStop (letter : Char) : Bool := Text.markClass letter = 9

def joins (set : Text.CodeSet) : List Char → Bool
  | [] => false
  | letter :: rest =>
    if joiningAcross.contains letter then joins set rest else set.contains letter

def nonJoiner : Char := '\u200c'

def joiner : Char := '\u200d'

/-- Whether the signs for joining all have an effect; `before` is given from the last character
on. -/
def joinsWell (before : List Char) : List Char → Bool
  | [] => true
  | letter :: rest =>
    let isWell :=
      if letter = nonJoiner then
        before.head?.any isStop || (joins joiningNext before && joins joiningPrevious rest)
      else if letter = joiner then before.head?.any isStop
      else true
    isWell && joinsWell (letter :: before) rest

/-- Whether a label that runs from left to right holds nothing that would run otherwise. -/
def runsRight (kinds : List Direction) : Bool :=
  let own := kinds.reverse.dropWhile (· = .following)
  own.all (fun kind => kind ≠ .leftward && kind ≠ .leftwardNumeral) &&
    own.head?.all fun kind => kind = .rightward || kind = .numeral

/-- Whether a label that runs from right to left holds nothing that would run otherwise, and no
numerals of both kinds. -/
def runsLeft (kinds : List Direction) : Bool :=
  let own := kinds.reverse.dropWhile (· = .following)
  !own.contains .rightward &&
    !(own.contains .numeral && own.contains .leftwardNumeral) &&
    own.head?.all fun kind => kind ≠ .neutral

/-- Whether a label among labels of both directions has one of its own. -/
def hasDirection (label : List Char) : Bool :=
  let kinds := label.map directionOf
  match kinds with
  | [] => true
  | .rightward :: rest => runsRight rest
  | .leftward :: rest => runsLeft rest
  | _ :: _ => false

def turns (letter : Char) : Bool :=
  directionOf letter = .leftward || directionOf letter = .leftwardNumeral

def isReadable (label : List Char) : Bool :=
  !label.head?.any marks.contains && joinsWell [] label

def isPlain (text : List Char) : Bool := text.all (·.toNat < 0x80)

def plainMark : List Char := "xn--".toList

structure Label where
  written : List Char
  text : List Char

/-- A label behind the mark: it stands for another one that is in its one form already. -/
def Label.decode? (digits : List Char) : Option Label := do
  let text ← Punycode.decode? digits
  if !isPlain text && map? text = some text && Text.composed text = text then
    some ⟨plainMark ++ digits, text⟩
  else none

def Label.read? (text : List Char) : Option Label :=
  if plainMark.isPrefixOf text then Label.decode? (text.drop plainMark.length)
  else if isPlain text then some ⟨text, text⟩
  else some ⟨plainMark ++ Punycode.encode text, text⟩

/-- A name in the letters of the Latin alphabet, if it can be read without doubt. -/
def plain? (name : List Char) : Option (List Char) := do
  let labels ← (splitAt '.' (Text.composed (← map? name))).mapM Label.read?
  let turned := labels.any fun label => label.text.any turns
  if labels.all fun label => isReadable label.text && (!turned || hasDirection label.text) then
    some (['.'].intercalate (labels.map (·.written)))
  else none

end Name
end ReplicatedSpace.Url
