import ReplicatedSpace.Settings.Value

/-!
Ways into values. A key may name a setting, or lead into its value by steps behind the name: a point
and a name, or an index in brackets. A key that is neither is a name that no setting has.
-/
namespace ReplicatedSpace.Settings

inductive Step
  | member (name : String)
  | item (index : Int)
deriving DecidableEq

structure Way where
  root : String
  steps : List Step
deriving DecidableEq

namespace Way

def inName (letter : Char) : Bool := letter.isAlphanum || letter = '_' || letter = '-'

def readName? (text : List Char) : Option (String × List Char) :=
  let name := text.takeWhile inName
  if name.isEmpty then none else some (.ofList name, text.dropWhile inName)

def dropBlanks (text : List Char) : List Char :=
  text.dropWhile fun letter => letter = ' ' || letter = '\t'

/-- An index, from behind its opening bracket, and the text behind the closing one. -/
def readIndex? (text : List Char) : Option (Int × List Char) :=
  let start := dropBlanks text
  let negative := start.head? = some '-'
  let number := if negative then start.drop 1 else start
  let digits := number.takeWhile Char.isDigit
  let size : Int := Decimal.readDigits 0 digits
  let index := if negative then -size else size
  match dropBlanks (number.dropWhile Char.isDigit) with
  | ']' :: rest => if !digits.isEmpty && fitsLong index then some (index, rest) else none
  | _ => none

/-- The steps to the end of the text; `fuel` bounds their number. -/
def readSteps? : Nat → List Char → Option (List Step)
  | _, [] => some []
  | 0, _ :: _ => none
  | fuel + 1, mark :: rest => do
    let (step, rest) ←
      if mark = '.' then (readName? rest).map fun (name, rest) => (Step.member name, rest)
      else if mark = '[' then (readIndex? rest).map fun (index, rest) => (Step.item index, rest)
      else none
    return step :: (← readSteps? fuel rest)

def read? (key : String) : Option Way := do
  let (root, rest) ← readName? key.toList
  return ⟨root, ← readSteps? rest.length rest⟩

end Way

def leadsInto (field key : String) : Bool :=
  (Way.read? key).any fun way => way.root = field && !way.steps.isEmpty

end ReplicatedSpace.Settings
