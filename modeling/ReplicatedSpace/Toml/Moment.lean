import ReplicatedSpace.Decimal.Literal

/-!
Dates and times. What is kept of one is its text in the usual form: a `T` between date and time, one
to nine digits behind the point without further zeros at their end, and `Z` or a signed offset.
-/
namespace ReplicatedSpace.Toml.Moment

/-- A number of that many digits, at most that large. -/
def readNumber? (digits least most : Nat) (text : List Char) : Option (List Char × List Char) :=
  let (number, rest) := text.splitAt digits
  let value := Decimal.readDigits 0 number
  if number.length = digits ∧ number.all Char.isDigit ∧ least ≤ value ∧ value ≤ most then
    some (number, rest)
  else none

def expect? (letter : Char) (text : List Char) : Option (List Char) :=
  match text with
  | first :: rest => if first = letter then some rest else none
  | [] => none

def isLeap (year : Nat) : Bool := year % 4 = 0 && (year % 100 ≠ 0 || year % 400 = 0)

def daysIn (year month : Nat) : Nat :=
  if month = 2 then (if isLeap year then 29 else 28)
  else if month = 4 ∨ month = 6 ∨ month = 9 ∨ month = 11 then 30
  else 31

/-- Year, month and day. -/
def readDate? (text : List Char) : Option (List Char × List Char) := do
  let (year, rest) ← readNumber? 4 0 9999 text
  let (month, rest) ← readNumber? 2 1 12 (← expect? '-' rest)
  let last := daysIn (Decimal.readDigits 0 year) (Decimal.readDigits 0 month)
  let (day, rest) ← readNumber? 2 1 last (← expect? '-' rest)
  return (year ++ '-' :: month ++ '-' :: day, rest)

/-- The digits behind a point. -/
def readFraction? : List Char → Option (List Char × List Char)
  | '.' :: rest =>
    let digits := rest.takeWhile Char.isDigit
    let kept := ((digits.take 9).reverse.dropWhile (· = '0')).reverse
    if digits.isEmpty then none
    else some ('.' :: if kept.isEmpty then ['0'] else kept, rest.dropWhile Char.isDigit)
  | text => some ([], text)

/-- Hours and minutes, and seconds that may be left out. -/
def readTime? (text : List Char) : Option (List Char × List Char) := do
  let (hour, rest) ← readNumber? 2 0 23 text
  let (minute, rest) ← readNumber? 2 0 59 (← expect? ':' rest)
  let clock := hour ++ ':' :: minute
  match expect? ':' rest with
  | none => return (clock, rest)
  | some rest =>
    let (second, rest) ← readNumber? 2 0 60 rest
    let (fraction, rest) ← readFraction? rest
    return (clock ++ ':' :: second ++ fraction, rest)

/-- The distance from universal time, if one is given. -/
def readOffset? : List Char → Option (List Char)
  | [] => some []
  | sign :: rest => do
    if sign = 'Z' ∨ sign = 'z' then
      if rest.isEmpty then some ['Z'] else none
    else if sign = '+' ∨ sign = '-' then
      let (hour, rest) ← readNumber? 2 0 23 rest
      let (minute, rest) ← readNumber? 2 0 59 (← expect? ':' rest)
      let shown := if (hour ++ minute).all (· = '0') then '+' else sign
      if rest.isEmpty then return shown :: hour ++ ':' :: minute else none
    else none

/-- A date, a time, or both. -/
def read? (text : List Char) : Option (List Char) :=
  match readDate? text with
  | none => do
    let (time, rest) ← readTime? text
    if rest.isEmpty then some time else none
  | some (date, []) => some date
  | some (date, between :: rest) => do
    if between = 'T' ∨ between = 't' ∨ between = ' ' then
      let (time, rest) ← readTime? rest
      return date ++ 'T' :: time ++ (← readOffset? rest)
    else none

end ReplicatedSpace.Toml.Moment
