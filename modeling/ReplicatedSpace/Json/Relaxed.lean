import ReplicatedSpace.Decimal.Literal
import ReplicatedSpace.Json.Quoted
import ReplicatedSpace.Settings.Value
import ReplicatedSpace.Text.Alphanumeric
import ReplicatedSpace.Text.Letter

/-!
Settings in JSON as people write it by hand: with comments, commas at the end, names without
quotation marks, texts in single ones, and numbers with a plus sign, a bare point or in base
sixteen.
-/
namespace ReplicatedSpace.Json.Relaxed

open Settings (Value)

def endsLine (letter : Char) : Bool := ['\n', '\r', '\u2028', '\u2029'].contains letter

def isSpace (letter : Char) : Bool :=
  (Text.isBlank letter && letter ≠ '\u0085') || letter = '\ufeff'

def closeComment? : List Char → Option (List Char)
  | [] => none
  | '*' :: '/' :: rest => some rest
  | _ :: rest => closeComment? rest

/-- Skips blanks and comments; `fuel` bounds their number. -/
def skip? : Nat → List Char → Option (List Char)
  | 0, text => some text
  | fuel + 1, text =>
    match text.dropWhile isSpace with
    | '/' :: '/' :: rest => skip? fuel (rest.dropWhile (!endsLine ·))
    | '/' :: '*' :: rest => (closeComment? rest).bind (skip? fuel)
    | start => some start

/-- A number in decimal notation: its text, and what follows. Behind a zero there are no digits
before the point. -/
def takeDecimal? (text : List Char) : Option (List Char × List Char) :=
  let whole :=
    if text.head? = some '0' then ['0'] else text.takeWhile Char.isDigit
  let behindWhole := text.drop whole.length
  let fraction :=
    if behindWhole.head? = some '.' then '.' :: (behindWhole.drop 1).takeWhile Char.isDigit else []
  let behindFraction := behindWhole.drop fraction.length
  let exponent := match behindFraction with
    | mark :: rest =>
      if mark = 'e' ∨ mark = 'E' then
        let sign := if rest.head? = some '+' ∨ rest.head? = some '-' then rest.take 1 else []
        let digits := (rest.drop sign.length).takeWhile Char.isDigit
        if digits.isEmpty then [] else mark :: sign ++ digits
      else []
    | [] => []
  if whole.isEmpty && fraction.length < 2 then none
  else some (whole ++ fraction ++ exponent, behindFraction.drop exponent.length)

/-- What a number in decimal notation says: an integer of 64 bits, or a double that is not beyond
the range of doubles. -/
def decimalValue? (negative : Bool) (text : List Char) : Option Value :=
  if text.all Char.isDigit then
    let size : Int := Decimal.readDigits 0 text
    let value := if negative then -size else size
    if Settings.fitsLong value then some (.integer value) else none
  else
    match (Decimal.Literal.readFinite? negative text).map Decimal.Binary64.ofLiteral with
    | some (.finite sign units) => some (.float (.finite sign units))
    | _ => none

/-- A number. Only one without a sign can be in base sixteen, where 32 bits are all it has room
for. -/
def readNumber? (text : List Char) : Option (Value × List Char) := do
  let (negative, start) := Decimal.takeSign text
  let isSigned := start.length < text.length
  match start with
  | '0' :: mark :: rest =>
    let digits := rest.takeWhile fun letter => (Text.Hex.digitValue? letter).isSome
    if (mark = 'x' ∨ mark = 'X') ∧ !digits.isEmpty then
      let size ← Text.Hex.read? digits
      if isSigned ∨ UInt32.size ≤ size then none
      else return (.integer size, rest.drop digits.length)
    else
      let (number, behind) ← takeDecimal? start
      return (← decimalValue? negative number, behind)
  | _ =>
    if "Infinity".toList.isPrefixOf start then
      if isSigned && !negative then none else return (.float (.infinite negative), start.drop 8)
    else if "NaN".toList.isPrefixOf start then
      if isSigned && !negative then none else return (.float .notANumber, start.drop 3)
    else
      let (number, behind) ← takeDecimal? start
      return (← decimalValue? negative number, behind)

/-- The character of a code that may be the first of two that stand for one character. -/
def joinCode? (code : Nat) (rest : List Char) : Option (Char × List Char) :=
  if isLowSurrogate code then none
  else if isHighSurrogate code then
    match rest with
    | '\\' :: 'u' :: a :: b :: c :: d :: rest => do
      let low ← Text.Hex.read? [a, b, c, d]
      if isLowSurrogate low then some (joinSurrogates code low, rest) else none
    | _ => none
  else some (.ofNat code, rest)

/-- What an escape stands for, from behind its backslash; the end of a line stands for nothing. -/
def readEscape? : List Char → Option (List Char × List Char)
  | [] => none
  | '\r' :: '\n' :: rest => some ([], rest)
  | 'x' :: a :: b :: rest => (Text.Hex.readChar? [a, b]).map fun letter => ([letter], rest)
  | 'u' :: a :: b :: c :: d :: rest => do
    let (letter, behind) ← joinCode? (← Text.Hex.read? [a, b, c, d]) rest
    return ([letter], behind)
  | mark :: rest =>
    if endsLine mark then some ([], rest)
    else if mark = 'b' then some (['\x08'], rest)
    else if mark = 'f' then some (['\x0c'], rest)
    else if mark = 'n' then some (['\n'], rest)
    else if mark = 'r' then some (['\r'], rest)
    else if mark = 't' then some (['\t'], rest)
    else if mark = 'v' then some (['\x0b'], rest)
    else if mark = '0' then some (['\x00'], rest)
    else if mark.isDigit ∨ mark = 'x' ∨ mark = 'u' then none
    else some ([mark], rest)

/-- A text to its closing mark; `fuel` is the length of the text. -/
def readText? (mark : Char) : Nat → List Char → Option (List Char × List Char)
  | 0, _ | _, [] => none
  | fuel + 1, letter :: rest =>
    if letter = mark then some ([], rest)
    else if endsLine letter then none
    else if letter = '\\' then do
      let (escaped, rest) ← readEscape? rest
      let (text, behind) ← readText? mark fuel rest
      return (escaped ++ text, behind)
    else (readText? mark fuel rest).map fun (text, behind) => (letter :: text, behind)

def startsName (letter : Char) : Bool :=
  letter = '$' || letter = '_' || (Text.isAlphanumeric letter && !letter.isDigit)

def inName (letter : Char) : Bool :=
  startsName letter || letter.isDigit || letter = '\u200c' || letter = '\u200d'

/-- A name without quotation marks; `fuel` is the length of the text. -/
def readName? : Nat → Bool → List Char → Option (List Char × List Char)
  | 0, _, _ => none
  | fuel + 1, first, text =>
    match text with
    | '\\' :: 'u' :: a :: b :: c :: d :: rest => do
      let letter ← Text.Hex.readChar? [a, b, c, d]
      let (name, behind) ← readName? fuel false rest
      return (letter :: name, behind)
    | letter :: rest =>
      if if first then startsName letter else inName letter then
        (readName? fuel false rest).map fun (name, behind) => (letter :: name, behind)
      else if first then none
      else some ([], text)
    | [] => if first then none else some ([], [])

def readKey? (text : List Char) : Option (List Char × List Char) :=
  match text with
  | '\x22' :: rest => readText? '\x22' text.length rest
  | '\x27' :: rest => readText? '\x27' text.length rest
  | _ => readName? (text.length + 1) true text

/-- A value without parts. -/
def readScalar? (text : List Char) : Option (Value × List Char) :=
  match text with
  | '\x22' :: _ | '\x27' :: _ =>
    (readKey? text).map fun (content, rest) => (.string (.ofList content), rest)
  | _ =>
    if "null".toList.isPrefixOf text then some (.null, text.drop 4)
    else if "true".toList.isPrefixOf text then some (.boolean true, text.drop 4)
    else if "false".toList.isPrefixOf text then some (.boolean false, text.drop 5)
    else readNumber? text

/-- What follows an item: the next one, or the bracket that closes them all. -/
def next? (fuel : Nat) (close : Char) (text : List Char) : Option (List Char) := do
  match ← skip? fuel text with
  | [] => none
  | mark :: rest =>
    if mark = ',' then skip? fuel rest
    else if mark = close then return mark :: rest
    else none

mutual

/-- A value; `fuel` is the length of the text. -/
def readValue : Nat → List Char → Option (Value × List Char)
  | 0, _ | _, [] => none
  | fuel + 1, first :: rest =>
    if first = '[' then do
      return (.compound, ← readItems fuel (← skip? fuel rest))
    else if first = '\x7b' then do
      let (_, behind) ← readMembers fuel [] (← skip? fuel rest)
      return (.compound, behind)
    else readScalar? (first :: rest)

/-- The items of an array, and the text behind its closing bracket. -/
def readItems : Nat → List Char → Option (List Char)
  | 0, _ => none
  | fuel + 1, text =>
    match text with
    | ']' :: rest => some rest
    | _ => do
      let (_, behind) ← readValue fuel text
      readItems fuel (← next? fuel ']' behind)

/-- The members of an object behind some others; of those with one name the last one counts. -/
def readMembers : Nat → Settings.Members → List Char → Option (Settings.Members × List Char)
  | 0, _, _ => none
  | fuel + 1, members, text =>
    match text with
    | '\x7d' :: rest => some (members, rest)
    | _ => do
      let (name, rest) ← readKey? text
      match ← skip? fuel rest with
      | ':' :: rest =>
        let (value, behind) ← readValue fuel (← skip? fuel rest)
        readMembers fuel (members.set (.ofList name) value) (← next? fuel '\x7d' behind)
      | _ => none

end

/-- Reads a file. -/
def read? (content : String) : Option Settings.Members := do
  let fuel := content.length + 1
  match ← skip? fuel content.toList with
  | '\x7b' :: rest =>
    let (members, behind) ← readMembers fuel [] (← skip? fuel rest)
    if (← skip? fuel behind).isEmpty then return members else none
  | _ => none

end ReplicatedSpace.Json.Relaxed
