import ReplicatedSpace.Decimal.Literal
import ReplicatedSpace.Settings.Value
import ReplicatedSpace.Text.Alphanumeric
import ReplicatedSpace.Text.Letter

/-!
The smallest parts of a structure's text: blanks and comments, names, numbers, characters and texts.
-/
namespace ReplicatedSpace.Ron

open Settings (Value)

def isBlank (letter : Char) : Bool :=
  [' ', '\t', '\n', '\r', '\x0b', '\x0c', '\u0085', '\u200e', '\u200f', '\u2028', '\u2029'].contains
    letter

/-- The text behind a comment of so many openings that are to be closed. -/
def closeComment? : Nat → List Char → Option (List Char)
  | 0, text => some text
  | _ + 1, [] => none
  | depth + 1, '*' :: '/' :: rest => closeComment? depth rest
  | depth + 1, '/' :: '*' :: rest => closeComment? (depth + 2) rest
  | depth + 1, _ :: rest => closeComment? (depth + 1) rest

/-- Skips blanks and comments; `fuel` bounds their number. -/
def skip? : Nat → List Char → Option (List Char)
  | 0, text => some text
  | fuel + 1, text =>
    match text.dropWhile isBlank with
    | '/' :: '/' :: rest => skip? fuel (rest.dropWhile (· ≠ '\n'))
    | '/' :: '*' :: rest => (closeComment? 1 rest).bind (skip? fuel)
    | start => some start

def startsName (letter : Char) : Bool :=
  letter = '_' || (Text.isAlphanumeric letter && !letter.isDigit)

def inName (letter : Char) : Bool := letter = '_' || Text.isAlphanumeric letter

/-- A name, which may be marked as one. -/
def readName? : List Char → Option (List Char × List Char)
  | 'r' :: '#' :: first :: rest =>
    if inName first then
      some ((first :: rest).takeWhile inName, (first :: rest).dropWhile inName)
    else none
  | first :: rest =>
    if startsName first then
      some ((first :: rest).takeWhile inName, (first :: rest).dropWhile inName)
    else none
  | [] => none

def inFloat (letter : Char) : Bool :=
  letter.isDigit || ['e', 'E', '.', '+', '-', '_'].contains letter

def inInteger (letter : Char) : Bool := (Text.Hex.digitValue? letter).isSome || letter = '_'

/-- The kinds of integers by the words that may follow one, with the numbers that they have room
for. -/
def integerKinds : List (String × Int × Int) :=
  [8, 16, 32, 64].flatMap fun bits =>
    let size : Int := Nat.pow 2 bits
    [("i" ++ Nat.repr bits, -(size / 2), size / 2 - 1), ("u" ++ Nat.repr bits, 0, size - 1)]

/-- Whether an integer has room in the kind that follows it, or in some kind if none follows. -/
def fits (kind : List Char) (value : Int) : Bool :=
  integerKinds.any fun (name, least, most) =>
    (kind.isEmpty || name.toList = kind) && least ≤ value && value ≤ most

def takeBase : List Char → Nat × List Char
  | '0' :: 'x' :: rest => (16, rest)
  | '0' :: 'o' :: rest => (8, rest)
  | '0' :: 'b' :: rest => (2, rest)
  | text => (10, text)

/-- An integer. -/
def readInteger? (text : List Char) : Option (Value × List Char) := do
  let (negative, unsigned) := Decimal.takeSign text
  let (base, start) := takeBase unsigned
  let digits := start.takeWhile inInteger
  let behind := start.dropWhile inInteger
  let kind := behind.takeWhile inName
  let values ← (digits.filter (· ≠ '_')).mapM Text.Hex.digitValue?
  let size : Int := (values.foldl (fun number value => base * number + value) 0 : Nat)
  let value := if negative then -size else size
  let isSpelt := !values.isEmpty && digits.head? ≠ some '_' && values.all (· < base)
  if !isSpelt || !fits kind value then none
  else some (.integer value, behind.dropWhile inName)

/-- A number with a point or an exponent. -/
def readFloat? (text : List Char) : Option (Value × List Char) := do
  let (negative, body) := Decimal.takeSign (text.takeWhile inFloat)
  let behind := text.dropWhile inFloat
  let kind := behind.takeWhile inName
  let literal ← Decimal.Literal.readFinite? negative body
  if kind.isEmpty ∨ kind = "f32".toList ∨ kind = "f64".toList then
    some (.float (.ofLiteral literal), behind.dropWhile inName)
  else none

def readNumber? (text : List Char) : Option (Value × List Char) :=
  let signed := if text.head? = some '+' ∨ text.head? = some '-' then text.drop 1 else text
  if (signed.takeWhile inInteger).length < (signed.takeWhile inFloat).length then readFloat? text
  else (readInteger? text).or (readFloat? text)

/-- An escape, from behind its backslash. -/
def readEscape? : List Char → Option (Char × List Char)
  | 'x' :: a :: b :: rest => (Text.Hex.readChar? [a, b]).map (·, rest)
  | 'u' :: '\x7b' :: rest => do
    let digits := rest.takeWhile (· ≠ '\x7d')
    if digits.isEmpty ∨ 6 < digits.length then none
    else some (← Text.Hex.readChar? digits, rest.drop (digits.length + 1))
  | mark :: rest =>
    if ['\x27', '\x22', '\\'].contains mark then some (mark, rest)
    else if mark = 'n' then some ('\n', rest)
    else if mark = 'r' then some ('\r', rest)
    else if mark = 't' then some ('\t', rest)
    else if mark = '0' then some ('\x00', rest)
    else none
  | [] => none

/-- A text, from behind its first mark; `fuel` is the length of the text. -/
def readText? : Nat → List Char → Option (List Char × List Char)
  | 0, _ | _, [] => none
  | fuel + 1, letter :: rest =>
    if letter = '\x22' then some ([], rest)
    else if letter = '\\' then do
      let (escaped, rest) ← readEscape? rest
      let (text, behind) ← readText? fuel rest
      return (escaped :: text, behind)
    else (readText? fuel rest).map fun (text, behind) => (letter :: text, behind)

def readRaw? (signs : List Char) : List Char → Option (List Char × List Char)
  | [] => none
  | letter :: rest =>
    if letter = '\x22' && signs.isPrefixOf rest then some ([], rest.drop signs.length)
    else (readRaw? signs rest).map fun (text, behind) => (letter :: text, behind)

/-- A character, from behind its first mark. -/
def readCharacter? : List Char → Option (Char × List Char)
  | '\\' :: rest => do
    let (letter, rest) ← readEscape? rest
    match rest with
    | '\x27' :: behind => some (letter, behind)
    | _ => none
  | letter :: '\x27' :: rest => if letter = '\x27' then none else some (letter, rest)
  | _ => none

/-- A character or a text, from its first mark. -/
def readQuoted? (text : List Char) : Option (List Char × List Char) :=
  match text with
  | '\x22' :: rest => readText? (rest.length + 1) rest
  | '\x27' :: rest => (readCharacter? rest).map fun (letter, behind) => ([letter], behind)
  | 'r' :: rest =>
    let signs := rest.takeWhile (· = '#')
    match rest.drop signs.length with
    | '\x22' :: raw => readRaw? signs raw
    | _ => none
  | _ => none

end ReplicatedSpace.Ron
