import ReplicatedSpace.Settings.Value
import ReplicatedSpace.Toml.Moment
import ReplicatedSpace.Toml.Quoted

/-!
Values without parts: texts, numbers, truth values, dates and times. Dates and times are kept as
texts.
-/
namespace ReplicatedSpace.Toml.Scalar

open Settings (Value)

def ungroup? (isDigit : Char → Bool) : List Char → Option (List Char)
  | [] => none
  | [digit] => if isDigit digit then some [digit] else none
  | digit :: '_' :: rest => if isDigit digit then (ungroup? isDigit rest).map (digit :: ·) else none
  | digit :: rest => if isDigit digit then (ungroup? isDigit rest).map (digit :: ·) else none

def readWhole? (text : List Char) : Option (List Char) :=
  (ungroup? Char.isDigit text).bind fun digits =>
    if digits.head? = some '0' ∧ digits ≠ ['0'] then none else some digits

def integer? (value : Int) : Option Value :=
  if Settings.fitsLong value then some (.integer value) else none

def readRadix? (base : Nat) (text : List Char) : Option Value := do
  let digits ← ungroup? (fun digit => (Text.Hex.digitValue? digit).any (· < base)) text
  let values ← digits.mapM Text.Hex.digitValue?
  integer? (values.foldl (fun value digit => base * value + digit) 0 : Nat)

/-- An exponent with its mark, in plain digits. -/
def readExponent? : List Char → Option (List Char)
  | [] => some []
  | mark :: text =>
    let (negative, digits) := Decimal.takeSign text
    if mark = 'e' ∨ mark = 'E' then
      (ungroup? Char.isDigit digits).map fun digits =>
        if negative then 'e' :: '-' :: digits else 'e' :: digits
    else none

def readFraction? : List Char → Option (List Char)
  | [] => some []
  | point :: digits =>
    if point = '.' then (ungroup? Char.isDigit digits).map ('.' :: ·) else none

/-- A number with a point or an exponent that is no larger than the doubles. -/
def readFloat? (negative : Bool) (text : List Char) : Option Value := do
  let mantissa := text.takeWhile fun letter => letter ≠ 'e' && letter ≠ 'E'
  let whole ← readWhole? (mantissa.takeWhile (· ≠ '.'))
  let fraction ← readFraction? (mantissa.dropWhile (· ≠ '.'))
  let exponent ← readExponent? (text.dropWhile fun letter => letter ≠ 'e' && letter ≠ 'E')
  match Decimal.Binary64.ofLiteral
      (← Decimal.Literal.readFinite? negative (whole ++ fraction ++ exponent)) with
  | .finite negative units => some (.float (.finite negative units))
  | .infinite _ | .notANumber => none

/-- A number behind its sign. -/
def readNumber? (negative : Bool) (text : List Char) : Option Value :=
  if text = "inf".toList then some (.float (.infinite negative))
  else if text = "nan".toList then some (.float .notANumber)
  else if text.any fun letter => letter = '.' || letter = 'e' || letter = 'E' then
    readFloat? negative text
  else do
    let size : Int := Decimal.readDigits 0 (← readWhole? text)
    integer? (if negative then -size else size)

def isMoment (token : List Char) : Bool :=
  token[2]? = some ':' || ((token.take 4).all Char.isDigit && token[4]? = some '-')

/-- The value of a token without quotation marks. -/
def ofToken? (token : List Char) : Option Value :=
  if token = "true".toList then some (.boolean true)
  else if token = "false".toList then some (.boolean false)
  else if token.head?.any Char.isDigit && isMoment token then
    (Moment.read? token).map fun moment => .string (.ofList moment)
  else match token with
    | '0' :: 'x' :: digits => readRadix? 16 digits
    | '0' :: 'o' :: digits => readRadix? 8 digits
    | '0' :: 'b' :: digits => readRadix? 2 digits
    | _ =>
      let (negative, body) := Decimal.takeSign token
      readNumber? negative body

def inToken (letter : Char) : Bool :=
  letter.isAlphanum || letter = '+' || letter = '-' || letter = '_' || letter = '.' || letter = ':'

/-- A value that is no array and no table. A blank may stand between a date and its time. -/
def read : Reader Value
  | [] => none
  | first :: rest =>
    if Quoted.isMark first then
      (Quoted.read (first :: rest)).map fun (content, rest) => (.string (.ofList content), rest)
    else
      let token := (first :: rest).takeWhile inToken
      let behind := (first :: rest).dropWhile inToken
      match Moment.readDate? token, behind with
      | some (_, []), ' ' :: next :: later =>
        if next.isDigit then
          (ofToken? (token ++ ' ' :: (next :: later).takeWhile inToken)).map
            (·, (next :: later).dropWhile inToken)
        else (ofToken? token).map (·, behind)
      | _, _ => (ofToken? token).map (·, behind)

end ReplicatedSpace.Toml.Scalar
