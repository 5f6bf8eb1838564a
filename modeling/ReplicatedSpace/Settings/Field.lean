import ReplicatedSpace.Decimal.Shortest
import ReplicatedSpace.Settings.Value

/-!
Values of settings. A text setting takes every scalar by its text, and a number setting takes every
scalar that has a number: of truth values one and zero, of fractions the nearest integer.
-/
namespace ReplicatedSpace.Settings

open Decimal

def lowered (text : String) : String := .ofList (text.toList.map Char.toLower)

def readNatural? (text : List Char) : Option Nat :=
  let digits := if text.head? = some '+' then text.drop 1 else text
  if digits.isEmpty || !digits.all Char.isDigit then none else some (readDigits 0 digits)

/-- An integer of 64 bits, with an optional sign. -/
def readInteger? (text : List Char) : Option Int :=
  let (negative, digits) := takeSign text
  if digits.isEmpty || !digits.all Char.isDigit then none
  else
    let size : Int := readDigits 0 digits
    let value := if negative then -size else size
    if fitsLong value then some value else none

/-- The value of a variable's text: a truth value, an integer, a fraction or the text itself. -/
def ofVariable (text : String) : Value :=
  if lowered text = "true" then .boolean true
  else if lowered text = "false" then .boolean false
  else match readInteger? text.toList, Literal.read? text.toList with
    | some value, _ => .integer value
    | none, some literal => .float (.ofLiteral literal)
    | none, none => .string text

/-- What a text setting makes of a value. -/
def asText? : Value → Option String
  | .string content => some content
  | .integer value =>
    let digits := Nat.repr value.natAbs
    some (if value < 0 then "-" ++ digits else digits)
  | .float value => some value.render
  | .boolean value => some (if value then "true" else "false")
  | .null | .compound => none

def asOption? : Value → Option (Option String)
  | .null => some none
  | value => (asText? value).map some

def ofDouble : Binary64 → Nat
  | .notANumber => 0
  | .infinite negative => if negative then 0 else UInt64.size - 1
  | .finite negative units =>
    if negative then 0 else min (Binary64.roundMagnitude units) (UInt64.size - 1)

def ofWord? (text : String) : Option Nat :=
  if ["true", "on", "yes"].contains (lowered text) then some 1
  else if ["false", "off", "no"].contains (lowered text) then some 0
  else readNatural? text.toList

/-- What a number setting makes of a value. -/
def asNumber? : Value → Option Nat
  | .string content => ofWord? content
  | .integer value => if 0 ≤ value then some value.toNat else none
  | .float value => some (ofDouble value)
  | .boolean value => some (if value then 1 else 0)
  | .null | .compound => none

def asLong? (value : Value) : Option UInt64 :=
  (asNumber? value).bind fun number =>
    if number < UInt64.size then some (.ofNat number) else none

def asShort? (value : Value) : Option UInt32 :=
  (asNumber? value).bind fun number =>
    if number < UInt32.size then some (.ofNat number) else none

end ReplicatedSpace.Settings
