/-!
Number literals in decimal notation: an optional sign, digits with at most one point, and an
optional exponent. The words `inf`, `infinity` and `nan` are literals too, in any case.
-/
namespace ReplicatedSpace.Decimal

inductive Literal
  | finite (negative : Bool) (significand : Nat) (exponent : Int)
  | infinite (negative : Bool)
  | notANumber
deriving DecidableEq

def digitValue (digit : Char) : Nat := digit.toNat - '0'.toNat

def readDigits (before : Nat) (digits : List Char) : Nat :=
  digits.foldl (fun number digit => 10 * number + digitValue digit) before

def takeSign : List Char → Bool × List Char
  | '-' :: rest => (true, rest)
  | '+' :: rest => (false, rest)
  | text => (false, text)

namespace Literal

/-- An exponent mark, an optional sign and at least one digit, to the end; nothing stands for 0. -/
def readExponent? : List Char → Option Int
  | [] => some 0
  | mark :: text =>
    if mark = 'e' ∨ mark = 'E' then
      let (negative, digits) := takeSign text
      if digits ≠ [] ∧ digits.all Char.isDigit then
        let size : Int := readDigits 0 digits
        some (if negative then -size else size)
      else none
    else none

/-- Digits with at most one point among or around them, and an exponent. -/
def readFinite? (negative : Bool) (text : List Char) : Option Literal :=
  let whole := text.takeWhile Char.isDigit
  let afterWhole := text.dropWhile Char.isDigit
  let pointed := afterWhole.head? = some '.'
  let fraction := if pointed then (afterWhole.drop 1).takeWhile Char.isDigit else []
  let rest := if pointed then (afterWhole.drop 1).dropWhile Char.isDigit else afterWhole
  if whole = [] ∧ fraction = [] then none
  else (readExponent? rest).map fun exponent =>
    finite negative (readDigits 0 (whole ++ fraction)) (exponent - fraction.length)

/-- Reads a whole text as a literal. -/
def read? (text : List Char) : Option Literal :=
  let (negative, body) := takeSign text
  let word := body.map Char.toLower
  if word = "inf".toList ∨ word = "infinity".toList then some (infinite negative)
  else if word = "nan".toList then some notANumber
  else readFinite? negative body

end Literal
end ReplicatedSpace.Decimal
