import ReplicatedSpace.Decimal.Binary64

/-!
Doubles in decimal notation without an exponent, by the fewest digits that read back. Of several
such decimals the nearest stands, and of two equally near ones the greater.
-/
namespace ReplicatedSpace.Decimal

/-- Two decimals next to a magnitude on a grid of powers of ten: `down · 10^exponent` and one
more. -/
structure Neighbours where
  down : Nat
  exponent : Int

namespace Binary64

def decimalScale (units : Nat) : Int :=
  decimalLength (units * Nat.pow 10 400 / unitsPerOne) - 400

def neighbours (units digits : Nat) : Neighbours :=
  let exponent := decimalScale units - digits
  ⟨units * Nat.pow 10 (-exponent).toNat / (unitsPerOne * Nat.pow 10 exponent.toNat), exponent⟩

def readsBack (units significand : Nat) (exponent : Int) : Bool :=
  ofLiteral (.finite false significand exponent) = finite false units

def prefersUpper (units : Nat) (grid : Neighbours) : Bool :=
  (2 * grid.down + 1) * unitsPerOne * Nat.pow 10 grid.exponent.toNat ≤
    2 * units * Nat.pow 10 (-grid.exponent).toNat

/-- The neighbour that stands for the magnitude, if one does. -/
def choose? (units : Nat) (grid : Neighbours) : Option (Nat × Int) :=
  let down := readsBack units grid.down grid.exponent
  let upper := readsBack units (grid.down + 1) grid.exponent
  if upper && (!down || prefersUpper units grid) then some (grid.down + 1, grid.exponent)
  else if down then some (grid.down, grid.exponent)
  else none

def shortest (units : Nat) : Nat × Int :=
  match (List.range 17).findSome? fun before => choose? units (neighbours units (before + 1)) with
  | some found => found
  | none => (units * Nat.pow 5 1074, -1074)

/-- A significand without its last digits, and these digits without zeros at their end. -/
def splitPoint (significand places : Nat) : List Char × List Char :=
  let digits := Nat.toDigits 10 significand
  let padded := List.replicate (places + 1 - digits.length) '0' ++ digits
  let whole := padded.length - places
  (padded.take whole, ((padded.drop whole).reverse.dropWhile (· == '0')).reverse)

def layOut (significand : Nat) (exponent : Int) : List Char :=
  let (whole, fraction) := splitPoint (significand * Nat.pow 10 exponent.toNat) (-exponent).toNat
  if fraction.isEmpty then whole else whole ++ '.' :: fraction

/-- The text of a double. -/
def render : Binary64 → String
  | notANumber => "NaN"
  | infinite negative => if negative then "-inf" else "inf"
  | finite negative units =>
    let magnitude := if units = 0 then ['0'] else
      let (significand, exponent) := shortest units
      layOut significand exponent
    .ofList (if negative then '-' :: magnitude else magnitude)

end Binary64
end ReplicatedSpace.Decimal
