import ReplicatedSpace.Json.Number

/-!
Doubles of JSON numbers. The leading digits are rounded first, and then multiplied or divided by a
rounded power of ten, so that a double may be off the nearest one by a last place.
-/
namespace ReplicatedSpace.Json.Number

open Decimal

def unitsOf (number : Nat) : Nat := Binary64.roundUnits (number * Binary64.unitsPerOne) 1

def greatestPower : Nat := 308

/-- A magnitude without so many places, of which no more are taken off at once than the doubles
have. -/
def shrink (units places : Nat) : Nat :=
  if units = 0 then 0
  else if greatestPower < places then
    shrink (Binary64.roundUnits (units * Binary64.unitsPerOne) (unitsOf (Nat.pow 10 greatestPower)))
      (places - greatestPower)
  else Binary64.roundUnits (units * Binary64.unitsPerOne) (unitsOf (Nat.pow 10 places))
termination_by places
decreasing_by simp only [greatestPower] at *; omega

/-- The double of a number that is in range. -/
def double (number : Number) : Binary64 :=
  let (significand, scale) := number.scaled
  let units := unitsOf significand
  .finite number.negative <|
    if 0 ≤ scale then
      if units = 0 then 0
      else Binary64.roundUnits (units * unitsOf (Nat.pow 10 scale.toNat)) Binary64.unitsPerOne
    else shrink units (-scale).toNat

end ReplicatedSpace.Json.Number
