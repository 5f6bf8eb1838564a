import ReplicatedSpace.Decimal.Literal

/-!
Double-precision numbers by their exact values. A finite one is a whole number of units of 2^-1074,
so that rounding and comparing need natural numbers only. A quotient of natural numbers is rounded
to the nearest one, where a half goes to the even neighbour or away from zero.
-/
namespace ReplicatedSpace.Decimal

/-- The integer nearest to `numerator / denominator`; a half goes to the even neighbour. -/
def roundHalfEven (numerator denominator : Nat) : Nat :=
  let quotient := numerator / denominator
  let rest := numerator % denominator
  if 2 * rest < denominator then quotient
  else if denominator < 2 * rest then quotient + 1
  else quotient + quotient % 2

def roundHalfUp (numerator denominator : Nat) : Nat :=
  (2 * numerator + denominator) / (2 * denominator)

theorem roundHalfEven_bounds (numerator denominator : Nat) :
    numerator / denominator ≤ roundHalfEven numerator denominator ∧
      roundHalfEven numerator denominator ≤ numerator / denominator + 1 := by
  simp only [roundHalfEven]
  split
  · omega
  · split <;> omega

/-- A double: a sign and a count of units of 2^-1074, an infinity, or no number. -/
inductive Binary64
  | finite (negative : Bool) (units : Nat)
  | infinite (negative : Bool)
  | notANumber
deriving DecidableEq

namespace Binary64

def unitsPerOne : Nat := Nat.pow 2 1074

def overflow : Nat := Nat.pow 2 1024 * unitsPerOne

/-- How many units lie between neighbouring doubles at `numerator / denominator` units: 53 binary
digits are kept, and at least a unit stays. -/
def gap (numerator denominator : Nat) : Nat :=
  Nat.pow 2 ((numerator / denominator).log2 - 52)

/-- The multiple of the gap nearest to `numerator / denominator` units; a half goes to the even
multiple. -/
def roundUnits (numerator denominator : Nat) : Nat :=
  let step := gap numerator denominator
  roundHalfEven numerator (denominator * step) * step

def nearest (negative : Bool) (numerator denominator : Nat) : Binary64 :=
  let units := roundUnits (numerator * unitsPerOne) denominator
  if units < overflow then finite negative units else infinite negative

def decimalLength (number : Nat) : Nat :=
  if number = 0 then 0 else (Nat.toDigits 10 number).length

/-- The double nearest to a literal's value. From 10^310 on everything is infinite, and below
10^-330 everything is zero, so no large power is computed there. -/
def ofLiteral : Literal → Binary64
  | .infinite negative => infinite negative
  | .notANumber => notANumber
  | .finite negative significand exponent =>
    let magnitude : Int := decimalLength significand + exponent
    if significand = 0 then finite negative 0
    else if 310 < magnitude then infinite negative
    else if magnitude < -330 then finite negative 0
    else nearest negative (significand * Nat.pow 10 exponent.toNat) (Nat.pow 10 (-exponent).toNat)

def roundMagnitude (units : Nat) : Nat := roundHalfUp units unitsPerOne

end Binary64
end ReplicatedSpace.Decimal
