import ReplicatedSpace.Decimal.Binary64

/-!
What files and variables say of settings. Scalars are kept; of an array or a table no more is kept
than that it is one.
-/
namespace ReplicatedSpace.Settings

inductive Value
  | string (content : String)
  | integer (value : Int)
  | float (value : Decimal.Binary64)
  | boolean (value : Bool)
  /-- Nothing, on purpose. -/
  | null
  /-- An array or a table. -/
  | compound
deriving DecidableEq

abbrev Members := List (String × Value)

namespace Members

def get? (members : Members) (name : String) : Option Value :=
  (List.find? (fun member => member.1 = name) members).map fun member => member.2

def set (members : Members) (name : String) (value : Value) : Members :=
  (name, value) :: members.filter fun member => member.1 ≠ name

end Members

def fitsLong (value : Int) : Bool := Int64.minValue.toInt ≤ value && value ≤ Int64.maxValue.toInt

end ReplicatedSpace.Settings
