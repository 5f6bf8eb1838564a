/-!
The operations on a tuple space, the tuples they take, and what they give back.
-/
namespace ReplicatedSpace

/-- What a caller asks of the space. -/
inductive Operation
  | put
  | read
  | take
  | getState
deriving DecidableEq

namespace Operation

/-- The word that names the operation, in commands and in messages. -/
def name : Operation → String
  | put => "put"
  | read => "read"
  | take => "take"
  | getState => "getTupleSpacesState"

def all : List Operation := [put, read, take, getState]

def ofName? (name : String) : Option Operation := all.find? (·.name = name)

/-- Operations that change the space are put into one order by sequence numbers. -/
def isOrdered : Operation → Bool
  | put | take => true
  | read | getState => false

theorem mem_all (operation : Operation) : operation ∈ all := by
  cases operation <;> simp [all]

theorem ofName?_name (operation : Operation) : ofName? operation.name = some operation := by
  cases operation <;> decide

theorem ofName?_eq_some_iff {name : String} {operation : Operation} :
    ofName? name = some operation ↔ name = operation.name := by
  constructor
  · intro found
    exact (by simpa using List.find?_some found : operation.name = name).symm
  · rintro rfl
    exact ofName?_name operation

end Operation

/-- A number from the sequencer. -/
structure SequenceNumber where
  value : UInt64
deriving DecidableEq

namespace SequenceNumber

def toString (number : SequenceNumber) : String := Nat.repr number.value.toNat

def max? (numbers : List SequenceNumber) : Option SequenceNumber :=
  (numbers.map (·.value)).max?.map SequenceNumber.mk

/-- The numbers from the least to the greatest. -/
def sort (numbers : List SequenceNumber) : List SequenceNumber :=
  numbers.mergeSort (fun earlier later => decide (earlier.value ≤ later.value))

end SequenceNumber

/-- A tuple or search pattern is a text between angle brackets. -/
def isTuple (text : String) : Bool :=
  text.toList.head? = some '<' && text.toList.getLast? = some '>'

/-- What a completed operation gives back. -/
inductive Outcome
  | done
  | tuple (text : String)
  | state (tuples : List String)
deriving DecidableEq

namespace Outcome

def tuple? : Outcome → Option String
  | tuple text => some text
  | done | state _ => none

/-- The text shown to a user: a line of success, and a line with what was found. -/
def render : Outcome → String
  | done => "OK\n"
  | tuple text => "OK\n" ++ text ++ "\n"
  | state tuples => "OK\n[" ++ ", ".intercalate tuples ++ "]\n"

end Outcome
end ReplicatedSpace
