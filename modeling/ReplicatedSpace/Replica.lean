/-!
Replicas as the name server lists them: each has an address, and a qualifier that several may
share. A set of replicas keeps the order in which they were listed.
-/
namespace ReplicatedSpace

structure Replica where
  address : String
  qualifier : String
deriving DecidableEq

def Replica.render (replica : Replica) : String := s!"{replica.qualifier}@{replica.address}"

/-- The replicas of one discovery. -/
structure ReplicaSet where
  entries : List Replica
deriving DecidableEq

namespace ReplicaSet

def empty : ReplicaSet := ⟨[]⟩

def size (replicas : ReplicaSet) : Nat := replicas.entries.length

def isEmpty (replicas : ReplicaSet) : Bool := replicas.entries.isEmpty

def get? (replicas : ReplicaSet) (index : Nat) : Option Replica := replicas.entries[index]?

/-- The first index that holds the qualifier. -/
def position? (replicas : ReplicaSet) (qualifier : String) : Option Nat :=
  replicas.entries.findIdx? (·.qualifier = qualifier)

/-- The first replica with the qualifier. -/
def find? (replicas : ReplicaSet) (qualifier : String) : Option Replica :=
  (replicas.position? qualifier).bind replicas.get?

theorem position?_lt {replicas : ReplicaSet} {qualifier : String} {index : Nat}
    (found : replicas.position? qualifier = some index) : index < replicas.size := by
  obtain ⟨inside, _⟩ := List.findIdx?_eq_some_iff_getElem.mp found
  exact inside

theorem find?_eq (replicas : ReplicaSet) (qualifier : String) :
    replicas.find? qualifier = replicas.entries.find? (·.qualifier = qualifier) := by
  rcases replicas with ⟨entries⟩
  simp only [find?, position?]
  induction entries with
  | nil => rfl
  | cons first rest ih =>
    by_cases same : first.qualifier = qualifier
    · simp [List.findIdx?_cons, same, get?]
    · simp only [List.findIdx?_cons, same, decide_false, Bool.false_eq_true, ↓reduceIte,
        not_false_eq_true, List.find?_cons_of_neg]
      rw [← ih]
      cases rest.findIdx? (fun replica => decide (replica.qualifier = qualifier)) <;> simp [get?]

end ReplicaSet
end ReplicatedSpace
