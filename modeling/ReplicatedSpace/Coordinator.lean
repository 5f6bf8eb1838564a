import ReplicatedSpace.Error
import ReplicatedSpace.Replica
import ReplicatedSpace.Settings
import ReplicatedSpace.Stagger

/-!
What a coordinator knows between operations: which replicas there are, when it is the turn of each,
the delays that its user set, and the handle of the sequencer that it asks. The replicas and their
delays are replaced together at every discovery and dropped together after a failure; the delays
that a user set outlive both.
-/
namespace ReplicatedSpace

/-- The delays that a user set, one for a qualifier. -/
structure Overrides where
  entries : List (String × Span)
deriving DecidableEq

namespace Overrides

def empty : Overrides := ⟨[]⟩

def find? (overrides : Overrides) (qualifier : String) : Option Span :=
  (overrides.entries.find? (·.1 = qualifier)).map (·.2)

/-- Sets the delay of a qualifier in place of an earlier one. -/
def set (overrides : Overrides) (qualifier : String) (delay : Span) : Overrides :=
  ⟨(qualifier, delay) :: overrides.entries.filter (·.1 ≠ qualifier)⟩

@[simp] theorem find?_empty (qualifier : String) : empty.find? qualifier = none := rfl

@[simp] theorem find?_set (overrides : Overrides) (qualifier other : String) (delay : Span) :
    (overrides.set qualifier delay).find? other =
      if other = qualifier then some delay else overrides.find? other := by
  rcases overrides with ⟨entries⟩
  by_cases same : other = qualifier
  · simp [set, find?, same]
  · have kept (entry : String × Span) :
        (decide (entry.1 ≠ qualifier) = true ∧ decide (entry.1 = other) = true) ↔
          entry.1 = other := by
      by_cases found : entry.1 = other <;> simp [found, same]
    simp only [set, find?, same, ↓reduceIte, List.find?_cons, Ne.symm same, decide_false,
      List.find?_filter, kept]

end Overrides

/-- Moves the first replica with the qualifier to that delay, if there is one. -/
def Stagger.override (stagger : Stagger) (replicas : ReplicaSet) (qualifier : String)
    (delay : Span) : Stagger :=
  match replicas.position? qualifier with
  | some index => (stagger.setDelay? index delay).getD stagger
  | none => stagger

structure Coordinator where
  service : String
  qualifier : Option String
  slot : Span
  handle : Nat
  replicas : ReplicaSet
  stagger : Stagger
  overrides : Overrides
deriving DecidableEq

namespace Coordinator

/-- A coordinator that knows nothing yet. -/
def ofSettings (settings : Settings) : Coordinator :=
  { service := settings.serviceName
    qualifier := settings.qualifier
    slot := settings.stagger
    handle := 0
    replicas := .empty
    stagger := .empty
    overrides := .empty }

/-- Sets the delay of a replica, now and after every later discovery. While replicas are known, one
of them has to have the qualifier. -/
def setDelay (coordinator : Coordinator) (qualifier : String) (delay : Span) :
    Except Error Coordinator :=
  if !coordinator.replicas.isEmpty && (coordinator.replicas.position? qualifier).isNone then
    .error (.invalidArgument (.unknownQualifier qualifier))
  else
    .ok { coordinator with
      stagger := coordinator.stagger.override coordinator.replicas qualifier delay
      overrides := coordinator.overrides.set qualifier delay }

/-- Takes over the replicas of a discovery, each with its default delay unless the user set
another. -/
def install (coordinator : Coordinator) (entries : List Replica) : Coordinator :=
  let replicas : ReplicaSet := ⟨entries⟩
  { coordinator with
    replicas
    stagger := coordinator.overrides.entries.foldl
      (fun stagger (qualifier, delay) => stagger.override replicas qualifier delay)
      (.uniform replicas.size coordinator.slot) }

/-- Forgets the replicas and their delays. -/
def invalidate (coordinator : Coordinator) : Coordinator :=
  { coordinator with replicas := .empty, stagger := .empty }

/-- Whom to call and after which delay, in the order of the delays. -/
def plan (coordinator : Coordinator) : List (Replica × Span) :=
  coordinator.stagger.order.filterMap fun index =>
    (coordinator.replicas.get? index).map fun replica =>
      (replica, (coordinator.stagger.delay? index).getD .zero)

end Coordinator
end ReplicatedSpace
