import ReplicatedSpace.Error
import ReplicatedSpace.Span
import ReplicatedSpace.Text.Letter

/-!
The settings of a client: which service it uses, where the name server and the sequencer are, how
often a failed operation starts over, how far replicas are staggered, and what is logged.
-/
namespace ReplicatedSpace

structure Settings where
  serviceName : String
  qualifier : Option String
  nameServer : String
  sequencer : String
  retries : UInt32
  staggerMillis : UInt64
  logLevel : String
deriving DecidableEq

namespace Settings

/-- The settings of a client that was told nothing. -/
def standard : Settings :=
  { serviceName := "TupleSpaces"
    qualifier := none
    nameServer := "http://localhost:5001"
    sequencer := "http://localhost:8080"
    retries := 1
    staggerMillis := 1000
    logLevel := "info" }

def stagger (settings : Settings) : Span := .ofMillis settings.staggerMillis

/-- The texts that must not be blank, with their names, in the order in which they are checked. -/
def neededTexts (settings : Settings) : List (String × String) :=
  [("service_name", settings.serviceName), ("name_server", settings.nameServer),
    ("sequencer", settings.sequencer)]

def check (settings : Settings) : Except Error Unit :=
  match settings.neededTexts.find? (fun needed => Text.isAllBlank needed.2) with
  | some (field, _) => .error (.invalidConfig (.blank field))
  | none => .ok ()

theorem check_eq_ok_iff (settings : Settings) :
    settings.check = .ok () ↔
      ∀ needed ∈ settings.neededTexts, Text.isAllBlank needed.2 = false := by
  unfold check
  split
  · rename_i field value found
    constructor
    · intro impossible; cases impossible
    · intro none
      have := none _ (List.mem_of_find?_eq_some found)
      have blank := List.find?_some found
      simp_all
  · rename_i found
    simpa using found

end Settings
end ReplicatedSpace
