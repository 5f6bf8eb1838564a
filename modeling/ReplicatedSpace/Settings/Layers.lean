import ReplicatedSpace.Settings
import ReplicatedSpace.Settings.Field
import ReplicatedSpace.Settings.Format
import ReplicatedSpace.Settings.Way

/-!
Where settings come from: variables of the environment before a file before the standard. Every
field is looked up by itself, so that nothing said about one field bears on another.
-/
namespace ReplicatedSpace.Settings

def variableStart : List Char := "tuplespaces_".toList

/-- The name of the field that a variable sets. -/
def variableField? (name : String) : Option String :=
  let letters := name.toList.map Char.toLower
  if variableStart.isPrefixOf letters then some (.ofList (letters.drop variableStart.length))
  else none

/-- The names of the variables as they are usually written. -/
def variableNames : List String :=
  ["SERVICE_NAME", "QUALIFIER", "NAME_SERVER", "SEQUENCER", "RETRIES", "STAGGER_MS",
    "LOG_LEVEL"].map ("TUPLESPACES_" ++ ·)

/-- The layers above the standard. -/
structure Layers where
  bindings : List (String × String)
  file : Members

namespace Layers

/-- The value of a field in the environment; of several variables the last one counts. -/
def fromEnvironment? (layers : Layers) (field : String) : Option Value :=
  let named := layers.bindings.filterMap fun (name, text) =>
    (variableField? name).bind fun key =>
      if key = field then some (ofVariable text)
      else if leadsInto field key then some .compound
      else none
  named.getLast?

/-- The value of a field in the file. -/
def fromFile? (layers : Layers) (field : String) : Option Value :=
  if layers.file.any fun member => leadsInto field member.1 then some .compound
  else layers.file.get? field

/-- The value that counts for a field. -/
def value? (layers : Layers) (field : String) : Option Value :=
  (layers.fromEnvironment? field).or (layers.fromFile? field)

/-- A field's value as its setting takes it, or the standard. -/
def get {α : Type} (layers : Layers) (field : String) (as? : Value → Option α) (standard : α) :
    Option α :=
  match layers.value? field with
  | some value => as? value
  | none => some standard

/-- All settings, if every value is one that its setting takes. -/
def settings? (layers : Layers) : Option Settings := do
  return {
    serviceName := ← layers.get "service_name" asText? standard.serviceName
    qualifier := ← layers.get "qualifier" asOption? standard.qualifier
    nameServer := ← layers.get "name_server" asText? standard.nameServer
    sequencer := ← layers.get "sequencer" asText? standard.sequencer
    retries := ← layers.get "retries" asShort? standard.retries
    staggerMillis := ← layers.get "stagger_ms" asLong? standard.staggerMillis
    logLevel := ← layers.get "log_level" asText? standard.logLevel }

end Layers

/-- The file that settings are read from. -/
inductive File
  /-- There is none, and none is needed. -/
  | absent
  /-- One is needed that is not there. -/
  | missing
  | content (format : Format) (text : String)

/-- The members of a file. -/
def File.members? : File → Option Members
  | absent => some []
  | missing => none
  | content format text => format.members? (.ofList (Text.Utf8.dropMark text.toList))

/-- Usable settings from a file and the environment. -/
def load (file : File) (bindings : List (String × String)) : Except Error Settings :=
  match file.members?.bind fun members => Layers.settings? ⟨bindings, members⟩ with
  | some settings => settings.check.map fun _ => settings
  | none => .error (.invalidConfig .unreadable)

end ReplicatedSpace.Settings
