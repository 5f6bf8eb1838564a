import Mathlib.Data.List.Basic
import Mathlib.Data.List.TakeWhile
import ReplicatedSpace.Settings.Layers

/-!
Settings field by field. What the environment says of a field counts before what the file says, and
that before the standard; nothing else has a say in the field. Settings cannot be loaded if what
counts for some field is nothing that the field takes, or if they are not usable together.
-/
namespace ReplicatedSpace.Settings

/-- One of the settings. -/
inductive Field
  | serviceName
  | qualifier
  | nameServer
  | sequencer
  | retries
  | staggerMillis
  | logLevel
deriving DecidableEq

namespace Field

/-- The name of a field in files, and in lower case behind the start of a variable's name. -/
def name : Field → String
  | serviceName => "service_name"
  | qualifier => "qualifier"
  | nameServer => "name_server"
  | sequencer => "sequencer"
  | retries => "retries"
  | staggerMillis => "stagger_ms"
  | logLevel => "log_level"

def all : List Field :=
  [serviceName, qualifier, nameServer, sequencer, retries, staggerMillis, logLevel]

/-- What a field holds. -/
abbrev Content : Field → Type
  | serviceName | nameServer | sequencer | logLevel => String
  | qualifier => Option String
  | retries => UInt32
  | staggerMillis => UInt64

/-- What a field holds in settings. -/
def of (settings : Settings) : (field : Field) → field.Content
  | serviceName => settings.serviceName
  | qualifier => settings.qualifier
  | nameServer => settings.nameServer
  | sequencer => settings.sequencer
  | retries => settings.retries
  | staggerMillis => settings.staggerMillis
  | logLevel => settings.logLevel

/-- What a field makes of a value, if it takes it. -/
def convert? : (field : Field) → Value → Option field.Content
  | serviceName | nameServer | sequencer | logLevel => asText?
  | qualifier => asOption?
  | retries => asShort?
  | staggerMillis => asLong?

/-- The settings with these contents. -/
def settingsOf (contents : (field : Field) → field.Content) : Settings :=
  { serviceName := contents serviceName
    qualifier := contents qualifier
    nameServer := contents nameServer
    sequencer := contents sequencer
    retries := contents retries
    staggerMillis := contents staggerMillis
    logLevel := contents logLevel }

theorem of_settingsOf (contents : (field : Field) → field.Content) (field : Field) :
    field.of (settingsOf contents) = contents field := by
  cases field <;> rfl

theorem ext_of {settings other : Settings}
    (same : ∀ field : Field, field.of settings = field.of other) : settings = other := by
  rcases settings with ⟨_, _, _, _, _, _, _⟩
  rcases other with ⟨_, _, _, _, _, _, _⟩
  cases same serviceName
  cases same qualifier
  cases same nameServer
  cases same sequencer
  cases same retries
  cases same staggerMillis
  cases same logLevel
  rfl

/-- The text that the environment has for a field. -/
def text? (bindings : List (String × String)) (field : Field) : Option String :=
  (bindings.find? fun binding => variableField? binding.1 = some field.name).map (·.2)

/-- The value that counts for a field: that of the environment, or else that of the file. -/
def winner? (bindings : List (String × String)) (members : Members) (field : Field) :
    Option Value :=
  match field.text? bindings with
  | some text => some (ofVariable text)
  | none => members.get? field.name

/-- What a field comes to: what it makes of the value that counts, or the standard. -/
def content? (bindings : List (String × String)) (members : Members) (field : Field) :
    Option field.Content :=
  match field.winner? bindings members with
  | some value => field.convert? value
  | none => some (field.of standard)

end Field

/-- Whether a key is a name, with no steps behind it. -/
def isPlain (key : String) : Bool := key.toList.all Way.inName

theorem leadsInto_of_isPlain {key : String} (plain : isPlain key = true) (field : String) :
    leadsInto field key = false := by
  have whole : key.toList.dropWhile Way.inName = [] :=
    List.dropWhile_eq_nil_iff.mpr fun letter present => List.all_eq_true.mp plain letter present
  unfold leadsInto Way.read? Way.readName?
  dsimp only
  split
  · rfl
  · simp [whole, Way.readSteps?]

theorem Field.isPlain_name (field : Field) : isPlain field.name = true := by
  cases field <;> decide

/-- The variables of the settings are each that of a field, and no field has two. -/
structure Tidy (bindings : List (String × String)) : Prop where
  known : ∀ binding ∈ bindings, ∀ key ∈ variableField? binding.1, key ∈ Field.all.map Field.name
  single : (bindings.filterMap fun binding => variableField? binding.1).Nodup

namespace Layers

variable {bindings : List (String × String)} {members : Members}

theorem fromEnvironment?_eq (tidy : Tidy bindings) (field : Field) :
    fromEnvironment? ⟨bindings, members⟩ field.name = (field.text? bindings).map ofVariable := by
  have each (binding : String × String) (present : binding ∈ bindings) :
      ((variableField? binding.1).bind fun key =>
        if key = field.name then some (ofVariable binding.2)
        else if leadsInto field.name key then some .compound
        else none) =
      if variableField? binding.1 = some field.name then some (ofVariable binding.2) else none := by
    cases read : variableField? binding.1 with
    | none => simp
    | some key =>
      obtain ⟨other, _, same⟩ := List.mem_map.mp (tidy.known binding present key read)
      subst same
      simp [leadsInto_of_isPlain other.isPlain_name]
  unfold fromEnvironment? Field.text?
  dsimp only
  rw [List.filterMap_congr each]
  have single := tidy.single
  clear each tidy
  induction bindings with
  | nil => rfl
  | cons binding rest ih =>
    by_cases own : variableField? binding.1 = some field.name
    · simp only [List.filterMap_cons, own] at single
      have others : rest.filterMap (fun binding : String × String =>
          if variableField? binding.1 = some field.name then some (ofVariable binding.2)
          else none) = [] := by
        refine List.filterMap_eq_nil_iff.mpr fun other present => if_neg fun again => ?_
        have listed : field.name ∈ rest.filterMap fun binding => variableField? binding.1 :=
          List.mem_filterMap.mpr ⟨other, present, again⟩
        exact (List.nodup_cons.mp single).1 listed
      simp [own, others]
    · have rest' : (rest.filterMap fun binding => variableField? binding.1).Nodup :=
        single.sublist (.filterMap _ (List.sublist_cons_self ..))
      simpa [own] using ih rest'

theorem fromFile?_eq (plain : ∀ member ∈ members, isPlain member.1 = true) (field : String) :
    fromFile? ⟨bindings, members⟩ field = members.get? field := by
  have none : (members.any fun member => leadsInto field member.1) = false :=
    List.any_eq_false.mpr fun member present => by
      rw [leadsInto_of_isPlain (plain member present)]
      exact Bool.false_ne_true
  unfold fromFile?
  rw [none]
  rfl

/-- What the layers come to for a field, or the standard. -/
def of? (layers : Layers) (field : Field) : Option field.Content :=
  layers.get field.name field.convert? (field.of standard)

theorem of?_eq_content? (tidy : Tidy bindings)
    (plain : ∀ member ∈ members, isPlain member.1 = true) (field : Field) :
    of? ⟨bindings, members⟩ field = field.content? bindings members := by
  have counts : value? ⟨bindings, members⟩ field.name = field.winner? bindings members := by
    rw [value?, fromEnvironment?_eq tidy, fromFile?_eq plain, Field.winner?]
    cases field.text? bindings <;> rfl
  rw [of?, get, counts]
  rfl

theorem settings?_eq_some_iff (layers : Layers) (settings : Settings) :
    layers.settings? = some settings ↔
      ∀ field : Field, layers.of? field = some (field.of settings) := by
  constructor
  · intro whole field
    simp only [settings?, Option.bind_eq_bind, Option.bind_eq_some_iff, Option.pure_def,
      Option.some.injEq] at whole
    obtain ⟨_, serviceName, _, qualifier, _, nameServer, _, sequencer, _, retries, _, millis, _,
      logLevel, same⟩ := whole
    subst same
    cases field with
    | serviceName => exact serviceName
    | qualifier => exact qualifier
    | nameServer => exact nameServer
    | sequencer => exact sequencer
    | retries => exact retries
    | staggerMillis => exact millis
    | logLevel => exact logLevel
  · intro each
    simp only [settings?, Option.bind_eq_bind, Option.bind_eq_some_iff, Option.pure_def,
      Option.some.injEq]
    exact ⟨_, each .serviceName, _, each .qualifier, _, each .nameServer, _, each .sequencer, _,
      each .retries, _, each .staggerMillis, _, each .logLevel, rfl⟩

theorem settings?_eq_none_iff (layers : Layers) :
    layers.settings? = none ↔ ∃ field : Field, layers.of? field = none := by
  constructor
  · intro nothing
    by_contra all
    have some (field : Field) : (layers.of? field).isSome = true :=
      Option.isSome_iff_ne_none.mpr fun none => all ⟨field, none⟩
    have whole := (layers.settings?_eq_some_iff
      (Field.settingsOf fun field => Option.get _ (some field))).mpr fun field => by
        rw [Field.of_settingsOf, Option.some_get]
    rw [nothing] at whole
    cases whole
  · rintro ⟨field, nothing⟩
    refine Option.eq_none_iff_forall_ne_some.mpr fun settings whole => ?_
    have content := (layers.settings?_eq_some_iff settings).mp whole field
    rw [nothing] at content
    cases content

end Layers

section Load

variable {file : File} {bindings : List (String × String)} {members : Members}

theorem load_eq_ok_iff (read : file.members? = some members) (settings : Settings) :
    load file bindings = .ok settings ↔
      (∀ field : Field, Layers.of? ⟨bindings, members⟩ field = some (field.of settings)) ∧
        settings.check = .ok () := by
  rw [← Layers.settings?_eq_some_iff, load, read, Option.bind_some]
  cases Layers.settings? ⟨bindings, members⟩ with
  | none => simp
  | some loaded =>
    cases check : loaded.check with
    | ok =>
      simp only [check, Except.map]
      constructor
      · rintro ⟨⟩
        exact ⟨rfl, check⟩
      · rintro ⟨⟨⟩, _⟩
        rfl
    | error error =>
      simp only [check, Except.map]
      constructor
      · rintro ⟨⟩
      · rintro ⟨⟨⟩, usable⟩
        cases check.symm.trans usable

theorem load_eq_error_iff (read : file.members? = some members) (error : Error) :
    load file bindings = .error error ↔
      (∃ field : Field, Layers.of? ⟨bindings, members⟩ field = none) ∧
          error = .invalidConfig .unreadable ∨
        ∃ settings, (∀ field : Field,
            Layers.of? ⟨bindings, members⟩ field = some (field.of settings)) ∧
          settings.check = .error error := by
  simp only [← Layers.settings?_eq_some_iff, ← Layers.settings?_eq_none_iff]
  rw [load, read, Option.bind_some]
  cases Layers.settings? ⟨bindings, members⟩ with
  | none => simp [eq_comm]
  | some loaded =>
    cases check : loaded.check with
    | ok => simp [Except.map, check]
    | error fault => simp [Except.map, check]

/-- Where the file can be read, its keys are plain and the variables are tidy, every field is what
the environment says, or else what the file says, or else the standard. Loading fails if and only if
what counts for some field is nothing that the field takes, or all fields together are not usable.
No field of what is loaded depends on more than the value that counts for it, and where the same
values count, loading comes to the same. -/
theorem load_field_by_field (read : file.members? = some members)
    (plain : ∀ member ∈ members, isPlain member.1 = true) (tidy : Tidy bindings) :
    (∀ settings, load file bindings = .ok settings ↔
      (∀ field : Field, field.content? bindings members = some (field.of settings)) ∧
        settings.check = .ok ()) ∧
    (∀ error, load file bindings = .error error ↔
      (∃ field : Field, field.content? bindings members = none) ∧
          error = .invalidConfig .unreadable ∨
        ∃ settings, (∀ field : Field, field.content? bindings members = some (field.of settings)) ∧
          settings.check = .error error) ∧
    ∀ (other : File) (bindings' : List (String × String)) (members' : Members),
      other.members? = some members' → (∀ member ∈ members', isPlain member.1 = true) →
      Tidy bindings' →
      (∀ (field : Field) (settings settings' : Settings),
        field.winner? bindings members = field.winner? bindings' members' →
        load file bindings = .ok settings → load other bindings' = .ok settings' →
        field.of settings = field.of settings') ∧
      ((∀ field : Field, field.winner? bindings members = field.winner? bindings' members') →
        load file bindings = load other bindings') := by
  have loads := @load_eq_ok_iff _ bindings _ read
  have fails := @load_eq_error_iff _ bindings _ read
  simp only [Layers.of?_eq_content? tidy plain] at loads fails
  refine ⟨loads, fails, fun other bindings' members' read' plain' tidy' => ⟨?_, ?_⟩⟩
  · intro field settings settings' same loaded loaded'
    have content := ((loads settings).mp loaded).1 field
    have content' := ((load_eq_ok_iff read' settings').mp loaded').1 field
    rw [Layers.of?_eq_content? tidy' plain'] at content'
    rw [Field.content?, same] at content
    exact Option.some.inj (content.symm.trans content')
  · intro same
    have contents (field : Field) :
        field.content? bindings members = field.content? bindings' members' := by
      rw [Field.content?, same, Field.content?]
    cases loaded : load file bindings with
    | ok settings =>
      obtain ⟨each, usable⟩ := (loads settings).mp loaded
      refine ((load_eq_ok_iff read' settings).mpr ⟨fun field => ?_, usable⟩).symm
      rw [Layers.of?_eq_content? tidy' plain']
      exact (contents field).symm.trans (each field)
    | error error =>
      have fault := (fails error).mp loaded
      simp only [contents, ← Layers.of?_eq_content? tidy' plain'] at fault
      exact ((load_eq_error_iff read' error).mpr fault).symm

/-- What a file says of a field counts for nothing where the environment says something else. -/
theorem variables_before_file : ∃ settings : Settings,
    load (.content .toml "service_name = \"\"\nretries = \"x\"\nlog_level = 7\n")
      [("TUPLESPACES_RETRIES", "03"), ("tuplespaces_service_name", "S")] = .ok settings ∧
    settings.serviceName = "S" ∧ settings.retries = 3 ∧ settings.logLevel = "7" ∧
    settings.sequencer = standard.sequencer := by
  have read : File.members?
      (.content .toml "service_name = \"\"\nretries = \"x\"\nlog_level = 7\n") =
        some [("log_level", .integer 7), ("retries", .string "x"),
          ("service_name", .string "")] := by
    decide +kernel
  have tidy : Tidy [("TUPLESPACES_RETRIES", "03"), ("tuplespaces_service_name", "S")] :=
    ⟨by decide +kernel, by decide +kernel⟩
  obtain ⟨loads, _⟩ := load_field_by_field read (by decide) tidy
  refine ⟨{ standard with serviceName := "S", retries := 3, logLevel := "7" },
    (loads _).mpr ⟨fun field => ?_, rfl⟩, rfl, rfl, rfl, rfl⟩
  cases field <;> decide +kernel

end Load

end ReplicatedSpace.Settings
