import ReplicatedSpace.Proofs.FieldLayers
import ReplicatedSpace.Session.Run

/-!
Options in front of the layers of the settings. Every field is what its option says, or else what
the layers come to. The layers have to be usable by themselves, though, before an option counts: a
session starts if and only if they are, and the settings with the options are too.
-/
namespace ReplicatedSpace.Session

open Settings (Field File Layers Members Tidy isPlain)

namespace Options

/-- What options say of a field. -/
def field? (options : Options) : (field : Field) → Option field.Content
  | .serviceName => options.service
  | .qualifier => options.qualifier.map some
  | .nameServer => options.nameServer
  | .sequencer => options.sequencer
  | .retries => options.retries
  | .staggerMillis => options.staggerMillis
  | .logLevel => if options.debug then some "debug" else .none

theorem of_override (options : Options) (settings : Settings) (field : Field) :
    field.of (options.override settings) = (options.field? field).getD (field.of settings) := by
  cases field with
  | serviceName | nameServer | sequencer | retries | staggerMillis => rfl
  | qualifier => cases given : options.qualifier <;> simp [Field.of, override, field?, given]
  | logLevel => cases given : options.debug <;> simp [Field.of, override, field?, given]

end Options

namespace Start

variable {content? : String → Option String} {bindings : List (String × String)}
  {arguments : List String} {options : Options} {members : Members} {layered merged : Settings}

/-- How a session starts with the settings of its layers, and with its options in front of them. -/
def ofLayers (layered merged : Settings) : Start :=
  match layered.check with
  | .error error => .unloaded error
  | .ok _ =>
    match merged.check with
    | .error error => .unusable merged error
    | .ok _ => .ready merged

theorem ofLayers_eq_ready_iff (settings : Settings) :
    ofLayers layered merged = .ready settings ↔
      layered.check = .ok () ∧ merged.check = .ok () ∧ settings = merged := by
  unfold ofLayers
  cases layered.check with
  | error error => simp
  | ok =>
    cases merged.check with
    | error error => simp
    | ok => simp [eq_comm]

/-- Where every layer has values that the fields take, the settings of the layers decide together
with those that the options make of them. -/
theorem ofArguments_eq_ofLayers (asked : Options.read arguments = .session options)
    (read : (options.fileOf content?).members? = some members)
    (each : ∀ field : Field, Layers.of? ⟨bindings, members⟩ field = some (field.of layered)) :
    ofArguments content? bindings arguments = ofLayers layered (options.override layered) := by
  unfold ofArguments ofLayers Options.settings
  rw [asked]
  dsimp only
  cases check : layered.check with
  | error error =>
    have failed : Settings.load (options.fileOf content?) bindings = .error error :=
      (Settings.load_eq_error_iff read error).mpr (.inr ⟨layered, each, check⟩)
    rw [failed]
    rfl
  | ok =>
    have loaded : Settings.load (options.fileOf content?) bindings = .ok layered :=
      (Settings.load_eq_ok_iff read layered).mpr ⟨each, check⟩
    rw [loaded]
    rfl

/-- Where every layer has values that the fields take, every field is what its option says, or else
what the layers come to, and the session is that of these settings. It starts if and only if they
are usable and the layers are so by themselves. As long as the layers are, what they say of a field
that has an option makes no difference. -/
theorem session_of_options_and_layers (asked : Options.read arguments = .session options)
    (read : (options.fileOf content?).members? = some members)
    (taken : ∀ field : Field, (Layers.of? ⟨bindings, members⟩ field).isSome = true) :
    ∃ layered merged : Settings,
      (∀ field : Field, Layers.of? ⟨bindings, members⟩ field = some (field.of layered)) ∧
      ((∀ member ∈ members, isPlain member.1 = true) → Tidy bindings →
        ∀ field : Field, field.content? bindings members = some (field.of layered)) ∧
      (∀ field : Field, field.of merged = (options.field? field).getD (field.of layered)) ∧
      (∀ settings, ofArguments content? bindings arguments = .ready settings ↔
        layered.check = .ok () ∧ merged.check = .ok () ∧ settings = merged) ∧
      (layered.check = .ok () → merged.check = .ok () →
        ∀ (σ : Type) (network : Http.Network σ) (state : σ) (input : List UInt8),
          let session := hold (Http.environment (.ofSettings merged) network) state merged
            (.ofBytes input)
          Run.ofStart network state input (ofArguments content? bindings arguments) =
            ⟨.ready merged, session.1, session.2⟩) ∧
      ∀ (content?' : String → Option String) (bindings' : List (String × String))
        (members' : Members) (layered' : Settings),
        (options.fileOf content?').members? = some members' →
        (∀ field : Field, Layers.of? ⟨bindings', members'⟩ field = some (field.of layered')) →
        (∀ field : Field, options.field? field = none →
          Layers.of? ⟨bindings', members'⟩ field = Layers.of? ⟨bindings, members⟩ field) →
        layered.check = .ok () → layered'.check = .ok () →
        ofArguments content?' bindings' arguments = ofArguments content? bindings arguments := by
  let layered := Field.settingsOf fun field => Option.get _ (taken field)
  have each (field : Field) : Layers.of? ⟨bindings, members⟩ field = some (field.of layered) := by
    rw [Field.of_settingsOf, Option.some_get]
  have start := ofArguments_eq_ofLayers asked read each
  refine ⟨layered, options.override layered, each, ?_, options.of_override layered, ?_, ?_, ?_⟩
  · intro plain tidy field
    rw [← Layers.of?_eq_content? tidy plain]
    exact each field
  · intro settings
    rw [start]
    exact ofLayers_eq_ready_iff settings
  · intro usable usable' σ network state input
    have ready : ofLayers layered (options.override layered) =
        .ready (options.override layered) :=
      (ofLayers_eq_ready_iff _).mpr ⟨usable, usable', rfl⟩
    rw [start, ready]
    rfl
  · intro content?' bindings' members' layered' read' each' same usable usable'
    have merged : options.override layered' = options.override layered := by
      refine Field.ext_of fun field => ?_
      rw [options.of_override, options.of_override]
      cases given : options.field? field with
      | some content => rfl
      | none =>
        have contents := (each' field).symm.trans ((same field given).trans (each field))
        exact Option.some.inj contents
    rw [start, ofArguments_eq_ofLayers asked read' each', merged, ofLayers, ofLayers,
      usable, usable']

/-- A session starts with the sequencer of its options in place of that of the file. -/
theorem option_before_file : ofArguments
    (fun name => if name = "tuplespaces.toml" then some "sequencer = \"http://s\"\n" else none) []
    ["--sequencer", "http://t"] = .ready { Settings.standard with sequencer := "http://t" } := by
  have asked : Options.read ["--sequencer", "http://t"] =
      .session { Options.none with sequencer := some "http://t" } := by cbv
  have read : (Options.fileOf { Options.none with sequencer := some "http://t" }
      fun name => if name = "tuplespaces.toml" then some "sequencer = \"http://s\"\n"
        else none).members? = some [("sequencer", .string "http://s")] := by
    decide +kernel
  have each (field : Field) : Layers.of? ⟨[], [("sequencer", .string "http://s")]⟩ field =
      some (field.of { Settings.standard with sequencer := "http://s" }) := by
    cases field <;> decide +kernel
  obtain ⟨layered, merged, each', _, fields, starts, _⟩ := @session_of_options_and_layers _ [] _ _ _
    asked read fun field => by rw [each]; rfl
  have known : layered = { Settings.standard with sequencer := "http://s" } :=
    Field.ext_of fun field => Option.some.inj ((each' field).symm.trans (each field))
  have wanted : merged = { Settings.standard with sequencer := "http://t" } :=
    Field.ext_of fun field => by rw [fields, known]; cases field <;> rfl
  exact (starts _).mpr ⟨by rw [known]; rfl, by rw [wanted]; rfl, wanted.symm⟩

/-- A blank text that no option would leave in place keeps a session from starting. -/
theorem blank_behind_option_refused :
    Options.read ["--service", "S"] = .session { Options.none with service := some "S" } ∧
    (∀ field : Field, field.content? [("TUPLESPACES_SERVICE_NAME", " ")] [] =
      some (field.of { Settings.standard with serviceName := " " })) ∧
    (Options.override { Options.none with service := some "S" }
      { Settings.standard with serviceName := " " }).check = .ok () ∧
    ofArguments (fun _ => none) [("TUPLESPACES_SERVICE_NAME", " ")] ["--service", "S"] =
      .unloaded (.invalidConfig (.blank "service_name")) := by
  have asked : Options.read ["--service", "S"] =
      .session { Options.none with service := some "S" } := by cbv
  have each (field : Field) : field.content? [("TUPLESPACES_SERVICE_NAME", " ")] [] =
      some (field.of { Settings.standard with serviceName := " " }) := by
    cases field <;> decide +kernel
  refine ⟨asked, each, rfl, ?_⟩
  have tidy : Tidy [("TUPLESPACES_SERVICE_NAME", " ")] := ⟨by decide +kernel, by decide +kernel⟩
  have layered (field : Field) := (Layers.of?_eq_content? tidy (by decide) field).trans (each field)
  exact ofArguments_eq_ofLayers asked rfl layered

end Start
end ReplicatedSpace.Session
