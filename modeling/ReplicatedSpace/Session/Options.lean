import ReplicatedSpace.Settings.Layers
import ReplicatedSpace.Settings.Format

/-!
The options of the program. They come before the environment and the file of the settings, and each
is given at most once.
-/
namespace ReplicatedSpace.Session

structure Options where
  file : Option String
  nameServer : Option String
  sequencer : Option String
  service : Option String
  qualifier : Option String
  retries : Option UInt32
  staggerMillis : Option UInt64
  debug : Bool
deriving DecidableEq

inductive Request
  | session (options : Options)
  | help
  | version
  | misuse

namespace Options

def none : Options :=
  { file := .none
    nameServer := .none
    sequencer := .none
    service := .none
    qualifier := .none
    retries := .none
    staggerMillis := .none
    debug := false }

/-- What is shown to whoever asks for help. -/
def help : String := "\n".intercalate
  ["Client for a replicated tuple space", "",
    "Usage: tuplespaces-client [OPTIONS]", "",
    "Options:",
    "      --config <CONFIG>            Configuration file (default: ./tuplespaces.toml if present)",
    "      --name-server <NAME_SERVER>  Name server URL",
    "      --sequencer <SEQUENCER>      Sequencer URL",
    "      --service <SERVICE>          Service name to look up",
    "      --qualifier <QUALIFIER>      Only use replicas with this qualifier",
    "      --retries <RETRIES>          Whole-operation retries after a replica failure",
    "      --stagger-ms <STAGGER_MS>    Stagger slot between replicas, in milliseconds",
    "      --debug                      Debug logging",
    "  -h, --help                       Print help",
    "  -V, --version                    Print version", ""]

def once {α : Type} (earlier value : Option α) : Option (Option α) :=
  match earlier, value with
  | .none, some value => some (some value)
  | _, _ => .none

def readRetries? (text : String) : Option UInt32 :=
  (Settings.readInteger? text.toList).bind fun value =>
    if 0 ≤ value ∧ value < UInt32.size then some (.ofNat value.toNat) else .none

def readMillis? (text : String) : Option UInt64 :=
  (Settings.readNatural? text.toList).bind fun value =>
    if value < UInt64.size then some (.ofNat value) else .none

/-- Gives an option its value. -/
def set? (options : Options) (name value : String) : Option Options :=
  match name with
  | "config" => (once options.file (if value.isEmpty then .none else some value)).map
      fun file => { options with file }
  | "name-server" => (once options.nameServer (some value)).map
      fun nameServer => { options with nameServer }
  | "sequencer" => (once options.sequencer (some value)).map
      fun sequencer => { options with sequencer }
  | "service" => (once options.service (some value)).map fun service => { options with service }
  | "qualifier" => (once options.qualifier (some value)).map
      fun qualifier => { options with qualifier }
  | "retries" => (once options.retries (readRetries? value)).map
      fun retries => { options with retries }
  | "stagger-ms" => (once options.staggerMillis (readMillis? value)).map
      fun staggerMillis => { options with staggerMillis }
  | _ => .none

/-- An argument by its form: a long option with the value in it, if there is one, a short option, or
a word. -/
inductive Form
  | long (name : String) (value : Option String)
  | short (letter : Char)
  | word

def formOf (argument : String) : Form :=
  match argument.toList with
  | '-' :: '-' :: rest =>
    let name := rest.takeWhile (· ≠ '=')
    .long (.ofList name)
      (if name = rest then .none else some (.ofList (rest.drop (name.length + 1))))
  | '-' :: letter :: _ => .short letter
  | _ => .word

def isValue (argument : String) : Bool :=
  match formOf argument with
  | .word => true
  | .long .. | .short _ => false

/-- Reads arguments from left to right. Whoever asks for help or the version gets it at once. -/
def readAll (options : Options) : List String → Request
  | [] => .session options
  | argument :: rest =>
    match formOf argument with
    | .word => .misuse
    | .short letter => if letter = 'h' then .help else if letter = 'V' then .version else .misuse
    | .long "" .none => if rest.isEmpty then .session options else .misuse
    | .long "help" .none => .help
    | .long "version" .none => .version
    | .long "debug" .none =>
      if options.debug then .misuse else readAll { options with debug := true } rest
    | .long name (some value) =>
      match options.set? name value with
      | some later => readAll later rest
      | .none => .misuse
    | .long name .none =>
      match rest with
      | value :: rest =>
        match if isValue value then options.set? name value else .none with
        | some later => readAll later rest
        | .none => .misuse
      | [] => .misuse

def read (arguments : List String) : Request := readAll none arguments

/-- Settings in which the options stand in place of what they are about. -/
def override (options : Options) (settings : Settings) : Settings :=
  { serviceName := options.service.getD settings.serviceName
    qualifier := options.qualifier.or settings.qualifier
    nameServer := options.nameServer.getD settings.nameServer
    sequencer := options.sequencer.getD settings.sequencer
    retries := options.retries.getD settings.retries
    staggerMillis := options.staggerMillis.getD settings.staggerMillis
    logLevel := if options.debug then "debug" else settings.logLevel }

def standardFile : String := "tuplespaces.toml"

def fileNames (options : Options) : List String :=
  let name := options.file.getD standardFile
  name :: (Settings.candidates name).map (·.1)

/-- The file of the settings, by the contents of files. A file that is asked for has to be there. -/
def fileOf (options : Options) (content? : String → Option String) : Settings.File :=
  match options.file with
  | .none =>
    match Settings.lookUp content? standardFile with
    | some (format, content) => .content format content
    | .none => .absent
  | some name =>
    match Settings.lookUp content? name with
    | some (format, content) => .content format content
    | .none => .missing

/-- The settings of a session. What the file and the environment say has to be usable by itself. -/
def settings (options : Options) (content? : String → Option String)
    (bindings : List (String × String)) : Except Error Settings :=
  (Settings.load (options.fileOf content?) bindings).map options.override

end Options
end ReplicatedSpace.Session
