import ReplicatedSpace.Log.Filter
import ReplicatedSpace.Session
import ReplicatedSpace.Session.Input
import ReplicatedSpace.Session.Options

/-!
Runs of the program: arguments, files, variables and an input go in, and an exit code and texts come
out.
-/
namespace ReplicatedSpace.Session

def complaint (error : Error) : String := s!"[ERROR] {error.message}\n"

def lastWords (message : String) : String := s!"Error: {message}\n"

/-- What arguments lead to, with what they find. -/
inductive Start
  /-- The text that was asked for. -/
  | told (text : String)
  | misused
  /-- There are no settings. -/
  | unloaded (error : Error)
  /-- There are settings that no session can be held with. -/
  | unusable (settings : Settings) (error : Error)
  | ready (settings : Settings)

namespace Start

def ofArguments (content? : String → Option String) (bindings : List (String × String))
    (arguments : List String) : Start :=
  match Options.read arguments with
  | .help => .told Options.help
  | .version => .told s!"tuplespaces-client {version}\n"
  | .misuse => .misused
  | .session options =>
    match options.settings content? bindings with
    | .error error => .unloaded error
    | .ok settings =>
      match settings.check with
      | .error error => .unusable settings error
      | .ok _ => .ready settings

def code : Start → Nat
  | told _ | ready _ => 0
  | unloaded _ | unusable .. => 1
  | misused => 2

def output : Start → String
  | told text => text
  | misused | unloaded _ | unusable .. | ready _ => ""

def complaints : Start → String
  | told _ | ready _ => ""
  | misused => "error: unexpected arguments\n\nFor more information, try '--help'.\n"
  | unloaded error | unusable _ error => lastWords error.message

/-- The settings, if there are any. -/
def settings? : Start → Option Settings
  | unusable settings _ | ready settings => some settings
  | told _ | misused | unloaded _ => none

/-- What decides which records are shown, and what is told of it. -/
def filter (start : Start) : Log.Filter × List String :=
  match start.settings? with
  | some settings => Log.Filter.read settings.logLevel
  | none => (.off, [])

end Start

/-- A whole session: what it did, and the fault that its input broke off with. -/
def hold {σ : Type} (environment : Environment σ) (state : σ) (settings : Settings)
    (input : Input) (timer : Timer := .standard) : List Entry × Option Text.Utf8.Fault :=
  let (last, entries) :=
    follow environment settings.retries ⟨.start settings 1 timer, state⟩ input.lines
  match last, input.fault with
  | some _, some fault => (.opened :: entries, some fault)
  | _, _ => (.opened :: entries ++ [.closed], none)

/-- How the program starts, what its session does, and the fault that the input broke off with. -/
structure Run where
  start : Start
  entries : List Entry
  fault : Option Text.Utf8.Fault

namespace Run

/-- The run that has come to these settings, whoever answers its client. -/
def held {σ : Type} (environment : Environment σ) (state : σ) (settings : Settings)
    (input : List UInt8) (timer : Timer := .standard) : Run :=
  let (entries, fault) := hold environment state settings (.ofBytes input) timer
  ⟨.ready settings, entries, fault⟩

/-- The run on a network. -/
def ofStart {σ : Type} (network : Http.Network σ) (state : σ) (input : List UInt8)
    (start : Start) (timer : Timer := .standard) : Run :=
  match start with
  | .ready settings =>
    held (Http.environment (.ofSettings settings) network) state settings input timer
  | .told _ | .misused | .unloaded _ | .unusable .. => ⟨start, [], none⟩

def code (run : Run) : Nat := if run.fault.isSome then 1 else run.start.code

/-- What is on the standard output. -/
def output (run : Run) : String :=
  run.start.output ++ String.join (run.entries.map Entry.output)

/-- What is told besides the output. -/
inductive Notice
  | record (record : Log.Record)
  | text (text : String)

/-- The notices of an entry: its records that a filter shows, and what the user is told of an
error. -/
def noticesOf (settings : Settings) (filter : Log.Filter) (identity : String) (entry : Entry) :
    List Notice :=
  ((entry.records (.ofSettings settings) identity).filter filter.shows).map .record ++
    (entry.complaint?.map fun error => .text (complaint error)).toList

/-- All notices of a run, one after the other. -/
def notices (run : Run) (filter : Log.Filter) (identity : String) : List Notice :=
  .text run.start.complaints ::
    (match run.start.settings? with
      | some settings => run.entries.flatMap (noticesOf settings filter identity)
      | none => []) ++
    (run.fault.map fun fault => .text (lastWords fault.message)).toList

end Run
end ReplicatedSpace.Session
