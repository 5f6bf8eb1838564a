import ReplicatedSpace.Http.Wire
import ReplicatedSpace.Session.Run
import Std.Async.DNS
import Std.Async.TCP
import Std.Time

/-!
The program: a session on the standard input and output, with the clock of the machine and a
connection for every request.
-/
namespace ReplicatedSpace.Main

open Std.Async Std.Net
open ReplicatedSpace.Session

def addressOf (address : IPAddr) (port : UInt16) : SocketAddress :=
  match address with
  | .v4 addr => .v4 ⟨addr, port⟩
  | .v6 addr => .v6 ⟨addr, port⟩

partial def receive (socket : TCP.Socket.Client) (earlier : ByteArray) : IO ByteArray := do
  let more ← try (socket.recv? 65536).block catch _ => pure none
  match more with
  | some more => receive socket (earlier ++ more)
  | none => return earlier

def exchange? (request : Http.Request) : IO (Option Http.Response) := do
  if request.url.secure then return none
  let port := UInt16.ofNat (request.url.port.getD (Url.standardPort false))
  let addresses ← try (DNS.getAddrInfo (.ofList request.url.host) "").block catch _ => pure #[]
  for address in addresses do
    let reached ← try
        let socket ← TCP.Socket.Client.mk
        (socket.connect (addressOf address port)).block
        pure (some socket)
      catch _ => pure none
    if let some socket := reached then
      try
        (socket.send ⟨request.bytes.toArray⟩).block
        return Http.Response.ofBytes? (← receive socket .empty).toList
      catch _ => return none
  return none

/-- What stays the same in a session. -/
structure Setting where
  settings : Settings
  filter : Log.Filter
  identity : String
  /-- When the session began, in milliseconds. -/
  began : Nat

def Setting.directory (setting : Setting) : Http.Directory := .ofSettings setting.settings

def Setting.elapsed (setting : Setting) : IO Nat := return (← IO.monoMsNow) - setting.began

partial def Setting.waitUntil (setting : Setting) (time : Nat) : IO Unit := do
  let elapsed ← setting.elapsed
  if elapsed < time then
    IO.sleep (min (time - elapsed) 86400000).toUInt32
    setting.waitUntil time

def stamp : IO String := do
  let time := Std.Time.DateTime.ofTimestampWithZone (← Std.Time.Timestamp.now) .UTC
  return time.format "uuuu-MM-dd'T'HH:mm:ss.SSSSSS" ++ "Z"

def Setting.emit (setting : Setting) (entry : Entry) : IO Unit := do
  for record in entry.records setting.directory setting.identity do
    if setting.filter.shows record then IO.eprintln s!"{← stamp} {record.line}"
  if let some error := entry.complaint? then IO.eprint (complaint error)
  IO.print entry.output
  (← IO.getStdout).flush

/-- Takes a step when it is time for it. -/
def Setting.take (setting : Setting) (timeline : Timeline) (step : Step) : IO Timeline := do
  setting.waitUntil (timeline.timeOf step)
  let later ← match step with
    | .moved later => pure later
    | .asks question resume => do
      let sent ← setting.elapsed
      let exchange ← match setting.directory.request? question with
        | some request =>
          if request.url.isSendable then pure (Http.exchangeOf request (← exchange? request))
          else pure (.error (.unsendable request.url))
        | none => pure (.error .unbuildable)
      pure (resume (Http.answer question exchange ((← setting.elapsed) - sent)))
  for entry in happenedSince later timeline do setting.emit entry
  return later

partial def Setting.perform (setting : Setting) (timeline : Timeline) : IO Timeline := do
  match timeline.step? with
  | some step => setting.perform (← setting.take timeline step)
  | none => return timeline

/-- Lets time pass. -/
partial def Setting.pass (setting : Setting) (timeline : Timeline) (time : Nat) : IO Timeline := do
  match if timeline.isDueBy time then timeline.fire? else none with
  | some step => setting.pass (← setting.take timeline step) time
  | none =>
    setting.waitUntil time
    return { timeline with now := max timeline.now time }

partial def readLine (source : IO.FS.Stream) (earlier : List UInt8) : IO (List UInt8) := do
  match (← source.read 1).toList with
  | [] => return earlier.reverse
  | byte :: _ =>
    if byte = 0x0a then return (byte :: earlier).reverse else readLine source (byte :: earlier)

/-- Asks for lines and does what they say. -/
partial def Setting.converse (setting : Setting) (timeline : Timeline) : IO UInt32 := do
  setting.emit .prompted
  match Text.Utf8.decode (← readLine (← IO.getStdin) []) with
  | .error fault =>
    IO.eprint (lastWords fault.message)
    return 1
  | .ok "" =>
    setting.emit .closed
    return 0
  | .ok line =>
    let timeline ← setting.pass timeline (← setting.elapsed)
    match takeUp setting.settings.retries timeline (unended line) with
    | .done later refusal =>
      for entry in happenedSince later timeline ++ (refusal.map Entry.refused).toList do
        setting.emit entry
      setting.converse later
    | .work begun operation argument =>
      let later ← setting.perform begun
      for entry in reported later operation argument do setting.emit entry
      setting.converse later
    | .pause duration =>
      setting.converse (← setting.pass timeline (timeline.now + timeline.timer.sleep duration))
    | .exit =>
      setting.emit .closed
      return 0

def contentOf (name : String) : IO (Option (String × String)) := do
  try return some (name, ← IO.FS.readFile name) catch _ => return none

def run (arguments : List String) : IO UInt32 := do
  let names := match Options.read arguments with
    | .session options => options.fileNames
    | .help | .version | .misuse => []
  let files := (← names.mapM contentOf).filterMap id
  let bindings ← Settings.variableNames.filterMapM fun name => do
    return (← IO.getEnv name).map fun value => (name, value)
  let content? (name : String) := (files.find? (·.1 == name)).map (·.2)
  let start := Start.ofArguments content? bindings arguments
  let (filter, ignored) := start.filter
  for line in ignored do IO.eprintln line
  IO.print start.output
  IO.eprint start.complaints
  match start with
  | .ready settings =>
    let identity := Nat.repr (← IO.rand 0 2147483647)
    let setting : Setting := ⟨settings, filter, identity, ← IO.monoMsNow⟩
    setting.emit .opened
    setting.converse (.start settings 1)
  | .told _ | .misused | .unloaded _ | .unusable .. => return start.code.toUInt32

end ReplicatedSpace.Main

def main (arguments : List String) : IO UInt32 := ReplicatedSpace.Main.run arguments
