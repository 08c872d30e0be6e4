import Reindex.Http.Wire
import Reindex.Program
import Reindex.Url.Names
import Std.Async.DNS
import Std.Async.TCP
import Std.Async.Timer

/-!
# The command

Lets the program act on the world: files are read, requests go out over plain TCP, pauses are slept.
The log is written as the events come.  What to do and what to say is decided elsewhere.
-/

namespace Reindex.Main

open Std.Async

/-- The number that the system gives an error; some come with a minus sign. -/
def systemCode (e : IO.Error) : Nat :=
  let code := match e with
    | .noFileOrDirectory _ code _ | .inappropriateType _ code _ | .permissionDenied _ code _
    | .invalidArgument _ code _ | .otherError code _ => code
    | _ => 0
  code.toInt32.toInt.natAbs

/-- Why a file could not be read. -/
def fileError (e : IO.Error) : FileError :=
  (FileError.ofCode? (systemCode e)).getD (.other (toString e))

/-- Reads a file. -/
def readFile (path : String) : IO (Except FileError Bytes) := do
  if path.toList.contains '\x00' then return .error .holdsNul
  try
    let content ← IO.FS.readBinFile path
    return .ok content.toList
  catch e => return .error (fileError e)

/-- What has been read of files. -/
def readerOf (known : List (String × Except FileError Bytes)) : Files.Reader :=
  fun path => (known.lookup path).getD (.error .notFound)

/-- Receives bytes until the other side has no more. -/
def receiveAll (socket : TCP.Socket.Client) : Async ByteArray := do
  let mut received := ByteArray.empty
  repeat
    match ← socket.recv? 65536 with
    | some chunk => received := received ++ chunk
    | none => break
  return received

/-- The address of a host. -/
def address (host : String) (port : UInt16) : Async Std.Net.SocketAddress := do
  let name := String.ofList ((host.toList.filter (· != '[')).filter (· != ']'))
  let found : Array Std.Net.IPAddr ← DNS.getAddrInfo name (toString port)
  match found[0]? with
  | some (Std.Net.IPAddr.v4 a) => return .v4 ⟨a, port⟩
  | some (Std.Net.IPAddr.v6 a) => return .v6 ⟨a, port⟩
  | none => throw (IO.userError "no address")

/-- Sends a request and waits for the reply. -/
def exchange (r : Http.Request) : Async Http.Reply := do
  let port := UInt16.ofNat (r.url.connectionPort?.getD 80)
  let socket ← TCP.Socket.Client.mk
  socket.connect (← address (r.url.host.getD "") port)
  socket.send ⟨r.wire.toArray⟩
  let bytes ← receiveAll socket
  return .ofBytes bytes.toList

/-- Sends a request; a reply that does not come in time counts as dropped. -/
def send (timeoutMs : Nat) (r : Http.Request) : IO (Except Http.Failure Http.Response) := do
  if r.url.scheme != "http" then
    return .error (if r.url.isHttp then .unanswered else .unsendable)
  let late : Async Http.Reply := do
    sleep (Std.Time.Millisecond.Offset.ofNat timeoutMs)
    return .dropped
  let reply ← try (Async.race (exchange r) late).block catch _ => pure .dropped
  return r.receive reply

/-- Writes the events of a run to standard output. -/
def writeLog (environment : Settings.Environment) (events : List Event) : IO Unit :=
  let subscriber := Subscriber.plain
  events.forM fun event =>
    IO.print (subscriber.write (Program.directives subscriber environment) event)

/-- Calls the service. -/
def call (load : Setup) (log : List Event → IO Unit) (timeoutMs : Nat) (c : Search.Call) :
    IO c.Result := do
  match c.immediate? with
  | some result => return result
  | none =>
    match load.client.request c with
    | .error e => return .error ⟨c.errorKind, e.message⟩
    | .ok r =>
      let (result, events) := Search.conclude r.url (← send timeoutMs r) c
      log events
      return result

/-- Fetches the dataset. -/
def fetch (log : List Event → IO Unit) (timeoutMs : Nat) (place : Dataset.Location) :
    IO (Except Run.Error (List Record)) := do
  match place with
  | .file path =>
    log [.readingFile path]
    return (Dataset.ofFile path (← readFile path)).mapError .fetch
  | .web url =>
    log [.downloading]
    let (result, events) := Dataset.ofAnswer url (← send timeoutMs (Dataset.request url))
    log events
    return result.mapError .fetch

/-- The longest pause that is slept at once, in milliseconds. -/
def maxSleep : Nat := 0xFFFFFFFF

/-- Lets a procedure act on the world. -/
def perform {ε α : Type} (load : Setup) (log : List Event → IO Unit) (timeoutMs : Nat) :
    Run.Procedure ε α → IO (Except ε α)
  | .done result => return result
  | .call c next => do perform load log timeoutMs (next (← call load log timeoutMs c))
  | .fetch next => do perform load log timeoutMs (next (← fetch log timeoutMs load.dataset))
  | .pause ms next => do
    IO.sleep (UInt32.ofNat (min ms maxSleep))
    perform load log timeoutMs next
  | .log event next => do
    log [event]
    perform load log timeoutMs next

/-- The variables of the environment that can matter. -/
def inherited (envFile : Except FileError Bytes) : IO Settings.Environment := do
  let mentioned := match envFile with
    | .ok content => Settings.EnvFile.names content
    | .error _ => []
  let names := "RUST_LOG" :: (Settings.Flag.all.map (·.variableName)) ++ mentioned
  names.filterMapM fun name => do
    return (← IO.getEnv name).map (name, ·)

/-- Loads with these settings. -/
def load (settings : Settings) (log : List Event → IO Unit) : IO Program.Ending := do
  let known ← settings.mappingFile.toList.mapM fun path => return (path, ← readFile path)
  log (settings.setupEvents .common)
  match settings.setup .common (readerOf known) with
  | .error e => return .failed e
  | .ok load => return Program.conclude (← perform load log settings.timeoutMs load.procedure)

/-- Runs the program. -/
def run (arguments : List String) : IO Program.Ending := do
  let envFile ← readFile Program.envFileName
  let read := readerOf [(Program.envFileName, envFile)]
  let environment ← inherited envFile
  match Program.settings read arguments environment with
  | .error ending => return ending
  | .ok settings =>
    let log := writeLog (Program.environment read environment)
    let ending ← load settings log
    log ending.events
    return ending

end Reindex.Main

def main (arguments : List String) : IO UInt32 := do
  let ending ← Reindex.Main.run arguments
  IO.print ending.closing
  IO.eprint ending.stderr
  return ending.exitCode.toUInt32
