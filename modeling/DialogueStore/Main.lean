/-
The program: the command line in the surroundings of a system.

All that is decided is decided elsewhere.  Here the environment and the files are
read, bytes are sent and received, and texts are written.
-/
import DialogueStore.Cache.SweepLoop
import DialogueStore.CommandLine.Run
import DialogueStore.Http.Router
import DialogueStore.Remote.Wire
import Std.Async
import Std.Http

open Std.Async

namespace DialogueStore

namespace Outside

/-! ### Environment, files and time -/

def readEnvironment : IO Environment := do
  let names := [Environment.projectId, Environment.environment, Environment.maxEvents,
    Environment.remoteUrl, Environment.apiKey, CommandLine.configVariable]
  let values ← names.mapM fun name => return (name, ← IO.getEnv name)
  return fun name => (values.lookup name).join

def readText (path : String) : IO FileText := do
  try return FileText.ofBytes (← IO.FS.readBinFile path).toList
  catch
    | .noFileOrDirectory .. => return .error .missing
    | .inappropriateType .. => return .error .directory
    | e => return .error (.other (toString e))

/-- The files that a command line names, each read once. -/
def readFiles (env : Environment) (args : List String) : IO (String → FileText) := do
  match CommandLine.parse env args with
  | .error _ => return fun _ => .error .missing
  | .ok i =>
    let config ← readText i.options.config
    let domain := (Config.load config).domainPath.toList
    let saved := match i.command with
      | .save file => [file]
      | _ => []
    let others ← (domain ++ saved).mapM fun path => return (path, ← readText path)
    let files := (i.options.config, config) :: others
    return fun path => (files.lookup path).getD (.error .missing)

/-- Milliseconds since the start of 1970. -/
def readClock : IO Nat := do
  return (← Std.Time.Timestamp.now).toMillisecondsSinceUnixEpoch.val.toNat

/-! ### The remote store -/

/-- All that a connection brings until it ends. -/
partial def receiveAll (client : TCP.Socket.Client) (received : ByteArray) : Async ByteArray := do
  match ← client.recv? 65536 with
  | some bytes => receiveAll client (received ++ bytes)
  | none => return received

def sendTo (e : Endpoint) (post : Post) : Async Delivery := do
  let addresses ← DNS.getAddrInfo e.host (toString e.port)
  let some address := addresses[0]? | return .unreachable
  let port := UInt16.ofNat e.port
  let client ← TCP.Socket.Client.mk
  client.connect (match address with
    | .v4 addr => .v4 ⟨addr, port⟩
    | .v6 addr => .v6 ⟨addr, port⟩)
  client.send (ByteArray.mk (post.toBytes e).toArray)
  return Delivery.ofBytes (← receiveAll client .empty).toList

/-- Sends a request and waits so many seconds for its answer. -/
def send (timeoutSecs : UInt64) (post : Post) : IO Delivery := do
  match Endpoint.ofUrl? post.url with
  | none => return .unreachable
  | some e =>
    let answered : Async Delivery := try sendTo e post catch _ => return .unreachable
    let late : Async Delivery := do
      sleep (.ofNat (min (timeoutSecs.toNat * 1000) (0x4000000000000000)))
      return .stalled
    Async.block (Async.race answered late)

/-- Runs what may need the remote store: first to see which request it sends, and if there is one,
again with what came of it. -/
def withStore {α : Type} (timeoutSecs : UInt64) (sent : α → List Post) (run : Network → α) :
    IO α := do
  match sent (run fun _ => .lost) with
  | post :: _ =>
    let delivery ← send timeoutSecs post
    return run fun _ => delivery
  | [] => return run fun _ => .unreachable

/-! ### The HTTP interface -/

/-- The service between two requests. -/
abbrev Running := Std.Mutex Service

/-- A request as it is looked at, if it is legal. -/
def readRequest (r : Std.Http.Request Std.Http.Body.Stream) :
    ContextAsync (Option Http.Request) := do
  let body : ByteArray ← r.body.readAll
  let headers := r.line.headers.toList.map fun h => (toString h.1, toString h.2)
  return Http.Request.ofParts? (toString r.line.method) (toString r.line.uri) headers body.toList

def writeResponse (r : Http.Response) (marks : Json) :
    Async (Std.Http.Response Std.Http.Body.Any) := do
  let status := (Std.Http.Status.ofCode none (UInt16.ofNat r.status)).getD .internalServerError
  let builder := r.headers.foldl
    (fun (b : Std.Http.Response.Builder) h => (b.header? h.1 h.2).getD b)
    (Std.Http.Response.withStatus status)
  let body ← Std.Http.Body.Full.ofString (r.body marks)
  return builder.body (Std.Http.Body.Any.ofBody body)

/-- Answers a request, and leaves the service as it is afterwards. -/
def answer (running : Running) (r : Http.Request) : IO (Http.Response × Json) := do
  let start ← readClock
  let response ← running.atomically do
    let service ← get
    let p ← withStore service.client.timeoutSecs Performed.sent fun network =>
      service.handle network (Float.ofNat start / 1000) r
    set p.service
    return p.result
  let stop ← readClock
  let random := (← IO.getRandomBytes 10).foldl (fun n b => n * 256 + b.toNat) 0
  let marks : Http.Marks :=
    ⟨Http.timedId start random, (Calendar.momentText? start).getD "", stop - start⟩
  return (response, marks.toJson)

def handler (running : Running) : Std.Http.Server.StatelessHandler :=
  Std.Http.Server.Handler.ofFn fun r => do
    match ← readRequest r with
    | some r =>
      let (response, marks) ← (answer running r : IO _)
      writeResponse response marks
    | none => writeResponse { status := 400 } .null

partial def sweepForever (running : Running) (intervalSecs : UInt64) : Async Unit := do
  sleep (.ofNat (min (intervalSecs.toNat * 1000) (0x4000000000000000)))
  let now ← readClock
  (running.atomically do
    let service ← get
    set (service.sweep (Float.ofNat now / 1000)).service : IO Unit)
  sweepForever running intervalSecs

/-- Answers requests, one at a time, until a signal comes. -/
def serve (s : CommandLine.Serving) : Async CommandLine.Transcript := do
  let addresses ← DNS.getAddrInfo s.host (toString s.port)
  let some address := addresses[0]?
    | return .ofFailure (.cannotListen "failed to lookup address information")
  let port := UInt16.ofNat s.port
  let running ← Std.Mutex.new s.service
  let server ← try
      Std.Http.Server.serve (match address with
        | .v4 addr => .v4 ⟨addr, port⟩
        | .v6 addr => .v6 ⟨addr, port⟩) (handler running)
    catch
      | .resourceBusy .. => return .ofFailure .addressInUse
      | e => return .ofFailure (.cannotListen (toString e))
  -- A task that cannot start does not keep the service from answering.
  let interval := s.service.engine.config.sweepIntervalSecs
  if SweepLoop.canStart ((← IO.monoMsNow) / 1000) interval then
    background (sweepForever running interval)
  IO.print (s.opening s.address)
  (← IO.getStdout).flush
  let interrupt ← Signal.Waiter.mk .sigint false
  let terminate ← Signal.Waiter.mk .sigterm false
  Selectable.one #[.case interrupt.selector pure, .case terminate.selector pure]
  server.shutdownAndWait
  return { output := s.closing }

def writeTranscript (t : CommandLine.Transcript) : IO UInt32 := do
  IO.print t.output
  match t.error? with
  | some line => IO.eprintln line
  | none => if t.exitCode ≠ 0 then IO.eprint (CommandLine.helpText none)
  (← IO.getStdout).flush
  return UInt32.ofNat t.exitCode

end Outside

end DialogueStore

open DialogueStore

def main (args : List String) : IO UInt32 := do
  let environment ← Outside.readEnvironment
  let files ← Outside.readFiles environment args
  let timeout := match CommandLine.parse environment args with
    | .ok i => (Config.load (files i.options.config)).remote.timeoutSecs
    | .error _ => 0
  let plan ← Outside.withStore timeout CommandLine.Plan.sent fun network =>
    CommandLine.run { environment, files, network } args
  match plan with
  | .finished t => Outside.writeTranscript t
  | .serving s => Outside.writeTranscript (← (Outside.serve s).block)
