import Flowchart.CommandLine.Program
import Flowchart.Http.Routes
import Flowchart.Service.Wire
import Std.Async
import Std.Http

/-!
# The command line

Reads arguments, environment and standard input, and does what they ask for.
-/

namespace Flowchart.CommandLine

open Std.Async (Async ContextAsync)

def write (stream : IO.FS.Stream) (text : Text) : IO Unit := do
  stream.putStr (String.ofList text)
  stream.flush

def Outcome.emit (o : Outcome) : IO UInt32 := do
  write (← IO.getStdout) o.output
  write (← IO.getStderr) o.errors
  return UInt32.ofNat o.code

def log (threshold level : LogLevel) (message : Text) : IO Unit := do
  if threshold.shows level then
    write (← IO.getStderr) ('[' :: level.name ++ "] ".toList ++ message ++ ['\n'])

def readInput : IO Bytes := do
  let input ← IO.getStdin
  let mut bytes := ByteArray.empty
  let mut more := true
  while more do
    let next ← input.read 65536
    bytes := bytes ++ next
    more := !next.isEmpty
  return bytes.toList

def readEnvironment : IO (Text → Option Text) := do
  let values ← Config.variableNames.filterMapM fun name => do
    return (← IO.getEnv (String.ofList name)).map fun value => (name, value.toList)
  return fun name => values.lookup name

/-- Sends a request and reads until the service closes the connection. -/
def exchangeAt (a : Service.Address) (r : Service.Request) : Async Service.Exchange := do
  let port := String.ofList (Nat.toDigits 10 a.port)
  let addresses ← Std.Async.DNS.getAddrInfo (String.ofList a.host) port (some .ipv4)
  let some (Std.Net.IPAddr.v4 ip) := addresses[0]? | return .failed "the host has no address".toList
  let socket ← Std.Async.TCP.Socket.Client.mk
  socket.connect (.v4 ⟨ip, UInt16.ofNat a.port⟩)
  socket.send ⟨(r.bytes a).toArray⟩
  let mut bytes := ByteArray.empty
  let mut more := true
  while more do
    match ← socket.recv? 65536 with
    | some next => bytes := bytes ++ next
    | none => more := false
  return (Service.readResponse? bytes.toList).getD (.failed "the response is cut off".toList)

/-- The longest time that a timer runs. -/
def timerLimit : Nat := 0x100000000

def exchange (settings : ServiceSettings) (r : Service.Request) : Async Service.Exchange := do
  let some a := Service.Address.ofUrl? r.url | return .failed "the URL is not supported".toList
  let milliseconds := min timerLimit settings.timeoutSeconds * 1000
  let attempt : Async Service.Exchange :=
    try exchangeAt a r
    catch e => return .failed (toString e).toList
  let timer : Async Service.Exchange := do
    Std.Async.sleep (.ofNat milliseconds)
    return .timedOut
  Async.race attempt timer

def askService (settings : ServiceSettings) (prompt : Text) : Async Reply := do
  match Service.request settings prompt with
  | .error e => return .error e
  | .ok request => return Service.replyOfExchange (← exchange settings request)

def requestOf (r : Std.Http.Request Std.Http.Body.Stream) : ContextAsync Http.Request := do
  let contentType := r.line.headers.get? Std.Http.Header.Name.contentType
  let body : ByteArray ← r.body.readAll
  return ⟨(toString r.line.method).toList, (toString r.line.uri).toList,
    contentType.map fun value => value.value.toList, body.toList⟩

def encodeResponse (r : Http.Response) : ContextAsync (Std.Http.Response Std.Http.Body.Any) := do
  let status := (Std.Http.Status.ofCode none (UInt16.ofNat r.status)).getD .internalServerError
  let builder := Std.Http.Response.withStatus status
  let builder := (r.contentType.bind fun value =>
    builder.header? "content-type" (String.ofList value)).getD builder
  let body ← Std.Http.Body.Full.ofString (String.ofList r.body)
  return builder.body (.ofBody body)

/-- Requests share the controller, and none is received while another one is in one of its
sections. -/
def respond (settings : ServiceSettings) (shared : IO.Ref Controller)
    (request : Std.Http.Request Std.Http.Body.Stream) :
    ContextAsync (Std.Http.Response Std.Http.Body.Any) := do
  let request ← requestOf request
  let receipt ← shared.modifyGet fun c =>
    let received := Http.receive c request
    (received.2, received.1)
  match receipt with
  | .answered response => encodeResponse response
  | .waiting call =>
    let reply ← askService settings call.prompt
    let response ← shared.modifyGet fun c =>
      let finished := call.finish c reply
      (finished.2, finished.1)
    encodeResponse response

def bindCause : IO.Error → BindCause
  | .resourceBusy .. => .inUse
  | .permissionDenied .. => .denied
  | e => .other (toString e).toList

/-- Responses do not say what serves them. -/
def serverConfig : Std.Http.Config where
  serverName := none

/-- Serves requests until the run is interrupted. -/
def serve (config : Config) (port : Nat) (threshold : LogLevel) : IO Outcome := do
  let shared ← IO.mkRef (Controller.initial config.classifier)
  let address : Std.Net.SocketAddress := .v4 ⟨.ofParts 127 0 0 1, UInt16.ofNat port⟩
  let handler := Std.Http.Server.Handler.ofFn (respond config.service shared)
  match ← (Std.Http.Server.serve address handler serverConfig).block.toBaseIO with
  | .error e => return .failure (bindMessage (Nat.toDigits 10 port) (bindCause e))
  | .ok server =>
    let listening := match server.localAddr with
      | some (.v4 bound) => bound.port.toNat
      | _ => port
    log threshold .info ("listening on 127.0.0.1:".toList ++ Nat.toDigits 10 listening)
    let interrupt ← Std.Async.Signal.Waiter.mk .sigint false
    discard (← interrupt.wait).block
    server.shutdownAndWait.block
    log threshold .info "server stopped".toList
    return ⟨0, [], []⟩

def perform (options : Options) : Action → IO Outcome
  | .stop outcome => return outcome
  | .repair check => return repairOutcome check (← readInput)
  | .convert settings d => return convertOutcome (← (askService settings (Prompt.build d)).block)
  | .serve config port => do
    let threshold := options.logLevel.getD defaultLogLevel
    if warnsOfCredential options config then log threshold .warn missingCredentialWarning
    serve config port threshold

def run (args : List Text) : IO Outcome := do
  match Options.parse? args with
  | none => return .badUsage
  | some options => perform options (plan options (← readEnvironment))

end Flowchart.CommandLine

def main (args : List String) : IO UInt32 := do
  (← Flowchart.CommandLine.run (args.map String.toList)).emit
