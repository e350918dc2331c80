import Flowchart.Controller
import Flowchart.Http.Message

/-!
# Routes

The routes below `/session` work on the one session and answer with its snapshot. `/convert` turns
one description into one diagram and asks the classifier nothing. A request that needs the service
is received first and answered when the service has replied, and others may be received between.
-/

namespace Flowchart.Http

inductive Route where
  | health
  | convert
  | session
  | submit
  | regenerate
  | clear
  | renderError
  deriving DecidableEq, Repr

namespace Route

def all : List Route :=
  [health, convert, session, submit, regenerate, clear, renderError]

def path : Route → Text
  | health => "/health".toList
  | convert => "/convert".toList
  | session => "/session".toList
  | submit => "/session/submit".toList
  | regenerate => "/session/regenerate".toList
  | clear => "/session/clear".toList
  | renderError => "/session/render-error".toList

def ofPath? (path : Text) : Option Route :=
  all.find? (·.path == path)

def isQuery : Route → Bool
  | health => true
  | session => true
  | _ => false

/-- Queries are got, by their headers alone if need be, and all else is posted. -/
def accepts (route : Route) (method : Text) : Bool :=
  if route.isQuery then method == "GET".toList || method == "HEAD".toList
  else method == "POST".toList

end Route

def snapshotJson (s : Snapshot) : Json :=
  .object [("state".toList, .string s.phase.name),
    ("algorithmText".toList, .string s.text),
    ("mermaidCode".toList, .string s.diagram),
    ("error".toList, Json.ofOption .string s.error),
    ("fullResponse".toList, Json.ofOption .string s.fullResponse),
    ("fallback".toList, Json.ofOption (fun f => .string f.name) s.fallback),
    ("generation".toList, .number s.generation)]

/-- Fields that say nothing are left out. -/
def conversionJson (c : Conversion) : Json :=
  .object ([("mermaidCode".toList, .string c.diagram.text)] ++
    (c.fullResponse.toList.map fun t => ("fullResponse".toList, .string t)) ++
    if c.isFallback then [("fallback".toList, .bool true)] else [])

def textField : Text := "algorithmText".toList

def messageField : Text := "message".toList

def textRequired : Text := "Algorithm text is required".toList

def Response.ofSnapshot (c : Controller) : Response :=
  ofJson 200 (snapshotJson c.snapshot)

/-- A call of the service that a request waits for. -/
inductive Call where
  /-- The conversion of the session. -/
  | submitted (ticket : Ticket)
  /-- A conversion on its own, which leaves the session alone. -/
  | single (description : Description)
  deriving DecidableEq

namespace Call

def description : Call → Description
  | submitted ticket => ticket.description
  | single description => description

def prompt (call : Call) : Text :=
  Prompt.build call.description

/-- Brings back the reply of the service. -/
def finish (c : Controller) (reply : Reply) : Call → Controller × Response
  | submitted ticket => (c.resolve ticket reply, .ofSnapshot (c.resolve ticket reply))
  | single _ => (c, .ofJson 200 (conversionJson (.ofReply reply)))

end Call

/-- What a request comes to before the service is asked. -/
inductive Receipt where
  | answered (response : Response)
  | waiting (call : Call)
  deriving DecidableEq

/-- A body that cannot be read counts as blank text. -/
def convert (r : Request) : Receipt :=
  let text :=
    match r.read (.record textField none (.orNull .text)) with
    | .ok (some text) => text
    | _ => []
  match Description.ofText? text with
  | none => .answered (.ofError 400 textRequired)
  | some d => .waiting (.single d)

/-- A submission waits for its conversion, if there is to be one. -/
def submit (c : Controller) (text : Text) : Controller × Receipt :=
  match c.submit text with
  | (next, none) => (next, .answered (.ofSnapshot next))
  | (next, some ticket) => (next, .waiting (.submitted ticket))

def submitBody (c : Controller) (r : Request) : Controller × Receipt :=
  match r.read (.record textField [] .text) with
  | .error e => (c, .answered (.ofError 400 e.message))
  | .ok text => submit c text

/-- Clears the session and submits its text again. -/
def regenerate (c : Controller) : Controller × Receipt :=
  submit c.withdraw.1 c.withdraw.2

def clear (c : Controller) : Controller × Receipt :=
  (c.clear, .answered (.ofSnapshot c.clear))

def reportRenderError (c : Controller) (r : Request) : Controller × Receipt :=
  match r.read (.record messageField [] .text) with
  | .error e => (c, .answered (.ofError 400 e.message))
  | .ok message =>
    match c.reportRenderError message with
    | .error e => (c, .answered (.ofError 409 e.message))
    | .ok next => (next, .answered (.ofSnapshot next))

def Route.receive (route : Route) (c : Controller) (r : Request) : Controller × Receipt :=
  match route with
  | .health => (c, .answered (.ofText "ok".toList))
  | .convert => (c, Http.convert r)
  | .session => (c, .answered (.ofSnapshot c))
  | .submit => submitBody c r
  | .regenerate => Http.regenerate c
  | .clear => Http.clear c
  | .renderError => Http.reportRenderError c r

/-- A request for headers gets no body. -/
def Response.forMethod (r : Response) (method : Text) : Response :=
  if method == "HEAD".toList then { r with body := [] } else r

def Receipt.forMethod (method : Text) : Receipt → Receipt
  | answered response => answered (response.forMethod method)
  | waiting call => waiting call

def receive (c : Controller) (r : Request) : Controller × Receipt :=
  match Route.ofPath? r.path with
  | none => (c, .answered (.empty 404))
  | some route =>
    if route.accepts r.method then
      let received := route.receive c r
      (received.1, received.2.forMethod r.method)
    else (c, .answered (.empty 405))

end Flowchart.Http
