import Flowchart.Http.MediaType
import Flowchart.Json.Reader
import Flowchart.Json.Value

/-!
# Requests and responses

A request body is read as JSON only where its media type says that it is JSON, and only up to a
length.
-/

namespace Flowchart.Http

structure Request where
  method : Text
  target : Text
  contentType : Option Text
  body : Bytes
  deriving DecidableEq, Repr

/-- The target without its query. -/
def Request.path (r : Request) : Text :=
  r.target.takeWhile fun c => c != '?' && c != '#'

structure Response where
  status : Nat
  contentType : Option Text
  body : Text
  deriving DecidableEq, Repr

namespace Response

def empty (status : Nat) : Response :=
  ⟨status, none, []⟩

def ofText (body : Text) : Response :=
  ⟨200, some "text/plain; charset=utf-8".toList, body⟩

def ofJson (status : Nat) (body : Json) : Response :=
  ⟨status, some "application/json".toList, body.render⟩

def ofError (status : Nat) (message : Text) : Response :=
  ofJson status (.object [("error".toList, .string message)])

end Response

/-- How many bytes a body may have. -/
def bodyLimit : Nat := 2097152

inductive BodyError where
  | notJson
  | tooLong
  | unread (e : Json.ReadError)
  deriving DecidableEq, Repr

/-- What a body is refused for. In a response the decoder adds where and why it stopped to the
texts for a body that cannot be read; this detail is left out. -/
def BodyError.message : BodyError → Text
  | notJson => "Expected request with `Content-Type: application/json`".toList
  | tooLong => "Failed to buffer the request body: length limit exceeded".toList
  | unread .malformed => "Failed to parse the request body as JSON".toList
  | unread .mismatch => "Failed to deserialize the JSON body into the target type".toList

def Request.isJson (r : Request) : Bool :=
  (r.contentType.bind MediaType.ofText?).any MediaType.isJson

/-- The body is not looked at before its media type, nor read before its length is known. -/
def Request.read (r : Request) (reader : Json.Reader α) : Except BodyError α :=
  if !r.isJson then .error .notJson
  else if bodyLimit < r.body.length then .error .tooLong
  else (reader.run r.body).mapError .unread

end Flowchart.Http
