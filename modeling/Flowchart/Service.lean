import Flowchart.Config
import Flowchart.Generation
import Flowchart.Json.Reader
import Flowchart.Json.Value

/-!
# The generation service

One request for each call, and no second try. The texts of the first candidate, put together, are
the answer, however the service divides it.
-/

namespace Flowchart.Service

structure Request where
  url : Text
  apiKey : Text
  body : Json

/-- What came of a request. -/
inductive Exchange where
  | answered (status : Nat) (body : Bytes)
  | failed (detail : Text)
  | timedOut
  deriving DecidableEq, Inhabited, Repr

structure Part where
  text : Option Text
  deriving DecidableEq, Repr

structure Content where
  parts : List Part
  deriving DecidableEq, Repr

structure Candidate where
  content : Option Content
  deriving DecidableEq, Repr

def url (settings : ServiceSettings) : Text :=
  Text.trimEndBy (· == '/') settings.endpoint ++ "/v1beta/models/".toList ++ settings.model ++
    ":generateContent".toList

def requestBody (prompt : Text) : Json :=
  .object [("contents".toList, .array [.object [("parts".toList,
    .array [.object [("text".toList, .string prompt)]])]])]

/-- A header holds no control character but the tab. -/
def isHeaderChar (c : Char) : Bool :=
  c == '\t' || (0x20 ≤ c.toNat && c.toNat != 0x7f)

section Reading

open Json.Reader (record orNull list)

def readPart : Json.Reader Part :=
  record "text".toList ⟨none⟩ fun s => (orNull .text s).map fun r => (⟨r.1⟩, r.2)

def readContent : Json.Reader Content :=
  record "parts".toList ⟨[]⟩ fun s => (list readPart s).map fun r => (⟨r.1⟩, r.2)

def readCandidate : Json.Reader Candidate :=
  record "content".toList ⟨none⟩ fun s => (orNull readContent s).map fun r => (⟨r.1⟩, r.2)

def readCandidates : Json.Reader (List Candidate) :=
  record "candidates".toList [] (list readCandidate)

end Reading

def Content.text (c : Content) : Text :=
  c.parts.flatMap fun part => part.text.getD []

def answerText (candidates : List Candidate) : Text :=
  ((candidates.head?.bind Candidate.content).map Content.text).getD []

def replyOfCandidates (candidates : List Candidate) : Reply :=
  let text := answerText candidates
  if (Text.trim text).isEmpty then .error .emptyResponse else .ok text

def malformedDetail : Json.ReadError → Text
  | .malformed => "not JSON".toList
  | .mismatch => "JSON of another type".toList

def replyOfBody (body : Text) : Reply :=
  match readCandidates.run (Text.encodeUtf8 body) with
  | .error e => .error (.malformed (malformedDetail e))
  | .ok candidates => replyOfCandidates candidates

/-- As much of a body as an error quotes. -/
def errorBodyLimit : Nat := 512

def isSuccess (status : Nat) : Bool :=
  200 ≤ status && status < 300

def replyOfExchange : Exchange → Reply
  | .failed detail => .error (.transport detail)
  | .timedOut => .error .timeout
  | .answered status body =>
    let text := Text.decodeUtf8Lossy body
    if isSuccess status then replyOfBody text
    else .error (.status status (text.take errorBodyLimit))

/-- The request of a call, or why there is none. -/
def request (settings : ServiceSettings) (prompt : Text) : Except GenerationError Request :=
  match settings.apiKey with
  | none => .error .missingCredential
  | some key =>
    if key.all isHeaderChar then .ok ⟨url settings, key, requestBody prompt⟩
    else .error (.transport "the credential is no header value".toList)

/-- One call, given what comes of its request. -/
def call (settings : ServiceSettings) (exchange : Request → Exchange) (prompt : Text) : Reply :=
  match request settings prompt with
  | .error e => .error e
  | .ok request => replyOfExchange (exchange request)

end Flowchart.Service
