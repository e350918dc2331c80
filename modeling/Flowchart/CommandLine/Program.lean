import Flowchart.Check
import Flowchart.CommandLine.Options
import Flowchart.Conversion
import Flowchart.Text.Utf8

/-!
# The program

What the arguments ask for, and what each of the one-shot modes writes.
-/

namespace Flowchart.CommandLine

/-- What a run leaves behind. -/
structure Outcome where
  code : Nat
  output : Text
  errors : Text
  deriving DecidableEq, Repr

def programName : Text := "algoflow".toList

def usage : Text :=
  Text.joinLines (["Usage:",
    "  algoflow [--port <port>] [--log-level <level>]",
    "  algoflow --convert <text> [--log-level <level>]",
    "  algoflow --repair [--check] [--log-level <level>]",
    "",
    "Serve mode (default) listens on `http://127.0.0.1:<port>/`."].map String.toList ++
    ["--port selects the port (0 = ephemeral; default from ALGOFLOW_HTTP_PORT, else ".toList ++
      Nat.toDigits 10 Config.standardPort ++ ").".toList] ++
    ["",
      "--convert prints the repaired diagram for one description.",
      "--repair reads Mermaid source from stdin and prints the repaired source;",
      "--check additionally fails when the result does not pass the strict flowchart check.",
      "",
      "GEMINI_API_KEY provides the model credential. --log-level defaults to `info`.",
      ""].map String.toList)

/-- The line that a run which fails ends with. -/
def failureLine (message : Text) : Text :=
  programName ++ ": ".toList ++ message ++ ['\n']

namespace Outcome

def badUsage : Outcome :=
  ⟨2, [], usage⟩

def failure (message : Text) : Outcome :=
  ⟨1, [], failureLine message⟩

def printed (text : Text) : Outcome :=
  ⟨0, text ++ ['\n'], []⟩

end Outcome

/-- What the arguments and the configuration come to. -/
inductive Action where
  | stop (outcome : Outcome)
  | repair (check : Bool)
  | convert (settings : ServiceSettings) (description : Description)
  | serve (config : Config) (port : Nat)

def defaultLogLevel : LogLevel := .info

/-- A conversion is asked for only where the description passes the classifier. -/
def planConvert (config : Config) (text : Text) : Action :=
  match Description.ofText? text with
  | none => .stop (.failure Refusal.empty.message)
  | some d =>
    if config.classifier.accepts text then .convert config.service d
    else .stop (.failure Refusal.notAnAlgorithm.message)

/-- A repair needs no configuration. -/
def plan (options : Options) (environment : Text → Option Text) : Action :=
  if options.repair then .repair options.check
  else
    match Config.ofLookup environment with
    | .error e => .stop (.failure e.message)
    | .ok config =>
      match options.convert with
      | some text => planConvert config text
      | none => .serve config (options.port.getD config.port)

/-- The diagram is printed whether it passes the check or not. -/
def repairOutcome (check : Bool) (input : Bytes) : Outcome :=
  match Text.decodeUtf8? input with
  | none => .failure "stream did not contain valid UTF-8".toList
  | some text =>
    let diagram := Diagram.ofText text
    match Flowchart.check diagram.text with
    | .ok _ => .printed diagram.text
    | .error e =>
      if check then { Outcome.printed diagram.text with code := 1, errors := failureLine e.message }
      else .printed diagram.text

def convertOutcome (reply : Reply) : Outcome :=
  .printed (Conversion.ofReply reply).diagram.text

/-- Why nothing listens on a port. -/
inductive BindCause where
  | inUse
  | denied
  | other (detail : Text)
  deriving DecidableEq, Repr

def BindCause.message : BindCause → Text
  | inUse => "Address already in use (os error 98)".toList
  | denied => "Permission denied (os error 13)".toList
  | other detail => detail

/-- The message names the port as it is given. -/
def bindMessage (port : Text) (cause : BindCause) : Text :=
  "failed to bind 127.0.0.1:".toList ++ port ++ ": ".toList ++ cause.message

def missingCredentialWarning : Text :=
  Config.apiKeyVariable ++ " is not set, every conversion will use a fallback diagram".toList

/-- A server without a credential says so before it listens. -/
def warnsOfCredential (options : Options) (config : Config) : Bool :=
  config.service.apiKey.isNone && (options.logLevel.getD defaultLogLevel).shows .warn

end Flowchart.CommandLine
