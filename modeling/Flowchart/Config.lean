import Flowchart.Classifier
import Flowchart.Text.Numeral
import Flowchart.Text.Quoted

/-!
# Configuration

Settings come from named variables. Values are trimmed, and a blank one counts as absent.
-/

namespace Flowchart

/-- How the generation service is reached. -/
structure ServiceSettings where
  apiKey : Option Text
  model : Text
  endpoint : Text
  timeoutSeconds : Nat
  deriving DecidableEq, Repr

def ServiceSettings.standard : ServiceSettings where
  apiKey := none
  model := "gemini-2.5-flash".toList
  endpoint := "https://generativelanguage.googleapis.com".toList
  timeoutSeconds := 30

structure Config where
  service : ServiceSettings
  port : Nat
  /-- Nothing keeps the built-in keywords. -/
  keywords : Option (List Text)
  deriving DecidableEq, Repr

inductive ConfigError where
  | invalidTimeout (value : Text)
  | invalidPort (value : Text)
  deriving DecidableEq, Repr

namespace Config

def apiKeyVariable : Text := "GEMINI_API_KEY".toList

def modelVariable : Text := "ALGOFLOW_MODEL".toList

def endpointVariable : Text := "ALGOFLOW_ENDPOINT".toList

def timeoutVariable : Text := "ALGOFLOW_TIMEOUT_SECS".toList

def portVariable : Text := "ALGOFLOW_HTTP_PORT".toList

def keywordsVariable : Text := "ALGOFLOW_KEYWORDS".toList

def variableNames : List Text :=
  [apiKeyVariable, modelVariable, endpointVariable, timeoutVariable, portVariable, keywordsVariable]

def standardPort : Nat := 27436

def standard : Config :=
  ⟨.standard, standardPort, none⟩

/-- Ports are numbers of sixteen bits. -/
def port? (s : Text) : Option Nat :=
  Text.numeral? 0x10000 s

/-- Timeouts are positive numbers of sixty-four bits. -/
def timeout? (s : Text) : Option Nat :=
  (Text.numeral? 0x10000000000000000 s).filter (0 < ·)

def setting? (lookup : Text → Option Text) (name : Text) : Option Text :=
  ((lookup name).map Text.trim).filter (!·.isEmpty)

def splitKeywords (s : Text) : List Text :=
  ((Text.splitBy (· == ',') s).map Text.trim).filter (!·.isEmpty)

def readTimeout : Option Text → Except ConfigError Nat
  | none => .ok ServiceSettings.standard.timeoutSeconds
  | some value =>
    match timeout? value with
    | some n => .ok n
    | none => .error (.invalidTimeout value)

def readPort : Option Text → Except ConfigError Nat
  | none => .ok standardPort
  | some value =>
    match port? value with
    | some n => .ok n
    | none => .error (.invalidPort value)

def ofLookup (lookup : Text → Option Text) : Except ConfigError Config := do
  let get := setting? lookup
  let timeout ← readTimeout (get timeoutVariable)
  let port ← readPort (get portVariable)
  return {
    service := {
      apiKey := get apiKeyVariable
      model := (get modelVariable).getD ServiceSettings.standard.model
      endpoint := (get endpointVariable).getD ServiceSettings.standard.endpoint
      timeoutSeconds := timeout }
    port := port
    keywords := (get keywordsVariable).map splitKeywords }

def classifier (c : Config) : Classifier :=
  c.keywords.elim default Classifier.ofKeywords

end Config

def ConfigError.message : ConfigError → Text
  | invalidTimeout value =>
    Config.timeoutVariable ++
      " must be a whole number of seconds greater than zero (got ".toList ++ Text.quoted value ++
      [')']
  | invalidPort value =>
    Config.portVariable ++ " must be a port number (got ".toList ++ Text.quoted value ++ [')']

end Flowchart
