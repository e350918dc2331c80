import Flowchart.Config

/-!
# Options

Each option is given at most once. A conversion and a repair exclude each other and the port, and
the check belongs to the repair.
-/

namespace Flowchart.CommandLine

inductive LogLevel where
  | off
  | error
  | warn
  | info
  | debug
  | trace
  deriving DecidableEq, Repr

namespace LogLevel

def all : List LogLevel :=
  [off, error, warn, info, debug, trace]

def name : LogLevel → Text
  | off => "off".toList
  | error => "error".toList
  | warn => "warn".toList
  | info => "info".toList
  | debug => "debug".toList
  | trace => "trace".toList

/-- Names are read in any case. -/
def ofText? (s : Text) : Option LogLevel :=
  all.find? (·.name == s.map Char.toLower)

def rank : LogLevel → Nat
  | off => 0
  | error => 1
  | warn => 2
  | info => 3
  | debug => 4
  | trace => 5

/-- Whether a message of one level is written at another one. -/
def shows (level message : LogLevel) : Bool :=
  message.rank ≤ level.rank

end LogLevel

structure Options where
  convert : Option Text
  repair : Bool
  check : Bool
  port : Option Nat
  logLevel : Option LogLevel
  deriving DecidableEq, Repr

namespace Options

def none : Options :=
  ⟨.none, false, false, .none, .none⟩

/-- One option with its value. -/
inductive Choice where
  | convert (text : Text)
  | repair
  | check
  | port (n : Nat)
  | logLevel (level : LogLevel)
  deriving DecidableEq, Repr

/-- An option that is given already cannot be given again. -/
def choose (o : Options) : Choice → Option Options
  | .convert text => if o.convert.isSome then .none else some { o with convert := text }
  | .repair => if o.repair then .none else some { o with repair := true }
  | .check => if o.check then .none else some { o with check := true }
  | .port n => if o.port.isSome then .none else some { o with port := n }
  | .logLevel level => if o.logLevel.isSome then .none else some { o with logLevel := level }

/-- Reads the arguments as options. An option that takes a value takes the next argument, whatever
that looks like. -/
def choices? : List Text → Option (List Choice)
  | [] => some []
  | [arg] =>
    if arg = "--repair".toList then some [.repair]
    else if arg = "--check".toList then some [.check]
    else .none
  | arg :: value :: rest =>
    if arg = "--repair".toList then (choices? (value :: rest)).map (.repair :: ·)
    else if arg = "--check".toList then (choices? (value :: rest)).map (.check :: ·)
    else if arg = "--convert".toList then (choices? rest).map (.convert value :: ·)
    else if arg = "--port".toList then
      (Config.port? value).bind fun n => (choices? rest).map (.port n :: ·)
    else if arg = "--log-level".toList then
      (LogLevel.ofText? value).bind fun level => (choices? rest).map (.logLevel level :: ·)
    else .none

def areCompatible (o : Options) : Bool :=
  !(o.convert.isSome && o.repair) && !(o.check && !o.repair) &&
    !(o.port.isSome && (o.convert.isSome || o.repair))

def parse? (args : List Text) : Option Options :=
  ((choices? args).bind fun choices => choices.foldlM choose none).filter areCompatible

end Options

end Flowchart.CommandLine
