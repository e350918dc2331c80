import Flowchart.Description
import Flowchart.Extract
import Flowchart.Generation
import Flowchart.Prompt
import Flowchart.Repair.Rules

/-!
# Conversions

A conversion turns a description into a diagram and never fails: where the service gives none, a
fallback diagram stands in, and the conversion says so.
-/

namespace Flowchart

/-- The minimal fallback stands in for a service that could not be asked, the detailed one for a
service that answered without a diagram. -/
inductive Fallback where
  | minimal
  | detailed
  deriving DecidableEq, Repr

namespace Fallback

def name : Fallback → Text
  | minimal => "minimal".toList
  | detailed => "detailed".toList

def ofName? (name : Text) : Option Fallback :=
  [minimal, detailed].find? (·.name == name)

def forError (e : GenerationError) : Fallback :=
  if e.isEmptyResponse then detailed else minimal

/-- A fallback is written as an answer might be and repaired like one. -/
def source : Fallback → Text
  | minimal =>
    Text.joinLines (["flowchart TD",
      "    Start([Start])",
      "    Process[\"Process Algorithm\"]",
      "    End([End])",
      "    Start --> Process",
      "    Process --> End"].map String.toList)
  | detailed =>
    Text.joinLines (["flowchart TD",
      "    Start([Start])",
      "    Input[/Read Input/]",
      "    Process[Process Algorithm]",
      "    Output[\\Show Result\\]",
      "    End([End])",
      "    Start --> Input",
      "    Input --> Process",
      "    Process --> Output",
      "    Output --> End"].map String.toList)

def diagram (f : Fallback) : Diagram :=
  .ofText f.source

end Fallback

structure Conversion where
  diagram : Diagram
  /-- What the service answered, if it did. -/
  fullResponse : Option Text
  fallback : Option Fallback
  deriving DecidableEq

namespace Conversion

def ofFallback (kind : Fallback) (fullResponse : Option Text) : Conversion :=
  ⟨kind.diagram, fullResponse, some kind⟩

def ofReply : Reply → Conversion
  | .error e => ofFallback (.forError e) none
  | .ok raw =>
    let diagram := Diagram.ofText (extract raw)
    if diagram.statements.isEmpty then ofFallback .detailed (some raw)
    else ⟨diagram, some raw, none⟩

def isFallback (c : Conversion) : Bool :=
  c.fallback.isSome

end Conversion

/-- One call of the service, whatever it gives. -/
def Client.convert (c : Client) (d : Description) : Conversion × Client :=
  let answer := c.generate (Prompt.build d)
  (.ofReply answer.1, answer.2)

theorem Client.convert_fst (c : Client) (d : Description) :
    (c.convert d).1 = .ofReply c.next :=
  congrArg Conversion.ofReply (c.generate_fst _)

end Flowchart
