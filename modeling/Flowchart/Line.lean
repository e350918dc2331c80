import Flowchart.Segment
import Flowchart.Text.Lines

/-!
# Kinds of lines

A line is the root declaration of a chart, a directive or comment, or a line that may hold a
statement. Repairs touch lines of the last kind only.
-/

namespace Flowchart.Line

def rootKeywords : List Text :=
  ["flowchart".toList, "graph".toList]

/-- Root keywords are known in any case. -/
def isRootKeyword (w : Text) : Bool :=
  rootKeywords.contains (w.map Char.toLower)

/-- The direction of a root declaration, which may name none and may end in semicolons. -/
def rootDirection? (line : Text) : Option Direction :=
  match Text.words (Text.trimEndBy (· == ';') (Text.trim line)) with
  | [keyword] => if isRootKeyword keyword then some default else none
  | [keyword, code] => if isRootKeyword keyword then Direction.ofText? code else none
  | _ => none

def directiveKeywords : List Text :=
  ["subgraph".toList, "end".toList, "classDef".toList, "class".toList, "style".toList,
    "linkStyle".toList, "click".toList, "direction".toList]

def isComment (line : Text) : Bool :=
  ['%', '%'].isPrefixOf (Text.trim line)

/-- Comments count as directives. -/
def isDirective (line : Text) : Bool :=
  isComment line ||
    (Text.words line).head?.any fun w =>
      directiveKeywords.contains (Text.trimEndBy (· == ';') w)

def mayHoldStatement (line : Text) : Bool :=
  (rootDirection? line).isNone && !isDirective line

def mapStatements (f : Text → Text) (text : Text) : Text :=
  Text.joinLines ((Text.lines text).map fun line => if mayHoldStatement line then f line else line)

def mapSegments (f : Segment → Segment) (line : Text) : Text :=
  Segment.renderAll ((Segment.scan line).map f)

/-- Changes the free text of every line that may hold a statement. -/
def mapFreeText (f : Text → Text) : Text → Text :=
  mapStatements (mapSegments fun segment =>
    match segment with
    | .text t => .text (f t)
    | .node n => .node n)

end Flowchart.Line
