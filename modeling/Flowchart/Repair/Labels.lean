import Flowchart.Label
import Flowchart.Line
import Flowchart.Text.Replace

/-!
# Labels

Labels of shapes and labels between pipes are cleaned. A shape whose label comes out empty is
labelled with its identifier, and a pipe label that comes out empty goes.
-/

namespace Flowchart.Repair

def defaultName : Text := "Node".toList

def cleanShapeLabel (label : Text) : Text :=
  Label.trimSlashes (Label.clean label)

def relabel (n : ShapedNode) : ShapedNode :=
  let label := cleanShapeLabel n.label
  let label := if label.isEmpty then cleanShapeLabel n.id else label
  { n with label := if label.isEmpty then defaultName else label }

def pipeLabel : Text.Pattern
  | [] => none
  | c :: s =>
    if c = '|' then
      (Segment.untilPipe? s).map fun r =>
        let label := Label.clean r.1
        (if label.isEmpty then [] else '|' :: label ++ ['|'], r.1.length + 2)
    else none

def sanitizeLabels : Text → Text :=
  Line.mapStatements (Line.mapSegments fun segment =>
    match segment with
    | .text t => .text (Text.replaceMatches pipeLabel t)
    | .node n => .node (relabel n))

end Flowchart.Repair
