import Flowchart.Ident
import Flowchart.Repair.Labels
import Flowchart.Token

/-!
# Identifiers

Identifiers keep their letters and digits, whether a shape follows or not, so that edges keep
leading to the node that they named. Words of a label inside an edge are no identifiers.
-/

namespace Flowchart.Repair

/-- A class attached to a node: three colons and a name. -/
def classSuffix : Text.Pattern := fun s => do
  let body ← Text.after? [':', ':', ':'] s
  let name := body.takeWhile fun c => Text.isWordChar c || c == '-'
  if name.isEmpty then none else some ([], name.length + 3)

def orElseText (a b : Text) : Text :=
  if a.isEmpty then b else a

/-- A shape without a usable identifier takes its label for one. -/
def reidentify (n : ShapedNode) : ShapedNode :=
  { n with
    id := orElseText (orElseText (Ident.sanitize n.id) (Ident.sanitize n.label)) defaultName }

/-- The tokens with their words sanitized, and whether a label inside an edge is open behind
them. -/
def sanitizeWords (inLabel : Bool) : List Token → List Token × Bool
  | [] => ([], inLabel)
  | .arrow a :: ts =>
    let rest := sanitizeWords (Token.opensLabel a) ts
    (.arrow a :: rest.1, rest.2)
  | .word w :: ts =>
    let rest := sanitizeWords inLabel ts
    (.word (if inLabel then w else Ident.sanitize w) :: rest.1, rest.2)
  | t :: ts =>
    let rest := sanitizeWords inLabel ts
    (t :: rest.1, rest.2)

def sanitizeSegments (inLabel : Bool) : List Segment → List Segment
  | [] => []
  | .node n :: segments => .node (reidentify n) :: sanitizeSegments false segments
  | .text t :: segments =>
    let read := sanitizeWords inLabel (Token.lex (Text.replaceMatches classSuffix t))
    .text (Token.renderAll read.1) :: sanitizeSegments read.2 segments

def sanitizeIdents : Text → Text :=
  Line.mapStatements fun line =>
    Segment.renderAll (sanitizeSegments false (Segment.scan line))

end Flowchart.Repair
