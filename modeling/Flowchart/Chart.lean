import Flowchart.Direction
import Flowchart.Shape
import Flowchart.Text.Lines

/-!
# Charts

A chart is a direction and a list of statements. A statement is a chain of nodes, each joined to
the next by an edge that may carry a label.
-/

namespace Flowchart

/-- A node written with its shape and label. -/
structure ShapedNode where
  id : Text
  shape : Shape
  label : Text
  deriving DecidableEq, Repr

def ShapedNode.render (n : ShapedNode) : Text :=
  n.id ++ n.shape.wrap n.label

inductive Node where
  | bare (id : Text)
  | shaped (node : ShapedNode)
  deriving DecidableEq, Repr

namespace Node

def id : Node → Text
  | bare id => id
  | shaped n => n.id

def shape? : Node → Option Shape
  | bare _ => none
  | shaped n => some n.shape

def render : Node → Text
  | bare id => id
  | shaped n => n.render

end Node

def arrow : Text := ['-', '-', '>']

/-- An edge and the node that it leads to. -/
structure Link where
  label : Option Text
  target : Node
  deriving DecidableEq, Repr

/-- The arrow, and the label between pipes right behind it. -/
def renderEdge (arrow : Text) : Option Text → Text
  | none => arrow
  | some label => arrow ++ '|' :: label ++ ['|']

def Link.render (l : Link) : Text :=
  ' ' :: renderEdge arrow l.label ++ ' ' :: l.target.render

structure Statement where
  first : Node
  links : List Link
  deriving DecidableEq, Repr

namespace Statement

def nodes (s : Statement) : List Node :=
  s.first :: s.links.map Link.target

def render (s : Statement) : Text :=
  s.first.render ++ s.links.flatMap Link.render

end Statement

structure Chart where
  direction : Direction
  statements : List Statement
  deriving DecidableEq, Repr

namespace Chart

def rootKeyword : Text := "flowchart".toList

def rootLine (d : Direction) : Text :=
  rootKeyword ++ ' ' :: d.code

def nodes (c : Chart) : List Node :=
  c.statements.flatMap Statement.nodes

def render (c : Chart) : Text :=
  Text.joinLines (rootLine c.direction :: c.statements.map Statement.render)

end Chart

end Flowchart
