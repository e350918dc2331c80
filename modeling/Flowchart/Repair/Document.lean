import Flowchart.Ident
import Flowchart.Label
import Flowchart.Line
import Flowchart.Token

/-!
# The document

One root line is kept, followed by lines that are statements. Several nodes joined at the ends of
an edge are written as one edge for each pair, and the first shape of an identifier is the one it
keeps.
-/

namespace Flowchart.Repair

/-- What a line is made of, spaces apart. -/
inductive Item where
  | node (n : Node)
  | join
  | edge (arrow : Text) (label : Option Text)
  /-- A pipe label that follows no arrow. -/
  | strayLabel
  deriving DecidableEq, Repr

namespace Item

def ofTokens : List Token → List Item
  | [] => []
  | .arrow a :: .label l :: ts => edge a (some l) :: ofTokens ts
  | .arrow a :: ts => edge a none :: ofTokens ts
  | .label _ :: ts => strayLabel :: ofTokens ts
  | .join :: ts => join :: ofTokens ts
  | .word w :: ts => node (.bare w) :: ofTokens ts
  | .space :: ts => ofTokens ts

def ofSegments (segments : List Segment) : List Item :=
  segments.flatMap fun segment =>
    match segment with
    | .node n => [node (.shaped n)]
    | .text t => ofTokens (Token.lex t)

def ofLine (line : Text) : List Item :=
  ofSegments (Segment.scan line)

end Item

/-- Nodes joined at one end of an edge: the first one and the others. -/
structure Group where
  first : Node
  others : List Node

def Group.nodes (g : Group) : List Node :=
  g.first :: g.others

/-- A chain of groups: each edge with the group that it leads to. -/
structure Chain where
  first : Group
  links : List ((Text × Option Text) × Group)

/-- Reads a group and the items behind it. -/
def group? : List Item → Option (Group × List Item)
  | .node n :: .join :: items => (group? items).map fun r => (⟨n, r.1.nodes⟩, r.2)
  | .node n :: items => some (⟨n, []⟩, items)
  | _ => none

theorem length_group? {items rest : List Item} {g : Group} (h : group? items = some (g, rest)) :
    rest.length < items.length := by
  fun_induction group? items generalizing g with
  | case1 n items ih =>
    obtain ⟨⟨g', r⟩, hr, he⟩ := Option.map_eq_some_iff.1 h
    cases he
    have := ih hr
    simp only [List.length_cons] at this ⊢
    omega
  | case2 n items =>
    cases h
    simp
  | case3 => cases h

def chainLinks? : List Item → Option (List ((Text × Option Text) × Group))
  | [] => some []
  | .edge a l :: items =>
    match _h : group? items with
    | some (g, rest) => (chainLinks? rest).map (((a, l), g) :: ·)
    | none => none
  | _ => none
termination_by items => items.length
decreasing_by
  have := length_group? _h
  simp
  omega

def chain? (items : List Item) : Option Chain :=
  match group? items with
  | some (g, rest) => (chainLinks? rest).map (⟨g, ·⟩)
  | none => none

def edgeLine (edge : Text × Option Text) (source target : Node) : Text :=
  source.render ++ ' ' :: renderEdge edge.1 edge.2 ++ ' ' :: target.render

/-- One line for each pair of neighbours, edge by edge. -/
def pairLines (sources : Group) : List ((Text × Option Text) × Group) → List Text
  | [] => []
  | (edge, targets) :: links =>
    (sources.nodes.flatMap fun s => targets.nodes.map (edgeLine edge s)) ++ pairLines targets links

def Chain.lines (c : Chain) : List Text :=
  match c.links with
  | [] => c.first.nodes.map Node.render
  | links => pairLines c.first links

/-- The lines that a line with joins stands for. Any other line stands for itself. -/
def expandJoins (line : Text) : List Text :=
  let items := Item.ofLine line
  match chain? items with
  | some chain => if items.contains .join then chain.lines else [line]
  | none => [line]

def isProperNode : Node → Bool
  | .bare id => Ident.isValid id
  | .shaped n => Ident.isValid n.id && !n.label.isEmpty && !n.label.any Label.isIllegal

def isProperEdge (a : Text) (label : Option Text) : Bool :=
  a == arrow && !label.any List.isEmpty

/-- Nodes and edges in turn, beginning and ending with a node. -/
def alternates : List Item → Bool
  | [.node n] => isProperNode n
  | .node n :: .edge a l :: items => isProperNode n && isProperEdge a l && alternates items
  | _ => false

def isStatement (line : Text) : Bool :=
  alternates (Item.ofLine line)

/-- The shapes known so far, by identifier. -/
abbrev Shapes := List (Text × Shape)

/-- A shape that differs from the first one of its identifier becomes a bare reference. -/
def settleSegments (known : Shapes) : List Segment → List Segment × Shapes
  | [] => ([], known)
  | .text t :: segments =>
    let rest := settleSegments known segments
    (.text t :: rest.1, rest.2)
  | .node n :: segments =>
    match known.lookup n.id with
    | none =>
      let rest := settleSegments ((n.id, n.shape) :: known) segments
      (.node n :: rest.1, rest.2)
    | some shape =>
      let rest := settleSegments known segments
      ((if shape = n.shape then .node n else .text n.id) :: rest.1, rest.2)

def settleLines (known : Shapes) : List Text → List Text
  | [] => []
  | line :: rest =>
    let settled := settleSegments known (Segment.scan line)
    Segment.renderAll settled.1 :: settleLines settled.2 rest

/-- The first root declaration among the lines, and the lines behind it. -/
def splitAtRoot? : List Text → Option (Direction × List Text)
  | [] => none
  | line :: rest =>
    match Line.rootDirection? line with
    | some d => some (d, rest)
    | none => splitAtRoot? rest

/-- The direction and the lines between the first root and the second one. Without a root, every
line counts. -/
def body (ls : List Text) : Direction × List Text :=
  match splitAtRoot? ls with
  | none => (default, ls)
  | some (d, rest) => (d, rest.takeWhile fun line => (Line.rootDirection? line).isNone)

def statementLines (ls : List Text) : List Text :=
  ((ls.filter (!Line.isDirective ·)).flatMap expandJoins).filter isStatement

def shapeDocument (text : Text) : Text :=
  let found := body (((Text.lines text).map Text.trim).filter (!·.isEmpty))
  Text.joinLines (Chart.rootLine found.1 :: settleLines [] (statementLines found.2))

end Flowchart.Repair
