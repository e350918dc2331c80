import Flowchart.Chart
import Flowchart.Ident
import Flowchart.Label
import Flowchart.Line

/-!
# Clean charts

A chart is clean when its identifiers and labels hold nothing that a chart cannot hold, and no
identifier has two shapes. What it is written as may still be read as something else where the
line of a statement looks like a directive or a root declaration.
-/

namespace Flowchart

/-- Words one space apart, of characters that a label can hold. -/
def Label.IsClean (label : Text) : Prop :=
  label ≠ [] ∧ Text.joinWith ' ' (Text.words label) = label ∧
    label.all (fun c => !isIllegal c && !isQuotationMark c) = true

instance (label : Text) : Decidable (Label.IsClean label) :=
  inferInstanceAs (Decidable (_ ∧ _ ∧ _))

/-- The label of a node has no slash at either end. -/
def ShapedNode.IsClean (n : ShapedNode) : Prop :=
  Ident.isValid n.id = true ∧ Label.IsClean n.label ∧
    n.label.head?.any Label.isSlash = false ∧ n.label.getLast?.any Label.isSlash = false

instance (n : ShapedNode) : Decidable n.IsClean :=
  inferInstanceAs (Decidable (_ ∧ _ ∧ _ ∧ _))

def Node.IsClean : Node → Prop
  | bare id => Ident.isValid id = true
  | shaped n => n.IsClean

instance : (n : Node) → Decidable n.IsClean
  | .bare id => inferInstanceAs (Decidable (Ident.isValid id = true))
  | .shaped n => inferInstanceAs (Decidable n.IsClean)

def Link.IsClean (l : Link) : Prop :=
  (∀ label ∈ l.label, Label.IsClean label) ∧ l.target.IsClean

instance (l : Link) : Decidable l.IsClean :=
  inferInstanceAs (Decidable (_ ∧ _))

namespace Statement

def IsClean (s : Statement) : Prop :=
  s.first.IsClean ∧ ∀ l ∈ s.links, l.IsClean

instance (s : Statement) : Decidable s.IsClean :=
  inferInstanceAs (Decidable (_ ∧ _))

/-- Whether the line of the statement is read as a directive or as a root declaration. -/
def isMistakable (s : Statement) : Bool :=
  match s.first with
  | .bare id =>
    Line.directiveKeywords.contains id || (s.links.isEmpty && Line.isRootKeyword id)
  | .shaped _ => false

end Statement

namespace Chart

/-- Wherever an identifier has a shape, it is the same one. -/
def IsConsistent (c : Chart) : Prop :=
  ∀ m ∈ c.nodes, ∀ n ∈ c.nodes, m.id = n.id → ∀ a ∈ m.shape?, ∀ b ∈ n.shape?, a = b

instance (c : Chart) : Decidable c.IsConsistent :=
  inferInstanceAs (Decidable (∀ m ∈ c.nodes, ∀ n ∈ c.nodes, m.id = n.id → _))

def IsClean (c : Chart) : Prop :=
  (∀ s ∈ c.statements, s.IsClean) ∧ c.IsConsistent

instance (c : Chart) : Decidable c.IsClean :=
  inferInstanceAs (Decidable (_ ∧ _))

end Chart

end Flowchart
