import Flowchart.Repair.Brackets
import Flowchart.Repair.Document
import Flowchart.Repair.Edges
import Flowchart.Repair.Idents
import Flowchart.Repair.Quotes
import Flowchart.Repair.Spacing
import Flowchart.Repair.Split

/-!
# The chain of rules

Eight rules run in a fixed order, each on what the one before it wrote. Later rules rely on
shapes that are spelled in one way and on labels without delimiters.
-/

namespace Flowchart

inductive Rule where
  | splitStatements
  | stripQuotes
  | normalizeBrackets
  | sanitizeLabels
  | sanitizeIdents
  | repairEdges
  | normalizeSpacing
  | shapeDocument
  deriving DecidableEq, Repr

namespace Rule

def all : List Rule :=
  [splitStatements, stripQuotes, normalizeBrackets, sanitizeLabels, sanitizeIdents, repairEdges,
    normalizeSpacing, shapeDocument]

def name : Rule → Text
  | splitStatements => "split_statements".toList
  | stripQuotes => "strip_quotes".toList
  | normalizeBrackets => "normalize_brackets".toList
  | sanitizeLabels => "sanitize_labels".toList
  | sanitizeIdents => "sanitize_node_ids".toList
  | repairEdges => "repair_edges".toList
  | normalizeSpacing => "normalize_whitespace".toList
  | shapeDocument => "shape_document".toList

def ofName? (name : Text) : Option Rule :=
  all.find? (·.name == name)

def apply : Rule → Text → Text
  | splitStatements => Repair.splitStatements
  | stripQuotes => Repair.stripQuotes
  | normalizeBrackets => Repair.normalizeBrackets
  | sanitizeLabels => Repair.sanitizeLabels
  | sanitizeIdents => Repair.sanitizeIdents
  | repairEdges => Repair.repairEdges
  | normalizeSpacing => Repair.normalizeSpacing
  | shapeDocument => Repair.shapeDocument

/-- The text after each of the rules. -/
def trace (text : Text) : List Rule → List (Rule × Text)
  | [] => []
  | rule :: rules => (rule, rule.apply text) :: trace (rule.apply text) rules

end Rule

def repair (text : Text) : Text :=
  Rule.all.foldl (fun t rule => rule.apply t) text

open Repair in
theorem repair_eq (text : Text) :
    repair text = shapeDocument (normalizeSpacing (repairEdges (sanitizeIdents (sanitizeLabels
      (normalizeBrackets (stripQuotes (splitStatements text))))))) := by
  simp only [repair, Rule.all, List.foldl, Rule.apply]

/-- The text of a chart that went through every rule. -/
structure Diagram where
  text : Text
  repaired : ∃ source, repair source = text

namespace Diagram

def ofText (source : Text) : Diagram :=
  ⟨repair source, source, rfl⟩

instance : DecidableEq Diagram := fun a b =>
  if h : a.text = b.text then isTrue (by cases a; cases b; cases h; rfl)
  else isFalse fun he => h (congrArg text he)

/-- The lines behind the root line. -/
def statements (d : Diagram) : List Text :=
  (Text.lines d.text).drop 1

end Diagram

end Flowchart
