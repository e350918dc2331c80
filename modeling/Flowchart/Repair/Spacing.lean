import Flowchart.Line
import Flowchart.Token

/-!
# Spacing

One space stands on each side of an arrow, which owns the label right behind it, and of a join.
Lines are trimmed, and blank ones go.
-/

namespace Flowchart.Repair

def collapseSpaces : Text → Text
  | [] => []
  | [c] => [c]
  | c :: d :: s =>
    if c = ' ' ∧ d = ' ' then collapseSpaces (d :: s) else c :: collapseSpaces (d :: s)

def padTokens : List Token → Text
  | [] => []
  | .arrow a :: .label l :: ts => ' ' :: renderEdge a (some l) ++ ' ' :: padTokens ts
  | .arrow a :: ts => ' ' :: a ++ ' ' :: padTokens ts
  | .join :: ts => ' ' :: '&' :: ' ' :: padTokens ts
  | t :: ts => t.render ++ padTokens ts

def padArrows (t : Text) : Text :=
  collapseSpaces (padTokens (Token.lex t))

def trimLines (text : Text) : Text :=
  Text.joinLines (((Text.lines text).map Text.trim).filter (!·.isEmpty))

def normalizeSpacing (text : Text) : Text :=
  trimLines (Line.mapFreeText padArrows text)

end Flowchart.Repair
