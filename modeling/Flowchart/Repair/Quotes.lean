import Flowchart.Label
import Flowchart.Shape
import Flowchart.Text.Replace

/-!
# Quotation marks

A quoted label is unwrapped inside each kind of delimiters. Then every mark that is left goes.
-/

namespace Flowchart.Repair

/-- A quoted label that fills the space between the delimiters, blanks apart. It stands on one
line, while the blanks around it may not. -/
def quotedLabel (opening closing : Text) : Text.Pattern := fun s => do
  let body ← Text.after? opening s
  let inner ← Text.after? ['"'] (body.dropWhile Text.isBlank)
  let label := inner.takeWhile fun c => c != '"' && c != '\n'
  let behind ← Text.after? ['"'] (inner.drop label.length)
  let rest ← Text.after? closing (behind.dropWhile Text.isBlank)
  return (opening ++ label ++ closing, s.length - rest.length)

/-- The delimiters that are tried, the doubled ones before the single ones inside them. -/
def quotedDelimiters : List (Text × Text) :=
  [Shape.terminal, Shape.storage, Shape.input, Shape.output, Shape.process, Shape.decision].map
    (fun shape => (shape.opening, shape.closing)) ++ [(['('], [')'])]

def unwrapQuotes (text : Text) : Text :=
  quotedDelimiters.foldl (fun t d => Text.replaceMatches (quotedLabel d.1 d.2) t) text

def dropEscapedQuotes : Text → Text
  | [] => []
  | [c] => [c]
  | c :: d :: s =>
    if c = '\\' ∧ d = '"' then dropEscapedQuotes s else c :: dropEscapedQuotes (d :: s)

def stripQuotes (text : Text) : Text :=
  (dropEscapedQuotes (unwrapQuotes text)).filter (!Label.isQuotationMark ·)

end Flowchart.Repair
