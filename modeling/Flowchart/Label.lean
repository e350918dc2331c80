import Flowchart.Text.Blank

/-!
# Labels

The characters that a node or edge label cannot hold, and how a label is cleaned of them.
-/

namespace Flowchart.Label

def illegalChars : List Char :=
  ['(', ')', '[', ']', '{', '}', ',', ':', ';', '|']

def quotationMarks : List Char :=
  ['"', '\u201c', '\u201d', '\u201e', '\x60']

def isIllegal (c : Char) : Bool :=
  illegalChars.contains c

def isQuotationMark (c : Char) : Bool :=
  quotationMarks.contains c

def isSlash (c : Char) : Bool :=
  c == '/' || c == '\\'

/-- Illegal characters become spaces, and the words that remain stand one space apart. -/
def clean (label : Text) : Text :=
  Text.joinWith ' ' (Text.words (label.map fun c => if isIllegal c then ' ' else c))

/-- A slash at either end would slant the side of the shape next to it. -/
def trimSlashes (label : Text) : Text :=
  Text.trimBy (fun c => isSlash c || Text.isBlank c) label

end Flowchart.Label
