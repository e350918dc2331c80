import Flowchart.Line

/-!
# Delimiters

Each shape is spelled in its one way, and delimiters that belong to no shape become spaces.
-/

namespace Flowchart.Repair

def blankDelimiters (t : Text) : Text :=
  t.map fun c => if isOpener c || isCloser c then ' ' else c

def normalizeBrackets : Text → Text :=
  Line.mapFreeText blankDelimiters

end Flowchart.Repair
