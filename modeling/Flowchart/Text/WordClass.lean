import Flowchart.Text.WordRanges

/-!
# Letters, digits and word characters

Each class is decided directly for ASCII and by its table beyond.
-/

namespace Flowchart.Text

def inRanges (ranges : List (Nat × Nat)) (c : Char) : Bool :=
  ranges.any fun r => r.1 ≤ c.toNat && c.toNat ≤ r.2

def isAscii (c : Char) : Bool :=
  c.toNat < 128

def isAlphanumeric (c : Char) : Bool :=
  if isAscii c then c.isAlphanum else inRanges alphanumericRanges c

/-- Letters, marks, decimal digits, connectors and joiners: what a word boundary separates from
the rest. -/
def isWordChar (c : Char) : Bool :=
  if isAscii c then c.isAlphanum || c == '_' else inRanges wordRanges c

def isDecimalDigit (c : Char) : Bool :=
  if isAscii c then c.isDigit else inRanges digitRanges c

end Flowchart.Text
