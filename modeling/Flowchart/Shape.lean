import Flowchart.Text.Blank

/-!
# Shapes

The six shapes of a node. Each has one spelling, its delimiters around the label, and stands for
one role in a chart.
-/

namespace Flowchart

inductive Shape where
  | terminal
  | input
  | output
  | process
  | decision
  | storage
  deriving DecidableEq, Repr

namespace Shape

def all : List Shape :=
  [terminal, input, output, process, decision, storage]

def opening : Shape → Text
  | terminal => ['(', '[']
  | input => ['[', '/']
  | output => ['[', '\\']
  | process => ['[']
  | decision => ['{']
  | storage => ['[', '(']

def closing : Shape → Text
  | terminal => [']', ')']
  | input => ['/', ']']
  | output => ['\\', ']']
  | process => [']']
  | decision => ['}']
  | storage => [')', ']']

/-- The figure that is drawn. -/
def name : Shape → Text
  | terminal => "oval".toList
  | input => "parallelogram (left slant)".toList
  | output => "parallelogram (right slant)".toList
  | process => "rectangle".toList
  | decision => "diamond".toList
  | storage => "cylinder".toList

/-- What a node of the shape stands for. -/
def role : Shape → Text
  | terminal => "Start/End".toList
  | input => "Input".toList
  | output => "Output".toList
  | process => "Process".toList
  | decision => "Decision".toList
  | storage => "Storage/Database".toList

def wrap (s : Shape) (label : Text) : Text :=
  s.opening ++ label ++ s.closing

end Shape

def isOpener (c : Char) : Bool :=
  c == '[' || c == '(' || c == '{'

def isCloser (c : Char) : Bool :=
  c == ']' || c == ')' || c == '}'

/-- The delimiter that closes an opening one. -/
def closerOf (c : Char) : Char :=
  if c == '[' then ']' else if c == '(' then ')' else '}'

theorem isCloser_closerOf (c : Char) : isCloser (closerOf c) = true := by
  unfold closerOf
  split
  · rfl
  · split <;> rfl

end Flowchart
