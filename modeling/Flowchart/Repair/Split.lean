import Flowchart.Line

/-!
# One statement per line

A semicolon ends a statement where it stands outside delimiters, double quotes and pipe labels.
Directives are kept whole.
-/

namespace Flowchart.Repair

/-- The pieces of a line between the semicolons that end a statement, given how many delimiters
are open and whether a quote and a pipe label are. -/
def splitFrom (depth : Nat) (quoted piped : Bool) : Text → List Text
  | [] => [[]]
  | c :: s =>
    if c = '"' then Text.extendFirst c (splitFrom depth (!quoted) piped s)
    else if quoted then Text.extendFirst c (splitFrom depth quoted piped s)
    else if isOpener c then Text.extendFirst c (splitFrom (depth + 1) quoted piped s)
    else if isCloser c then Text.extendFirst c (splitFrom (depth - 1) quoted piped s)
    else if c = '|' ∧ depth = 0 then Text.extendFirst c (splitFrom depth quoted (!piped) s)
    else if c = ';' ∧ depth = 0 ∧ piped = false then [] :: splitFrom depth quoted piped s
    else Text.extendFirst c (splitFrom depth quoted piped s)

def splitLine (line : Text) : List Text :=
  if Line.isDirective line then [line]
  else
    match splitFrom 0 false false line with
    | [_] => [line]
    | pieces => pieces.filter fun piece => !(Text.trim piece).isEmpty

def splitStatements (text : Text) : Text :=
  Text.joinLines ((Text.lines text).flatMap splitLine)

end Flowchart.Repair
