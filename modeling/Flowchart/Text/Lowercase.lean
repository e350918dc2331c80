import Flowchart.Text.Blank
import Flowchart.Text.CaseRanges
import Flowchart.Text.WordClass

/-!
# Lower case

Each character has a lower-case form of its own, except the capital sigma, whose form depends on
whether it ends a word.
-/

namespace Flowchart.Text

def isCased (c : Char) : Bool :=
  if isAscii c then c.isAlpha else inRanges casedRanges c

def isCaseIgnorable (c : Char) : Bool :=
  if isAscii c then c == '\'' || c == '.' || c == ':' || c == '^' || c == '\x60'
  else inRanges caseIgnorableRanges c

def CaseRun.covers (r : CaseRun) (n : Nat) : Bool :=
  r.first ≤ n && n ≤ r.last && (n - r.first) % r.step == 0

/-- The form of one character out of context. -/
def lowercaseChar (c : Char) : Text :=
  if isAscii c then [c.toLower]
  else if c == '\u0130' then ['i', '\u0307']
  else
    match lowercaseRuns.find? (·.covers c.toNat) with
    | some r => [Char.ofNat (r.image + (c.toNat - r.first))]
    | none => [c]

/-- Whether the first character that matters for case is a cased one. -/
def leadsToCased : Text → Bool
  | [] => false
  | c :: s => if isCaseIgnorable c then leadsToCased s else isCased c

/-- A capital sigma ends a word when a cased character comes before it and none after it; the
argument says the former. -/
def lowercaseFrom (afterCased : Bool) : Text → Text
  | [] => []
  | c :: s =>
    (if c == 'Σ' then [if afterCased && !leadsToCased s then 'ς' else 'σ'] else lowercaseChar c) ++
      lowercaseFrom (if isCaseIgnorable c then afterCased else isCased c) s

def lowercase (s : Text) : Text :=
  lowercaseFrom false s

end Flowchart.Text
