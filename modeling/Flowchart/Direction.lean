import Flowchart.Text.Blank

/-!
# Directions

The five layouts of a chart and their two-letter codes. Codes are read in any case.
-/

namespace Flowchart

inductive Direction where
  | topDown
  | topBottom
  | bottomTop
  | leftRight
  | rightLeft
  deriving DecidableEq, Repr

namespace Direction

instance : Inhabited Direction := ⟨topDown⟩

def code : Direction → Text
  | topDown => ['T', 'D']
  | topBottom => ['T', 'B']
  | bottomTop => ['B', 'T']
  | leftRight => ['L', 'R']
  | rightLeft => ['R', 'L']

/-- Reads a code in capital letters. -/
def ofCode? : Text → Option Direction
  | ['T', 'D'] => some topDown
  | ['T', 'B'] => some topBottom
  | ['B', 'T'] => some bottomTop
  | ['L', 'R'] => some leftRight
  | ['R', 'L'] => some rightLeft
  | _ => none

theorem ofCode?_code (d : Direction) : ofCode? d.code = some d := by
  cases d <;> rfl

theorem ofCode?_eq_some_iff {s : Text} {d : Direction} : ofCode? s = some d ↔ s = d.code := by
  constructor
  · intro h
    unfold ofCode? at h
    split at h <;> cases h <;> rfl
  · rintro rfl
    exact ofCode?_code d

/-- A code that names no direction. -/
structure Unknown where
  code : Text
  deriving DecidableEq, Repr

def Unknown.message (e : Unknown) : Text :=
  "invalid flowchart direction: ".toList ++ e.code ++ " (expected TD/TB/BT/LR/RL)".toList

def ofText? (s : Text) : Option Direction :=
  ofCode? (s.map Char.toUpper)

def parse (s : Text) : Except Unknown Direction :=
  match ofText? s with
  | some d => .ok d
  | none => .error ⟨s⟩

end Direction

end Flowchart
