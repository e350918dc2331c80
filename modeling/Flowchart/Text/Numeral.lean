import Flowchart.Text.Blank

/-!
# Numerals

A numeral is one or more decimal digits of ASCII, with at most one plus sign in front, and denotes
a number below a bound.
-/

namespace Flowchart.Text

def digitValue (c : Char) : Nat :=
  c.toNat - '0'.toNat

def numeralValue (digits : Text) : Nat :=
  digits.foldl (fun n c => n * 10 + digitValue c) 0

def dropPlus : Text → Text
  | '+' :: s => s
  | s => s

def numeral? (bound : Nat) (s : Text) : Option Nat :=
  let digits := dropPlus s
  if digits.isEmpty || !digits.all Char.isDigit then none
  else if numeralValue digits < bound then some (numeralValue digits)
  else none

theorem lt_of_numeral? {bound n : Nat} {s : Text} (h : numeral? bound s = some n) : n < bound := by
  unfold numeral? at h
  dsimp only at h
  split at h
  · cases h
  · split at h
    · cases h
      assumption
    · cases h

end Flowchart.Text
