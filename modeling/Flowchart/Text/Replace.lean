import Flowchart.Text.Blank

/-!
# Replacing matches

Every match of a pattern is replaced, from the left, and matches do not overlap.
-/

namespace Flowchart.Text

/-- A pattern gives the replacement of a match at the start of the text and the length of that
match, which is at least one. -/
abbrev Pattern := Text → Option (Text × Nat)

def replaceMatches (pattern : Pattern) : Text → Text
  | [] => []
  | c :: s =>
    match pattern (c :: s) with
    | some (replacement, n) => replacement ++ replaceMatches pattern (s.drop (n - 1))
    | none => c :: replaceMatches pattern s
termination_by s => s.length
decreasing_by
  · simp only [List.length_drop, List.length_cons]
    omega
  · exact Nat.lt_succ_self _

theorem replaceMatches_eq_self {pattern : Pattern} {s : Text}
    (h : ∀ t, t <:+ s → pattern t = none) : replaceMatches pattern s = s := by
  induction s with
  | nil => simp [replaceMatches]
  | cons c s ih =>
    have hs := ih fun t ht => h t (ht.trans (List.suffix_cons c s))
    simp [replaceMatches, h (c :: s) (List.suffix_refl _), hs]

/-- The text behind an opening, if it is there. -/
def after? (opening s : Text) : Option Text :=
  if opening.isPrefixOf s then some (s.drop opening.length) else none

theorem after?_eq_some_iff {opening s rest : Text} :
    after? opening s = some rest ↔ s = opening ++ rest := by
  unfold after?
  constructor
  · intro h
    split at h
    · rename_i hp
      obtain ⟨t, rfl⟩ := List.isPrefixOf_iff_prefix.1 hp
      simpa using h
    · cases h
  · rintro rfl
    simp

end Flowchart.Text
