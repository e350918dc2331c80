import Flowchart.Label
import Flowchart.Line
import Flowchart.Token

/-!
# Edges

Every arrow becomes `-->`. A label inside an edge (`A -- yes --> B`) or behind it is put between
pipes right after the arrow.
-/

namespace Flowchart.Repair

def edgeText (label : Text) : Text :=
  renderEdge arrow (if label.isEmpty then none else some label)

/-- The words up to the arrow that finishes the edge, and the tokens behind that arrow. -/
def inlineWords? : List Token → Option (List Text × List Token)
  | [] => none
  | .space :: ts => inlineWords? ts
  | .word w :: ts => (inlineWords? ts).map fun r => (w :: r.1, r.2)
  | .join :: ts => (inlineWords? ts).map fun r => (['&'] :: r.1, r.2)
  | .arrow a :: ts => if Token.opensLabel a then none else some ([], ts)
  | .label _ :: _ => none

/-- A label needs a word. -/
def inlineLabel? (ts : List Token) : Option (Text × List Token) :=
  match inlineWords? ts with
  | some (w :: ws, rest) => some (Label.clean (Text.joinWith ' ' (w :: ws)), rest)
  | _ => none

def dropSpaces (ts : List Token) : List Token :=
  ts.dropWhile (· == .space)

/-- The label behind an arrow, blanks apart, and the tokens behind that label. -/
def attachedLabel? (ts : List Token) : Option (Text × List Token) :=
  match dropSpaces ts with
  | .label l :: rest => some (Label.clean l, rest)
  | _ => none

theorem length_inlineWords? {ts rest : List Token} {ws : List Text}
    (h : inlineWords? ts = some (ws, rest)) : rest.length < ts.length := by
  induction ts generalizing ws with
  | nil => simp [inlineWords?] at h
  | cons t ts ih =>
    have step {w : Text} (h : (inlineWords? ts).map (fun r => (w :: r.1, r.2)) = some (ws, rest)) :
        rest.length < (t :: ts).length := by
      obtain ⟨⟨ws', r⟩, hr, he⟩ := Option.map_eq_some_iff.1 h
      cases he
      exact Nat.lt_succ_of_lt (ih hr)
    cases t with
    | space => exact Nat.lt_succ_of_lt (ih h)
    | word w => exact step h
    | join => exact step h
    | arrow a =>
      simp only [inlineWords?] at h
      split at h
      · cases h
      · cases h
        simp
    | label l => simp [inlineWords?] at h

theorem length_inlineLabel? {ts rest : List Token} {label : Text}
    (h : inlineLabel? ts = some (label, rest)) : rest.length < ts.length := by
  unfold inlineLabel? at h
  split at h
  · rename_i hw
    cases h
    exact length_inlineWords? hw
  · cases h

theorem length_attachedLabel? {ts rest : List Token} {label : Text}
    (h : attachedLabel? ts = some (label, rest)) : rest.length < ts.length := by
  unfold attachedLabel? at h
  split at h
  · rename_i hd
    cases h
    have : (dropSpaces ts).length ≤ ts.length := (List.dropWhile_sublist _).length_le
    simp only [hd, List.length_cons] at this
    omega
  · cases h

def repairTokens : List Token → Text
  | [] => []
  | .arrow a :: ts =>
    match _h : if Token.opensLabel a then inlineLabel? ts else attachedLabel? ts with
    | some (label, rest) => edgeText label ++ repairTokens rest
    | none => (if Token.opensLabel a then a else arrow) ++ repairTokens ts
  | t :: ts => t.render ++ repairTokens ts
termination_by ts => ts.length
decreasing_by
  · split at _h
    · have := length_inlineLabel? _h
      simp
      omega
    · have := length_attachedLabel? _h
      simp
      omega
  · simp
  · simp

theorem repairTokens_nil : repairTokens [] = [] := by
  rw [repairTokens]

theorem repairTokens_cons {t : Token} (ht : ∀ a, t ≠ .arrow a) (ts : List Token) :
    repairTokens (t :: ts) = t.render ++ repairTokens ts := by
  rw [repairTokens]
  exact ht

theorem repairTokens_labelled {a label : Text} {ts rest : List Token}
    (h : (if Token.opensLabel a then inlineLabel? ts else attachedLabel? ts) =
      some (label, rest)) :
    repairTokens (.arrow a :: ts) = edgeText label ++ repairTokens rest := by
  rw [repairTokens]
  split
  · rename_i h'
    cases h.symm.trans h'
    rfl
  · rename_i h'
    cases h.symm.trans h'

theorem repairTokens_arrow {a : Text} {ts : List Token}
    (h : (if Token.opensLabel a then inlineLabel? ts else attachedLabel? ts) = none) :
    repairTokens (.arrow a :: ts) =
      (if Token.opensLabel a then a else arrow) ++ repairTokens ts := by
  rw [repairTokens]
  split
  · rename_i h'
    cases h.symm.trans h'
  · rfl

def repairEdgeText (t : Text) : Text :=
  repairTokens (Token.lex t)

def repairEdges : Text → Text :=
  Line.mapFreeText repairEdgeText

end Flowchart.Repair
