import Flowchart.Text.Blank

/-!
# Node identifiers

An identifier is made of ASCII letters and digits and is not the word that ends a subgraph.
-/

namespace Flowchart.Ident

inductive Defect where
  | empty
  | containsBlank
  | invalidChar (c : Char)
  | reserved
  deriving DecidableEq, Repr

def Defect.message : Defect → Text
  | empty => "must not be empty".toList
  | containsBlank => "must not contain whitespace".toList
  | invalidChar c => "contains invalid character: '".toList ++ [c, '\'']
  | reserved => "'end' is reserved".toList

def reservedWord : Text := ['e', 'n', 'd']

/-- The first thing wrong with an identifier: that it is empty, then a blank, then any other
character out of place, then the reserved word. -/
def defect? (s : Text) : Option Defect :=
  if s.isEmpty then some .empty
  else if s.any Text.isBlank then some .containsBlank
  else
    match s.find? (!·.isAlphanum) with
    | some c => some (.invalidChar c)
    | none => if s = reservedWord then some .reserved else none

def isValid (s : Text) : Bool :=
  (defect? s).isNone

/-- Keeps what an identifier may hold, and capitalizes the reserved word. -/
def sanitize (s : Text) : Text :=
  let kept := s.filter Char.isAlphanum
  if kept = reservedWord then ['E', 'n', 'd'] else kept

theorem not_isBlank_of_isAlphanum {c : Char} (h : c.isAlphanum = true) :
    Text.isBlank c = false := by
  have hc : 48 ≤ c.toNat ∧ c.toNat ≤ 57 ∨ 65 ≤ c.toNat ∧ c.toNat ≤ 90 ∨
      97 ≤ c.toNat ∧ c.toNat ≤ 122 := by
    have h : (decide ('A'.val ≤ c.val ∧ c.val ≤ 'Z'.val) ||
        decide ('a'.val ≤ c.val) && decide (c.val ≤ 'z'.val) ||
        decide ('0'.val ≤ c.val) && decide (c.val ≤ '9'.val)) = true := h
    simp only [Bool.or_eq_true, Bool.and_eq_true, decide_eq_true_eq,
      UInt32.le_iff_toNat_le] at h
    simp [← Char.toNat_val] at *
    omega
  simp only [Text.isBlank, Bool.or_eq_false_iff, Bool.and_eq_false_iff, decide_eq_false_iff_not,
    beq_eq_false_iff_ne]
  omega

theorem defect?_eq_none_iff {s : Text} :
    defect? s = none ↔ s ≠ [] ∧ (∀ c ∈ s, c.isAlphanum = true) ∧ s ≠ reservedWord := by
  unfold defect?
  constructor
  · intro h
    split at h
    · simp at h
    · split at h
      · simp at h
      · split at h
        · simp at h
        · rename_i h₁ _ _ h₂
          split at h
          · simp at h
          · rename_i h₃
            refine ⟨by simpa using h₁, ?_, h₃⟩
            simpa using h₂
  · rintro ⟨h₁, h₂, h₃⟩
    have hb : s.any Text.isBlank = false := by
      simp only [List.any_eq_false]
      intro c hc
      simp [not_isBlank_of_isAlphanum (h₂ c hc)]
    have hf : s.find? (!·.isAlphanum) = none := by
      simpa using h₂
    simp [h₁, hb, hf, h₃]

theorem isValid_iff {s : Text} :
    isValid s = true ↔ s ≠ [] ∧ (∀ c ∈ s, c.isAlphanum = true) ∧ s ≠ reservedWord := by
  rw [isValid, Option.isNone_iff_eq_none, defect?_eq_none_iff]

/-- Sanitizing gives an identifier unless nothing is left. -/
theorem isValid_sanitize {s : Text} (h : sanitize s ≠ []) : isValid (sanitize s) = true := by
  rw [isValid_iff]
  refine ⟨h, ?_, ?_⟩
  · unfold sanitize
    intro c hc
    dsimp only at hc
    split at hc
    · exact List.all_eq_true.1 (by decide) c hc
    · exact (List.mem_filter.1 hc).2
  · unfold sanitize
    dsimp only
    split
    · decide
    · assumption

end Flowchart.Ident
