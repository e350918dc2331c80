import Flowchart.Config
import Mathlib.Data.Nat.Digits.Defs

/-!
# Numbers in settings

A numeral is read digit by digit and has the value of its positions, whatever zeros it begins with.
-/

namespace Flowchart.Text

/-- Decimal digits behind at most one plus sign, and the number that they denote. -/
def IsNumeral (s : Text) (n : Nat) : Prop :=
  ∃ digits : Text, (s = digits ∨ s = '+' :: digits) ∧ digits ≠ [] ∧
    (∀ c ∈ digits, '0' ≤ c ∧ c ≤ '9') ∧
    n = Nat.ofDigits 10 (digits.reverse.map fun c => c.toNat - '0'.toNat)

theorem isDigit_iff {c : Char} : c.isDigit = true ↔ '0' ≤ c ∧ c ≤ '9' := by
  rw [Char.isDigit, Bool.and_eq_true, decide_eq_true_iff, decide_eq_true_iff]
  rfl

theorem numeralValue_eq_ofDigits (digits : Text) :
    numeralValue digits =
      Nat.ofDigits 10 (digits.reverse.map fun c => c.toNat - '0'.toNat) := by
  rw [numeralValue, Nat.ofDigits_eq_foldr, List.map_reverse, List.foldr_reverse, List.foldl_map]
  congr 1
  funext n c
  rw [digitValue, Nat.cast_id, Nat.add_comm, Nat.mul_comm]

theorem dropPlus_eq_self {s : Text} (h : ∀ c ∈ s.head?, c ≠ '+') : dropPlus s = s := by
  unfold dropPlus
  split
  · exact absurd rfl (h '+' rfl)
  · rfl

theorem eq_dropPlus_or (s : Text) : s = dropPlus s ∨ s = '+' :: dropPlus s := by
  unfold dropPlus
  split
  · exact .inr rfl
  · exact .inl rfl

theorem dropPlus_of_digits {s digits : Text} (hs : s = digits ∨ s = '+' :: digits)
    (hdigits : ∀ c ∈ digits, '0' ≤ c ∧ c ≤ '9') : dropPlus s = digits := by
  rcases hs with rfl | rfl
  · refine dropPlus_eq_self fun c hc => ?_
    rintro rfl
    exact absurd (hdigits '+' (List.mem_of_mem_head? hc)) (by decide)
  · rfl

theorem numeral?_eq_some_iff {bound n : Nat} {s : Text} :
    numeral? bound s = some n ↔ s.IsNumeral n ∧ n < bound := by
  constructor
  · intro h
    have hlt := lt_of_numeral? h
    rw [numeral?] at h
    split at h
    · cases h
    · rename_i hdigits
      rw [Bool.or_eq_true, not_or, List.isEmpty_iff, Bool.not_eq_true', Bool.not_eq_false,
        List.all_eq_true] at hdigits
      split at h
      · cases h
        exact ⟨⟨dropPlus s, eq_dropPlus_or s, hdigits.1, fun c hc => isDigit_iff.1 (hdigits.2 c hc),
          numeralValue_eq_ofDigits _⟩, hlt⟩
      · cases h
  · rintro ⟨⟨digits, hs, hne, hdigits, hn⟩, hlt⟩
    have hall : digits.all Char.isDigit = true :=
      List.all_eq_true.2 fun c hc => isDigit_iff.2 (hdigits c hc)
    rw [← numeralValue_eq_ofDigits] at hn
    rw [numeral?, dropPlus_of_digits hs hdigits, if_neg (by simp [hne, hall]), ← hn, if_pos hlt]

/-- A numeral denotes one number. -/
theorem IsNumeral.unique {s : Text} {m n : Nat} (hm : s.IsNumeral m) (hn : s.IsNumeral n) :
    m = n := by
  have h₁ := numeral?_eq_some_iff.2 ⟨hm, Nat.lt_succ_of_le (Nat.le_max_left m n)⟩
  have h₂ := numeral?_eq_some_iff.2 ⟨hn, Nat.lt_succ_of_le (Nat.le_max_right m n)⟩
  exact Option.some.inj (h₁.symm.trans h₂)

end Flowchart.Text
