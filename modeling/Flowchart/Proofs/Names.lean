import Flowchart.Proofs.FixedPoints
import Mathlib.Data.List.Infix

/-!
# Names

A name is what people write for an identifier: it holds a letter or a digit, and it may hold other
characters as long as neither the scanner nor the lexer stops at one of them. Where a name ends,
the identifier glued to a shape and the word in free text both end, and sanitizing a name leaves an
identifier.
-/

namespace Flowchart

namespace Ident

/-- Characters that a name can hold. -/
def isNamePart (c : Char) : Bool :=
  !(Text.isBlank c || isOpener c || isCloser c || Label.isQuotationMark c ||
    ['|', '&', ';', ':', '>'].contains c)

/-- No run of strokes, dots and tails in a name is an arrow, or could be one with a head. -/
structure IsName (w : Text) : Prop where
  alphanum : ∃ c ∈ w, c.isAlphanum = true
  parts : ∀ c ∈ w, isNamePart c = true
  strokes : ∀ s ∈ w.tails, (Token.arrowRun s).countP Token.isStroke ≤ 1

theorem isName_iff {w : Text} : IsName w ↔ w.any Char.isAlphanum = true ∧
    w.all isNamePart = true ∧ ∀ s ∈ w.tails, (Token.arrowRun s).countP Token.isStroke ≤ 1 :=
  ⟨fun h => ⟨List.any_eq_true.2 h.alphanum, List.all_eq_true.2 h.parts, h.strokes⟩,
    fun h => ⟨List.any_eq_true.1 h.1, List.all_eq_true.1 h.2.1, h.2.2⟩⟩

instance (w : Text) : Decidable (IsName w) :=
  decidable_of_iff _ isName_iff.symm

theorem isNamePart_iff {c : Char} : isNamePart c = true ↔ Text.isBlank c = false ∧
    isOpener c = false ∧ isCloser c = false ∧ Label.isQuotationMark c = false ∧ c ≠ '|' ∧
      c ≠ '&' ∧ c ≠ ';' ∧ c ≠ ':' ∧ c ≠ '>' := by
  simp only [isNamePart, Bool.not_eq_true', Bool.or_eq_false_iff, List.contains_cons,
    List.contains_nil, beq_eq_false_iff_ne, ne_eq, and_true, and_assoc]

theorem isNamePart_of_isAlphanum {c : Char} (h : c.isAlphanum = true) : isNamePart c = true := by
  have hne {d : Char} (hd : d.isAlphanum = false) : c ≠ d := by
    rintro rfl
    rw [h] at hd
    cases hd
  obtain ⟨ho, hc, hp⟩ := Segment.not_delimiter_of_isAlphanum h
  refine isNamePart_iff.2 ⟨not_isBlank_of_isAlphanum h, ho, hc, ?_, hp, hne (by decide),
    hne (by decide), hne (by decide), hne (by decide)⟩
  exact isQuotationMark_of_isWritten (by simp [isWritten, h])

theorem IsName.of_isValid {w : Text} (hw : isValid w = true) : IsName w := by
  obtain ⟨hne, halnum, -⟩ := isValid_iff.1 hw
  refine ⟨?_, fun c hc => isNamePart_of_isAlphanum (halnum c hc), fun s hs => ?_⟩
  · obtain ⟨c, w, rfl⟩ := List.exists_cons_of_ne_nil hne
    exact ⟨c, by simp, halnum c (by simp)⟩
  · have hnil : Token.arrowRun s = [] := by
      cases s with
      | nil => rfl
      | cons c s =>
          have hc := halnum c ((List.mem_tails _ _).1 hs |>.subset (by simp))
          rw [Token.arrowRun, List.takeWhile_cons,
            if_neg (by simp [Token.isArrowChar_eq_false_of_isAlphanum hc])]
    rw [hnil]
    exact Nat.zero_le 1

namespace IsName

variable {w : Text} (hw : IsName w)

include hw

theorem ne_nil : w ≠ [] := by
  rintro rfl
  obtain ⟨c, hc, -⟩ := hw.alphanum
  cases hc

theorem isWord : Text.IsWord w :=
  ⟨hw.ne_nil, fun c hc => (isNamePart_iff.1 (hw.parts c hc)).1⟩

theorem notMem {d : Char} (hd : isNamePart d = false) : d ∉ w := by
  intro h
  rw [hw.parts d h] at hd
  cases hd

/-! ## Identifiers of names -/

/-- Something is left of a name. -/
theorem isValid_sanitize : isValid (sanitize w) = true := by
  refine Ident.isValid_sanitize ?_
  obtain ⟨c, hc, halnum⟩ := hw.alphanum
  have hmem : c ∈ w.filter Char.isAlphanum := List.mem_filter.2 ⟨hc, halnum⟩
  by_cases h : w.filter Char.isAlphanum = reservedWord
  · rw [sanitize, if_pos h]
    decide
  · rw [sanitize, if_neg h]
    exact List.ne_nil_of_mem hmem

/-! ## Names in free text -/

theorem isFree : Segment.IsFree w := by
  refine Segment.isFree_of_chars fun c hc => ?_
  obtain ⟨-, ho, -, -, hp, -⟩ := isNamePart_iff.1 (hw.parts c hc)
  exact ⟨ho, hp⟩

/-- No arrow begins inside a name, whatever stands behind it. -/
theorem isArrow_eq_false {s t : Text} (hs : s <:+ w)
    (ht : ∀ c ∈ t.head?, Token.isArrowChar c = false) :
    Token.isArrow (Token.arrowRun (s ++ t)) = false := by
  have hrun := Token.arrowRun_append_of_stop ht s
  have hstrokes := hw.strokes s ((List.mem_tails _ _).2 hs)
  have hhead : '>' ∉ Token.arrowRun s := fun h =>
    hw.notMem (by decide) (hs.subset ((List.takeWhile_prefix _).subset h))
  have hlt : ¬ 2 ≤ (Token.arrowRun s).countP Token.isStroke := by omega
  rw [hrun, Token.isArrow]
  simp [hlt, hhead]

end IsName

end Ident

/-! ## Where a name ends -/

namespace Token

/-- A blank or a join stands here, or nothing. -/
def EndsName (t : Text) : Prop := ∀ c ∈ t.head?, Text.isBlank c = true ∨ c = '&'

theorem EndsName.not_isArrowChar {t : Text} (ht : EndsName t) :
    ∀ c ∈ t.head?, isArrowChar c = false := by
  intro c hc
  rcases ht c hc with h | rfl
  · exact isArrowChar_eq_false_of_isBlank h
  · rfl

theorem EndsName.endsWord {t : Text} (ht : EndsName t) : EndsWord t := by
  cases t with
  | nil => exact endsWord_nil
  | cons c t => exact endsWord_of_head ((ht c rfl).imp_right .inl)

section

variable {w t : Text} (hw : Ident.IsName w) (ht : EndsName t)

include hw ht

theorem wordRest_name_append {s : Text} (hs : s <:+ w) : wordRest (s ++ t) = (s, t) := by
  induction s with
  | nil => exact ht.endsWord
  | cons c s ih =>
      obtain ⟨hb, -, -, -, hp, hj, -⟩ := Ident.isNamePart_iff.1 (hw.parts c (hs.subset (by simp)))
      have hstart : startsArrow (c :: s ++ t) = false :=
        hw.isArrow_eq_false hs ht.not_isArrowChar
      rw [List.cons_append] at hstart ⊢
      rw [wordRest, if_neg (by simp [hb, hp, hj, hstart]), ih ((List.suffix_cons c s).trans hs)]

theorem lex_name_append : lex (w ++ t) = .word w :: lex t := by
  obtain ⟨c, v, hcons⟩ := List.exists_cons_of_ne_nil hw.ne_nil
  have hsuffix : v <:+ w := hcons ▸ List.suffix_cons c v
  obtain ⟨hb, -, -, -, hp, hj, -⟩ := Ident.isNamePart_iff.1 (hw.parts c (by simp [hcons]))
  have hnone : arrowLength? (c :: (v ++ t)) = none := by
    have := hw.isArrow_eq_false (List.suffix_refl w) ht.not_isArrowChar
    rw [hcons, List.cons_append] at this
    simp [arrowLength?, this]
  have hrest := wordRest_name_append hw ht hsuffix
  rw [hcons, List.cons_append, lex_cons_word hb hp hj hnone, hrest]

end

end Token

/-! ## Names glued to a shape -/

/-- No stroke stands twice in a name. -/
theorem Ident.IsName.not_infix_reverse {w : Text} (hw : IsName w) {c : Char}
    (hc : Token.isStroke c = true) : ¬ [c, c] <:+: w.reverse := by
  intro h
  have hinfix : [c, c] <:+: w := by
    have := List.reverse_infix.2 h
    rwa [List.reverse_reverse] at this
  obtain ⟨s, t, hst⟩ := hinfix
  have hsuffix : c :: c :: t <:+ w := ⟨s, by simpa using hst⟩
  have harrow : Token.isArrowChar c = true := by
    simp only [Token.isStroke, Bool.or_eq_true, beq_iff_eq] at hc
    rcases hc with rfl | rfl <;> rfl
  have hrun : Token.arrowRun (c :: c :: t) = c :: c :: Token.arrowRun t := by
    simp [Token.arrowRun, harrow]
  have := hw.strokes _ ((List.mem_tails _ _).2 hsuffix)
  rw [hrun, List.countP_cons_of_pos hc, List.countP_cons_of_pos hc] at this
  omega

/-- A name is read back whole from a shape that it is glued to. -/
theorem Ident.IsName.isGlued {w : Text} (hw : IsName w) : Segment.IsGlued w := by
  refine ⟨hw.ne_nil, hw.isFree, fun back hback => ?_⟩
  refine Segment.gluedId_append (fun c hc => ?_) (hw.not_infix_reverse rfl)
    (hw.not_infix_reverse rfl) hback
  obtain ⟨hb, ho, hcl, -, hp, hj, -, -, hh⟩ :=
    isNamePart_iff.1 (hw.parts c (List.mem_reverse.1 hc))
  exact ⟨by simp [Segment.stopsId, hb, ho, hcl, hp, hj], hh⟩

end Flowchart
