import Flowchart.Proofs.Contents
import Flowchart.Proofs.Rereadings

/-!
# Blanks at the ends of a line

A blank in front of a line or behind it stays a blank, or goes, and the rest of the line comes out
as it does without it. The scanner puts the blank into the free text next to it, or into the label
of a shape that is never closed, where it is trimmed away, and the lexer reads it as a space.
-/

namespace Flowchart

namespace Text

/-- Blanks at the ends of a text do not change what is made of the rest. -/
structure KeepsEnds (f : Text → Text) : Prop where
  nil : f [] = []
  lead : ∀ c t, isBlank c = true → ∃ b, IsBlanks b ∧ f (c :: t) = b ++ f t
  trail : ∀ c t, isBlank c = true → ∃ b, IsBlanks b ∧ f (t ++ [c]) = f t ++ b

theorem IsBlanks.singleton {c : Char} (hc : isBlank c = true) : IsBlanks [c] := by
  intro d hd
  rwa [List.mem_singleton.1 hd]

namespace KeepsEnds

variable {f g : Text → Text} (hf : KeepsEnds f)

include hf

theorem exists_lead {b : Text} (hb : IsBlanks b) (t : Text) :
    ∃ b', IsBlanks b' ∧ f (b ++ t) = b' ++ f t := by
  induction b with
  | nil => exact ⟨[], .nil, rfl⟩
  | cons c b ih =>
      obtain ⟨b', hb', h⟩ := ih hb.tail
      obtain ⟨d, hd, hc⟩ := hf.lead c (b ++ t) (hb c (by simp))
      exact ⟨d ++ b', hd.append hb', by rw [List.cons_append, hc, h, List.append_assoc]⟩

theorem exists_trail {b : Text} (hb : IsBlanks b) (t : Text) :
    ∃ b', IsBlanks b' ∧ f (t ++ b) = f t ++ b' := by
  induction b generalizing t with
  | nil => exact ⟨[], .nil, by simp⟩
  | cons c b ih =>
      obtain ⟨b', hb', h⟩ := ih hb.tail (t ++ [c])
      obtain ⟨d, hd, hc⟩ := hf.trail c t (hb c (by simp))
      refine ⟨d ++ b', hd.append hb', ?_⟩
      rw [← List.append_assoc, ← hc, ← h, List.append_assoc]
      rfl

/-- What comes out is the same up to the blanks around it. -/
theorem trim_eq (u : Text) : trim (f u) = trim (f (trim u)) := by
  obtain ⟨b, b', hb, hb', hu⟩ := exists_trim u
  obtain ⟨d', hd', htrail⟩ := hf.exists_trail hb' (b ++ trim u)
  obtain ⟨d, hd, hlead⟩ := hf.exists_lead hb (trim u)
  conv_lhs => rw [hu, htrail, hlead]
  exact trim_append_isBlanks hd hd' _

theorem comp (hg : KeepsEnds g) : KeepsEnds (g ∘ f) where
  nil := by rw [Function.comp_apply, hf.nil, hg.nil]
  lead c t hc := by
    obtain ⟨b, hb, h⟩ := hf.lead c t hc
    rw [Function.comp_apply, h]
    exact hg.exists_lead hb (f t)
  trail c t hc := by
    obtain ⟨b, hb, h⟩ := hf.trail c t hc
    rw [Function.comp_apply, h]
    exact hg.exists_trail hb (f t)

end KeepsEnds

end Text

/-! ## Segments of a line with a blank more -/

/-- What a blank is not. -/
theorem Text.ne_of_isBlank {c d : Char} (hc : isBlank c = true) (hd : isBlank d = false) :
    c ≠ d := by
  rintro rfl
  rw [hc] at hd
  cases hd

namespace Segment

/-- A character in front of the first segment. -/
def leadWith (c : Char) : List Segment → List Segment
  | .text t :: segments => .text (c :: t) :: segments
  | segments => .text [c] :: segments

/-- A character behind the last segment. -/
def trailWith (c : Char) : List Segment → List Segment
  | [] => [.text [c]]
  | [.text t] => [.text (t ++ [c])]
  | segment :: segments => segment :: trailWith c segments

theorem ofBack_append (c : Char) (back : Text) (n : ShapedNode) (segments : List Segment) :
    ofBack (back ++ [c]) ++ .node n :: segments
      = leadWith c (ofBack back ++ .node n :: segments) := by
  cases back with
  | nil => rfl
  | cons d back => simp [ofBack, leadWith]

theorem trailWith_ofBack (c : Char) (back : Text) (n : ShapedNode) (segments : List Segment) :
    trailWith c (ofBack back ++ .node n :: segments)
      = ofBack back ++ .node n :: trailWith c segments := by
  cases back with
  | nil => simp [ofBack, trailWith]
  | cons d back => simp [ofBack, trailWith]

theorem length_untilDouble_le (c : Char) (s : Text) : (untilDouble c s).length ≤ s.length := by
  fun_induction untilDouble c s with
  | case1 => exact Nat.le_refl _
  | case2 => exact Nat.le_refl _
  | case3 a b s h => exact Nat.zero_le _
  | case4 a b s h ih => exact Nat.succ_le_succ ih

theorem length_gluedId_le (back : Text) : (gluedId back).length ≤ back.length := by
  have h₁ := length_untilDouble_le '='
    (untilDouble '-' ((back.takeWhile (!stopsId ·)).takeWhile (· != '>')))
  have h₂ := length_untilDouble_le '-' ((back.takeWhile (!stopsId ·)).takeWhile (· != '>'))
  have h₃ := (List.takeWhile_prefix (l := back.takeWhile (!stopsId ·)) (· != '>')).length_le
  have h₄ := (List.takeWhile_prefix (l := back) (!stopsId ·)).length_le
  rw [gluedId]
  omega

variable {c : Char} (hc : Text.isBlank c = true)

include hc

/-- No identifier reaches back to the blank in front of the line. -/
theorem gluedId_append_blank (back : Text) : gluedId (back ++ [c]) = gluedId back := by
  have hstop : (back ++ [c]).takeWhile (!stopsId ·) = back.takeWhile (!stopsId ·) :=
    Text.takeWhile_append_of_head? (by simp [EdgeText.stopsId_of_isBlank hc]) back
  rw [gluedId, hstop, gluedId]

theorem scanFrom_lead (back s : Text) :
    scanFrom (back ++ [c]) s = leadWith c (scanFrom back s) := by
  fun_induction scanFrom back s with
  | case1 back =>
      rw [scanFrom_nil]
      cases back with
      | nil => rfl
      | cons d back => simp [ofBack, leadWith]
  | case2 back s label rest h ih =>
      rw [← ih, scanFrom_label h]
      simp
  | case3 back s h ih =>
      rw [← ih, scanFrom_pipe h]
      rfl
  | case4 back d s hpipe hopen id body read ih =>
      have hid := gluedId_append_blank hc back
      rw [scanFrom_opener (by rwa [hid]), hid,
        List.drop_append_of_le_length (length_gluedId_le back), ofBack_append]
      rfl
  | case5 back d s hpipe hopen ih =>
      rw [← ih, scanFrom_cons (absurd · hpipe) (by rwa [gluedId_append_blank hc])]
      rfl

theorem scan_lead (t : Text) : scan (c :: t) = leadWith c (scan t) := by
  rw [scan, scanFrom_cons (absurd · (Text.ne_of_isBlank hc rfl))
    (by simp [isOpener_eq_false_of_isBlank hc])]
  exact scanFrom_lead hc [] t

theorem untilPipe?_append_blank (s : Text) :
    untilPipe? (s ++ [c]) = (untilPipe? s).map fun r => (r.1, r.2 ++ [c]) := by
  induction s with
  | nil => simp [untilPipe?, Text.ne_of_isBlank hc (d := '|') rfl]
  | cons d s ih =>
      rw [List.cons_append, untilPipe?, untilPipe?, ih]
      split
      · rfl
      · cases untilPipe? s <;> rfl

theorem closedInterior?_append_blank {closers : List Char} {s : Text}
    (h : closedInterior? closers s = none) : closedInterior? closers (s ++ [c]) = none := by
  induction s generalizing closers with
  | nil =>
      simp [closedInterior?, isOpener_eq_false_of_isBlank hc, isCloser_eq_false_of_isBlank hc]
  | cons d s ih =>
      have step {outer : List Char} {f : Text × Text → Text × Text}
          (h : (closedInterior? outer s).map f = none) :
          (closedInterior? outer (s ++ [c])).map f = none := by
        rw [ih (Option.map_eq_none_iff.1 h)]
        rfl
      rw [closedInterior?] at h
      rw [List.cons_append, closedInterior?]
      split at h
      · rename_i hopen
        rw [if_pos hopen]
        exact step h
      · rename_i hopen
        rw [if_neg hopen]
        split at h
        · rename_i hclose
          rw [if_pos hclose]
          cases hw : closeWith d closers with
          | none =>
              rw [hw] at h
              exact step h
          | some outer =>
              rw [hw] at h
              cases outer with
              | nil => cases h
              | cons e outer => exact step h
        · rename_i hclose
          rw [if_neg hclose]
          exact step h

/-- Behind an arrow the blank is left of it, and without one it is a part of the interior. -/
theorem untilArrow_append_blank (s : Text) :
    untilArrow (s ++ [c]) = ((untilArrow s).1, (untilArrow s).2 ++ [c]) ∨
      (untilArrow s).2 = [] ∧ untilArrow (s ++ [c]) = ((untilArrow s).1 ++ [c], []) := by
  fun_induction untilArrow s with
  | case1 => exact .inr ⟨rfl, rfl⟩
  | case2 d =>
      have hnone : beginsArrow d c = false := by
        simp [beginsArrow, Text.ne_of_isBlank hc (d := '-') rfl,
          Text.ne_of_isBlank hc (d := '=') rfl, Text.ne_of_isBlank hc (d := '>') rfl]
      exact .inr ⟨rfl, by simp [untilArrow, hnone]⟩
  | case3 a b s h => exact .inl (by simp [untilArrow, h])
  | case4 a b s h ih =>
      rw [List.cons_append] at ih
      rcases ih with ih | ⟨hnil, ih⟩
      · exact .inl (by simp [untilArrow, h, ih])
      · exact .inr ⟨hnil, by simp [untilArrow, h, ih]⟩

theorem shapeInterior_append_blank (o : Char) (s : Text) :
    shapeInterior o (s ++ [c]) = ((shapeInterior o s).1, (shapeInterior o s).2 ++ [c]) ∨
      (shapeInterior o s).2 = [] ∧ shapeInterior o (s ++ [c]) = ((shapeInterior o s).1 ++ [c], [])
    := by
  cases h : closedInterior? [closerOf o] s with
  | some r =>
      have happ := closedInterior?_append (i := r.1) (r := r.2) h [c]
      exact .inl (by rw [shapeInterior, happ, shapeInterior, h])
  | none =>
      have happ := closedInterior?_append_blank hc h
      rw [shapeInterior, happ, shapeInterior, h]
      exact untilArrow_append_blank hc s

theorem classifyInterior_append_blank (o : Char) (i : Text) :
    classifyInterior o (i ++ [c]) = classifyInterior o i := by
  have htrim : Text.trim (i ++ [c]) = Text.trim i :=
    Text.trim_append_isBlanks .nil (.singleton hc) i
  rw [classifyInterior, htrim, classifyInterior]

theorem scanFrom_trail (back s : Text) :
    scanFrom back (s ++ [c]) = trailWith c (scanFrom back s) ∨
      scanFrom back (s ++ [c]) = scanFrom back s := by
  fun_induction scanFrom back s with
  | case1 back =>
      left
      rw [List.nil_append, scanFrom_cons (absurd · (Text.ne_of_isBlank hc rfl))
        (by simp [isOpener_eq_false_of_isBlank hc]), scanFrom_nil]
      cases back with
      | nil => rfl
      | cons d back => simp [ofBack, trailWith]
  | case2 back s label rest h ih =>
      have happ : untilPipe? (s ++ [c]) = some (label, rest ++ [c]) := by
        rw [untilPipe?_append_blank hc, h]
        rfl
      rw [List.cons_append, scanFrom_label happ]
      exact ih
  | case3 back s h ih =>
      have happ : untilPipe? (s ++ [c]) = none := by
        rw [untilPipe?_append_blank hc, h]
        rfl
      rw [List.cons_append, scanFrom_pipe happ]
      exact ih
  | case4 back d s hpipe hopen id body read ih =>
      rw [List.cons_append, scanFrom_opener hopen, ShapedNode.ofInterior]
      rcases shapeInterior_append_blank hc d s with h | ⟨hnil, h⟩
      · rw [h]
        rcases ih with ih | ih
        · left
          rw [trailWith_ofBack, ← ih]
        · right
          rw [← ih]
      · -- the blank ends a shape that is never closed, and goes with the blanks around its label
        have hrest : body.2 = [] := hnil
        right
        rw [h, classifyInterior_append_blank hc, hrest]
  | case5 back d s hpipe hopen ih =>
      rw [List.cons_append, scanFrom_cons (absurd · hpipe) hopen]
      exact ih

end Segment

/-! ## Tokens of a text with a blank more -/

namespace Token

variable {c : Char} (hc : Text.isBlank c = true)

include hc

theorem lex_lead (t : Text) : lex (c :: t) = lex t ∨ lex (c :: t) = .space :: lex t := by
  have hblank := lex_blank hc t
  cases t with
  | nil => exact .inr hblank
  | cons d t =>
      by_cases hd : Text.isBlank d = true
      · left
        rw [hblank, List.dropWhile_cons_of_pos hd, lex_blank hd]
      · right
        rw [hblank, List.dropWhile_cons_of_neg hd]

theorem dropWhile_append_blank (t : Text) :
    (t ++ [c]).dropWhile Text.isBlank = t.dropWhile Text.isBlank ++ [c] ∨
      t.dropWhile Text.isBlank = [] ∧ (t ++ [c]).dropWhile Text.isBlank = [] := by
  rw [List.dropWhile_append]
  cases h : t.dropWhile Text.isBlank with
  | nil => exact .inr ⟨rfl, by simp [hc]⟩
  | cons d u => exact .inl rfl

/-- The blank is one more token, or the last one reaches to it. -/
theorem lex_trail (t : Text) : lex (t ++ [c]) = lex t ∨ lex (t ++ [c]) = lex t ++ [.space] := by
  have hs : ∀ d ∈ [c].head?, Text.isBlank d = true := by
    intro d hd
    cases hd
    exact hc
  have hcons {k : Token} {ts us : List Token} (h : us = ts ∨ us = ts ++ [.space]) :
      k :: us = k :: ts ∨ k :: us = k :: ts ++ [.space] := by
    rcases h with rfl | rfl
    · exact .inl rfl
    · exact .inr rfl
  fun_induction lex t with
  | case1 =>
      right
      rw [List.nil_append, lex_blank hc]
      simp [lex_nil]
  | case2 d s hd ih =>
      rw [List.cons_append, lex_blank hd]
      rcases dropWhile_append_blank hc s with h | ⟨hnil, h⟩
      · rw [h]
        exact hcons ih
      · -- the blanks at the end are one token already
        left
        rw [h, hnil]
  | case3 s l rest h hb ih =>
      have happ : Segment.untilPipe? (s ++ [c]) = some (l, rest ++ [c]) := by
        rw [Segment.untilPipe?_append_blank hc, h]
        rfl
      rw [List.cons_append, lex_label happ]
      exact hcons ih
  | case4 s h hb ih =>
      have happ : Segment.untilPipe? (s ++ [c]) = none := by
        rw [Segment.untilPipe?_append_blank hc, h]
        rfl
      rw [List.cons_append, lex_pipe_word happ, wordRest_append_blank hs]
      exact hcons ih
  | case5 d s hd hp n h ih =>
      rw [List.cons_append, lex_arrow_append_blank hs (by simpa using hd) hp h]
      exact hcons ih
  | case6 s h hb hp ih =>
      rw [List.cons_append, lex_join_append]
      exact hcons ih
  | case7 d s hd hp h hj ih =>
      rw [List.cons_append, lex_word_append_blank hs (by simpa using hd) hp hj h]
      exact hcons ih

end Token

end Flowchart
