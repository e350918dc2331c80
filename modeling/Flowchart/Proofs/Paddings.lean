import Flowchart.Proofs.Characters
import Flowchart.Proofs.EdgeRules
import Flowchart.Proofs.Respellings

/-!
# Padding changes the layout only

Padding puts spaces around arrows and joins, and keeps one of spaces that stand side by side. What
it writes is read as the tokens from before, with the spaces in their new places, since a word ends
before what padding puts behind it and an arrow has a space or its label there. So a second padding
has nothing to do.
-/

namespace Flowchart

open EdgeText (collapseSpaces_cons collapseSpaces_append collapseSpaces_double)

/-! ## Single spaces -/

namespace Repair

theorem head?_collapseSpaces (s : Text) : (collapseSpaces s).head? = s.head? := by
  fun_induction collapseSpaces s with
  | case1 => rfl
  | case2 c => rfl
  | case3 c d s h ih => rw [ih, List.head?_cons, List.head?_cons, h.1, h.2]
  | case4 c d s h ih => rfl

theorem not_infix_collapseSpaces (s : Text) : ¬ [' ', ' '] <:+: collapseSpaces s := by
  fun_induction collapseSpaces s with
  | case1 => exact fun h => absurd h.length_le (by simp)
  | case2 c => exact fun h => absurd h.length_le (by simp)
  | case3 c d s h ih => exact ih
  | case4 c d s h ih =>
      intro hpair
      rcases List.infix_cons_iff.1 hpair with hprefix | hpair
      · obtain ⟨hc, htail⟩ := List.cons_prefix_cons.1 hprefix
        obtain ⟨r, hr⟩ := htail
        have hd := head?_collapseSpaces (d :: s)
        rw [← hr] at hd
        cases hd
        exact h ⟨hc.symm, rfl⟩
      · exact ih hpair

theorem collapseSpaces_eq_self {s : Text} (h : ¬ [' ', ' '] <:+: s) : collapseSpaces s = s := by
  fun_induction collapseSpaces s with
  | case1 => rfl
  | case2 c => rfl
  | case3 c d s hc ih =>
      obtain ⟨rfl, rfl⟩ := hc
      exact absurd (List.prefix_append [' ', ' '] s).isInfix h
  | case4 c d s hc ih => rw [ih fun hpair => h (hpair.trans (List.suffix_cons c _).isInfix)]

theorem collapseSpaces_collapseSpaces (s : Text) :
    collapseSpaces (collapseSpaces s) = collapseSpaces s :=
  collapseSpaces_eq_self (not_infix_collapseSpaces s)

/-- Spaces on the two sides of another character do not meet. -/
theorem collapseSpaces_append_cons (t : Text) {c : Char} (hc : c ≠ ' ') (s : Text) :
    collapseSpaces (t ++ c :: s) = collapseSpaces t ++ c :: collapseSpaces s := by
  fun_induction collapseSpaces t with
  | case1 => exact collapseSpaces_cons (.inl hc)
  | case2 d =>
      rw [List.singleton_append, collapseSpaces_cons (.inr (by simpa using hc)),
        collapseSpaces_cons (.inl hc)]
      rfl
  | case3 d e t h ih => rw [List.cons_append, List.cons_append, collapseSpaces, if_pos h]; exact ih
  | case4 d e t h ih =>
      rw [List.cons_append, List.cons_append, collapseSpaces, if_neg h, List.cons_append]
      exact congrArg (d :: ·) ih

end Repair

namespace Token

/-! ## Tokens with their spaces in new places -/

/-- With its label as it is written behind a padding. -/
def collapseLabel : Token → Token
  | label l => label (Repair.collapseSpaces l)
  | t => t

/-- The space in front of an arrow or a join, unless one is there. -/
def lead (spaced : Bool) : List Token :=
  if spaced then [] else [space]

/-- One space on each side of an arrow, with the label right behind it, and of a join, and of other
spaces side by side only one. The first argument says whether a space stands in front. -/
def respace : Bool → List Token → List Token
  | _, [] => []
  | true, space :: ts => respace true ts
  | false, space :: ts => space :: respace true ts
  | _, word w :: ts => word w :: respace false ts
  | _, label l :: ts => collapseLabel (label l) :: respace false ts
  | spaced, arrow a :: label l :: ts =>
    lead spaced ++ arrow a :: collapseLabel (label l) :: space :: respace true ts
  | spaced, arrow a :: ts => lead spaced ++ arrow a :: space :: respace true ts
  | spaced, join :: ts => lead spaced ++ join :: space :: respace true ts

theorem exists_respace_arrow (spaced : Bool) (a : Text) (ts : List Token) :
    ∃ us, respace spaced (arrow a :: ts) = lead spaced ++ arrow a :: us := by
  cases ts with
  | nil => exact ⟨_, rfl⟩
  | cons t ts => cases t <;> exact ⟨_, rfl⟩

/-! ## What is known of the tokens of a text -/

/-- Before a stop the text is read as one word. One that begins with a pipe has no other pipe
behind it. -/
structure IsWordText (w : Text) : Prop where
  isWord : Text.IsWord w
  lex_append : ∀ s, (∀ c ∈ s.head?, isStop c = true) → (w.head? = some '|' → '|' ∉ s) →
    lex (w ++ s) = word w :: lex s

inductive IsLexed : List Token → Prop
  | nil : IsLexed []
  | space {ts : List Token} (h : IsLexed ts) : IsLexed (space :: ts)
  | word {w : Text} {ts : List Token} (hw : IsWordText w)
      (hnext : ∀ v, ts.head? = some (word v) → v.head? = some '|')
      (hlone : w.head? = some '|' → '|' ∉ renderAll ts) (h : IsLexed ts) : IsLexed (word w :: ts)
  | arrow {a : Text} {ts : List Token} (ha : IsArrowText a) (h : IsLexed ts) :
      IsLexed (arrow a :: ts)
  | join {ts : List Token} (h : IsLexed ts) : IsLexed (join :: ts)
  | label {l : Text} {ts : List Token} (hl : '|' ∉ l) (h : IsLexed ts) : IsLexed (label l :: ts)

theorem wordRest_append_wordRest {s t : Text} (ht : ∀ c ∈ t.head?, isStop c = true) :
    wordRest ((wordRest s).1 ++ t) = ((wordRest s).1, t) := by
  rw [wordRest_append_stop ht, wordRest_wordRest, List.nil_append]

theorem isWordText_pipe {s : Text} (h : '|' ∉ s) : IsWordText ('|' :: (wordRest s).1) where
  isWord := by
    refine ⟨List.cons_ne_nil _ _, fun c hc => ?_⟩
    rcases List.mem_cons.1 hc with rfl | hc
    · decide
    · exact not_isBlank_of_mem_wordRest hc
  lex_append := by
    intro t ht hlone
    have hrest : '|' ∉ (wordRest s).1 := fun hmem =>
      h (wordRest_append s ▸ List.mem_append_left _ hmem)
    have hnone : Segment.untilPipe? ((wordRest s).1 ++ t) = none := by
      rw [Segment.untilPipe?_eq_none_iff, List.mem_append, not_or]
      exact ⟨hrest, hlone rfl⟩
    rw [List.cons_append, lex_pipe_word hnone, wordRest_append_wordRest ht]

theorem isWordText_cons {c : Char} {s : Text} (hblank : Text.isBlank c = false) (hpipe : c ≠ '|')
    (hjoin : c ≠ '&') (harrow : arrowLength? (c :: s) = none) :
    IsWordText (c :: (wordRest s).1) where
  isWord := by
    refine ⟨List.cons_ne_nil _ _, fun d hd => ?_⟩
    rcases List.mem_cons.1 hd with rfl | hd
    · exact hblank
    · exact not_isBlank_of_mem_wordRest hd
  lex_append := by
    intro t ht _
    have hnone : arrowLength? (c :: ((wordRest s).1 ++ t)) = none := by
      rw [← List.cons_append, arrowLength?_append_stop ht, arrowLength?_eq_none_iff]
      exact startsArrow_word (arrowLength?_eq_none_iff.1 harrow)
    rw [List.cons_append, lex_cons_word hblank hpipe hjoin hnone, wordRest_append_wordRest ht]

/-- Where no word goes on, the next one begins with a pipe. -/
theorem EndsWord.head?_lex {s : Text} (hs : EndsWord s) :
    ∀ v, (lex s).head? = some (.word v) → v.head? = some '|' := by
  fun_cases lex s with
  | case1 => exact fun v hv => nomatch hv
  | case2 c s hc => exact fun v hv => nomatch hv
  | case3 s l rest h hb => exact fun v hv => nomatch hv
  | case4 s h hb =>
      intro v hv
      cases hv
      rfl
  | case5 c s hc hp n h => exact fun v hv => nomatch hv
  | case6 s hc hp h => exact fun v hv => nomatch hv
  | case7 c s hc hp h hj =>
      have hstart := arrowLength?_eq_none_iff.1 h
      rw [EndsWord, wordRest, if_neg (by simp [hc, hp, hj, hstart])] at hs
      cases hs

theorem isLexed_lex (s : Text) : IsLexed (lex s) := by
  fun_induction lex s with
  | case1 => exact .nil
  | case2 c s hc ih => exact .space ih
  | case3 s l rest h hb ih => exact .label (Segment.eq_append_of_untilPipe? h).2 ih
  | case4 s h hb ih =>
      have hfree := Segment.untilPipe?_eq_none_iff.1 h
      refine .word (isWordText_pipe hfree) (endsWord_wordRest s).head?_lex (fun _ hmem => ?_) ih
      rw [renderAll_lex] at hmem
      refine (mem_oneSpaced hmem).elim (by decide) fun hmem => ?_
      exact hfree (wordRest_append s ▸ List.mem_append_right _ hmem)
  | case5 c s hc hp n h ih => exact .arrow (isArrowText_take h) ih
  | case6 s hc hp h ih => exact .join ih
  | case7 c s hc hp h hj ih =>
      refine .word (isWordText_cons (by simpa using hc) hp hj h) (endsWord_wordRest s).head?_lex
        (fun hhead => ?_) ih
      exact absurd (Option.some.inj hhead) hp

/-! ## What padding writes -/

/-- The space that stands in front, if one does. -/
def gap (spaced : Bool) : Text :=
  if spaced then [' '] else []

theorem collapseSpaces_gap_append {s : Text} (hs : ∀ c ∈ s.head?, c ≠ ' ') (spaced : Bool) :
    Repair.collapseSpaces (gap spaced ++ s) = gap spaced ++ Repair.collapseSpaces s := by
  cases spaced with
  | false => rfl
  | true => exact collapseSpaces_cons (.inr hs)

/-- Of the space in front and the one that padding adds, one is kept. -/
theorem collapseSpaces_gap_space {s : Text} (hs : ∀ c ∈ s.head?, c ≠ ' ') (spaced : Bool) :
    Repair.collapseSpaces (gap spaced ++ ' ' :: s) =
      gap spaced ++ (renderAll (lead spaced) ++ Repair.collapseSpaces s) := by
  have hcons : Repair.collapseSpaces (' ' :: s) = ' ' :: Repair.collapseSpaces s :=
    collapseSpaces_cons (.inr hs)
  cases spaced with
  | false => exact hcons
  | true => exact (collapseSpaces_double s).trans hcons

theorem IsArrowText.space_notMem {a : Text} (ha : IsArrowText a) : ' ' ∉ a := fun h =>
  absurd (ha.not_isStop h) (by decide)

theorem IsArrowText.not_isBlank_of_head? {a s : Text} (ha : IsArrowText a) {c : Char}
    (hc : c ∈ (a ++ s).head?) : Text.isBlank c = false := by
  rw [List.head?_append_of_ne_nil _ ha.ne_nil] at hc
  exact (Bool.or_eq_false_iff.1 (ha.not_isStop (List.mem_of_head? hc))).1

theorem head?_append_ne_space {t : Text} (hne : t ≠ []) (ht : ' ' ∉ t) (s : Text) :
    ∀ c ∈ (t ++ s).head?, c ≠ ' ' := by
  rintro c hc rfl
  rw [List.head?_append_of_ne_nil _ hne] at hc
  exact ht (List.mem_of_head? hc)

theorem padTokens_label (l : Text) (ts : List Token) :
    Repair.padTokens (label l :: ts) = '|' :: (l ++ '|' :: Repair.padTokens ts) := by
  show ('|' :: l ++ ['|']) ++ Repair.padTokens ts = _
  simp

/-- The spaces in a label are collapsed between its pipes. -/
theorem collapseSpaces_label_append (l s : Text) :
    Repair.collapseSpaces ('|' :: (l ++ '|' :: s)) =
      (collapseLabel (label l)).render ++ Repair.collapseSpaces s := by
  rw [collapseSpaces_cons (.inl (by decide)), Repair.collapseSpaces_append_cons l (by decide)]
  simp [collapseLabel, render]

/-- The space that padding adds in front of an arrow. -/
theorem IsArrowText.collapseSpaces_gap_space {a : Text} (ha : IsArrowText a) (spaced : Bool)
    (s : Text) :
    Repair.collapseSpaces (gap spaced ++ ' ' :: (a ++ s)) =
      gap spaced ++ (renderAll (lead spaced) ++ (a ++ Repair.collapseSpaces s)) := by
  rw [Token.collapseSpaces_gap_space (head?_append_ne_space ha.ne_nil ha.space_notMem s),
    collapseSpaces_append ha.space_notMem]

theorem collapseSpaces_padTokens {ts : List Token} (h : IsLexed ts) (spaced : Bool) :
    Repair.collapseSpaces (gap spaced ++ Repair.padTokens ts) =
      gap spaced ++ renderAll (respace spaced ts) := by
  fun_induction respace spaced ts with
  | case1 spaced => cases spaced <;> rfl
  | case2 ts ih =>
      cases h with
      | space h => exact (collapseSpaces_double _).trans (ih h)
  | case3 ts ih =>
      cases h with
      | space h => exact ih h
  | case4 spaced w ts ih =>
      cases h with
      | word hw _ _ h =>
          have hfree := EdgeText.space_notMem_of_isWord hw.isWord
          have hnext : Repair.collapseSpaces (Repair.padTokens ts) =
              renderAll (respace false ts) := ih h
          rw [EdgeText.padTokens_word,
            collapseSpaces_gap_append (head?_append_ne_space hw.isWord.1 hfree _),
            collapseSpaces_append hfree, hnext, renderAll_cons, render]
  | case5 spaced l ts ih =>
      cases h with
      | label hl h =>
          have hnext : Repair.collapseSpaces (Repair.padTokens ts) =
              renderAll (respace false ts) := ih h
          rw [padTokens_label, collapseSpaces_gap_append (by simp), collapseSpaces_label_append,
            hnext, renderAll_cons]
  | case6 spaced a l ts ih =>
      cases h with
      | arrow ha h =>
          cases h with
          | label hl h =>
              have hnext : Repair.collapseSpaces (' ' :: Repair.padTokens ts) =
                  renderAll (space :: respace true ts) := ih h
              have hsplit : ' ' :: renderEdge a (some l) ++ ' ' :: Repair.padTokens ts =
                  ' ' :: (a ++ '|' :: (l ++ '|' :: ' ' :: Repair.padTokens ts)) := by
                simp [renderEdge]
              rw [EdgeText.padTokens_labelled, hsplit, ha.collapseSpaces_gap_space,
                collapseSpaces_label_append, hnext, renderAll_append, renderAll_cons (arrow a),
                renderAll_cons (collapseLabel (label l)), render]
  | case7 spaced a ts hlabel ih =>
      cases h with
      | arrow ha h =>
          have hnext : Repair.collapseSpaces (' ' :: Repair.padTokens ts) =
              renderAll (space :: respace true ts) := ih h
          have hhead : ∀ t ∈ ts.head?, ∀ l, t ≠ .label l := by
            rintro t ht l rfl
            obtain ⟨us, hus⟩ := List.head?_eq_some_iff.1 ht
            exact hlabel l us hus
          rw [EdgeText.padTokens_arrow a hhead, List.cons_append, ha.collapseSpaces_gap_space,
            hnext, renderAll_append, renderAll_cons (arrow a), render]
  | case8 spaced ts ih =>
      cases h with
      | join h =>
          have hnext : Repair.collapseSpaces (' ' :: Repair.padTokens ts) =
              renderAll (space :: respace true ts) := ih h
          rw [EdgeText.padTokens_join, collapseSpaces_gap_space (by simp),
            collapseSpaces_cons (.inl (by decide)), hnext, renderAll_append, renderAll_cons join,
            render, List.singleton_append]

/-- A text is padded by giving its tokens new places. -/
theorem padArrows_eq (t : Text) : Repair.padArrows t = renderAll (respace false (lex t)) :=
  collapseSpaces_padTokens (isLexed_lex t) false

/-! ## Reading it again -/

/-- Behind a space nothing begins with a blank. -/
theorem not_isBlank_of_head?_respace {ts : List Token} (h : IsLexed ts) {c : Char}
    (hc : c ∈ (renderAll (respace true ts)).head?) : Text.isBlank c = false := by
  induction h with
  | nil => cases hc
  | space h ih => exact ih hc
  | word hw _ _ h ih =>
      rw [respace, renderAll_cons, render, List.head?_append_of_ne_nil _ hw.isWord.1] at hc
      exact hw.isWord.2 c (List.mem_of_head? hc)
  | @arrow a ts ha h ih =>
      obtain ⟨us, hus⟩ := exists_respace_arrow true a ts
      rw [hus] at hc
      exact ha.not_isBlank_of_head? hc
  | join h ih => cases hc; decide
  | label hl h ih => cases hc; decide

/-- A word has a stop behind it. -/
theorem isStop_of_head?_respace {ts : List Token}
    (hnext : ∀ v, ts.head? = some (word v) → v.head? = some '|') {c : Char}
    (hc : c ∈ (renderAll (respace false ts)).head?) : isStop c = true := by
  cases ts with
  | nil => cases hc
  | cons t ts =>
      cases t with
      | space => cases hc; rfl
      | word w =>
          have hw := hnext w rfl
          obtain ⟨v, rfl⟩ := List.head?_eq_some_iff.1 hw
          cases hc
          rfl
      | arrow a =>
          obtain ⟨us, hus⟩ := exists_respace_arrow false a ts
          rw [hus] at hc
          cases hc
          rfl
      | join => cases hc; rfl
      | label l => cases hc; rfl

theorem pipe_notMem_respace {ts : List Token} (h : '|' ∉ renderAll ts) (spaced : Bool) :
    '|' ∉ renderAll (respace spaced ts) := by
  have hlead (spaced : Bool) : '|' ∉ renderAll (lead spaced) := by cases spaced <;> decide
  fun_induction respace spaced ts with
  | case1 spaced => exact h
  | case2 ts ih => simp_all [renderAll_cons, render]
  | case3 ts ih => simp_all [renderAll_cons, render]
  | case4 spaced w ts ih => simp_all [renderAll_cons, render]
  | case5 spaced l ts ih => simp_all [renderAll_cons, render]
  | case6 spaced a l ts ih => simp_all [renderAll_cons, render]
  | case7 spaced a ts hlabel ih =>
      rw [renderAll_cons, render, List.mem_append, not_or] at h
      simp [renderAll_append, renderAll_cons, render, hlead spaced, h.1, ih h.2]
  | case8 spaced ts ih =>
      rw [renderAll_cons, render, List.mem_append, not_or] at h
      simp [renderAll_append, renderAll_cons, render, hlead spaced, ih h.2]

theorem lex_space_append {s : Text} (hs : ∀ c ∈ s.head?, Text.isBlank c = false) :
    lex (' ' :: s) = space :: lex s :=
  lex_blanks_append .space (by simp) hs

theorem lex_lead_append {s : Text} (hs : ∀ c ∈ s.head?, Text.isBlank c = false) (spaced : Bool) :
    lex (renderAll (lead spaced) ++ s) = lead spaced ++ lex s := by
  cases spaced with
  | false => exact lex_space_append hs
  | true => rfl

theorem lex_collapseLabel_append {l : Text} (hl : '|' ∉ l) (s : Text) :
    lex ((collapseLabel (label l)).render ++ s) = collapseLabel (label l) :: lex s := by
  have hfree : '|' ∉ Repair.collapseSpaces l := fun h => hl (collapseSpaces_subset l h)
  rw [collapseLabel, render, List.append_assoc, List.singleton_append, lex_label_append hfree]

/-- An arrow with a space in front of it and a blank or its label behind it. -/
theorem lex_lead_arrow {a : Text} (ha : IsArrowText a) {s : Text}
    (hs : ∀ c ∈ s.head?, c = ' ' ∨ c = '\t' ∨ c = '|') (spaced : Bool) :
    lex (renderAll (lead spaced) ++ (a ++ s)) = lead spaced ++ arrow a :: lex s := by
  rw [lex_lead_append fun _ => ha.not_isBlank_of_head?, lex_arrow_append ha (.inl hs)]

theorem lex_space_respace {ts : List Token} (h : IsLexed ts) :
    lex (renderAll (space :: respace true ts)) = space :: lex (renderAll (respace true ts)) :=
  lex_space_append fun _ => not_isBlank_of_head?_respace h

theorem lex_renderAll_respace {ts : List Token} (h : IsLexed ts) (spaced : Bool) :
    lex (renderAll (respace spaced ts)) = respace spaced ts := by
  fun_induction respace spaced ts with
  | case1 spaced => exact lex_nil
  | case2 ts ih =>
      cases h with
      | space h => exact ih h
  | case3 ts ih =>
      cases h with
      | space h => rw [lex_space_respace h, ih h]
  | case4 spaced w ts ih =>
      cases h with
      | word hw hnext hlone h =>
          rw [renderAll_cons, render,
            hw.lex_append _ (fun _ => isStop_of_head?_respace hnext)
              fun hpipe => pipe_notMem_respace (hlone hpipe) false, ih h]
  | case5 spaced l ts ih =>
      cases h with
      | label hl h => rw [renderAll_cons, lex_collapseLabel_append hl, ih h]
  | case6 spaced a l ts ih =>
      cases h with
      | arrow ha h =>
          cases h with
          | label hl h =>
              rw [renderAll_append, renderAll_cons, render,
                lex_lead_arrow ha (by simp [renderAll_cons, collapseLabel, render]),
                renderAll_cons, lex_collapseLabel_append hl, lex_space_respace h, ih h]
  | case7 spaced a ts hlabel ih =>
      cases h with
      | arrow ha h =>
          rw [renderAll_append, renderAll_cons, render,
            lex_lead_arrow ha (by simp [renderAll_cons, render]), lex_space_respace h, ih h]
  | case8 spaced ts ih =>
      cases h with
      | join h =>
          rw [renderAll_append, renderAll_cons, render, List.singleton_append,
            lex_lead_append (by simp; decide), lex_join_append, lex_space_respace h, ih h]

/-- What padding writes is read as the tokens in their new places. -/
theorem lex_padArrows (t : Text) : lex (Repair.padArrows t) = respace false (lex t) := by
  rw [padArrows_eq, lex_renderAll_respace (isLexed_lex t)]

/-! ## What is left as it was -/

/-- The tokens that are no spaces. -/
def solid (ts : List Token) : List Token :=
  ts.filter (· ≠ space)

/-- For each arrow, whether a label stands right behind it. -/
def ownsLabel : List Token → List Bool
  | [] => []
  | arrow _ :: label l :: ts => true :: ownsLabel (label l :: ts)
  | arrow _ :: ts => false :: ownsLabel ts
  | _ :: ts => ownsLabel ts

theorem solid_lead (spaced : Bool) (ts : List Token) : solid (lead spaced ++ ts) = solid ts := by
  cases spaced <;> rfl

theorem solid_respace (spaced : Bool) (ts : List Token) :
    solid (respace spaced ts) = (solid ts).map collapseLabel := by
  fun_induction respace spaced ts with
  | case1 spaced => rfl
  | case2 ts ih => simpa [solid] using ih
  | case3 ts ih => simpa [solid] using ih
  | case4 spaced w ts ih => simpa [solid, collapseLabel] using ih
  | case5 spaced l ts ih => simpa [solid, collapseLabel] using ih
  | case6 spaced a l ts ih => rw [solid_lead]; simpa [solid, collapseLabel] using ih
  | case7 spaced a ts hlabel ih => rw [solid_lead]; simpa [solid, collapseLabel] using ih
  | case8 spaced ts ih => rw [solid_lead]; simpa [solid, collapseLabel] using ih

theorem ownsLabel_lead (spaced : Bool) (ts : List Token) :
    ownsLabel (lead spaced ++ ts) = ownsLabel ts := by
  cases spaced <;> rfl

theorem ownsLabel_respace (spaced : Bool) (ts : List Token) :
    ownsLabel (respace spaced ts) = ownsLabel ts := by
  fun_induction respace spaced ts with
  | case1 spaced => rfl
  | case2 ts ih => exact ih
  | case3 ts ih => exact ih
  | case4 spaced w ts ih => exact ih
  | case5 spaced l ts ih => exact ih
  | case6 spaced a l ts ih => rw [ownsLabel_lead]; exact congrArg (true :: ·) ih
  | case7 spaced a ts hlabel ih =>
      have hnone : ownsLabel (arrow a :: ts) = false :: ownsLabel ts := by
        rw [ownsLabel]
        exact hlabel
      rw [ownsLabel_lead, hnone]
      exact congrArg (false :: ·) ih
  | case8 spaced ts ih => rw [ownsLabel_lead]; exact ih

/-- Tokens in their new places have no others. -/
theorem respace_respace (spaced : Bool) (ts : List Token) :
    respace spaced (respace spaced ts) = respace spaced ts := by
  fun_induction respace spaced ts with
  | case1 spaced => rfl
  | case2 ts ih => exact ih
  | case3 ts ih => rw [respace, ih]
  | case4 spaced w ts ih => rw [respace, ih]
  | case5 spaced l ts ih =>
      rw [collapseLabel, respace, ih, collapseLabel, Repair.collapseSpaces_collapseSpaces]
  | case6 spaced a l ts ih =>
      cases spaced <;>
        simp [lead, respace, collapseLabel, Repair.collapseSpaces_collapseSpaces, ih]
  | case7 spaced a ts hlabel ih => cases spaced <;> simp [lead, respace, ih]
  | case8 spaced ts ih => cases spaced <;> simp [lead, respace, ih]

/-! ## Spaces on both sides -/

def isMark : Token → Bool
  | arrow _ => true
  | join => true
  | _ => false

/-- What stands behind a token, and behind its label if it is an arrow that owns one. -/
def behind : Token → List Token → List Token
  | arrow _, label _ :: ts => ts
  | _, ts => ts

/-- Each arrow, with its label, and each join have a space on both sides. The first argument is the
token in front of them all. -/
def Flanked (front? : Option Token) (ts : List Token) : Prop :=
  ∀ front t rest, ts = front ++ t :: rest → isMark t = true →
    front.getLast?.or front? = some space ∧ (behind t rest).head? = some space

theorem flanked_nil (front? : Option Token) : Flanked front? [] := fun front t rest h _ =>
  absurd h.symm (by simp)

theorem Flanked.cons {front? : Option Token} {t : Token} {ts : List Token}
    (ht : isMark t = true → front? = some space ∧ (behind t ts).head? = some space)
    (h : Flanked (some t) ts) : Flanked front? (t :: ts) := by
  intro front u rest hsplit hmark
  cases front with
  | nil =>
      cases hsplit
      exact ht hmark
  | cons v front =>
      cases hsplit
      have hnext := h front u rest rfl hmark
      cases hlast : front.getLast? <;> simpa [List.getLast?_cons, hlast] using hnext

theorem Flanked.lead {front? : Option Token} {spaced : Bool} {ts : List Token}
    (hfront : spaced = true → front? = some space) (h : Flanked (some space) ts) :
    Flanked front? (lead spaced ++ ts) := by
  cases spaced with
  | false => exact h.cons (fun hmark => nomatch hmark)
  | true => rwa [← hfront rfl] at h

theorem flanked_respace {front? : Option Token} {spaced : Bool}
    (hfront : spaced = true → front? = some space) (ts : List Token) :
    Flanked front? (respace spaced ts) := by
  fun_induction respace spaced ts generalizing front? with
  | case1 spaced => exact flanked_nil front?
  | case2 ts ih => exact ih hfront
  | case3 ts ih => exact (ih fun _ => rfl).cons (fun hmark => nomatch hmark)
  | case4 spaced w ts ih => exact (ih (by simp)).cons (fun hmark => nomatch hmark)
  | case5 spaced l ts ih => exact (ih (by simp)).cons (fun hmark => nomatch hmark)
  | case6 spaced a l ts ih =>
      refine .lead hfront (.cons (fun _ => ⟨rfl, rfl⟩) (.cons (fun hmark => nomatch hmark) ?_))
      exact (ih fun _ => rfl).cons (fun hmark => nomatch hmark)
  | case7 spaced a ts hlabel ih =>
      refine .lead hfront (.cons (fun _ => ⟨rfl, rfl⟩) ?_)
      exact (ih fun _ => rfl).cons (fun hmark => nomatch hmark)
  | case8 spaced ts ih =>
      refine .lead hfront (.cons (fun _ => ⟨rfl, rfl⟩) ?_)
      exact (ih fun _ => rfl).cons (fun hmark => nomatch hmark)

end Token

namespace Repair

open Token (lex renderAll solid collapseLabel ownsLabel Flanked)

/-- A text with other spaces only. The tokens that are no spaces are the same, but for spaces side
by side in labels, and the same arrows own their labels. Arrows and joins have a space on both
sides, the text is its own tokens written out, and no two spaces of it meet. -/
structure IsPaddingOf (padded text : Text) : Prop where
  tokens : solid (lex padded) = (solid (lex text)).map collapseLabel
  labels : ownsLabel (lex padded) = ownsLabel (lex text)
  flanked : Flanked none (lex padded)
  written : renderAll (lex padded) = padded
  single : ¬ [' ', ' '] <:+: padded
  again : padArrows padded = padded

theorem padArrows_isPaddingOf (text : Text) : IsPaddingOf (padArrows text) text where
  tokens := by rw [Token.lex_padArrows, Token.solid_respace]
  labels := by rw [Token.lex_padArrows, Token.ownsLabel_respace]
  flanked := by
    rw [Token.lex_padArrows]
    exact Token.flanked_respace (by simp) (lex text)
  written := by rw [Token.lex_padArrows, Token.padArrows_eq]
  single := not_infix_collapseSpaces _
  again := by
    rw [Token.padArrows_eq (padArrows text), Token.lex_padArrows, Token.respace_respace,
      Token.padArrows_eq]

end Repair

end Flowchart
