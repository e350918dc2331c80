import Flowchart.Proofs.Scanning

/-!
# Arrows in front of a shape

A shape takes the text in front of it for its identifier, back to a head or to two equal strokes.
Of an arrow that touches the shape it takes what stands behind the last of these, and the whole
arrow with the word in front of it if there is none.
-/

namespace Flowchart

theorem Token.not_isStroke_of_isAlphanum {c : Char} (h : c.isAlphanum = true) :
    isStroke c = false := by
  have harrow := isArrowChar_eq_false_of_isAlphanum h
  simp only [isArrowChar, Bool.or_eq_false_iff] at harrow
  simp [isStroke, harrow]

namespace Segment

/-! ## Reading an identifier backwards -/

/-- Whether the character, given the text in front of it backwards, ends an identifier. -/
def blocks (c : Char) (s : Text) : Bool :=
  c == '>' || (Token.isStroke c && s.head? == some c)

/-- The identifier at the end of a text of letters, digits and arrows, both read backwards. -/
def gluedRun : Text → Text
  | [] => []
  | c :: s => if blocks c s then [] else c :: gluedRun s

theorem untilDouble_cons (c a : Char) (s : Text) :
    untilDouble c (a :: s) = if a = c ∧ s.head? = some c then [] else a :: untilDouble c s := by
  cases s with
  | nil => simp [untilDouble]
  | cons b s => simp [untilDouble]

theorem head?_untilDouble {c d : Char} (h : d ≠ c) (s : Text) :
    (untilDouble c s).head? = some d ↔ s.head? = some d := by
  cases s with
  | nil => rfl
  | cons a s =>
      rw [untilDouble_cons]
      split
      · rename_i hc
        simp [hc.1, h.symm]
      · rfl

/-- The two conditions are met in one pass where nothing else ends the identifier. -/
theorem gluedId_eq_gluedRun {back : Text} (h : ∀ c ∈ back, stopsId c = false) :
    gluedId back = gluedRun back := by
  have hself : back.takeWhile (!stopsId ·) = back :=
    List.takeWhile_eq_self_iff.2 fun c hc => by simp [h c hc]
  rw [gluedId, hself]
  clear h hself
  induction back with
  | nil => rfl
  | cons c s ih =>
      have hhead : (s.takeWhile (· != '>')).head? = some c ↔ c ≠ '>' ∧ s.head? = some c := by
        cases s with
        | nil => simp
        | cons d s =>
            by_cases hd : d = '>'
            · simp [hd, eq_comm]
            · simp only [List.takeWhile_cons, bne_iff_ne, ne_eq, hd, not_false_eq_true, if_true,
                List.head?_cons, Option.some.injEq]
              exact ⟨fun he => ⟨he ▸ hd, he⟩, fun he => he.2⟩
      rw [gluedRun]
      by_cases hc : c = '>'
      · simp [hc, blocks, untilDouble]
      · rw [List.takeWhile_cons, if_pos (by simpa using hc), untilDouble_cons]
        by_cases hdash : c = '-' ∧ s.head? = some '-'
        · obtain ⟨rfl, hs⟩ := hdash
          rw [if_pos ⟨rfl, hhead.2 ⟨hc, hs⟩⟩, if_pos (by simp [blocks, Token.isStroke, hs])]
          rfl
        · rw [if_neg (by rintro ⟨rfl, he⟩; exact hdash ⟨rfl, (hhead.1 he).2⟩), untilDouble_cons]
          by_cases hbar : c = '=' ∧ s.head? = some '='
          · obtain ⟨rfl, hs⟩ := hbar
            rw [if_pos ⟨rfl, (head?_untilDouble (by decide) _).2 (hhead.2 ⟨hc, hs⟩)⟩,
              if_pos (by simp [blocks, Token.isStroke, hs])]
          · have hnot : blocks c s = false := by
              by_contra hb
              simp only [blocks, Token.isStroke, Bool.not_eq_false, Bool.or_eq_true,
                Bool.and_eq_true, beq_iff_eq, hc, false_or] at hb
              rcases hb with ⟨rfl | rfl, hs⟩
              · exact hdash ⟨rfl, hs⟩
              · exact hbar ⟨rfl, hs⟩
            have hsecond : ¬ (c = '=' ∧
                (untilDouble '-' (s.takeWhile (· != '>'))).head? = some '=') := by
              rintro ⟨rfl, he⟩
              exact hbar ⟨rfl, (hhead.1 ((head?_untilDouble (by decide) _).1 he)).2⟩
            rw [if_neg hsecond, hnot, ih]
            rfl

theorem not_blocks_of_isAlphanum {c : Char} (h : c.isAlphanum = true) (s : Text) :
    blocks c s = false := by
  have hhead : c ≠ '>' := by
    rintro rfl
    exact absurd h (by decide)
  simp [blocks, hhead, Token.not_isStroke_of_isAlphanum h]

theorem gluedRun_word_append {w : Text} (hw : ∀ c ∈ w, c.isAlphanum = true) (back : Text) :
    gluedRun (w ++ back) = w ++ gluedRun back := by
  induction w with
  | nil => rfl
  | cons c w ih =>
      rw [List.cons_append, gluedRun, not_blocks_of_isAlphanum (hw c (by simp)),
        ih fun d hd => hw d (by simp [hd])]
      rfl

theorem blocks_append {v : Text} (hv : ∀ c ∈ v, c.isAlphanum = true) (c : Char) (s : Text) :
    blocks c (s ++ v) = blocks c s := by
  cases s with
  | cons d s => rfl
  | nil =>
      cases v with
      | nil => rfl
      | cons d v =>
          have hd := Token.not_isStroke_of_isAlphanum (hv d (by simp))
          have hstroke : Token.isStroke c = true → d ≠ c := by
            rintro hc rfl
            rw [hd] at hc
            cases hc
          cases hc : Token.isStroke c with
          | false => simp [blocks, hc]
          | true => simp [blocks, hc, hstroke hc]

/-- Behind the identifier stands what ends it. -/
theorem exists_eq_gluedRun_append (back : Text) : ∃ rest, back = gluedRun back ++ rest ∧
    (rest = [] ∨ ∃ c s, rest = c :: s ∧ blocks c s = true) := by
  induction back with
  | nil => exact ⟨[], rfl, .inl rfl⟩
  | cons c s ih =>
      rw [gluedRun]
      cases hc : blocks c s with
      | true => exact ⟨c :: s, rfl, .inr ⟨c, s, rfl, hc⟩⟩
      | false =>
          obtain ⟨rest, hrest, hblocks⟩ := ih
          refine ⟨rest, ?_, hblocks⟩
          rw [if_neg Bool.false_ne_true, List.cons_append, ← hrest]

/-- What ends the identifier still ends it when a word stands behind. -/
theorem gluedRun_append_of_blocks {v : Text} (hv : ∀ c ∈ v, c.isAlphanum = true) {back : Text}
    (h : gluedRun back ≠ back) : gluedRun (back ++ v) = gluedRun back := by
  induction back with
  | nil => exact absurd rfl h
  | cons c s ih =>
      rw [gluedRun] at h
      rw [List.cons_append, gluedRun, gluedRun, blocks_append hv]
      split at h
      · rename_i hc
        rw [if_pos hc, if_pos hc]
      · rename_i hc
        rw [if_neg hc, if_neg hc, ih fun hs => h (by rw [hs])]

theorem gluedRun_append_of_eq {v : Text} (hv : ∀ c ∈ v, c.isAlphanum = true) {back : Text}
    (h : gluedRun back = back) : gluedRun (back ++ v) = back ++ v := by
  induction back with
  | nil =>
      have := gluedRun_word_append hv []
      rwa [List.append_nil, gluedRun, List.append_nil] at this
  | cons c s ih =>
      rw [gluedRun] at h
      rw [List.cons_append, gluedRun, blocks_append hv]
      split at h
      · cases h
      · rename_i hc
        rw [if_neg hc, ih (List.cons.inj h).2]

end Segment

/-! ## The two parts of an arrow -/

namespace Token

open Segment (gluedId gluedRun blocks stopsId)

/-- The end of an arrow that a shape behind it takes for a part of its identifier. -/
def gluedPart (r : Text) : Text := (gluedId r.reverse).reverse

/-- What is left of the arrow in front of that end. -/
def leftPart (r : Text) : Text := (r.reverse.drop (gluedId r.reverse).length).reverse

theorem stopsId_of_isArrowChar {c : Char} (h : isArrowChar c = true) : stopsId c = false := by
  simp only [isArrowChar, Bool.or_eq_true, beq_iff_eq] at h
  rcases h with (((rfl | rfl) | rfl) | rfl) | rfl <;> rfl

variable {r : Text} (hr : ∀ c ∈ r, isArrowChar c = true)

include hr

theorem gluedId_reverse : gluedId r.reverse = gluedRun r.reverse :=
  Segment.gluedId_eq_gluedRun fun c hc => stopsId_of_isArrowChar (hr c (List.mem_reverse.1 hc))

/-- The end of the arrow that is glued, and what keeps it from reaching further. -/
theorem exists_leftPart_eq : ∃ rest, r.reverse = gluedId r.reverse ++ rest ∧
    leftPart r = rest.reverse ∧ (rest = [] ∨ ∃ c s, rest = c :: s ∧ blocks c s = true) := by
  obtain ⟨rest, hrest, hblocks⟩ := Segment.exists_eq_gluedRun_append r.reverse
  rw [← gluedId_reverse hr] at hrest
  refine ⟨rest, hrest, ?_, hblocks⟩
  have hdrop : (gluedId r.reverse ++ rest).drop (gluedId r.reverse).length = rest := List.drop_left
  rw [← hrest] at hdrop
  rw [leftPart, hdrop]

theorem leftPart_append_gluedPart : leftPart r ++ gluedPart r = r := by
  obtain ⟨rest, hrest, hleft, -⟩ := exists_leftPart_eq hr
  rw [hleft, gluedPart, ← List.reverse_append, ← hrest, List.reverse_reverse]

theorem isArrowChar_leftPart : ∀ c ∈ leftPart r, isArrowChar c = true :=
  fun c hc => hr c (leftPart_append_gluedPart hr ▸ List.mem_append_left _ hc)

theorem isArrowChar_gluedPart : ∀ c ∈ gluedPart r, isArrowChar c = true :=
  fun c hc => hr c (leftPart_append_gluedPart hr ▸ List.mem_append_right _ hc)

section

variable {a b : Text} (ha : ∀ c ∈ a, c.isAlphanum = true) (hb : ∀ c ∈ b, c.isAlphanum = true)

include ha hb

omit hr in
theorem gluedId_words {x : Text} (hx : ∀ c ∈ x, isArrowChar c = true) :
    gluedId (b.reverse ++ (x.reverse ++ a.reverse))
      = b.reverse ++ gluedRun (x.reverse ++ a.reverse) := by
  have hstop : ∀ c ∈ b.reverse ++ (x.reverse ++ a.reverse), stopsId c = false := by
    intro c hc
    simp only [List.mem_append, List.mem_reverse] at hc
    rcases hc with hc | hc | hc
    · exact Segment.not_stopsId_of_isAlphanum (hb c hc)
    · exact stopsId_of_isArrowChar (hx c hc)
    · exact Segment.not_stopsId_of_isAlphanum (ha c hc)
  rw [Segment.gluedId_eq_gluedRun hstop, Segment.gluedRun_word_append (by simpa using hb)]

/-- The identifier behind an arrow, if something in the arrow ends it. -/
theorem gluedId_arrow (h : leftPart r ≠ []) :
    gluedId (b.reverse ++ (r.reverse ++ a.reverse)) = b.reverse ++ (gluedPart r).reverse := by
  have hne : gluedRun r.reverse ≠ r.reverse := by
    intro he
    refine h ?_
    rw [leftPart, gluedId_reverse hr, he, List.drop_length]
    rfl
  rw [gluedId_words ha hb hr, Segment.gluedRun_append_of_blocks (by simpa using ha) hne, gluedPart,
    List.reverse_reverse, gluedId_reverse hr]

theorem gluedId_arrow_of_nil (h : leftPart r = []) :
    gluedId (b.reverse ++ (r.reverse ++ a.reverse)) = b.reverse ++ (r.reverse ++ a.reverse) := by
  obtain ⟨rest, hrest, hleft, -⟩ := exists_leftPart_eq hr
  have hnil : rest = [] := by
    rw [hleft] at h
    simpa using h
  rw [hnil, List.append_nil, gluedId_reverse hr] at hrest
  rw [gluedId_words ha hb hr, Segment.gluedRun_append_of_eq (by simpa using ha) hrest.symm]

theorem gluedId_leftPart (h : leftPart r ≠ []) :
    gluedId (b.reverse ++ ((leftPart r).reverse ++ a.reverse)) = b.reverse := by
  obtain ⟨rest, -, hleft, hends⟩ := exists_leftPart_eq hr
  obtain ⟨c, s, rfl, hblocks⟩ := hends.resolve_left fun hnil => h (by rw [hleft, hnil]; rfl)
  rw [gluedId_words ha hb (isArrowChar_leftPart hr), hleft,
    List.reverse_reverse, List.cons_append, gluedRun, Segment.blocks_append (by simpa using ha),
    hblocks]
  simp

end

/-- What is left of an arrow is an arrow, or it has no stroke. -/
theorem isArrow_leftPart (h : isArrow (leftPart r) = false) :
    ∀ c ∈ leftPart r, isStroke c = false := by
  obtain ⟨rest, -, hleft, rfl | ⟨c, s, rfl, hblocks⟩⟩ := exists_leftPart_eq hr
  · simp [hleft]
  · have hcount : (leftPart r).countP isStroke = (c :: s).countP isStroke := by
      rw [hleft, List.countP_reverse]
    have hlast : c ∈ leftPart r := by simp [hleft]
    simp only [isArrow, Bool.or_eq_false_iff, Bool.and_eq_false_iff, decide_eq_false_iff_not]
      at h
    have hzero : (leftPart r).countP isStroke = 0 := by
      simp only [blocks, Bool.or_eq_true, Bool.and_eq_true, beq_iff_eq] at hblocks
      rcases hblocks with rfl | ⟨hc, hs⟩
      · have hhead : (leftPart r).contains '>' = true := by simpa using hlast
        have := h.2.resolve_right (by rw [hhead]; decide)
        omega
      · -- the same stroke stands twice
        obtain ⟨d, s, rfl⟩ := List.exists_cons_of_ne_nil (fun he => by simp [he] at hs : s ≠ [])
        cases hs
        rw [hcount, List.countP_cons_of_pos hc, List.countP_cons_of_pos hc] at h
        omega
    intro d hd
    have := List.countP_eq_zero.1 hzero d hd
    simpa using this

end Token

end Flowchart
