import Flowchart.Proofs.Words
import Flowchart.Token

/-!
# Tokens of a text put together

A text is lexed piece by piece where no piece runs into the one behind it: blanks end before a
character that is not blank, a word ends before a blank, a pipe, a join or an arrow, and an arrow
ends before a blank or a pipe, or anywhere behind its head.
-/

namespace Flowchart

theorem Segment.untilPipe?_append {l : Text} (hl : '|' ∉ l) (s : Text) :
    untilPipe? (l ++ '|' :: s) = some (l, s) := by
  induction l with
  | nil => rfl
  | cons c l ih =>
      have hc : c ≠ '|' := fun he => hl (by simp [he])
      rw [List.cons_append, untilPipe?, if_neg hc, ih fun h => hl (by simp [h])]
      rfl

namespace Token

/-! ## Arrows -/

/-- The whole text is one arrow. -/
def IsArrowText (a : Text) : Prop := arrowLength? a = some a.length

instance (a : Text) : Decidable (IsArrowText a) := inferInstanceAs (Decidable (_ = _))

/-- The arrow ends where this text begins. -/
def EndsArrow (a s : Text) : Prop :=
  (∀ c ∈ s.head?, c = ' ' ∨ c = '\t' ∨ c = '|') ∨
    a.getLast? = some '>' ∧ ∀ c ∈ s.head?, isArrowChar c = false

/-- An arrow run does not go on into what begins with another character. -/
theorem arrowRun_append_of_stop {s : Text} (hs : ∀ c ∈ s.head?, isArrowChar c = false) (u : Text) :
    arrowRun (u ++ s) = arrowRun u :=
  Text.takeWhile_append_of_head? hs u

theorem arrowRun_append (run : Text) {s : Text} (hrun : ∀ c ∈ run, isArrowChar c = true)
    (hs : ∀ c ∈ s.head?, isArrowChar c = false) : arrowRun (run ++ s) = run := by
  rw [arrowRun_append_of_stop hs, arrowRun, List.takeWhile_eq_self_iff.2 hrun]

theorem isArrowChar_of_mem_arrowRun {s : Text} {c : Char} (h : c ∈ arrowRun s) :
    isArrowChar c = true :=
  List.mem_takeWhile_imp h

theorem drop_arrowRun (s : Text) : s.drop (arrowRun s).length = s.dropWhile isArrowChar :=
  List.append_cancel_left ((List.prefix_iff_eq_append.1 (List.takeWhile_prefix isArrowChar)).trans
    List.takeWhile_append_dropWhile.symm)

theorem mem_of_isArrowChar (c : Char) (h : isArrowChar c = true) :
    c ∈ ['-', '=', '.', '<', '>'] := by
  simpa [isArrowChar, or_assoc] using h

theorem isArrowChar_eq_false_of_isBlank {c : Char} (h : Text.isBlank c = true) :
    isArrowChar c = false :=
  Text.eq_false_of_all mem_of_isArrowChar (by decide) h

theorem isArrowChar_eq_false_of_isAlphanum {c : Char} (h : c.isAlphanum = true) :
    isArrowChar c = false :=
  Text.eq_false_of_all mem_of_isArrowChar (by decide) h

theorem headLength_of_ne {run s : Text} (h : ∀ c ∈ s.head?, c ≠ 'o' ∧ c ≠ 'x') :
    headLength run s = 0 := by
  cases s with
  | nil => rfl
  | cons c s =>
      obtain ⟨ho, hx⟩ := h c rfl
      simp [headLength, ho, hx]

theorem headLength_of_head {run s : Text} (h : run.getLast? = some '>') :
    headLength run s = 0 := by
  cases s with
  | nil => rfl
  | cons c s => simp [headLength, h, isStroke]

/-- An arrow is a run, and behind it nothing or a round or crossed head. -/
theorem IsArrowText.cases {a : Text} (h : IsArrowText a) :
    isArrow (arrowRun a) = true ∧
      (a = arrowRun a ∨
        ∃ c, a = arrowRun a ++ [c] ∧ headLength (arrowRun a) [c] = 1 ∧ isArrowChar c = false) := by
  unfold IsArrowText arrowLength? at h
  dsimp only at h
  split at h
  · rename_i ha
    refine ⟨ha, ?_⟩
    have hsplit : a = arrowRun a ++ a.dropWhile isArrowChar :=
      (List.takeWhile_append_dropWhile).symm
    rw [drop_arrowRun] at h
    have hlen : (arrowRun a).length + (a.dropWhile isArrowChar).length = a.length := by
      rw [← List.length_append, ← hsplit]
    cases hd : a.dropWhile isArrowChar with
    | nil =>
        left
        rwa [hd, List.append_nil] at hsplit
    | cons c s =>
        right
        rw [hd] at h hlen
        have hle : headLength (arrowRun a) (c :: s) ≤ 1 := by
          unfold headLength
          dsimp only
          split <;> omega
        have hone : s = [] := by
          have := Option.some.inj h
          refine List.eq_nil_of_length_eq_zero ?_
          simp only [List.length_cons] at hlen
          omega
        subst hone
        refine ⟨c, by rwa [hd] at hsplit, ?_, ?_⟩
        · have := Option.some.inj h
          simp only [List.length_cons, List.length_nil] at hlen
          omega
        · exact Text.eq_false_of_head?_dropWhile (s := a) (by rw [hd]; rfl)
  · cases h

theorem IsArrowText.ne_nil {a : Text} (h : IsArrowText a) : a ≠ [] := by
  rintro rfl
  exact absurd h (by decide)

theorem IsArrowText.getLast?_of_head {a : Text} {c : Char} (ha : a = arrowRun a ++ [c])
    (hc : isArrowChar c = false) : a.getLast? ≠ some '>' := by
  intro h
  rw [ha, List.getLast?_append] at h
  cases h
  exact absurd hc (by decide)

theorem EndsArrow.not_isArrowChar {a s : Text} (hs : EndsArrow a s) :
    ∀ c ∈ s.head?, isArrowChar c = false := by
  intro c hc
  rcases hs with hs | hs
  · rcases hs c hc with rfl | rfl | rfl <;> rfl
  · exact hs.2 c hc

theorem arrowLength?_append {a s : Text} (ha : IsArrowText a) (hs : EndsArrow a s) :
    arrowLength? (a ++ s) = some a.length := by
  obtain ⟨hrun, hcases⟩ := ha.cases
  have hchars : ∀ c ∈ arrowRun a, isArrowChar c = true := fun _ => isArrowChar_of_mem_arrowRun
  rcases hcases with hself | ⟨c, hself, hhead, hc⟩
  · -- no head behind the run, so that what follows must not give it one
    have hall : ∀ c ∈ a, isArrowChar c = true := fun c hc => hchars c (hself ▸ hc)
    have hr : arrowRun (a ++ s) = a := arrowRun_append a hall hs.not_isArrowChar
    have hlen : headLength a s = 0 := by
      rcases hs with hs | hs
      · refine headLength_of_ne fun c hc => ?_
        rcases hs c hc with rfl | rfl | rfl <;> decide
      · exact headLength_of_head hs.1
    rw [hself.symm] at hrun
    simp [arrowLength?, hr, hrun, hlen]
  · have hr : arrowRun (a ++ s) = arrowRun a := by
      conv_lhs => rw [hself, List.append_assoc]
      exact arrowRun_append _ hchars (by simpa using hc)
    have hs : ∀ d ∈ s.head?, (Text.isAlphanumeric d || d == '_') = false := by
      intro d hd
      rcases hs with hs | hs
      · rcases hs d hd with rfl | rfl | rfl <;> decide
      · exact absurd hs.1 (IsArrowText.getLast?_of_head hself hc)
    have hnot : s.head?.any (fun d => Text.isAlphanumeric d || d == '_') = false := by
      cases hh : s.head? with
      | none => rfl
      | some d => exact hs d hh
    have hlen : headLength (arrowRun a) (c :: s) = 1 := by
      unfold headLength at hhead ⊢
      simpa [hnot] using hhead
    have hdrop : (a ++ s).drop (arrowRun a).length = c :: s := by
      have : (arrowRun a ++ ([c] ++ s)).drop (arrowRun a).length = [c] ++ s := List.drop_left
      rwa [← List.append_assoc, ← hself] at this
    have hlength : a.length = (arrowRun a).length + 1 := by
      conv_lhs => rw [hself]
      simp
    simp [arrowLength?, hr, hrun, hdrop, hlen, hlength]

theorem startsArrow_append {a s : Text} (ha : IsArrowText a) (hs : EndsArrow a s) :
    startsArrow (a ++ s) = true := by
  have h := arrowLength?_append ha hs
  unfold arrowLength? at h
  dsimp only at h
  split at h
  · assumption
  · cases h

/-! ## Lexing -/

theorem lex_nil : lex [] = [] := by
  rw [lex.eq_def]

theorem lex_blank {c : Char} (hc : Text.isBlank c = true) (s : Text) :
    lex (c :: s) = .space :: lex (s.dropWhile Text.isBlank) := by
  rw [lex.eq_def]
  dsimp only
  rw [if_pos hc]

theorem lex_blanks_append {b s : Text} (hb : Text.IsBlanks b) (hne : b ≠ [])
    (hs : ∀ c ∈ s.head?, Text.isBlank c = false) : lex (b ++ s) = .space :: lex s := by
  obtain ⟨c, b, rfl⟩ := List.exists_cons_of_ne_nil hne
  rw [List.cons_append, lex_blank (hb c (by simp)), List.dropWhile_append_of_pos hb.tail,
    Text.dropWhile_eq_self_of_head hs]

theorem lex_label {s l rest : Text} (h : Segment.untilPipe? s = some (l, rest)) :
    lex ('|' :: s) = .label l :: lex rest := by
  rw [lex.eq_def]
  dsimp only
  rw [if_neg (by decide), if_pos rfl]
  split
  · rename_i hlabel
    cases h.symm.trans hlabel
    rfl
  · rename_i hnone
    cases h.symm.trans hnone

theorem lex_label_append {l : Text} (hl : '|' ∉ l) (s : Text) :
    lex ('|' :: l ++ '|' :: s) = .label l :: lex s :=
  lex_label (Segment.untilPipe?_append hl s)

theorem lex_cons_of_arrowLength? {c : Char} {s : Text} {n : Nat} (hb : Text.isBlank c = false)
    (hp : c ≠ '|') (h : arrowLength? (c :: s) = some n) :
    lex (c :: s) = .arrow ((c :: s).take n) :: lex ((c :: s).drop n) := by
  rw [lex.eq_def]
  dsimp only
  rw [if_neg (by simp [hb]), if_neg hp]
  split
  · rename_i m hm
    rw [h] at hm
    cases hm
    rfl
  · rename_i hm
    rw [h] at hm
    cases hm

theorem lex_cons_word {c : Char} {s : Text} (hb : Text.isBlank c = false) (hp : c ≠ '|')
    (hj : c ≠ '&') (h : arrowLength? (c :: s) = none) :
    lex (c :: s) = .word (c :: (wordRest s).1) :: lex (wordRest s).2 := by
  rw [lex.eq_def]
  dsimp only
  rw [if_neg (by simp [hb]), if_neg hp]
  split
  · rename_i m hm
    rw [h] at hm
    cases hm
  · rw [if_neg hj]

/-- A pipe without a partner begins a word. -/
theorem lex_pipe_word {s : Text} (h : Segment.untilPipe? s = none) :
    lex ('|' :: s) = .word ('|' :: (wordRest s).1) :: lex (wordRest s).2 := by
  rw [lex.eq_def]
  dsimp only
  rw [if_neg (by decide), if_pos rfl]
  split
  · rename_i hlabel
    cases h.symm.trans hlabel
  · rfl

theorem arrowLength?_eq_none {c : Char} (hc : isArrowChar c = false) (s : Text) :
    arrowLength? (c :: s) = none := by
  have : arrowRun (c :: s) = [] := by
    rw [arrowRun, List.takeWhile_cons, if_neg (by simp [hc])]
  simp [arrowLength?, this, isArrow]

theorem startsArrow_eq_false {c : Char} (hc : isArrowChar c = false) (s : Text) :
    startsArrow (c :: s) = false := by
  have : arrowRun (c :: s) = [] := by
    rw [arrowRun, List.takeWhile_cons, if_neg (by simp [hc])]
  rw [startsArrow, this]
  rfl

theorem lex_join_append (s : Text) : lex ('&' :: s) = .join :: lex s := by
  rw [lex.eq_def]
  dsimp only
  rw [if_neg (by decide), if_neg (by decide)]
  split
  · rename_i n h
    rw [arrowLength?_eq_none (by decide)] at h
    cases h
  · rw [if_pos rfl]

theorem lex_arrow_append {a s : Text} (ha : IsArrowText a) (hs : EndsArrow a s) :
    lex (a ++ s) = .arrow a :: lex s := by
  have hlen := arrowLength?_append ha hs
  obtain ⟨c, a, rfl⟩ := List.exists_cons_of_ne_nil ha.ne_nil
  have hc : isArrowChar c = true := by
    by_contra hc
    rw [List.cons_append, arrowLength?_eq_none (by simpa using hc)] at hlen
    cases hlen
  have hblank : Text.isBlank c = false := by
    by_contra hb
    rw [isArrowChar_eq_false_of_isBlank (by simpa using hb)] at hc
    cases hc
  have hpipe : c ≠ '|' := by
    rintro rfl
    exact absurd hc (by decide)
  rw [List.cons_append] at hlen ⊢
  rw [lex_cons_of_arrowLength? hblank hpipe hlen, ← List.cons_append, List.take_left,
    List.drop_left]

/-! ## Words -/

/-- No word goes on into this text. -/
def EndsWord (s : Text) : Prop := wordRest s = ([], s)

theorem endsWord_nil : EndsWord [] := rfl

theorem endsWord_of_head {c : Char} {s : Text}
    (hc : Text.isBlank c = true ∨ c = '&' ∨ c = '|') : EndsWord (c :: s) := by
  rw [EndsWord, wordRest, if_pos]
  rcases hc with h | rfl | rfl
  · simp [h]
  · rfl
  · rfl

theorem endsWord_of_startsArrow {s : Text} (h : startsArrow s = true) : EndsWord s := by
  cases s with
  | nil => exact endsWord_nil
  | cons c s => rw [EndsWord, wordRest, if_pos (by simp [h])]

/-- Characters that stand in words and begin neither an arrow nor anything else. -/
def isWordPart (c : Char) : Bool :=
  !(Text.isBlank c || c == '&' || c == '|' || isArrowChar c)

theorem wordRest_append_of_part {w s : Text} (hw : ∀ c ∈ w, isWordPart c = true) (hs : EndsWord s) :
    wordRest (w ++ s) = (w, s) := by
  induction w with
  | nil => exact hs
  | cons c w ih =>
      have hc := hw c (by simp)
      simp only [isWordPart, Bool.not_eq_true', Bool.or_eq_false_iff] at hc
      rw [List.cons_append, wordRest, if_neg, ih fun d hd => hw d (by simp [hd])]
      simp [hc.1.1.1, hc.1.1.2, hc.1.2, startsArrow_eq_false hc.2]

theorem isWordPart_of_isAlphanum {c : Char} (h : c.isAlphanum = true) : isWordPart c = true := by
  have hjoin : (c == '&') = false := by
    refine beq_eq_false_iff_ne.2 ?_
    rintro rfl
    exact absurd h (by decide)
  have hpipe : (c == '|') = false := by
    refine beq_eq_false_iff_ne.2 ?_
    rintro rfl
    exact absurd h (by decide)
  simp [isWordPart, Ident.not_isBlank_of_isAlphanum h, hjoin, hpipe,
    isArrowChar_eq_false_of_isAlphanum h]

theorem lex_word_append {w s : Text} (hne : w ≠ []) (hw : ∀ c ∈ w, isWordPart c = true)
    (hs : EndsWord s) : lex (w ++ s) = .word w :: lex s := by
  obtain ⟨c, w, rfl⟩ := List.exists_cons_of_ne_nil hne
  have hc := hw c (by simp)
  simp only [isWordPart, Bool.not_eq_true', Bool.or_eq_false_iff, beq_eq_false_iff_ne] at hc
  rw [List.cons_append, lex_cons_word hc.1.1.1 hc.1.2 hc.1.1.2 (arrowLength?_eq_none hc.2 _),
    wordRest_append_of_part (fun d hd => hw d (by simp [hd])) hs]

/-! ## Before a blank or a pipe -/

/-- No letter, digit or underscore is a blank. -/
theorem isAlphanumeric_blank {c : Char} (h : Text.isBlank c = true) :
    (Text.isAlphanumeric c || c == '_') = false := by
  have hall : (Text.blankChars.all fun d => !(Text.isAlphanumeric d || d == '_')) = true := by
    decide +kernel
  simpa using List.all_eq_true.1 hall c (Text.mem_blankChars h)

/-- Neither a word nor an arrow goes on over these characters, nor does an arrow look past them. -/
def isStop (c : Char) : Bool :=
  Text.isBlank c || c == '|'

theorem isArrowChar_eq_false_of_isStop {c : Char} (h : isStop c = true) :
    isArrowChar c = false := by
  rcases Bool.or_eq_true_iff.1 h with h | h
  · exact isArrowChar_eq_false_of_isBlank h
  · rw [beq_iff_eq.1 h]
    rfl

theorem isAlphanumeric_stop {c : Char} (h : isStop c = true) :
    (Text.isAlphanumeric c || c == '_') = false := by
  rcases Bool.or_eq_true_iff.1 h with h | h
  · exact isAlphanumeric_blank h
  · rw [beq_iff_eq.1 h]
    decide

theorem endsWord_of_isStop {s : Text} (hs : ∀ c ∈ s.head?, isStop c = true) : EndsWord s := by
  cases s with
  | nil => exact endsWord_nil
  | cons c s =>
      refine endsWord_of_head ?_
      rcases Bool.or_eq_true_iff.1 (hs c rfl) with h | h
      · exact .inl h
      · exact .inr (.inr (beq_iff_eq.1 h))

theorem length_arrowRun_le (u : Text) : (arrowRun u).length ≤ u.length :=
  (List.takeWhile_prefix _).length_le

section Stop

variable {s : Text} (hs : ∀ c ∈ s.head?, isStop c = true)

include hs in
theorem arrowRun_append_stop (u : Text) : arrowRun (u ++ s) = arrowRun u :=
  arrowRun_append_of_stop (fun c hc => isArrowChar_eq_false_of_isStop (hs c hc)) u

include hs in
theorem headLength_append_stop (run u : Text) : headLength run (u ++ s) = headLength run u := by
  cases u with
  | nil =>
      refine headLength_of_ne fun c hc => ?_
      have hstop := hs c hc
      constructor <;> rintro rfl <;> exact absurd hstop (by decide)
  | cons c u =>
      cases u with
      | nil =>
          have hnot : s.head?.any (fun d => Text.isAlphanumeric d || d == '_') = false := by
            cases hh : s.head? with
            | none => rfl
            | some d => exact isAlphanumeric_stop (hs d hh)
          simp [headLength, hnot]
      | cons d u => rfl

include hs in
theorem arrowLength?_append_stop (u : Text) : arrowLength? (u ++ s) = arrowLength? u := by
  simp only [arrowLength?, arrowRun_append_stop hs,
    List.drop_append_of_le_length (length_arrowRun_le u), headLength_append_stop hs]

include hs in
theorem wordRest_append_stop (u : Text) :
    wordRest (u ++ s) = ((wordRest u).1, (wordRest u).2 ++ s) := by
  induction u with
  | nil => exact endsWord_of_isStop hs
  | cons c u ih =>
      have hstart : startsArrow (c :: (u ++ s)) = startsArrow (c :: u) := by
        rw [startsArrow, ← List.cons_append, arrowRun_append_stop hs, startsArrow]
      rw [List.cons_append, wordRest, wordRest, hstart]
      split
      · rfl
      · rw [ih]

end Stop

section Blank

variable {s : Text} (hs : ∀ c ∈ s.head?, Text.isBlank c = true)

include hs in
theorem isStop_of_blank : ∀ c ∈ s.head?, isStop c = true := fun c hc => by
  rw [isStop, hs c hc]
  rfl

include hs in
theorem arrowLength?_append_blank (u : Text) : arrowLength? (u ++ s) = arrowLength? u :=
  arrowLength?_append_stop (isStop_of_blank hs) u

include hs in
theorem wordRest_append_blank (u : Text) :
    wordRest (u ++ s) = ((wordRest u).1, (wordRest u).2 ++ s) :=
  wordRest_append_stop (isStop_of_blank hs) u

theorem length_headLength_le (run s : Text) : headLength run s ≤ s.length := by
  unfold headLength
  split
  · exact Nat.le_refl _
  · split
    · simp
    · exact Nat.zero_le _

theorem le_length_of_arrowLength? {u : Text} {n : Nat} (h : arrowLength? u = some n) :
    n ≤ u.length := by
  unfold arrowLength? at h
  dsimp only at h
  split at h
  · cases h
    have h₁ := length_headLength_le (arrowRun u) (u.drop (arrowRun u).length)
    have h₂ := length_arrowRun_le u
    rw [List.length_drop] at h₁
    omega
  · cases h

/-- Blanks in front of a text that does not end in one do not reach what stands behind it. -/
theorem dropWhile_isBlank_append {c : Char} {u : Text} (hc : Text.isBlank c = true)
    (hlast : ∀ d ∈ (c :: u).getLast?, Text.isBlank d = false) (t : Text) :
    (u ++ t).dropWhile Text.isBlank = u.dropWhile Text.isBlank ++ t := by
  rw [List.dropWhile_append, if_neg]
  intro h
  have hall : ∀ d ∈ c :: u, Text.isBlank d = true := by
    intro d hd
    rcases List.mem_cons.1 hd with rfl | hd
    · exact hc
    · exact List.dropWhile_eq_nil_iff.1 (List.isEmpty_iff.1 h) d hd
  have := hlast _ (List.getLast?_eq_some_getLast (List.cons_ne_nil c u))
  rw [hall _ (List.getLast_mem _)] at this
  cases this

include hs in
/-- An arrow at the front is the same with blanks behind the text. -/
theorem lex_arrow_append_blank {c : Char} {u : Text} {n : Nat} (hc : Text.isBlank c = false)
    (hp : c ≠ '|') (h : arrowLength? (c :: u) = some n) :
    lex (c :: (u ++ s)) = arrow ((c :: u).take n) :: lex ((c :: u).drop n ++ s) := by
  have happ : arrowLength? (c :: (u ++ s)) = some n := by
    rw [← List.cons_append, arrowLength?_append_blank hs, h]
  have hle := le_length_of_arrowLength? h
  rw [lex_cons_of_arrowLength? hc hp happ, ← List.cons_append,
    List.take_append_of_le_length hle, List.drop_append_of_le_length hle]

include hs in
/-- A word at the front is the same with blanks behind the text. -/
theorem lex_word_append_blank {c : Char} {u : Text} (hc : Text.isBlank c = false) (hp : c ≠ '|')
    (hj : c ≠ '&') (h : arrowLength? (c :: u) = none) :
    lex (c :: (u ++ s)) = word (c :: (wordRest u).1) :: lex ((wordRest u).2 ++ s) := by
  have happ : arrowLength? (c :: (u ++ s)) = none := by
    rw [← List.cons_append, arrowLength?_append_blank hs, h]
  rw [lex_cons_word hc hp hj happ, wordRest_append_blank hs]

include hs in
/-- Text without pipes is lexed apart from the blanks behind it. -/
theorem lex_append_blank {u : Text} (hu : '|' ∉ u)
    (hlast : ∀ c ∈ u.getLast?, Text.isBlank c = false) :
    lex (u ++ s) = lex u ++ lex s := by
  -- what is left behind a token has no pipe either, and ends as the text does
  have hfree {v u : Text} (hv : v <:+ u) (hu : '|' ∉ u) : '|' ∉ v := fun h => hu (hv.subset h)
  have hend {v u : Text} (hv : v <:+ u) (hlast : ∀ c ∈ u.getLast?, Text.isBlank c = false) :
      ∀ c ∈ v.getLast?, Text.isBlank c = false := by
    intro c hc
    obtain ⟨t, rfl⟩ := hv
    refine hlast c ?_
    rw [List.getLast?_append, Option.mem_def.1 hc]
    rfl
  fun_induction lex u with
  | case1 => rfl
  | case2 c u hc ih =>
      have hv := (List.dropWhile_suffix Text.isBlank).trans (List.suffix_cons c u)
      rw [List.cons_append, lex_blank hc, dropWhile_isBlank_append hc hlast,
        ih (hfree hv hu) (hend hv hlast)]
      rfl
  | case3 u l rest h hb ih => exact absurd List.mem_cons_self hu
  | case4 u h hb ih => exact absurd List.mem_cons_self hu
  | case5 c u hc hp n h ih =>
      have hv := List.drop_suffix n (c :: u)
      rw [List.cons_append, lex_arrow_append_blank hs (by simpa using hc) hp h,
        ih (hfree hv hu) (hend hv hlast)]
      rfl
  | case6 u h hb hp ih =>
      have hv := List.suffix_cons '&' u
      rw [List.cons_append, lex_join_append, ih (hfree hv hu) (hend hv hlast)]
      rfl
  | case7 c u hc hp h hj ih =>
      have hv : (wordRest u).2 <:+ c :: u :=
        List.IsSuffix.trans ⟨_, wordRest_append u⟩ (List.suffix_cons c u)
      rw [List.cons_append, lex_word_append_blank hs (by simpa using hc) hp hj h,
        ih (hfree hv hu) (hend hv hlast)]
      rfl

end Blank

/-! ## Labels inside edges -/

/-- What a word of a label inside an edge is lexed as. -/
def wordToken (w : Text) : Token := if w = ['&'] then join else word w

/-- No word of the label is taken for an arrow or falls into pieces. -/
def IsInline (l : Text) : Prop := ∀ w ∈ Text.words l, lex w = [wordToken w]

instance (l : Text) : Decidable (IsInline l) :=
  inferInstanceAs (Decidable (∀ w ∈ Text.words l, lex w = [wordToken w]))

/-- Words, each behind a space. -/
def spacedTokens (ws : List Text) : List Token :=
  ws.flatMap fun w => [space, wordToken w]

theorem render_wordToken (w : Text) : (wordToken w).render = w := by
  unfold wordToken
  split
  · rename_i h
    exact h.symm
  · rfl

theorem renderAll_spacedTokens {ws : List Text} (h : ws ≠ []) :
    renderAll (spacedTokens ws) = ' ' :: Text.joinWith ' ' ws := by
  induction ws with
  | nil => exact absurd rfl h
  | cons w ws ih =>
      have hcons : renderAll (spacedTokens (w :: ws))
          = ' ' :: w ++ renderAll (spacedTokens ws) := by
        rw [renderAll, spacedTokens, List.flatMap_cons, List.flatMap_append, ← spacedTokens,
          List.flatMap_cons, List.flatMap_cons, List.flatMap_nil, render_wordToken]
        simp [render, renderAll]
      by_cases hne : ws = []
      · subst hne
        rw [hcons]
        simp [renderAll, spacedTokens, Text.joinWith]
      · rw [hcons, ih hne, Text.joinWith_cons hne]
        rfl

/-- A label inside an edge, with the blanks in front of it. -/
theorem lex_inline {l b s : Text} (hl : Label.IsClean l) (hin : IsInline l)
    (hb : Text.IsBlanks b) (hne : b ≠ []) (hs : ∀ c ∈ s.head?, c = ' ' ∨ c = '\t') :
    lex (b ++ (l ++ s)) = spacedTokens (Text.words l) ++ lex s := by
  have hpipe : '|' ∉ l := fun h => absurd (hl.not_isIllegal h) (by decide)
  obtain ⟨ws, hws, rfl⟩ := hl.isSpaced.exists_words
  rw [IsInline, Text.words_joinWith hws] at hin
  rw [Text.words_joinWith hws]
  have hlne : ws ≠ [] := by
    rintro rfl
    exact hl.1 rfl
  clear hl
  induction ws generalizing b with
  | nil => exact absurd rfl hlne
  | cons w ws ih =>
      have hw := hws w (by simp)
      have hwhead : ∀ (t : Text), ∀ c ∈ (w ++ t).head?, Text.isBlank c = false := by
        intro t c hc
        obtain ⟨d, v, rfl⟩ := List.exists_cons_of_ne_nil hw.1
        cases hc
        exact hw.2 c (by simp)
      have hwlast : ∀ c ∈ w.getLast?, Text.isBlank c = false :=
        fun c hc => hw.2 c (List.mem_of_getLast? hc)
      by_cases hnil : ws = []
      · subst hnil
        rw [Text.joinWith] at hpipe ⊢
        have hblank : ∀ c ∈ s.head?, Text.isBlank c = true := by
          intro c hc
          rcases hs c hc with rfl | rfl <;> rfl
        rw [lex_blanks_append hb hne (hwhead s), lex_append_blank hblank hpipe hwlast,
          hin w (by simp)]
        rfl
      · rw [Text.joinWith_cons hnil] at hpipe ⊢
        have hwpipe : '|' ∉ w := fun h => hpipe (List.mem_append_left _ h)
        have hrest : '|' ∉ Text.joinWith ' ' ws :=
          fun h => hpipe (List.mem_append_right _ (List.mem_cons_of_mem _ h))
        have hspace : Text.IsBlanks [' '] := .space
        have hsplit : w ++ ' ' :: Text.joinWith ' ' ws ++ s
            = w ++ ([' '] ++ (Text.joinWith ' ' ws ++ s)) := by
          simp
        rw [hsplit, lex_blanks_append hb hne (hwhead _),
          lex_append_blank (by simp; decide) hwpipe hwlast, hin w (by simp),
          ih hspace (by simp) (fun v hv => hws v (by simp [hv]))
            (fun v hv => hin v (by simp [hv])) hrest hnil]
        rfl

/-! ## Spelling -/

/-- A text that tokens were read from. -/
inductive Spells : List Token → Text → Prop where
  | nil : Spells [] []
  | space {b s : Text} {ts : List Token} (hb : Text.IsBlanks b) (h : Spells ts s) :
      Spells (space :: ts) (b ++ s)
  | word {w s : Text} {ts : List Token} (h : Spells ts s) : Spells (word w :: ts) (w ++ s)
  | arrow {a s : Text} {ts : List Token} (h : Spells ts s) : Spells (arrow a :: ts) (a ++ s)
  | join {s : Text} {ts : List Token} (h : Spells ts s) : Spells (join :: ts) ('&' :: s)
  | label {l s : Text} {ts : List Token} (hl : '|' ∉ l) (h : Spells ts s) :
      Spells (label l :: ts) ('|' :: l ++ '|' :: s)

theorem spells_lex (s : Text) : Spells (lex s) s := by
  fun_induction lex s with
  | case1 => exact .nil
  | case2 c s hc ih =>
      have hsplit : c :: s = (c :: s.takeWhile Text.isBlank) ++ s.dropWhile Text.isBlank := by
        rw [List.cons_append, List.takeWhile_append_dropWhile]
      rw [hsplit]
      refine .space (fun d hd => ?_) ih
      rcases List.mem_cons.1 hd with rfl | hd
      · exact hc
      · exact List.mem_takeWhile_imp hd
  | case3 s l rest h hb ih =>
      obtain ⟨rfl, hl⟩ := Segment.eq_append_of_untilPipe? h
      exact .label hl ih
  | case4 s h hb ih =>
      have := Spells.word (w := '|' :: (wordRest s).1) ih
      rwa [List.cons_append, wordRest_append] at this
  | case5 c s hc hp n h ih =>
      have := Spells.arrow (a := (c :: s).take n) ih
      rwa [List.take_append_drop] at this
  | case6 s hc hp h ih => exact .join ih
  | case7 c s hc hp h hj ih =>
      have := Spells.word (w := c :: (wordRest s).1) ih
      rwa [List.cons_append, wordRest_append] at this

theorem not_isStop_of_mem_wordRest {s : Text} {c : Char} (h : c ∈ (wordRest s).1) :
    isStop c = false := by
  induction s with
  | nil => simp [wordRest] at h
  | cons d s ih =>
      unfold wordRest at h
      split at h
      · simp at h
      · rename_i hd
        rcases List.mem_cons.1 h with rfl | h
        · simp only [Bool.or_eq_true, not_or, Bool.not_eq_true] at hd
          simp [isStop, hd.1.1.1, hd.1.2]
        · exact ih h

theorem not_isBlank_of_mem_wordRest {s : Text} {c : Char} (h : c ∈ (wordRest s).1) :
    Text.isBlank c = false :=
  (Bool.or_eq_false_iff.1 (not_isStop_of_mem_wordRest h)).1

/-- Words hold no blanks. -/
theorem isWord_of_mem_lex {s w : Text} (h : word w ∈ lex s) : Text.IsWord w := by
  have hword {c : Char} {t : Text} (hc : Text.isBlank c = false) :
      Text.IsWord (c :: (wordRest t).1) := by
    refine ⟨by simp, fun d hd => ?_⟩
    rcases List.mem_cons.1 hd with rfl | hd
    · exact hc
    · exact not_isBlank_of_mem_wordRest hd
  fun_induction lex s with
  | case1 => cases h
  | case2 c s hc ih => exact ih ((List.mem_cons.1 h).resolve_left (by simp))
  | case3 s l rest hp hb ih => exact ih ((List.mem_cons.1 h).resolve_left (by simp))
  | case4 s hp hb ih =>
      rcases List.mem_cons.1 h with h | h
      · cases h
        exact hword (by decide)
      · exact ih h
  | case5 c s hc hp n hn ih => exact ih ((List.mem_cons.1 h).resolve_left (by simp))
  | case6 s hc hp hn ih => exact ih ((List.mem_cons.1 h).resolve_left (by simp))
  | case7 c s hc hp hn hj ih =>
      rcases List.mem_cons.1 h with h | h
      · cases h
        exact hword (by simpa using hc)
      · exact ih h

end Token

end Flowchart
