import Flowchart.Proofs.NodeTexts

/-!
# Texts of edges

An edge is written as an arrow, as an arrow and a label between pipes, or around its label. Its
tokens stand apart from the node behind it.
-/

namespace Flowchart

/-- How an edge is written, with the blanks at its ends. -/
inductive EdgeText where
  | plain (before arrow after : Text)
  | piped (before arrow gap label after : Text)
  | inline (before opener gap label gap' arrow after : Text)

/-- Spaces and tabs. -/
def Text.IsPadding (b : Text) : Prop := ∀ c ∈ b, c = ' ' ∨ c = '\t'

instance (b : Text) : Decidable (Text.IsPadding b) :=
  List.decidableBAll (fun c => c = ' ' ∨ c = '\t') b

theorem Text.IsPadding.isBlanks {b : Text} (h : IsPadding b) : IsBlanks b := by
  intro c hc
  rcases h c hc with rfl | rfl <;> rfl

namespace EdgeText

def text : EdgeText → Text
  | plain b a b' => b ++ (a ++ b')
  | piped b a m l b' => b ++ (a ++ (m ++ ('|' :: l ++ '|' :: b')))
  | inline b o g l g' a b' => b ++ (o ++ (g ++ (l ++ (g' ++ (a ++ b')))))

def before : EdgeText → Text
  | plain b _ _ => b
  | piped b _ _ _ _ => b
  | inline b _ _ _ _ _ _ => b

/-- Blanks as one token, if there are any. -/
def blankTokens (b : Text) : List Token := if b = [] then [] else [.space]

def tokens : EdgeText → List Token
  | plain b a b' => blankTokens b ++ (.arrow a :: blankTokens b')
  | piped b a m l b' =>
    blankTokens b ++ (.arrow a :: (blankTokens m ++ (.label l :: blankTokens b')))
  | inline b o _ l _ a b' =>
    blankTokens b ++ (.arrow o :: (Token.spacedTokens (Text.words l) ++
      (.space :: .arrow a :: blankTokens b')))

/-- The blanks behind an arrow keep it apart from a node, or its head does. -/
def Closes (a b : Text) : Prop := (∃ c ∈ b.head?, c = ' ' ∨ c = '\t') ∨ a.getLast? = some '>'

instance (a b : Text) : Decidable (Closes a b) :=
  haveI : Decidable (∃ c ∈ b.head?, c = ' ' ∨ c = '\t') := Option.decidableExistsMem _
  inferInstanceAs (Decidable (_ ∨ _))

/-- An arrow that finishes an edge. -/
def IsFinishing (a : Text) : Prop := Token.IsArrowText a ∧ Token.opensLabel a = false

instance (a : Text) : Decidable (IsFinishing a) := inferInstanceAs (Decidable (_ ∧ _))

/-- What is written is read as one edge. -/
def IsWell : EdgeText → Prop
  | plain b a b' => Text.IsBlanks b ∧ IsFinishing a ∧ Text.IsBlanks b' ∧ Closes a b'
  | piped b a m l b' =>
    Text.IsBlanks b ∧ IsFinishing a ∧ Text.IsBlanks m ∧ (m = [] ∨ Closes a m) ∧ '|' ∉ l ∧
      Text.IsBlanks b' ∧ (Label.clean l = [] → Closes a (m ++ b'))
  | inline b o g l g' a b' =>
    Text.IsBlanks b ∧ Token.IsArrowText o ∧ Token.opensLabel o = true ∧
      Text.IsPadding g ∧ g ≠ [] ∧ Label.IsClean l ∧ Token.IsInline l ∧
      Text.IsPadding g' ∧ g' ≠ [] ∧ IsFinishing a ∧ Text.IsBlanks b' ∧ Closes a b'

/-! ## Tokens -/

/-- A node, or the end of the free text. -/
def StartsNode (u : Text) : Prop := ∀ c ∈ u.head?, c.isAlphanum = true

theorem lex_blanks_append {b u : Text} (hb : Text.IsBlanks b)
    (hu : ∀ c ∈ u.head?, Text.isBlank c = false) :
    Token.lex (b ++ u) = blankTokens b ++ Token.lex u := by
  by_cases hne : b = []
  · subst hne
    rfl
  · rw [Token.lex_blanks_append hb hne hu, blankTokens, if_neg hne]
    rfl

theorem StartsNode.not_isBlank {u : Text} (hu : StartsNode u) :
    ∀ c ∈ u.head?, Text.isBlank c = false :=
  fun c hc => Ident.not_isBlank_of_isAlphanum (hu c hc)

theorem IsArrowText.head {a : Text} (ha : Token.IsArrowText a) (s : Text) :
    ∀ c ∈ (a ++ s).head?, Token.isArrowChar c = true := by
  intro c hc
  by_contra hn
  obtain ⟨d, a, rfl⟩ := List.exists_cons_of_ne_nil ha.ne_nil
  cases hc
  rw [Token.IsArrowText, Token.arrowLength?_eq_none (by simpa using hn)] at ha
  cases ha

theorem IsArrowText.head_not_isBlank {a : Text} (ha : Token.IsArrowText a) (s : Text) :
    ∀ c ∈ (a ++ s).head?, Text.isBlank c = false := by
  intro c hc
  have := IsArrowText.head ha s c hc
  by_contra hb
  rw [Token.isArrowChar_eq_false_of_isBlank (by simpa using hb)] at this
  cases this

theorem Closes.endsArrow {a b u : Text} (h : Closes a b) (hb : Text.IsBlanks b)
    (hu : StartsNode u) : Token.EndsArrow a (b ++ u) := by
  rcases h with ⟨c, hc, hpad⟩ | h
  · left
    intro d hd
    cases b with
    | nil => cases hc
    | cons e b =>
        cases hc
        cases hd
        rcases hpad with h | h
        · exact .inl h
        · exact .inr (.inl h)
  · refine .inr ⟨h, fun d hd => ?_⟩
    cases b with
    | nil => exact Token.isArrowChar_eq_false_of_isAlphanum (hu d hd)
    | cons e b =>
        cases hd
        exact Token.isArrowChar_eq_false_of_isBlank (hb _ (by simp))

theorem Closes.endsArrow_pipe {a m : Text} (h : m = [] ∨ Closes a m) (hm : Text.IsBlanks m)
    (s : Text) : Token.EndsArrow a (m ++ '|' :: s) := by
  cases m with
  | nil =>
      left
      intro d hd
      cases hd
      exact .inr (.inr rfl)
  | cons e m =>
      rcases h.resolve_left (by simp) with ⟨c, hc, hpad⟩ | h
      · left
        intro d hd
        cases hc
        cases hd
        rcases hpad with h | h
        · exact .inl h
        · exact .inr (.inl h)
      · refine .inr ⟨h, fun d hd => ?_⟩
        cases hd
        exact Token.isArrowChar_eq_false_of_isBlank (hm _ (by simp))

theorem Text.IsPadding.head {g : Text} (hg : Text.IsPadding g) (hne : g ≠ []) (s : Text) :
    ∀ c ∈ (g ++ s).head?, c = ' ' ∨ c = '\t' := by
  obtain ⟨d, g, rfl⟩ := List.exists_cons_of_ne_nil hne
  intro c hc
  cases hc
  exact hg _ (by simp)

theorem endsArrow_padding {o g : Text} (hg : Text.IsPadding g) (hne : g ≠ []) (s : Text) :
    Token.EndsArrow o (g ++ s) := by
  left
  intro c hc
  rcases Text.IsPadding.head hg hne s c hc with h | h
  · exact .inl h
  · exact .inr (.inl h)

/-- An edge is lexed apart from the node behind it. -/
theorem lex_text_append {e : EdgeText} (he : e.IsWell) {u : Text} (hu : StartsNode u) :
    Token.lex (e.text ++ u) = e.tokens ++ Token.lex u := by
  cases e with
  | plain b a b' =>
      obtain ⟨hb, ha, hb', hclose⟩ := he
      simp only [text, tokens, List.append_assoc]
      rw [lex_blanks_append hb (IsArrowText.head_not_isBlank ha.1 _),
        Token.lex_arrow_append ha.1 (hclose.endsArrow hb' hu),
        lex_blanks_append hb' hu.not_isBlank]
      rfl
  | piped b a m l b' =>
      obtain ⟨hb, ha, hm, hgap, hl, hb', -⟩ := he
      have hpipe : ∀ c ∈ ('|' :: l ++ '|' :: (b' ++ u)).head?, Text.isBlank c = false := by
        intro c hc
        cases hc
        decide
      simp only [text, tokens, List.append_assoc, List.cons_append]
      rw [lex_blanks_append hb (IsArrowText.head_not_isBlank ha.1 _),
        Token.lex_arrow_append ha.1 (Closes.endsArrow_pipe hgap hm _),
        ← List.cons_append, lex_blanks_append hm hpipe, Token.lex_label_append hl,
        lex_blanks_append hb' hu.not_isBlank]
  | inline b o g l g' a b' =>
      obtain ⟨hb, ho, -, hg, hgne, hl, hin, hg', hgne', ha, hb', hclose⟩ := he
      simp only [text, tokens, List.append_assoc, List.cons_append]
      rw [lex_blanks_append hb (IsArrowText.head_not_isBlank ho _),
        Token.lex_arrow_append ho (endsArrow_padding hg hgne _),
        Token.lex_inline hl hin hg.isBlanks hgne (Text.IsPadding.head hg' hgne' _),
        Token.lex_blanks_append hg'.isBlanks hgne' (IsArrowText.head_not_isBlank ha.1 _),
        Token.lex_arrow_append ha.1 (hclose.endsArrow hb' hu),
        lex_blanks_append hb' hu.not_isBlank]

/-- A word ends where an edge begins. -/
theorem endsWord_text_append {e : EdgeText} (he : e.IsWell) {u : Text} (hu : StartsNode u) :
    Token.EndsWord (e.text ++ u) := by
  have hblank {b s : Text} (hb : Text.IsBlanks b) (hs : Token.EndsWord s) :
      Token.EndsWord (b ++ s) := by
    cases b with
    | nil => exact hs
    | cons c b => exact Token.endsWord_of_head (.inl (hb c (by simp)))
  cases e with
  | plain b a b' =>
      obtain ⟨hb, ha, hb', hclose⟩ := he
      simp only [text, List.append_assoc]
      exact hblank hb (Token.endsWord_of_startsArrow
        (Token.startsArrow_append ha.1 (hclose.endsArrow hb' hu)))
  | piped b a m l b' =>
      obtain ⟨hb, ha, hm, hgap, -⟩ := he
      simp only [text, List.append_assoc, List.cons_append]
      exact hblank hb (Token.endsWord_of_startsArrow
        (Token.startsArrow_append ha.1 (Closes.endsArrow_pipe hgap hm _)))
  | inline b o g l g' a b' =>
      obtain ⟨hb, ho, -, hg, hgne, -⟩ := he
      simp only [text, List.append_assoc]
      exact hblank hb (Token.endsWord_of_startsArrow
        (Token.startsArrow_append ho (endsArrow_padding hg hgne _)))

/-! ## Segments -/

theorem isFree_blanks {b : Text} (hb : Text.IsBlanks b) : Segment.IsFree b := by
  refine Segment.isFree_of_chars fun c hc => ?_
  have hblank := hb c hc
  refine ⟨Segment.isOpener_eq_false_of_isBlank hblank, ?_⟩
  rintro rfl
  exact absurd hblank (by decide)

theorem eq_round_or_cross {run : Text} {c : Char} (h : Token.headLength run [c] = 1) :
    c = 'o' ∨ c = 'x' := by
  unfold Token.headLength at h
  dsimp only at h
  split at h
  · rename_i hc
    simp only [Bool.and_eq_true, Bool.or_eq_true, beq_iff_eq] at hc
    exact hc.1.2
  · cases h

theorem isArrowPart {a : Text} (ha : Token.IsArrowText a) {c : Char} (hc : c ∈ a) :
    Token.isArrowChar c = true ∨ c = 'o' ∨ c = 'x' := by
  rcases ha.cases.2 with hself | ⟨d, hself, hhead, -⟩
  · rw [hself] at hc
    exact .inl (Token.isArrowChar_of_mem_arrowRun hc)
  · rw [hself] at hc
    rcases List.mem_append.1 hc with hc | hc
    · exact .inl (Token.isArrowChar_of_mem_arrowRun hc)
    · rw [List.mem_singleton] at hc
      exact .inr (hc ▸ eq_round_or_cross hhead)

theorem arrowPart_cases {c : Char} (h : Token.isArrowChar c = true ∨ c = 'o' ∨ c = 'x') :
    c = '-' ∨ c = '=' ∨ c = '.' ∨ c = '<' ∨ c = '>' ∨ c = 'o' ∨ c = 'x' := by
  simp only [Token.isArrowChar, Bool.or_eq_true, beq_iff_eq] at h
  tauto

theorem isFree_arrow {a : Text} (ha : Token.IsArrowText a) : Segment.IsFree a := by
  refine Segment.isFree_of_chars fun c hc => ?_
  rcases arrowPart_cases (isArrowPart ha hc) with rfl | rfl | rfl | rfl | rfl | rfl | rfl <;> decide

theorem isFree_legal {l : Text} (hl : Label.IsLegal l) : Segment.IsFree l :=
  Segment.isFree_of_chars fun c hc =>
    ⟨(Label.not_delimiter_of_not_isIllegal (hl c hc)).1,
      (Label.not_delimiter_of_not_isIllegal (hl c hc)).2.2⟩

/-- No shape opens inside an edge. -/
theorem isFree_text {e : EdgeText} (he : e.IsWell) : Segment.IsFree e.text := by
  cases e with
  | plain b a b' =>
      obtain ⟨hb, ha, hb', -⟩ := he
      exact (isFree_blanks hb).append ((isFree_arrow ha.1).append (isFree_blanks hb'))
  | piped b a m l b' =>
      obtain ⟨hb, ha, hm, -, hl, hb', -⟩ := he
      have hsplit : '|' :: l ++ '|' :: b' = ('|' :: l ++ ['|']) ++ b' := by simp
      rw [text, hsplit]
      exact (isFree_blanks hb).append ((isFree_arrow ha.1).append
        ((isFree_blanks hm).append ((Segment.isFree_label hl).append (isFree_blanks hb'))))
  | inline b o g l g' a b' =>
      obtain ⟨hb, ho, -, hg, -, hl, -, hg', -, ha, hb', -⟩ := he
      exact (isFree_blanks hb).append ((isFree_arrow ho).append
        ((isFree_blanks hg.isBlanks).append ((isFree_legal hl.isLegal).append
          ((isFree_blanks hg'.isBlanks).append ((isFree_arrow ha.1).append (isFree_blanks hb'))))))

theorem stopsId_of_isBlank {c : Char} (h : Text.isBlank c = true) : Segment.stopsId c = true := by
  simp [Segment.stopsId, h]

theorem stopsGlue_blanks {b : Text} (hb : Text.IsBlanks b) : Segment.StopsGlue b.reverse := by
  intro c hc
  exact .inl (stopsId_of_isBlank (hb c (List.mem_reverse.1 (List.mem_of_mem_head? hc))))

theorem stopsGlue_append {t u back : Text} (hu : u ≠ []) (h : Segment.StopsGlue u.reverse) :
    Segment.StopsGlue ((t ++ u).reverse ++ back) := by
  intro c hc
  refine h c ?_
  rw [List.reverse_append, List.append_assoc, List.head?_append] at hc
  cases hr : u.reverse.head? with
  | none =>
      rw [List.head?_eq_none_iff, List.reverse_eq_nil_iff] at hr
      exact absurd hr hu
  | some d =>
      rw [hr] at hc
      exact hc

/-- No identifier reaches back across blanks or the end of an arrow. -/
theorem stopsGlue_arrow {a b : Text} (ha : Token.IsArrowText a) (hb : Text.IsBlanks b)
    (h : Closes a b) (t back : Text) : Segment.StopsGlue ((t ++ (a ++ b)).reverse ++ back) := by
  by_cases hne : b = []
  · subst hne
    rcases h with ⟨c, hc, -⟩ | hlast
    · cases hc
    · rw [List.append_nil]
      refine stopsGlue_append ha.ne_nil fun c hc => ?_
      rw [List.head?_reverse, hlast] at hc
      cases hc
      exact .inr rfl
  · rw [← List.append_assoc]
    exact stopsGlue_append hne (stopsGlue_blanks hb)

theorem stopsGlue_text {e : EdgeText} (he : e.IsWell) (back : Text) :
    Segment.StopsGlue (e.text.reverse ++ back) := by
  cases e with
  | plain b a b' =>
      obtain ⟨-, ha, hb', hclose⟩ := he
      exact stopsGlue_arrow ha.1 hb' hclose b back
  | piped b a m l b' =>
      obtain ⟨-, -, -, -, -, hb', -⟩ := he
      by_cases hne : b' = []
      · subst hne
        have hsplit : (piped b a m l []).text = (b ++ (a ++ (m ++ ('|' :: l)))) ++ ['|'] := by
          simp [text]
        rw [hsplit]
        refine stopsGlue_append (by simp) fun c hc => ?_
        cases hc
        exact .inl rfl
      · have hsplit : (piped b a m l b').text = (b ++ (a ++ (m ++ ('|' :: l ++ ['|'])))) ++ b' := by
          simp [text]
        rw [hsplit]
        exact stopsGlue_append hne (stopsGlue_blanks hb')
  | inline b o g l g' a b' =>
      obtain ⟨-, -, -, -, -, -, -, -, -, ha, hb', hclose⟩ := he
      have hsplit : (inline b o g l g' a b').text
          = (b ++ (o ++ (g ++ (l ++ g')))) ++ (a ++ b') := by
        simp [text]
      rw [hsplit]
      exact stopsGlue_arrow ha.1 hb' hclose _ back

end EdgeText

end Flowchart
