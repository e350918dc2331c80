import Flowchart.Proofs.Layouts
import Flowchart.Repair.Brackets
import Flowchart.Repair.Edges
import Flowchart.Repair.Idents
import Flowchart.Repair.Labels
import Flowchart.Repair.Spacing

/-!
# What the rules make of an edge

Each rule changes an edge by itself, whatever node stands behind it. The label that an edge ends up
with is known from the start, and every arrow becomes the canonical one.
-/

namespace Flowchart

theorem Label.clean_clean (l : Text) : clean (clean l) = clean l :=
  (clean_eq_joinWith_words (isLegal_clean l)).trans (isSpaced_clean l)

namespace EdgeText

/-! ## Edges between rules -/

/-- Blanks as one space, if there are any. -/
def space (b : Text) : Text := if b = [] then [] else [' ']

theorem isBlanks_space (b : Text) : Text.IsBlanks (space b) := by
  unfold space
  split
  · exact .nil
  · simp [Text.IsBlanks, Text.isBlank]

def after : EdgeText → Text
  | plain _ _ b' => b'
  | piped _ _ _ _ b' => b'
  | inline _ _ _ _ _ _ b' => b'

/-- The label of the edge, cleaned. -/
def label : EdgeText → Option Text
  | plain _ _ _ => none
  | piped _ _ _ l _ => if Label.clean l = [] then none else some (Label.clean l)
  | inline _ _ _ l _ _ _ => some l

/-- A canonical arrow with its label and blanks around. -/
def ofLabel (b : Text) (label : Option Text) (b' : Text) : EdgeText :=
  match label with
  | none => plain b arrow b'
  | some l => piped b arrow [] l b'

/-- Without delimiters in the label. -/
def blank : EdgeText → EdgeText
  | piped b a m l b' => piped b a m (Repair.blankDelimiters l) b'
  | e => e

/-- With a clean label, or with none if nothing is left of it. -/
def cleaned : EdgeText → EdgeText
  | piped b a m l b' =>
    if Label.clean l = [] then plain b a (m ++ b') else piped b a m (Label.clean l) b'
  | e => e

/-- With single spaces for blanks. -/
def spaced : EdgeText → EdgeText
  | plain b a b' => plain (space b) a (space b')
  | piped b a m l b' => piped (space b) a (space m) l (space b')
  | inline b o g l g' a b' => inline (space b) o (space g) l (space g') a (space b')

/-- With the canonical arrow. -/
def straight (e : EdgeText) : EdgeText := ofLabel (space e.before) e.label (space e.after)

/-- With one space on each side. -/
def padded (e : EdgeText) : EdgeText := ofLabel [' '] e.label [' ']

theorem isFinishing_arrow : IsFinishing arrow := by decide

theorem closes_arrow (b : Text) : Closes arrow b := .inr rfl

theorem isWell_ofLabel {b b' : Text} {label : Option Text} (hb : Text.IsBlanks b)
    (hl : ∀ l, label = some l → '|' ∉ l) (hb' : Text.IsBlanks b') :
    (ofLabel b label b').IsWell := by
  cases label with
  | none => exact ⟨hb, isFinishing_arrow, hb', closes_arrow b'⟩
  | some l =>
      exact ⟨hb, isFinishing_arrow, .nil, .inl rfl, hl l rfl, hb', fun _ => closes_arrow _⟩

theorem pipe_notMem_label {e : EdgeText} (he : e.IsWell) : ∀ l, e.label = some l → '|' ∉ l := by
  intro l hl
  cases e with
  | plain b a b' => cases hl
  | piped b a m k b' =>
      rw [label] at hl
      split at hl
      · cases hl
      · cases hl
        exact (Label.isLegal_clean k).pipe
  | inline b o g k g' a b' =>
      cases hl
      exact he.2.2.2.2.2.1.isLegal.pipe

theorem isWell_straight {e : EdgeText} (he : e.IsWell) : e.straight.IsWell :=
  isWell_ofLabel (isBlanks_space _) (pipe_notMem_label he) (isBlanks_space _)

theorem isWell_padded {e : EdgeText} (he : e.IsWell) : e.padded.IsWell := by
  have hspace : Text.IsBlanks [' '] := .space
  exact isWell_ofLabel hspace (pipe_notMem_label he) hspace

theorem clean_blankDelimiters (l : Text) :
    Label.clean (Repair.blankDelimiters l) = Label.clean l := by
  rw [Label.clean, Label.clean, Repair.blankDelimiters, List.map_map]
  congr 2
  refine List.map_congr_left fun c _ => ?_
  simp only [Function.comp_apply]
  split
  · rename_i h
    have hill : Label.isIllegal c = true := by
      simp only [isOpener, isCloser, Bool.or_eq_true, beq_iff_eq] at h
      rcases h with ((rfl | rfl) | rfl) | (rfl | rfl) | rfl <;> rfl
    rw [hill]
    rfl
  · rfl

theorem isWell_blank {e : EdgeText} (he : e.IsWell) : e.blank.IsWell := by
  cases e with
  | plain b a b' => exact he
  | piped b a m l b' =>
      obtain ⟨hb, ha, hm, hgap, hl, hb', hempty⟩ := he
      refine ⟨hb, ha, hm, hgap, fun h => ?_, hb', fun h => hempty ?_⟩
      · obtain ⟨c, hc, he⟩ := List.mem_map.1 h
        split at he
        · cases he
        · exact hl (he ▸ hc)
      · rwa [clean_blankDelimiters] at h
  | inline b o g l g' a b' => exact he

theorem isWell_cleaned {e : EdgeText} (he : e.IsWell) : e.cleaned.IsWell := by
  cases e with
  | plain b a b' => exact he
  | piped b a m l b' =>
      obtain ⟨hb, ha, hm, hgap, hl, hb', hempty⟩ := he
      rw [cleaned]
      split
      · rename_i h
        exact ⟨hb, ha, hm.append hb', hempty h⟩
      · rename_i h
        refine ⟨hb, ha, hm, hgap, (Label.isLegal_clean l).pipe, hb', fun h' => absurd h' ?_⟩
        rwa [Label.clean_clean]
  | inline b o g l g' a b' => exact he

theorem closes_space {a b : Text} (h : Closes a b) : Closes a (space b) := by
  rcases h with ⟨c, hc, -⟩ | h
  · left
    refine ⟨' ', ?_, .inl rfl⟩
    cases b with
    | nil => cases hc
    | cons d b => rfl
  · exact .inr h

theorem space_eq_nil {b : Text} : space b = [] ↔ b = [] := by
  unfold space
  split <;> simp_all

theorem isPadding_space (b : Text) : Text.IsPadding (space b) := by
  unfold space
  split <;> simp [Text.IsPadding]

theorem isWell_spaced {e : EdgeText} (he : e.IsWell) : e.spaced.IsWell := by
  cases e with
  | plain b a b' =>
      obtain ⟨-, ha, -, hclose⟩ := he
      exact ⟨isBlanks_space b, ha, isBlanks_space b', closes_space hclose⟩
  | piped b a m l b' =>
      obtain ⟨-, ha, -, hgap, hl, -, hempty⟩ := he
      refine ⟨isBlanks_space b, ha, isBlanks_space m, ?_, hl, isBlanks_space b', fun h => ?_⟩
      · exact hgap.imp space_eq_nil.2 closes_space
      · rcases hempty h with ⟨c, hc, hpad⟩ | hlast
        · left
          refine ⟨' ', ?_, .inl rfl⟩
          cases m with
          | nil =>
              cases b' with
              | nil => cases hc
              | cons d b' => rfl
          | cons d m => rfl
        · exact .inr hlast
  | inline b o g l g' a b' =>
      obtain ⟨-, ho, hopen, -, hgne, hl, hin, -, hgne', ha, -, hclose⟩ := he
      exact ⟨isBlanks_space b, ho, hopen, isPadding_space g, fun h => hgne (space_eq_nil.1 h), hl,
        hin, isPadding_space g', fun h => hgne' (space_eq_nil.1 h), ha, isBlanks_space b',
        closes_space hclose⟩

/-! ## Labels that stay -/

theorem label_blank (e : EdgeText) : e.blank.label = e.label := by
  cases e with
  | plain b a b' => rfl
  | piped b a m l b' => rw [blank, label, label, clean_blankDelimiters]
  | inline b o g l g' a b' => rfl

theorem label_cleaned (e : EdgeText) : e.cleaned.label = e.label := by
  cases e with
  | plain b a b' => rfl
  | piped b a m l b' =>
      rw [cleaned, label]
      split
      · rfl
      · rename_i h
        rw [label, Label.clean_clean, if_neg h]
  | inline b o g l g' a b' => rfl

theorem label_spaced (e : EdgeText) : e.spaced.label = e.label := by
  cases e <;> rfl

theorem label_ofLabel {b b' : Text} {l : Option Text} (hl : ∀ k, l = some k → Label.IsClean k) :
    (ofLabel b l b').label = l := by
  cases l with
  | none => rfl
  | some k =>
      have hk := hl k rfl
      rw [ofLabel, label, Label.clean_of_isClean hk, if_neg hk.1]

/-! ## Delimiters -/

theorem blankDelimiters_eq_self {t : Text} (h : ∀ c ∈ t, isOpener c = false ∧ isCloser c = false) :
    Repair.blankDelimiters t = t := by
  refine (List.map_congr_left fun c hc => ?_).trans (List.map_id t)
  rw [(h c hc).1, (h c hc).2]
  rfl

theorem not_delimiter_of_isBlank {c : Char} (h : Text.isBlank c = true) :
    isOpener c = false ∧ isCloser c = false :=
  ⟨Segment.isOpener_eq_false_of_isBlank h, Segment.isCloser_eq_false_of_isBlank h⟩

theorem blankDelimiters_blanks {b : Text} (hb : Text.IsBlanks b) : Repair.blankDelimiters b = b :=
  blankDelimiters_eq_self fun c hc => not_delimiter_of_isBlank (hb c hc)

theorem blankDelimiters_arrow {a : Text} (ha : Token.IsArrowText a) :
    Repair.blankDelimiters a = a := by
  refine blankDelimiters_eq_self fun c hc => ?_
  rcases arrowPart_cases (isArrowPart ha hc) with rfl | rfl | rfl | rfl | rfl | rfl | rfl <;> decide

theorem blankDelimiters_legal {l : Text} (hl : Label.IsLegal l) : Repair.blankDelimiters l = l :=
  blankDelimiters_eq_self fun c hc =>
    ⟨(Label.not_delimiter_of_not_isIllegal (hl c hc)).1,
      (Label.not_delimiter_of_not_isIllegal (hl c hc)).2.1⟩

theorem blankDelimiters_append (t u : Text) :
    Repair.blankDelimiters (t ++ u) = Repair.blankDelimiters t ++ Repair.blankDelimiters u :=
  List.map_append

theorem blankDelimiters_text {e : EdgeText} (he : e.IsWell) :
    Repair.blankDelimiters e.text = e.blank.text := by
  cases e with
  | plain b a b' =>
      obtain ⟨hb, ha, hb', -⟩ := he
      simp only [text, blank, blankDelimiters_append, blankDelimiters_blanks hb,
        blankDelimiters_arrow ha.1, blankDelimiters_blanks hb']
  | piped b a m l b' =>
      obtain ⟨hb, ha, hm, -, -, hb', -⟩ := he
      have hlabel : Repair.blankDelimiters ('|' :: l ++ '|' :: b')
          = '|' :: Repair.blankDelimiters l ++ '|' :: Repair.blankDelimiters b' := by
        simp [Repair.blankDelimiters, isOpener, isCloser]
      simp only [text, blank, blankDelimiters_append b, blankDelimiters_append a,
        blankDelimiters_append m, hlabel, blankDelimiters_blanks hb, blankDelimiters_arrow ha.1,
        blankDelimiters_blanks hm, blankDelimiters_blanks hb']
  | inline b o g l g' a b' =>
      obtain ⟨hb, ho, -, hg, -, hl, -, hg', -, ha, hb', -⟩ := he
      simp only [text, blank, blankDelimiters_append, blankDelimiters_blanks hb,
        blankDelimiters_arrow ho, blankDelimiters_blanks hg.isBlanks,
        blankDelimiters_legal hl.isLegal, blankDelimiters_blanks hg'.isBlanks,
        blankDelimiters_arrow ha.1, blankDelimiters_blanks hb']

/-! ## Labels between pipes -/

theorem replaceLabels_append {t : Text} (ht : '|' ∉ t) (s : Text) :
    Text.replaceMatches Repair.pipeLabel (t ++ s)
      = t ++ Text.replaceMatches Repair.pipeLabel s := by
  induction t with
  | nil => rfl
  | cons c t ih =>
      have hc : c ≠ '|' := fun h => ht (by simp [h])
      have hnone : Repair.pipeLabel (c :: (t ++ s)) = none := by
        rw [Repair.pipeLabel, if_neg hc]
      rw [List.cons_append, Text.replaceMatches, hnone, ih fun h => ht (by simp [h])]
      rfl

theorem replaceLabels_pipe {l : Text} (hl : '|' ∉ l) (s : Text) :
    Text.replaceMatches Repair.pipeLabel ('|' :: (l ++ '|' :: s)) =
      (if Label.clean l = [] then [] else '|' :: Label.clean l ++ ['|']) ++
        Text.replaceMatches Repair.pipeLabel s := by
  have hsome : Repair.pipeLabel ('|' :: (l ++ '|' :: s)) = some
      (if Label.clean l = [] then [] else '|' :: Label.clean l ++ ['|'], l.length + 2) := by
    rw [Repair.pipeLabel, if_pos rfl, Segment.untilPipe?_append hl]
    simp
  have hdrop : (l ++ '|' :: s).drop (l.length + 2 - 1) = s := by
    rw [show l ++ '|' :: s = (l ++ ['|']) ++ s by simp]
    exact List.drop_left' (by simp)
  rw [Text.replaceMatches, hsome]
  dsimp only
  rw [hdrop]

theorem pipe_notMem_blanks {b : Text} (hb : Text.IsBlanks b) : '|' ∉ b :=
  fun h => absurd (hb _ h) (by decide)

theorem pipe_notMem_arrow {a : Text} (ha : Token.IsArrowText a) : '|' ∉ a := by
  intro h
  rcases isArrowPart ha h with h | h | h <;> exact absurd h (by decide)

theorem replaceLabels_text_append {e : EdgeText} (he : e.IsWell) (u : Text) :
    Text.replaceMatches Repair.pipeLabel (e.text ++ u)
      = e.cleaned.text ++ Text.replaceMatches Repair.pipeLabel u := by
  cases e with
  | plain b a b' =>
      obtain ⟨hb, ha, hb', -⟩ := he
      simp only [text, cleaned, List.append_assoc]
      rw [replaceLabels_append (pipe_notMem_blanks hb),
        replaceLabels_append (pipe_notMem_arrow ha.1),
        replaceLabels_append (pipe_notMem_blanks hb')]
  | piped b a m l b' =>
      obtain ⟨hb, ha, hm, -, hl, hb', -⟩ := he
      simp only [text, List.append_assoc, List.cons_append]
      rw [replaceLabels_append (pipe_notMem_blanks hb),
        replaceLabels_append (pipe_notMem_arrow ha.1),
        replaceLabels_append (pipe_notMem_blanks hm), replaceLabels_pipe hl,
        replaceLabels_append (pipe_notMem_blanks hb'), cleaned]
      split <;> simp
  | inline b o g l g' a b' =>
      obtain ⟨hb, ho, -, hg, -, hl, -, hg', -, ha, hb', -⟩ := he
      simp only [text, cleaned, List.append_assoc]
      rw [replaceLabels_append (pipe_notMem_blanks hb),
        replaceLabels_append (pipe_notMem_arrow ho),
        replaceLabels_append (pipe_notMem_blanks hg.isBlanks),
        replaceLabels_append hl.isLegal.pipe,
        replaceLabels_append (pipe_notMem_blanks hg'.isBlanks),
        replaceLabels_append (pipe_notMem_arrow ha.1),
        replaceLabels_append (pipe_notMem_blanks hb')]

/-! ## Tokens written again -/

theorem renderAll_blankTokens (b : Text) : Token.renderAll (blankTokens b) = space b := by
  unfold blankTokens space
  split <;> rfl

theorem space_of_ne_nil {b : Text} (h : b ≠ []) : space b = [' '] := if_neg h

theorem renderAll_tokens {e : EdgeText} (he : e.IsWell) :
    Token.renderAll e.tokens = e.spaced.text := by
  cases e with
  | plain b a b' =>
      simp [tokens, spaced, text, Token.renderAll_append, Token.renderAll_cons,
        renderAll_blankTokens, Token.render]
  | piped b a m l b' =>
      simp [tokens, spaced, text, Token.renderAll_append, Token.renderAll_cons,
        renderAll_blankTokens, Token.render]
  | inline b o g l g' a b' =>
      obtain ⟨-, -, -, -, hgne, hl, -, -, hgne', -⟩ := he
      have hne : Text.words l ≠ [] := by
        intro h
        have := hl.2.1
        rw [h] at this
        exact hl.1 this.symm
      have hwords := Token.renderAll_spacedTokens hne
      rw [hl.2.1] at hwords
      simp [tokens, spaced, text, Token.renderAll_append, Token.renderAll_cons,
        renderAll_blankTokens, Token.render, hwords, space_of_ne_nil hgne, space_of_ne_nil hgne']

/-- Words outside labels are identifiers already, and no label stays open. -/
def Settled (ts : List Token) : Prop := Repair.sanitizeWords false ts = (ts, false)

theorem sanitizeWords_append (inLabel : Bool) (ts us : List Token) :
    Repair.sanitizeWords inLabel (ts ++ us) =
      let r := Repair.sanitizeWords inLabel ts
      (r.1 ++ (Repair.sanitizeWords r.2 us).1, (Repair.sanitizeWords r.2 us).2) := by
  induction ts generalizing inLabel with
  | nil => rfl
  | cons t ts ih =>
      cases t <;> simp [Repair.sanitizeWords, ih]

theorem Settled.append {ts us : List Token} (ht : Settled ts) (hu : Settled us) :
    Settled (ts ++ us) := by
  rw [Settled, sanitizeWords_append, ht]
  dsimp only
  rw [hu]

theorem settled_blankTokens (b : Text) : Settled (blankTokens b) := by
  unfold blankTokens
  split <;> rfl

theorem sanitizeWords_spacedTokens (ws : List Text) :
    Repair.sanitizeWords true (Token.spacedTokens ws) = (Token.spacedTokens ws, true) := by
  induction ws with
  | nil => rfl
  | cons w ws ih =>
      have hw : Repair.sanitizeWords true [.space, Token.wordToken w]
          = ([.space, Token.wordToken w], true) := by
        unfold Token.wordToken
        split <;> rfl
      rw [Token.spacedTokens, List.flatMap_cons, ← Token.spacedTokens, sanitizeWords_append, hw]
      dsimp only
      rw [ih]

theorem settled_tokens {e : EdgeText} (he : e.IsWell) : Settled e.tokens := by
  have harrow {a : Text} {ts : List Token} (ha : IsFinishing a) (hts : Settled ts) :
      Settled (.arrow a :: ts) := by
    rw [Settled, Repair.sanitizeWords, ha.2, hts]
  cases e with
  | plain b a b' =>
      exact (settled_blankTokens b).append (harrow he.2.1 (settled_blankTokens b'))
  | piped b a m l b' =>
      have hlabel : Settled (.label l :: blankTokens b') := by
        rw [Settled, Repair.sanitizeWords, settled_blankTokens b']
        · simp
        · simp
      exact (settled_blankTokens b).append
        (harrow he.2.1 ((settled_blankTokens m).append hlabel))
  | inline b o g l g' a b' =>
      obtain ⟨-, -, hopen, -, -, -, -, -, -, ha, -⟩ := he
      refine (settled_blankTokens b).append ?_
      rw [Settled, Repair.sanitizeWords, hopen, sanitizeWords_append, sanitizeWords_spacedTokens]
      have hclose : Repair.sanitizeWords true (.space :: .arrow a :: blankTokens b')
          = (.space :: .arrow a :: blankTokens b', false) := by
        have := harrow ha (settled_blankTokens b')
        simp only [Settled, Repair.sanitizeWords] at this ⊢
        simpa using this
      dsimp only
      rw [hclose]

/-! ## Arrows -/

/-- The text is a node, or there is none. -/
theorem lex_startsNode {u : Text} (hu : StartsNode u) :
    Token.lex u = [] ∨ ∃ c w ts, Token.lex u = .word (c :: w) :: ts ∧ c.isAlphanum = true := by
  cases u with
  | nil => exact .inl Token.lex_nil
  | cons c u =>
      have hc : c.isAlphanum = true := hu c rfl
      have hpart := Token.isWordPart_of_isAlphanum hc
      simp only [Token.isWordPart, Bool.not_eq_true', Bool.or_eq_false_iff,
        beq_eq_false_iff_ne] at hpart
      exact .inr ⟨c, _, _, Token.lex_cons_word hpart.1.1.1 hpart.1.2 hpart.1.1.2
        (Token.arrowLength?_eq_none hpart.2 u), hc⟩

theorem repairEdgeText_nil : Repair.repairEdgeText [] = [] := by
  rw [Repair.repairEdgeText, Token.lex_nil, Repair.repairTokens_nil]

theorem repairEdgeText_word {w t : Text} (h : Token.lex (w ++ t) = .word w :: Token.lex t) :
    Repair.repairEdgeText (w ++ t) = w ++ Repair.repairEdgeText t := by
  rw [Repair.repairEdgeText, h, Repair.repairTokens_cons (by simp), Token.render,
    Repair.repairEdgeText]

theorem repairEdgeText_lone {w : Text} (h : Token.lex w = [.word w]) :
    Repair.repairEdgeText w = w := by
  have hword := repairEdgeText_word (w := w) (t := []) (by rw [List.append_nil, Token.lex_nil, h])
  rwa [List.append_nil, repairEdgeText_nil, List.append_nil] at hword

theorem repairTokens_blankTokens (b : Text) (ts : List Token) :
    Repair.repairTokens (blankTokens b ++ ts) = space b ++ Repair.repairTokens ts := by
  unfold blankTokens space
  split
  · rfl
  · exact Repair.repairTokens_cons (by simp) ts

theorem repairTokens_opening {a l : Text} {ts rest : List Token} (ha : Token.opensLabel a = true)
    (h : Repair.inlineLabel? ts = some (l, rest)) :
    Repair.repairTokens (.arrow a :: ts) = Repair.edgeText l ++ Repair.repairTokens rest :=
  Repair.repairTokens_labelled (by rwa [if_pos ha])

theorem repairTokens_labelled {a l : Text} {ts rest : List Token} (ha : Token.opensLabel a = false)
    (h : Repair.attachedLabel? ts = some (l, rest)) :
    Repair.repairTokens (.arrow a :: ts) = Repair.edgeText l ++ Repair.repairTokens rest :=
  Repair.repairTokens_labelled (by rwa [if_neg (by simp [ha])])

theorem repairTokens_plain {a : Text} {ts : List Token} (ha : Token.opensLabel a = false)
    (h : Repair.attachedLabel? ts = none) :
    Repair.repairTokens (.arrow a :: ts) = arrow ++ Repair.repairTokens ts := by
  rw [Repair.repairTokens_arrow (by rwa [if_neg (by simp [ha])]), if_neg (by simp [ha])]

theorem dropSpaces_blankTokens (b : Text) (ts : List Token) :
    Repair.dropSpaces (blankTokens b ++ ts) = Repair.dropSpaces ts := by
  unfold blankTokens
  split
  · rfl
  · simp [Repair.dropSpaces]

theorem inlineWords?_spacedTokens (ws : List Text) (ts : List Token) :
    Repair.inlineWords? (Token.spacedTokens ws ++ ts) =
      (Repair.inlineWords? ts).map fun r => (ws ++ r.1, r.2) := by
  induction ws with
  | nil => simp [Token.spacedTokens]
  | cons w ws ih =>
      have hcons : Token.spacedTokens (w :: ws) ++ ts
          = .space :: Token.wordToken w :: (Token.spacedTokens ws ++ ts) := by
        simp [Token.spacedTokens]
      have hword (us : List Token) : Repair.inlineWords? (Token.wordToken w :: us)
          = (Repair.inlineWords? us).map fun r => (w :: r.1, r.2) := by
        unfold Token.wordToken
        split
        · rename_i h
          rw [h, Repair.inlineWords?]
        · rw [Repair.inlineWords?]
      rw [hcons, Repair.inlineWords?, hword, ih, Option.map_map]
      rfl

theorem inlineLabel?_tokens {l a : Text} {ts : List Token} (hl : Label.IsClean l)
    (ha : Token.opensLabel a = false) :
    Repair.inlineLabel? (Token.spacedTokens (Text.words l) ++ (.space :: .arrow a :: ts))
      = some (l, ts) := by
  have hjoin : Text.joinWith ' ' (Text.words l) = l := hl.2.1
  have hwords : Repair.inlineWords?
      (Token.spacedTokens (Text.words l) ++ (.space :: .arrow a :: ts))
      = some (Text.words l, ts) := by
    rw [inlineWords?_spacedTokens, Repair.inlineWords?, Repair.inlineWords?, if_neg (by simp [ha])]
    simp
  rw [Repair.inlineLabel?, hwords]
  cases hw : Text.words l with
  | nil =>
      rw [hw] at hjoin
      exact absurd hjoin.symm hl.1
  | cons w ws =>
      dsimp only
      rw [← hw, hjoin, Label.clean_of_isClean hl]

theorem edgeText_clean (l : Text) :
    Repair.edgeText (Label.clean l)
      = renderEdge arrow (if Label.clean l = [] then none else some (Label.clean l)) := by
  simp [Repair.edgeText]

theorem text_ofLabel (b : Text) (label : Option Text) (b' : Text) :
    (ofLabel b label b').text = b ++ (renderEdge arrow label ++ b') := by
  cases label <;> simp [ofLabel, text, renderEdge]

/-- Every edge becomes one with the canonical arrow. -/
theorem repairTokens_tokens_append {e : EdgeText} (he : e.IsWell) {u : Text} (hu : StartsNode u) :
    Repair.repairTokens (e.tokens ++ Token.lex u)
      = e.straight.text ++ Repair.repairTokens (Token.lex u) := by
  have hnone (b : Text) : Repair.attachedLabel? (blankTokens b ++ Token.lex u) = none := by
    rw [Repair.attachedLabel?, dropSpaces_blankTokens]
    rcases lex_startsNode hu with h | ⟨c, w, ts, h, -⟩
    · rw [h]
      rfl
    · rw [h]
      rfl
  rw [straight, text_ofLabel]
  cases e with
  | plain b a b' =>
      obtain ⟨-, ha, -, -⟩ := he
      simp only [tokens, List.append_assoc, List.cons_append]
      rw [repairTokens_blankTokens, repairTokens_plain ha.2 (hnone b'), repairTokens_blankTokens]
      rfl
  | piped b a m l b' =>
      obtain ⟨-, ha, -⟩ := he
      have hlabel : Repair.attachedLabel? (blankTokens m ++
          (.label l :: (blankTokens b' ++ Token.lex u)))
          = some (Label.clean l, blankTokens b' ++ Token.lex u) := by
        rw [Repair.attachedLabel?, dropSpaces_blankTokens]
        rfl
      simp only [tokens, List.append_assoc, List.cons_append]
      rw [repairTokens_blankTokens, repairTokens_labelled ha.2 hlabel, repairTokens_blankTokens,
        edgeText_clean]
      simp [label, before, after]
  | inline b o g l g' a b' =>
      obtain ⟨-, -, hopen, -, -, hl, -, -, -, ha, -, -⟩ := he
      simp only [tokens, List.append_assoc, List.cons_append]
      rw [repairTokens_blankTokens, repairTokens_opening hopen (inlineLabel?_tokens hl ha.2),
        repairTokens_blankTokens]
      simp [label, before, after, Repair.edgeText, hl.1]

/-! ## Spacing -/

theorem collapseSpaces_cons {c : Char} {s : Text} (h : c ≠ ' ' ∨ ∀ d ∈ s.head?, d ≠ ' ') :
    Repair.collapseSpaces (c :: s) = c :: Repair.collapseSpaces s := by
  cases s with
  | nil => rfl
  | cons d s =>
      rw [Repair.collapseSpaces, if_neg]
      rintro ⟨hc, hd⟩
      rcases h with h | h
      · exact h hc
      · exact h d rfl hd

theorem collapseSpaces_append {t : Text} (ht : ' ' ∉ t) (s : Text) :
    Repair.collapseSpaces (t ++ s) = t ++ Repair.collapseSpaces s := by
  induction t with
  | nil => rfl
  | cons c t ih =>
      have hc : c ≠ ' ' := fun h => ht (by simp [h])
      rw [List.cons_append, collapseSpaces_cons (.inl hc), ih fun h => ht (by simp [h])]
      rfl

theorem collapseSpaces_double (s : Text) :
    Repair.collapseSpaces (' ' :: ' ' :: s) = Repair.collapseSpaces (' ' :: s) := by
  rw [Repair.collapseSpaces, if_pos ⟨rfl, rfl⟩]

theorem collapseSpaces_space_before (b s : Text) :
    Repair.collapseSpaces (space b ++ ' ' :: s) = Repair.collapseSpaces (' ' :: s) := by
  unfold space
  split
  · rfl
  · exact collapseSpaces_double s

theorem collapseSpaces_space_after {s : Text} (hs : ∀ c ∈ s.head?, c ≠ ' ') (b : Text) :
    Repair.collapseSpaces (' ' :: (space b ++ s)) = ' ' :: Repair.collapseSpaces s := by
  unfold space
  split
  · exact collapseSpaces_cons (.inr hs)
  · rw [List.cons_append, collapseSpaces_double]
    exact collapseSpaces_cons (.inr hs)

theorem space_notMem_of_isWord {w : Text} (hw : Text.IsWord w) : ' ' ∉ w :=
  fun h => absurd (hw.2 ' ' h) (by decide)

/-- Words one space apart stay so. -/
theorem collapseSpaces_spaced {l : Text} (hl : Text.IsSpaced l) (s : Text) :
    Repair.collapseSpaces (l ++ s) = l ++ Repair.collapseSpaces s := by
  obtain ⟨ws, hws, rfl⟩ := hl.exists_words
  clear hl
  induction ws with
  | nil => rfl
  | cons w ws ih =>
      have hw := space_notMem_of_isWord (hws w (by simp))
      have hrest : ∀ v ∈ ws, Text.IsWord v := fun v hv => hws v (by simp [hv])
      by_cases hne : ws = []
      · subst hne
        exact collapseSpaces_append hw s
      · have hhead : ∀ c ∈ (Text.joinWith ' ' ws ++ s).head?, c ≠ ' ' := by
          obtain ⟨v, vs, rfl⟩ := List.exists_cons_of_ne_nil hne
          obtain ⟨d, v, rfl⟩ := List.exists_cons_of_ne_nil (hws v (by simp)).1
          have hd : d ≠ ' ' := by
            rintro rfl
            exact space_notMem_of_isWord (hws (' ' :: v) (by simp)) (by simp)
          intro c hc
          have : c = d := by
            cases vs with
            | nil => simpa [Text.joinWith, eq_comm] using hc
            | cons u us => simpa [Text.joinWith, eq_comm] using hc
          exact this ▸ hd
        rw [Text.joinWith_cons hne, List.append_assoc, collapseSpaces_append hw, List.cons_append,
          collapseSpaces_cons (.inr hhead), ih hrest]
        simp

theorem padTokens_word (w : Text) (ts : List Token) :
    Repair.padTokens (.word w :: ts) = w ++ Repair.padTokens ts := rfl

theorem padTokens_join (ts : List Token) :
    Repair.padTokens (.join :: ts) = ' ' :: '&' :: ' ' :: Repair.padTokens ts := rfl

theorem padArrows_nil : Repair.padArrows [] = [] := by
  rw [Repair.padArrows, Token.lex_nil, Repair.padTokens, Repair.collapseSpaces]

theorem padArrows_word {w t : Text} (hw : ' ' ∉ w)
    (h : Token.lex (w ++ t) = .word w :: Token.lex t) :
    Repair.padArrows (w ++ t) = w ++ Repair.padArrows t := by
  rw [Repair.padArrows, h, padTokens_word, collapseSpaces_append hw, Repair.padArrows]

theorem padArrows_lone {w : Text} (hw : ' ' ∉ w) (h : Token.lex w = [.word w]) :
    Repair.padArrows w = w := by
  have hword := padArrows_word (t := []) hw (by rw [List.append_nil, Token.lex_nil, h])
  rwa [List.append_nil, padArrows_nil, List.append_nil] at hword

theorem padTokens_blankTokens (b : Text) (ts : List Token) :
    Repair.padTokens (blankTokens b ++ ts) = space b ++ Repair.padTokens ts := by
  unfold blankTokens space
  split
  · rfl
  · simp [Repair.padTokens, Token.render]

theorem padTokens_arrow (a : Text) {ts : List Token} (h : ∀ t ∈ ts.head?, ∀ l, t ≠ .label l) :
    Repair.padTokens (.arrow a :: ts) = ' ' :: a ++ ' ' :: Repair.padTokens ts := by
  cases ts with
  | nil => rfl
  | cons t ts =>
      have ht := h t rfl
      cases t with
      | label l => exact absurd rfl (ht l)
      | space => rfl
      | word w => rfl
      | arrow a' => simp [Repair.padTokens]
      | join => rfl

theorem padTokens_labelled (a l : Text) (ts : List Token) :
    Repair.padTokens (.arrow a :: .label l :: ts)
      = ' ' :: renderEdge a (some l) ++ ' ' :: Repair.padTokens ts := by
  rw [Repair.padTokens]

theorem head?_padTokens {u : Text} (hu : StartsNode u) :
    ∀ c ∈ (Repair.padTokens (Token.lex u)).head?, c ≠ ' ' := by
  rcases lex_startsNode hu with h | ⟨c, w, ts, h, hc⟩
  · rw [h]
    intro c hc
    cases hc
  · rw [h, Repair.padTokens]
    · intro d hd
      cases hd
      rintro rfl
      exact absurd hc (by decide)
    all_goals simp

/-- One space comes to stand on each side of an edge. -/
theorem collapseSpaces_ofLabel_append {label : Option Text}
    (hl : ∀ l, label = some l → Label.IsClean l) {ts : List Token}
    (hlabel : ∀ t ∈ ts.head?, ∀ l, t ≠ .label l)
    (hspace : ∀ c ∈ (Repair.padTokens ts).head?, c ≠ ' ') (b b' : Text) :
    Repair.collapseSpaces (Repair.padTokens ((ofLabel b label b').tokens ++ ts))
      = (ofLabel [' '] label [' ']).text ++ Repair.collapseSpaces (Repair.padTokens ts) := by
  have hgap := collapseSpaces_space_after hspace b'
  have hhead : ∀ t ∈ (blankTokens b' ++ ts).head?, ∀ l, t ≠ .label l := by
    unfold blankTokens
    intro t ht l
    split at ht
    · exact hlabel t ht l
    · cases ht
      simp
  rw [text_ofLabel]
  cases label with
  | none =>
      simp only [ofLabel, tokens, List.append_assoc, List.cons_append]
      rw [padTokens_blankTokens, padTokens_arrow arrow hhead, padTokens_blankTokens,
        List.cons_append, collapseSpaces_space_before,
        collapseSpaces_cons (.inr (by simp [arrow])), collapseSpaces_append (by decide), hgap]
      simp [renderEdge]
  | some l =>
      have hclean := hl l rfl
      have hpipe : ' ' ∉ arrow ++ ['|'] := by decide
      have hsplit (s : Text) : ' ' :: renderEdge arrow (some l) ++ s
          = ' ' :: ((arrow ++ ['|']) ++ (l ++ '|' :: s)) := by
        simp [renderEdge]
      simp only [ofLabel, tokens, List.append_assoc, List.cons_append, blankTokens, if_true,
        List.nil_append]
      rw [← blankTokens, ← blankTokens, padTokens_blankTokens, padTokens_labelled,
        padTokens_blankTokens, hsplit, collapseSpaces_space_before,
        collapseSpaces_cons (.inr (by simp [arrow])), collapseSpaces_append hpipe,
        collapseSpaces_spaced hclean.isSpaced, collapseSpaces_cons (.inl (by decide)), hgap]
      simp [renderEdge]

theorem padArrows_ofLabel_append {b b' u : Text} {label : Option Text}
    (hb : Text.IsBlanks b) (hl : ∀ l, label = some l → Label.IsClean l) (hb' : Text.IsBlanks b')
    (hu : StartsNode u) :
    Repair.padArrows ((ofLabel b label b').text ++ u)
      = (ofLabel [' '] label [' ']).text ++ Repair.padArrows u := by
  have hwell : (ofLabel b label b').IsWell :=
    isWell_ofLabel hb (fun l h => (hl l h).isLegal.pipe) hb'
  have hlabel : ∀ t ∈ (Token.lex u).head?, ∀ l, t ≠ .label l := by
    intro t ht l
    rcases lex_startsNode hu with h | ⟨c, w, ts, h, -⟩
    · rw [h] at ht
      cases ht
    · rw [h] at ht
      cases ht
      simp
  rw [Repair.padArrows, lex_text_append hwell hu,
    collapseSpaces_ofLabel_append hl hlabel (head?_padTokens hu), Repair.padArrows]

end EdgeText

end Flowchart
