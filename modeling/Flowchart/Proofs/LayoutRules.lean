import Flowchart.Proofs.EdgeRules

/-!
# What the rules make of a statement line

A rule that works on segments goes over the parts of a layout, and the layout that it leaves is
well written again. After the rules that work line by line, the line is the one canonical line of
its statement.
-/

namespace Flowchart

namespace Layout

/-- A node with its shape changed. -/
def mapNode (fn : ShapedNode → ShapedNode) : Node → Node
  | .bare w => .bare w
  | .shaped n => .shaped (fn n)

/-- Changes the edges, the shapes and the blanks at the ends, and writes every node in its
canonical way. -/
def map (p : Layout) (fe : EdgeText → EdgeText) (fn : ShapedNode → ShapedNode)
    (fb : Text → Text) : Layout :=
  ⟨fb p.lead, NodeText.ofNode (mapNode fn p.first.node),
    p.links.map fun l => (fe l.1, NodeText.ofNode (mapNode fn l.2.node)), fb p.trail⟩

section

variable {fe : EdgeText → EdgeText} {fn : ShapedNode → ShapedNode} {fb : Text → Text}

/-- A change of shapes that keeps identifiers valid and labels legal. -/
def KeepsShapes (fn : ShapedNode → ShapedNode) : Prop :=
  ∀ n, Ident.isValid n.id = true → Label.IsLegal n.label →
    (fn n).id = n.id ∧ Label.IsLegal (fn n).label

theorem keepsShapes_id : KeepsShapes id := fun _ _ hl => ⟨rfl, hl⟩

theorem isWell_mapNode (hfn : KeepsShapes fn) {n : NodeText} (hn : n.IsWell) :
    (NodeText.ofNode (mapNode fn n.node)).IsWell := by
  cases n with
  | bare w => exact NodeText.isWell_ofNode hn.id (by intro m hm; cases hm)
  | shaped id c i =>
      have hlegal := (hn.shape id c i rfl).2.2
      have hkeep := hfn ⟨id, (Segment.classifyInterior c i).1, (Segment.classifyInterior c i).2⟩
        hn.id hlegal
      refine NodeText.isWell_ofNode ?_ ?_
      · show Ident.isValid (fn _).id = true
        rw [hkeep.1]
        exact hn.id
      · intro m hm
        cases hm
        exact hkeep.2

theorem IsWell.map {p : Layout} (hp : p.IsWell) (hfe : ∀ e : EdgeText, e.IsWell → (fe e).IsWell)
    (hfn : KeepsShapes fn) (hfb : ∀ b, Text.IsBlanks b → Text.IsBlanks (fb b)) :
    (p.map fe fn fb).IsWell := by
  refine ⟨hfb _ hp.lead, isWell_mapNode hfn hp.first, fun l hl => ?_, hfb _ hp.trail⟩
  obtain ⟨m, hm, rfl⟩ := List.mem_map.1 hl
  exact ⟨hfe _ (hp.links m hm).1, isWell_mapNode hfn (hp.links m hm).2⟩

theorem linksText_map (g : EdgeText × NodeText → EdgeText × NodeText)
    (links : List (EdgeText × NodeText)) (trail : Text) :
    linksText (links.map g) trail
      = (links.flatMap fun l => (g l).1.text ++ (g l).2.text) ++ trail := by
  induction links with
  | nil => rfl
  | cons l links ih =>
      rw [List.map_cons, linksText, ih, List.flatMap_cons]
      simp

theorem nodePart_render (n : NodeText) :
    nodePart (fun w => w) (fun m => (fn m).render) n
      = (NodeText.ofNode (mapNode fn n.node)).text := by
  cases n with
  | bare w => rfl
  | shaped id c i =>
      rw [NodeText.text_ofNode]
      rfl

/-- A change of segments, as a map over them. -/
theorem renderAll_map {g : Text → Text} {φ : Segment → Segment}
    (htext : ∀ t, φ (.text t) = .text (g t)) (hnode : ∀ n, φ (.node n) = .node (fn n))
    (segments : List Segment) :
    Segment.renderAll (segments.map φ) = segments.flatMap (part g fun n => (fn n).render) := by
  rw [Segment.renderAll, List.flatMap_map]
  congr 1
  funext s
  cases s with
  | text t => rw [htext]; rfl
  | node n => rw [hnode]; rfl

/-- What a change of segments makes of the line. -/
theorem renderAll_map_scan {p : Layout} (hp : p.IsWell) {g : Text → Text}
    {φ : Segment → Segment} (htext : ∀ t, φ (.text t) = .text (g t))
    (hnode : ∀ n, φ (.node n) = .node (fn n))
    (hs : p.Splits g (fun e => (fe e).text) (fun w => w) fb) :
    Segment.renderAll ((Segment.scan p.text).map φ) = (p.map fe fn fb).text := by
  rw [renderAll_map htext hnode, scan_text hp, flatMap_segments hp hs]
  simp only [nodePart_render]
  rw [text, map, linksText_map]

end

/-! ## The rules, one by one -/

theorem delimiters_splits {p : Layout} (hp : p.IsWell) :
    p.Splits Repair.blankDelimiters (fun e => e.blank.text) (fun w => w) id where
  nil := rfl
  edge l hl u _ := by
    rw [EdgeText.blankDelimiters_append, EdgeText.blankDelimiters_text (hp.links l hl).1]
  word w t hw _ := by
    have hid := (Ident.isValid_iff.1 hw).2.1
    have hself : Repair.blankDelimiters w = w := by
      refine EdgeText.blankDelimiters_eq_self fun c hc => ?_
      obtain ⟨ho, hclose, -⟩ := Segment.not_delimiter_of_isAlphanum (hid c hc)
      exact ⟨ho, hclose⟩
    rw [EdgeText.blankDelimiters_append, hself]
  lead u _ := by
    rw [EdgeText.blankDelimiters_append, EdgeText.blankDelimiters_blanks hp.lead]
    rfl
  trail := EdgeText.blankDelimiters_blanks hp.trail

/-- The layout without delimiters in its free text. -/
def blanked (p : Layout) : Layout := p.map EdgeText.blank id id

theorem normalizeBrackets_text {p : Layout} (hp : p.IsWell) :
    Line.mapSegments (fun segment =>
      match segment with
      | .text t => .text (Repair.blankDelimiters t)
      | .node n => .node n) p.text = p.blanked.text :=
  renderAll_map_scan hp (fun _ => rfl) (fun _ => rfl) (delimiters_splits hp)

theorem isWell_blanked {p : Layout} (hp : p.IsWell) : p.blanked.IsWell :=
  hp.map (fun _ => EdgeText.isWell_blank) keepsShapes_id fun _ hb => hb

theorem pipe_notMem_word {w : Text} (hw : Ident.isValid w = true) : '|' ∉ w :=
  fun h => absurd ((Ident.isValid_iff.1 hw).2.1 _ h) (by decide)

theorem labels_splits {p : Layout} (hp : p.IsWell) :
    p.Splits (Text.replaceMatches Repair.pipeLabel) (fun e => e.cleaned.text) (fun w => w) id where
  nil := by simp [Text.replaceMatches]
  edge l hl u _ := EdgeText.replaceLabels_text_append (hp.links l hl).1 u
  word w t hw _ := EdgeText.replaceLabels_append (pipe_notMem_word hw) t
  lead u _ := EdgeText.replaceLabels_append (EdgeText.pipe_notMem_blanks hp.lead) u
  trail := by
    have := EdgeText.replaceLabels_append (EdgeText.pipe_notMem_blanks hp.trail) []
    rwa [List.append_nil, Text.replaceMatches, List.append_nil] at this

/-- The layout with clean labels. -/
def relabelled (p : Layout) : Layout := p.map EdgeText.cleaned Repair.relabel id

theorem sanitizeLabels_text {p : Layout} (hp : p.IsWell) :
    Line.mapSegments (fun segment =>
      match segment with
      | .text t => .text (Text.replaceMatches Repair.pipeLabel t)
      | .node n => .node (Repair.relabel n)) p.text = p.relabelled.text :=
  renderAll_map_scan hp (fun _ => rfl) (fun _ => rfl) (labels_splits hp)

theorem isLegal_cleanShapeLabel (l : Text) : Label.IsLegal (Repair.cleanShapeLabel l) :=
  fun _ hc => Label.not_isIllegal_of_mem_clean (Label.mem_of_mem_trimSlashes hc)

/-- A shape is labelled with its label, its identifier or the default name, cleaned. -/
theorem relabel_cases (n : ShapedNode) :
    (Repair.relabel n).label = Repair.defaultName ∨
      ∃ l, (l = n.label ∨ l = n.id) ∧ Repair.cleanShapeLabel l ≠ [] ∧
        (Repair.relabel n).label = Repair.cleanShapeLabel l := by
  by_cases hlabel : Repair.cleanShapeLabel n.label = []
  · by_cases hid : Repair.cleanShapeLabel n.id = []
    · left
      simp [Repair.relabel, hlabel, hid]
    · exact .inr ⟨n.id, .inr rfl, hid, by simp [Repair.relabel, hlabel, hid]⟩
  · exact .inr ⟨n.label, .inl rfl, hlabel, by simp [Repair.relabel, hlabel]⟩

theorem isClean_defaultName : Label.IsClean Repair.defaultName := by decide

theorem keepsShapes_relabel : KeepsShapes Repair.relabel := by
  intro n _ _
  refine ⟨rfl, ?_⟩
  rcases relabel_cases n with h | ⟨l, -, -, h⟩
  · rw [h]
    exact isClean_defaultName.isLegal
  · rw [h]
    exact isLegal_cleanShapeLabel l

/-- Cleaning a label that is clean and has plain ends changes nothing. -/
theorem cleanShapeLabel_eq_self {l : Text} (hl : Label.IsClean l) (he : Label.HasPlainEnds l) :
    Repair.cleanShapeLabel l = l := by
  rw [Repair.cleanShapeLabel, Label.clean_of_isClean hl, Label.trimSlashes_eq_self hl.isTrimmed he]

/-- The label that a shape is given is clean, whatever its identifier holds besides quotation
marks. -/
theorem isClean_label_relabel {n : ShapedNode}
    (hid : ∀ c ∈ n.id, Label.isQuotationMark c = false)
    (hq : ∀ c ∈ n.label, Label.isQuotationMark c = false) :
    Label.IsClean (Repair.relabel n).label ∧ Label.HasPlainEnds (Repair.relabel n).label := by
  rcases relabel_cases n with h | ⟨l, hl, hne, h⟩
  · rw [h]
    exact ⟨isClean_defaultName, Label.hasPlainEnds_iff.2 (by decide)⟩
  · have hquote : ∀ c ∈ l, Label.isQuotationMark c = false := by
      rcases hl with rfl | rfl
      · exact hq
      · exact hid
    rw [h]
    refine ⟨⟨hne, Label.isSpaced_trimSlashes (Label.isSpaced_clean l), ?_⟩,
      Label.hasPlainEnds_trimSlashes _⟩
    refine List.all_eq_true.2 fun c hc => ?_
    have hmem := Label.mem_of_mem_trimSlashes hc
    have hquote' : Label.isQuotationMark c = false := by
      rcases Label.mem_clean hmem with rfl | h
      · rfl
      · exact hquote c h.1
    simp [Label.not_isIllegal_of_mem_clean hmem, hquote']

theorem isClean_relabel {n : ShapedNode} (hid : Ident.isValid n.id = true)
    (hq : ∀ c ∈ n.label, Label.isQuotationMark c = false) : (Repair.relabel n).IsClean := by
  have hidQuote : ∀ c ∈ n.id, Label.isQuotationMark c = false := by
    intro c hc
    by_contra hm
    have := (Ident.isValid_iff.1 hid).2.1 c hc
    simp only [Label.isQuotationMark, Label.quotationMarks, List.contains_cons,
      List.contains_nil, Bool.not_eq_false, Bool.or_eq_true, beq_iff_eq, Bool.false_eq_true,
      or_false] at hm
    rcases hm with rfl | rfl | rfl | rfl | rfl <;> exact absurd this (by decide)
  have hlabel := isClean_label_relabel hidQuote hq
  exact ⟨hid, hlabel.1, Label.hasPlainEnds_iff.1 hlabel.2⟩

theorem relabel_of_isClean {n : ShapedNode} (h : n.IsClean) : Repair.relabel n = n := by
  have hself := cleanShapeLabel_eq_self h.2.1 (Label.hasPlainEnds_iff.2 h.2.2)
  have hne : n.label ≠ [] := h.2.1.1
  simp [Repair.relabel, hself, hne]

theorem isWell_relabelled {p : Layout} (hp : p.IsWell) : p.relabelled.IsWell :=
  hp.map (fun _ => EdgeText.isWell_cleaned) keepsShapes_relabel fun _ hb => hb

/-! ## Identifiers -/

theorem sanitize_eq_self {w : Text} (hw : Ident.isValid w = true) : Ident.sanitize w = w := by
  obtain ⟨-, hid, hres⟩ := Ident.isValid_iff.1 hw
  rw [Ident.sanitize, List.filter_eq_self.2 hid, if_neg hres]

theorem reidentify_eq_self {n : ShapedNode} (hn : Ident.isValid n.id = true) :
    Repair.reidentify n = n := by
  have hne : n.id ≠ [] := (Ident.isValid_iff.1 hn).1
  simp [Repair.reidentify, Repair.orElseText, sanitize_eq_self hn, hne]

theorem colon_notMem_blanks {b : Text} (hb : Text.IsBlanks b) : ':' ∉ b :=
  fun h => absurd (hb _ h) (by decide)

theorem colon_notMem_arrow {a : Text} (ha : Token.IsArrowText a) : ':' ∉ a := by
  intro h
  rcases EdgeText.isArrowPart ha h with h | h | h <;> exact absurd h (by decide)

theorem colon_notMem_legal {l : Text} (hl : Label.IsLegal l) : ':' ∉ l :=
  fun h => absurd (hl _ h) (by decide)

/-- No class is named in the edge once its label is clean. -/
theorem colon_notMem_cleaned {e : EdgeText} (he : e.IsWell) : ':' ∉ e.cleaned.text := by
  cases e with
  | plain b a b' =>
      obtain ⟨hb, ha, hb', -⟩ := he
      simp [EdgeText.cleaned, EdgeText.text, colon_notMem_blanks hb, colon_notMem_arrow ha.1,
        colon_notMem_blanks hb']
  | piped b a m l b' =>
      obtain ⟨hb, ha, hm, -, -, hb', -⟩ := he
      rw [EdgeText.cleaned]
      split
      · simp [EdgeText.text, colon_notMem_blanks hb, colon_notMem_arrow ha.1,
          colon_notMem_blanks hm, colon_notMem_blanks hb']
      · simp [EdgeText.text, colon_notMem_blanks hb, colon_notMem_arrow ha.1,
          colon_notMem_blanks hm, colon_notMem_blanks hb',
          colon_notMem_legal (Label.isLegal_clean l)]
  | inline b o g l g' a b' =>
      obtain ⟨hb, ho, -, hg, -, hl, -, hg', -, ha, hb', -⟩ := he
      simp [EdgeText.cleaned, EdgeText.text, colon_notMem_blanks hb, colon_notMem_arrow ho,
        colon_notMem_blanks hg.isBlanks, colon_notMem_legal hl.isLegal,
        colon_notMem_blanks hg'.isBlanks, colon_notMem_arrow ha.1, colon_notMem_blanks hb']

theorem replaceMatches_classSuffix {t : Text} (ht : ':' ∉ t) :
    Text.replaceMatches Repair.classSuffix t = t := by
  refine Text.replaceMatches_eq_self fun s hs => ?_
  have hnone : Text.after? [':', ':', ':'] s = none := by
    cases h : Text.after? [':', ':', ':'] s with
    | none => rfl
    | some rest =>
        rw [Text.after?_eq_some_iff] at h
        exact absurd (hs.subset (by simp [h])) ht
  simp [Repair.classSuffix, hnone]

/-- Free text that the rule for identifiers only spaces. -/
def IsSettledText (t : Text) : Prop := ':' ∉ t ∧ EdgeText.Settled (Token.lex t)

theorem sanitizeSegments_eq {segments : List Segment}
    (h : ∀ t, Segment.text t ∈ segments → IsSettledText t) :
    Repair.sanitizeSegments false segments = segments.map fun s =>
      match s with
      | .text t => .text (Token.renderAll (Token.lex t))
      | .node n => .node (Repair.reidentify n) := by
  induction segments with
  | nil => rfl
  | cons s segments ih =>
      have ih := ih fun t ht => h t (by simp [ht])
      cases s with
      | node n => rw [Repair.sanitizeSegments, ih, List.map_cons]
      | text t =>
          obtain ⟨hcolon, hsettled⟩ := h t (by simp)
          rw [Repair.sanitizeSegments, replaceMatches_classSuffix hcolon, List.map_cons]
          dsimp only
          rw [hsettled]
          dsimp only
          rw [ih]

section

variable {P : Text → Prop}

theorem forall_textSegment {t u : Text} (ht : P t) (h : Segment.text u ∈ textSegment t) : P u := by
  unfold textSegment at h
  split at h
  · cases h
  · rw [List.mem_singleton] at h
    cases h
    exact ht

theorem forall_tailSegments {links : List (EdgeText × NodeText)} {trail : Text}
    (hlinks : ∀ l ∈ links, l.1.IsWell ∧ l.2.IsWell) (htrail : Text.IsBlanks trail)
    (hnil : P []) (hedge : ∀ l ∈ links, ∀ u, EdgeText.StartsNode u → P u → P (l.1.text ++ u))
    (hword : ∀ w t, Ident.isValid w = true → Token.EndsWord t → P t → P (w ++ t))
    (hlast : P trail) :
    P (tailSegments links trail).1 ∧ ∀ t, .text t ∈ (tailSegments links trail).2 → P t := by
  induction links with
  | nil => exact ⟨hlast, by simp [tailSegments]⟩
  | cons l links ih =>
      obtain ⟨e, n⟩ := l
      have hrest : ∀ l ∈ links, l.1.IsWell ∧ l.2.IsWell := fun l hl => hlinks l (by simp [hl])
      obtain ⟨hrun, htexts⟩ := ih hrest fun l hl => hedge l (by simp [hl])
      cases n with
      | bare w =>
          have hw : Ident.isValid w = true := (hlinks (e, .bare w) (by simp)).2.id
          refine ⟨hedge (e, .bare w) (by simp) _ (startsNode_word hw _) ?_, htexts⟩
          exact hword w _ hw (endsWord_tailSegments hrest htrail) hrun
      | shaped id c i =>
          have hlast := hedge (e, .shaped id c i) (by simp) [] (by intro c hc; cases hc) hnil
          rw [List.append_nil] at hlast
          refine ⟨hlast, fun t ht => ?_⟩
          simp only [tailSegments, List.mem_cons, reduceCtorEq, false_or, List.mem_append] at ht
          rcases ht with ht | ht
          · exact forall_textSegment hrun ht
          · exact htexts t ht

/-- A property of the parts that goes over to all free text of the line. -/
theorem forall_segments {p : Layout} (hp : p.IsWell) (hnil : P [])
    (hedge : ∀ l ∈ p.links, ∀ u, EdgeText.StartsNode u → P u → P (l.1.text ++ u))
    (hword : ∀ w t, Ident.isValid w = true → Token.EndsWord t → P t → P (w ++ t))
    (hlead : ∀ u, EdgeText.StartsNode u → P u → P (p.lead ++ u)) (hlast : P p.trail) :
    ∀ t, .text t ∈ p.segments → P t := by
  obtain ⟨hrun, htexts⟩ := forall_tailSegments hp.links hp.trail hnil hedge hword hlast
  have hfirst := hp.first
  intro t ht
  rw [segments] at ht
  cases hn : p.first with
  | bare w =>
      rw [hn] at hfirst ht
      have hw : Ident.isValid w = true := hfirst.id
      rcases List.mem_append.1 ht with ht | ht
      · exact forall_textSegment (hlead _ (startsNode_word hw _)
          (hword w _ hw (endsWord_tailSegments hp.links hp.trail) hrun)) ht
      · exact htexts t ht
  | shaped id c i =>
      rw [hn] at ht
      have hnode := hlead [] (by intro c hc; cases hc) hnil
      rw [List.append_nil] at hnode
      simp only [List.mem_append, List.mem_cons, reduceCtorEq, false_or] at ht
      rcases ht with ht | ht | ht
      · exact forall_textSegment hnode ht
      · exact forall_textSegment hrun ht
      · exact htexts t ht

end

theorem isPartOfWord {w : Text} (hw : Ident.isValid w = true) :
    ∀ c ∈ w, Token.isWordPart c = true :=
  fun c hc => Token.isWordPart_of_isAlphanum ((Ident.isValid_iff.1 hw).2.1 c hc)

theorem lex_word_append {w t : Text} (hw : Ident.isValid w = true) (ht : Token.EndsWord t) :
    Token.lex (w ++ t) = .word w :: Token.lex t :=
  Token.lex_word_append (Ident.isValid_iff.1 hw).1 (isPartOfWord hw) ht

theorem lex_word {w : Text} (hw : Ident.isValid w = true) : Token.lex w = [.word w] := by
  have hword := lex_word_append hw Token.endsWord_nil
  rwa [List.append_nil, Token.lex_nil] at hword

theorem lex_blanks {b : Text} (hb : Text.IsBlanks b) : Token.lex b = EdgeText.blankTokens b := by
  have := EdgeText.lex_blanks_append hb (u := []) (by intro c hc; cases hc)
  rwa [List.append_nil, Token.lex_nil, List.append_nil] at this

/-- Whether the labels between pipes hold no colon. -/
def HasCleanEdges (p : Layout) : Prop := ∀ l ∈ p.links, ':' ∉ l.1.text

theorem isSettledText_segments {p : Layout} (hp : p.IsWell) (hc : p.HasCleanEdges) :
    ∀ t, .text t ∈ p.segments → IsSettledText t := by
  refine forall_segments hp ?_ ?_ ?_ ?_ ?_
  · exact ⟨by simp, by rw [Token.lex_nil]; rfl⟩
  · rintro l hl u hu ⟨hcolon, hsettled⟩
    refine ⟨by simp [hc l hl, hcolon], ?_⟩
    rw [EdgeText.lex_text_append (hp.links l hl).1 hu]
    exact (EdgeText.settled_tokens (hp.links l hl).1).append hsettled
  · rintro w t hw ht ⟨hcolon, hsettled⟩
    have hnone : ':' ∉ w := fun h => absurd ((Ident.isValid_iff.1 hw).2.1 _ h) (by decide)
    refine ⟨by simp [hnone, hcolon], ?_⟩
    rw [lex_word_append hw ht, EdgeText.Settled, Repair.sanitizeWords, hsettled]
    simp [sanitize_eq_self hw]
  · rintro u hu ⟨hcolon, hsettled⟩
    refine ⟨by simp [colon_notMem_blanks hp.lead, hcolon], ?_⟩
    rw [EdgeText.lex_blanks_append hp.lead hu.not_isBlank]
    exact (EdgeText.settled_blankTokens _).append hsettled
  · refine ⟨colon_notMem_blanks hp.trail, ?_⟩
    rw [lex_blanks hp.trail]
    exact EdgeText.settled_blankTokens _

theorem tokens_splits {p : Layout} (hp : p.IsWell) :
    p.Splits (fun t => Token.renderAll (Token.lex t)) (fun e => e.spaced.text) (fun w => w)
      EdgeText.space where
  nil := by simp [Token.lex_nil, Token.renderAll]
  edge l hl u hu := by
    rw [EdgeText.lex_text_append (hp.links l hl).1 hu, Token.renderAll_append,
      EdgeText.renderAll_tokens (hp.links l hl).1]
  word w t hw ht := by
    rw [lex_word_append hw ht]
    rfl
  lead u hu := by
    rw [EdgeText.lex_blanks_append hp.lead hu.not_isBlank, Token.renderAll_append,
      EdgeText.renderAll_blankTokens]
  trail := by rw [lex_blanks hp.trail, EdgeText.renderAll_blankTokens]

/-- The layout with single spaces for blanks. -/
def respaced (p : Layout) : Layout := p.map EdgeText.spaced Repair.reidentify EdgeText.space

theorem keepsShapes_reidentify : KeepsShapes Repair.reidentify := by
  intro n hn hl
  rw [reidentify_eq_self hn]
  exact ⟨rfl, hl⟩

theorem sanitizeIdents_text {p : Layout} (hp : p.IsWell) (hc : p.HasCleanEdges) :
    Segment.renderAll (Repair.sanitizeSegments false (Segment.scan p.text)) = p.respaced.text := by
  have hsettled := isSettledText_segments hp hc
  rw [← scan_text hp] at hsettled
  rw [sanitizeSegments_eq hsettled]
  exact renderAll_map_scan hp (fun _ => rfl) (fun _ => rfl) (tokens_splits hp)

theorem isWell_respaced {p : Layout} (hp : p.IsWell) : p.respaced.IsWell :=
  hp.map (fun _ => EdgeText.isWell_spaced) keepsShapes_reidentify
    fun b _ => EdgeText.isBlanks_space b

/-! ## Edges -/

theorem edges_splits {p : Layout} (hp : p.IsWell) :
    p.Splits Repair.repairEdgeText (fun e => e.straight.text) (fun w => w) EdgeText.space where
  nil := EdgeText.repairEdgeText_nil
  edge l hl u hu := by
    rw [Repair.repairEdgeText, EdgeText.lex_text_append (hp.links l hl).1 hu,
      EdgeText.repairTokens_tokens_append (hp.links l hl).1 hu, Repair.repairEdgeText]
  word _ _ hw ht := EdgeText.repairEdgeText_word (lex_word_append hw ht)
  lead u hu := by
    rw [Repair.repairEdgeText, EdgeText.lex_blanks_append hp.lead hu.not_isBlank,
      EdgeText.repairTokens_blankTokens, Repair.repairEdgeText]
  trail := by
    have := EdgeText.repairTokens_blankTokens p.trail []
    rw [List.append_nil, Repair.repairTokens, List.append_nil] at this
    rw [Repair.repairEdgeText, lex_blanks hp.trail, this]

/-- The layout with canonical arrows. -/
def straightened (p : Layout) : Layout := p.map EdgeText.straight id EdgeText.space

theorem repairEdges_text {p : Layout} (hp : p.IsWell) :
    Line.mapSegments (fun segment =>
      match segment with
      | .text t => .text (Repair.repairEdgeText t)
      | .node n => .node n) p.text = p.straightened.text :=
  renderAll_map_scan hp (fun _ => rfl) (fun _ => rfl) (edges_splits hp)

theorem isWell_straightened {p : Layout} (hp : p.IsWell) : p.straightened.IsWell :=
  hp.map (fun _ => EdgeText.isWell_straight) keepsShapes_id fun b _ => EdgeText.isBlanks_space b

/-! ## Spacing -/

/-- Every edge has its canonical arrow and a clean label. -/
def IsStraight (p : Layout) : Prop :=
  ∀ l ∈ p.links, ∃ b label b', l.1 = EdgeText.ofLabel b label b' ∧ Text.IsBlanks b ∧
    (∀ k, label = some k → Label.IsClean k) ∧ Text.IsBlanks b'

theorem arrows_splits {p : Layout} (hp : p.IsWell) (hs : p.IsStraight) :
    p.Splits Repair.padArrows (fun e => e.padded.text) (fun w => w) EdgeText.space where
  nil := EdgeText.padArrows_nil
  edge l hl u hu := by
    obtain ⟨b, label, b', he, hb, hlabel, hb'⟩ := hs l hl
    rw [he, EdgeText.padArrows_ofLabel_append hb hlabel hb' hu, EdgeText.padded,
      EdgeText.label_ofLabel hlabel]
  word w t hw ht := by
    have hspace : ' ' ∉ w := fun h => absurd ((Ident.isValid_iff.1 hw).2.1 _ h) (by decide)
    exact EdgeText.padArrows_word hspace (lex_word_append hw ht)
  lead u hu := by
    have hhead := EdgeText.head?_padTokens hu
    rw [Repair.padArrows, EdgeText.lex_blanks_append hp.lead hu.not_isBlank,
      EdgeText.padTokens_blankTokens, Repair.padArrows]
    unfold EdgeText.space
    split
    · rfl
    · exact EdgeText.collapseSpaces_cons (.inr hhead)
  trail := by
    have := EdgeText.padTokens_blankTokens p.trail []
    rw [List.append_nil, Repair.padTokens, List.append_nil] at this
    rw [Repair.padArrows, lex_blanks hp.trail, this]
    unfold EdgeText.space
    split <;> rfl

/-- The layout with one space on each side of every edge. -/
def padded (p : Layout) : Layout := p.map EdgeText.padded id EdgeText.space

theorem padArrows_text {p : Layout} (hp : p.IsWell) (hs : p.IsStraight) :
    Line.mapSegments (fun segment =>
      match segment with
      | .text t => .text (Repair.padArrows t)
      | .node n => .node n) p.text = p.padded.text :=
  renderAll_map_scan hp (fun _ => rfl) (fun _ => rfl) (arrows_splits hp hs)

theorem isWell_padded {p : Layout} (hp : p.IsWell) : p.padded.IsWell :=
  hp.map (fun _ => EdgeText.isWell_padded) keepsShapes_id fun b _ => EdgeText.isBlanks_space b

end Layout

end Flowchart
