import Flowchart.Proofs.Strands

/-!
# What the rules make of a strand

The rules that work line by line write identifiers for the names of a strand and put one space on
each side of its joins. Nothing else changes, so the nodes that an edge or a join stands between
are known from the start.
-/

namespace Flowchart

/-! ## Renamed nodes -/

/-- The node under another identifier. -/
def Node.rename (f : Text → Text) : Node → Node
  | bare w => bare (f w)
  | shaped n => shaped { n with id := f n.id }

namespace Node

theorem id_rename (f : Text → Text) (n : Node) : (n.rename f).id = f n.id := by
  cases n <;> rfl

theorem IsNamed.isClean_rename {n : Node} (hn : n.IsNamed) :
    (n.rename Ident.sanitize).IsClean := by
  cases n with
  | bare w => exact Ident.IsName.isValid_sanitize hn
  | shaped n => exact ⟨hn.1.isValid_sanitize, hn.2⟩

/-- Identifiers are sanitized already. -/
theorem IsClean.rename {n : Node} (hn : n.IsClean) : n.rename Ident.sanitize = n := by
  have hid : Ident.sanitize n.id = n.id := Layout.sanitize_eq_self hn.id
  cases n with
  | bare w => exact congrArg bare hid
  | shaped n => exact congrArg (fun id => shaped { n with id := id }) hid

end Node

theorem ShapedNode.IsNamed.relabel {n : ShapedNode} (hn : n.IsNamed) : Repair.relabel n = n := by
  obtain ⟨-, hlabel, hends⟩ := hn
  have hself := Layout.cleanShapeLabel_eq_self hlabel (Label.hasPlainEnds_iff.2 hends)
  have hne : n.label ≠ [] := hlabel.1
  simp [Repair.relabel, hself, hne]

theorem ShapedNode.IsNamed.reidentify {n : ShapedNode} (hn : n.IsNamed) :
    Repair.reidentify n = { n with id := Ident.sanitize n.id } := by
  have hne : Ident.sanitize n.id ≠ [] := (Ident.isValid_iff.1 hn.1.isValid_sanitize).1
  simp [Repair.reidentify, Repair.orElseText, hne]

/-! ## Gaps under the rules -/

namespace Gap

open EdgeText (blankTokens space)

variable {g : Gap} (hg : g.IsWell)

theorem renderAll_tokens (g : Gap) : Token.renderAll g.tokens = g.spaced.text := by
  cases g with
  | edge label =>
      cases label with
      | none => rfl
      | some l => simp [tokens, spaced, text, renderEdge, Token.renderAll, Token.render]
  | join b a =>
      simp [tokens, spaced, text, Token.renderAll_append, Token.renderAll_cons,
        EdgeText.renderAll_blankTokens, Token.render]

/-- A gap has no words and leaves no label open. -/
theorem settled_tokens (g : Gap) : EdgeText.Settled g.tokens := by
  cases g with
  | edge label => cases label <;> rfl
  | join b a =>
      have hjoin : EdgeText.Settled (.join :: blankTokens a) := by
        rw [EdgeText.Settled, Repair.sanitizeWords, EdgeText.settled_blankTokens a]
        · simp
        · simp
      exact (EdgeText.settled_blankTokens b).append hjoin

include hg

theorem blankDelimiters_text : Repair.blankDelimiters g.text = g.text := by
  refine EdgeText.blankDelimiters_eq_self fun c hc => ?_
  have hblanks {b : Text} (hb : Text.IsPadding b) (h : c ∈ b) :
      isOpener c = false ∧ isCloser c = false :=
    EdgeText.not_delimiter_of_isBlank (hb.isBlanks c h)
  cases g with
  | edge label =>
      cases label with
      | none =>
          have : c = ' ' ∨ c = '-' ∨ c = '>' := by
            simpa [text, renderEdge, arrow, or_comm, or_left_comm] using hc
          rcases this with rfl | rfl | rfl <;> decide
      | some l =>
          have hl := Label.not_delimiter_of_not_isIllegal (c := c)
          simp only [text, renderEdge, arrow, List.mem_append, List.mem_cons, List.not_mem_nil,
            or_false] at hc
          by_cases h : c ∈ l
          · exact ⟨(hl ((hg l rfl).isLegal c h)).1, (hl ((hg l rfl).isLegal c h)).2.1⟩
          · have : c = ' ' ∨ c = '-' ∨ c = '>' ∨ c = '|' := by tauto
            rcases this with rfl | rfl | rfl | rfl <;> decide
  | join b a =>
      simp only [text, List.mem_append, List.mem_cons] at hc
      rcases hc with h | rfl | h
      · exact hblanks hg.1 h
      · decide
      · exact hblanks hg.2 h

theorem replaceLabels_text_append (u : Text) :
    Text.replaceMatches Repair.pipeLabel (g.text ++ u)
      = g.text ++ Text.replaceMatches Repair.pipeLabel u := by
  cases g with
  | edge label =>
      cases label with
      | none => exact EdgeText.replaceLabels_append (by decide) u
      | some l =>
          have hl := hg l rfl
          have hsplit (s : Text) : (edge (some l)).text ++ s
              = (' ' :: arrow) ++ ('|' :: (l ++ '|' :: ([' '] ++ s))) := by
            simp [text, renderEdge]
          rw [hsplit, hsplit, EdgeText.replaceLabels_append (by decide),
            EdgeText.replaceLabels_pipe hl.isLegal.pipe, Label.clean_of_isClean hl, if_neg hl.1,
            EdgeText.replaceLabels_append (by decide)]
          simp
  | join b a =>
      have hb := EdgeText.pipe_notMem_blanks hg.1.isBlanks
      have ha := EdgeText.pipe_notMem_blanks hg.2.isBlanks
      exact EdgeText.replaceLabels_append (by simp [text, hb, ha]) u

variable {u : Text} (hu : StartsName u)

include hu

theorem repairEdgeText_text_append :
    Repair.repairEdgeText (g.text ++ u) = g.spaced.text ++ Repair.repairEdgeText u := by
  have hspace (ts : List Token) : Repair.repairTokens (.space :: ts)
      = ' ' :: Repair.repairTokens ts := Repair.repairTokens_cons (by simp) ts
  rw [Repair.repairEdgeText, lex_text_append hg hu, Repair.repairEdgeText]
  cases g with
  | edge label =>
      cases label with
      | none =>
          have hnone : Repair.attachedLabel? (.space :: Token.lex u) = none := by
            rcases hu.lex with h | ⟨w, ts, h, -⟩
            · rw [h]
              rfl
            · rw [h]
              rfl
          show Repair.repairTokens (.space :: .arrow arrow :: .space :: Token.lex u) = _
          rw [hspace, EdgeText.repairTokens_plain rfl hnone, hspace]
          simp [spaced, text, renderEdge]
      | some l =>
          have hl := hg l rfl
          have hsome : Repair.attachedLabel? (.label l :: .space :: Token.lex u)
              = some (l, .space :: Token.lex u) := by
            show some (Label.clean l, Token.space :: Token.lex u) = _
            rw [Label.clean_of_isClean hl]
          have htext : Repair.edgeText l = renderEdge arrow (some l) := by
            simp [Repair.edgeText, hl.1]
          show Repair.repairTokens (.space :: .arrow arrow :: .label l :: .space :: Token.lex u) = _
          rw [hspace, EdgeText.repairTokens_labelled rfl hsome, hspace, htext]
          simp [spaced, text]
  | join b a =>
      have hjoin (ts : List Token) : Repair.repairTokens (.join :: ts)
          = '&' :: Repair.repairTokens ts := Repair.repairTokens_cons (by simp) ts
      show Repair.repairTokens ((blankTokens b ++ .join :: blankTokens a) ++ Token.lex u) = _
      rw [List.append_assoc, List.cons_append, EdgeText.repairTokens_blankTokens, hjoin,
        EdgeText.repairTokens_blankTokens]
      simp [spaced, text]

omit hg in
theorem head?_padTokens_lex : ∀ c ∈ (Repair.padTokens (Token.lex u)).head?, c ≠ ' ' := by
  rcases hu.lex with h | ⟨w, ts, h, hword⟩
  · rw [h]
    intro c hc
    cases hc
  · rw [h, EdgeText.padTokens_word, List.head?_append_of_ne_nil _ hword.1]
    intro c hc he
    have := hword.2 c (List.mem_of_mem_head? hc)
    rw [he] at this
    exact absurd this (by decide)

omit hg in
theorem head?_lex_ne_label : ∀ t ∈ (Token.lex u).head?, ∀ l, t ≠ .label l := by
  intro t ht l
  rcases hu.lex with h | ⟨w, ts, h, -⟩
  · rw [h] at ht
    cases ht
  · rw [h] at ht
    cases ht
    simp

theorem padArrows_text_append :
    Repair.padArrows (g.text ++ u) = g.padded.text ++ Repair.padArrows u := by
  have hhead := head?_padTokens_lex hu
  rw [Repair.padArrows, lex_text_append hg hu, Repair.padArrows]
  cases g with
  | edge label =>
      have hedge := EdgeText.collapseSpaces_ofLabel_append hg (head?_lex_ne_label hu) hhead
        [' '] [' ']
      rw [EdgeText.text_ofLabel] at hedge
      cases label <;> exact hedge
  | join b a =>
      show Repair.collapseSpaces
        (Repair.padTokens ((blankTokens b ++ .join :: blankTokens a) ++ Token.lex u)) = _
      rw [List.append_assoc, List.cons_append, EdgeText.padTokens_blankTokens,
        EdgeText.padTokens_join, EdgeText.padTokens_blankTokens,
        EdgeText.collapseSpaces_space_before, EdgeText.collapseSpaces_cons (.inr (by simp)),
        EdgeText.collapseSpaces_cons (.inl (by decide)),
        EdgeText.collapseSpaces_space_after hhead]
      rfl

end Gap

/-! ## The rules, one by one -/

namespace Strand

open Layout (textSegment part)

def map (p : Strand) (fg : Gap → Gap) (fn : Node → Node) : Strand :=
  ⟨fn p.first, p.links.map fun l => (fg l.1, fn l.2)⟩

theorem map_id (p : Strand) : p.map id id = p := by
  simp [map]

theorem Reads.text {F : List Segment → Text} {fg : Gap → Gap} {W : Text → Text}
    {H : ShapedNode → Text} (hF : Reads F (fun g => (fg g).text) W H) {p : Strand}
    (hp : p.IsWell) {fn : Node → Node}
    (hn : ∀ n : Node, n.IsNamed → readNode W H n = (fn n).render) :
    F (Segment.scan p.text) = (p.map fg fn).text := by
  rw [hF.scan hp, hn _ hp.first, Strand.text, linksText, map, List.flatMap_map]
  refine congrArg _ (List.flatMap_congr fun l hl => ?_)
  rw [hn _ (hp.links l hl).2]

section

variable {p : Strand} (hp : p.IsWell)

include hp

/-- A rule that changes segments one by one and puts nodes in place of nodes. -/
theorem mapSegments_text {φ : Segment → Segment} {g : Text → Text}
    {f : ShapedNode → ShapedNode} (fg : Gap → Gap) (htext : ∀ t, φ (.text t) = .text (g t))
    (hnode : ∀ n, φ (.node n) = .node (f n)) (hnil : g [] = [])
    (hgap : ∀ {q u}, Gap.IsWell q → StartsName u → g (q.text ++ u) = (fg q).text ++ g u)
    (hword : ∀ {w t}, Ident.IsName w → IsRun t → g (w ++ t) = w ++ g t)
    (hself : ∀ n : ShapedNode, n.IsNamed → f n = n) :
    Line.mapSegments φ p.text = (p.map fg id).text := by
  rw [Line.mapSegments, Layout.renderAll_map htext hnode]
  refine (Reads.of_part (W := id) hnil hgap hword).text hp fun n hn => ?_
  cases n with
  | bare w => rfl
  | shaped n =>
      show (f n).render = n.render
      rw [hself n hn]

theorem normalizeBrackets_text : Line.mapSegments (fun segment =>
    match segment with
    | .text t => .text (Repair.blankDelimiters t)
    | .node n => .node n) p.text = p.text := by
  refine Eq.trans (mapSegments_text hp (f := id) id (fun _ => rfl) (fun _ => rfl) rfl
    (fun hg _ => ?_) (fun {w t} hw _ => ?_) fun _ _ => rfl) (by rw [map_id])
  · rw [EdgeText.blankDelimiters_append, Gap.blankDelimiters_text hg]
    rfl
  · have hself : Repair.blankDelimiters w = w :=
      EdgeText.blankDelimiters_eq_self fun c hc =>
        ⟨(Ident.isNamePart_iff.1 (hw.parts c hc)).2.1,
          (Ident.isNamePart_iff.1 (hw.parts c hc)).2.2.1⟩
    rw [EdgeText.blankDelimiters_append, hself]

theorem sanitizeLabels_text : Line.mapSegments (fun segment =>
    match segment with
    | .text t => .text (Text.replaceMatches Repair.pipeLabel t)
    | .node n => .node (Repair.relabel n)) p.text = p.text :=
  Eq.trans (mapSegments_text hp id (fun _ => rfl) (fun _ => rfl)
    (by simp [Text.replaceMatches]) (fun {g u} hg _ => Gap.replaceLabels_text_append hg u)
    (fun {w t} hw _ => EdgeText.replaceLabels_append (hw.notMem (by decide)) t)
    fun _ hn => hn.relabel) (by rw [map_id])

theorem repairEdges_text : Line.mapSegments (fun segment =>
    match segment with
    | .text t => .text (Repair.repairEdgeText t)
    | .node n => .node n) p.text = (p.map Gap.spaced id).text := by
  refine mapSegments_text hp (f := id) Gap.spaced (fun _ => rfl) (fun _ => rfl)
    EdgeText.repairEdgeText_nil (fun hg hu => Gap.repairEdgeText_text_append hg hu)
    (fun hw ht => ?_) fun _ _ => rfl
  exact EdgeText.repairEdgeText_word (Token.lex_name_append hw ht.ends)

theorem padArrows_text : Line.mapSegments (fun segment =>
    match segment with
    | .text t => .text (Repair.padArrows t)
    | .node n => .node n) p.text = (p.map Gap.padded id).text := by
  refine mapSegments_text hp (f := id) Gap.padded (fun _ => rfl) (fun _ => rfl)
    EdgeText.padArrows_nil (fun hg hu => Gap.padArrows_text_append hg hu)
    (fun hw ht => ?_) fun _ _ => rfl
  exact EdgeText.padArrows_word (EdgeText.space_notMem_of_isWord hw.isWord)
    (Token.lex_name_append hw ht.ends)

omit hp in
/-- Free text without colons is read by its tokens, with the label that is open behind it. -/
theorem renderAll_sanitizeSegments {t : Text} (ht : ':' ∉ t) (segments : List Segment) :
    Segment.renderAll (Repair.sanitizeSegments false (textSegment t ++ segments)) =
      Token.renderAll (Repair.sanitizeWords false (Token.lex t)).1 ++ Segment.renderAll
        (Repair.sanitizeSegments (Repair.sanitizeWords false (Token.lex t)).2 segments) := by
  cases t with
  | nil =>
      rw [Token.lex_nil]
      rfl
  | cons c t =>
      show Segment.renderAll (Repair.sanitizeSegments false (.text (c :: t) :: segments)) = _
      rw [Repair.sanitizeSegments, Layout.replaceMatches_classSuffix ht]
      rfl

omit hp in
/-- Names in free text are sanitized, wherever they stand. -/
theorem reads_sanitizeSegments :
    Reads (fun segments => Segment.renderAll (Repair.sanitizeSegments false segments))
      (fun g => g.spaced.text) Ident.sanitize (fun n => (Repair.reidentify n).render) where
  nil := rfl
  node n segments := rfl
  gap {g u} hg hu segments := by
    have hcolon : ':' ∉ g.text ++ u := (IsRun.gap_append hg hu).colon
    rw [renderAll_sanitizeSegments hcolon, renderAll_sanitizeSegments hu.colon,
      Gap.lex_text_append hg hu, EdgeText.sanitizeWords_append, g.settled_tokens]
    dsimp only
    rw [Token.renderAll_append, Gap.renderAll_tokens, List.append_assoc]
  word {w t} hw ht segments := by
    have hcolon : ':' ∉ w ++ t := by
      have := hw.notMem (d := ':') (by decide)
      simp [this, ht.colon]
    rw [renderAll_sanitizeSegments hcolon, renderAll_sanitizeSegments ht.colon,
      Token.lex_name_append hw ht.ends]
    simp [Repair.sanitizeWords, Token.renderAll_cons, Token.render]

theorem sanitizeIdents_text :
    Segment.renderAll (Repair.sanitizeSegments false (Segment.scan p.text))
      = (p.map Gap.spaced (Node.rename Ident.sanitize)).text := by
  refine reads_sanitizeSegments.text hp fun n hn => ?_
  cases n with
  | bare w => rfl
  | shaped n =>
      show (Repair.reidentify n).render = _
      rw [hn.reidentify]
      rfl

end

end Strand

end Flowchart
