import Flowchart.Proofs.TightArrows

/-!
# Lines that begin with a node

Free text without delimiters stands behind a node. A rule for segments changes that text alone
behind a shape, and together with the word behind a bare node.
-/

namespace Flowchart

/-! ## Free text -/

/-- Text without delimiters, pipes and what the first two rules look at. -/
def Text.IsUndelimited (t : Text) : Prop :=
  Text.All (fun c => IsInert c ∧ isOpener c = false ∧ isCloser c = false ∧ c ≠ '|') t

namespace Text.IsUndelimited

theorem nil : IsUndelimited [] := Text.All.nil

theorem append {t u : Text} (ht : IsUndelimited t) (hu : IsUndelimited u) :
    IsUndelimited (t ++ u) :=
  Text.All.append ht hu

variable {t : Text} (ht : IsUndelimited t)

include ht

theorem newline : '\n' ∉ t := fun h => (ht _ h).1.1 rfl

theorem isUnquoted : Text.IsUnquoted t := fun c hc => (ht c hc).1.2.2

theorem isFree : Segment.IsFree t :=
  Segment.isFree_of_chars fun c hc => ⟨(ht c hc).2.1, (ht c hc).2.2.2⟩

theorem blankDelimiters : Repair.blankDelimiters t = t :=
  EdgeText.blankDelimiters_eq_self fun c hc => ⟨(ht c hc).2.1, (ht c hc).2.2.1⟩

theorem replaceLabels : Text.replaceMatches Repair.pipeLabel t = t := by
  have hpipe : '|' ∉ t := fun h => (ht _ h).2.2.2 rfl
  have := EdgeText.replaceLabels_append hpipe []
  rwa [List.append_nil, Text.replaceMatches, List.append_nil] at this

end Text.IsUndelimited

theorem Token.IsPath.isUndelimited {t : Text} (ht : IsPath t) : Text.IsUndelimited t :=
  fun c hc => ⟨ht.isInert c hc, ht.not_delimiter c hc⟩

/-! ## Text behind a node -/

/-- A node that is written on one line, without quotation marks. -/
structure NodeText.IsReady (n : NodeText) : Prop where
  well : n.IsWell
  newline : '\n' ∉ n.text
  unquoted : Text.IsUnquoted n.text

/-- A node with free text behind it, on a line that may hold a statement. -/
structure NodeText.Leads (n : NodeText) (t : Text) : Prop where
  ready : n.IsReady
  free : t.IsUndelimited
  last : ∀ c ∈ t.getLast?, Text.isBlank c = false
  held : ∀ a, n = .bare a → Line.mayHoldStatement (a ++ t) = true

/-- The segments of a node and the free text behind it. -/
def NodeText.segmentsWith (n : NodeText) (t : Text) : List Segment :=
  match n with
  | .bare a => Layout.textSegment (a ++ t)
  | .shaped a c i => .node (ShapedNode.ofInterior a c i) :: Layout.textSegment t

/-- A rule for free text behind a node. -/
def Node.mapBehind (m : Node) (f : Text → Text) (t : Text) : Text :=
  match m with
  | .bare a => f (a ++ t)
  | .shaped n => n.render ++ f t

theorem Node.mapBehind_eq {m : Node} {f : Text → Text} {t u : Text}
    (hword : ∀ a, m = .bare a → f (a ++ t) = a ++ u) (ht : f t = u) :
    m.mapBehind f t = m.render ++ u := by
  cases m with
  | bare a => exact hword a rfl
  | shaped n => exact congrArg _ ht

/-- A node by itself on a line. -/
def Layout.lone (n : NodeText) : Layout := ⟨[], n, [], []⟩

theorem Layout.text_lone (n : NodeText) : (lone n).text = n.text := List.append_nil _

namespace NodeText

theorem isReady_bare {a : Text} (ha : Ident.isValid a = true) : (bare a).IsReady := by
  have hpath := Token.isPath_word (Ident.isValid_iff.1 ha).2.1
  refine ⟨⟨ha, fun id c i he => ?_⟩, hpath.isUndelimited.newline, hpath.isUnquoted⟩
  cases he

namespace IsReady

variable {n : NodeText} (hn : n.IsReady)

include hn

theorem lone : (Layout.lone n).IsReady := by
  refine ⟨⟨.nil, hn.well, nofun, .nil⟩, ?_, ?_, nofun⟩
  · rw [Layout.text_lone]
    exact hn.newline
  · rw [Layout.text_lone]
    exact hn.unquoted

omit hn in
theorem of_lone {p : Layout} (hp : p.IsReady) (h : p = Layout.lone n) : n.IsReady := by
  subst h
  exact ⟨hp.well.first, Layout.text_lone n ▸ hp.newline, Layout.text_lone n ▸ hp.unquoted⟩

theorem node : (ofNode n.node).IsReady := by
  refine of_lone hn.lone.blanked ?_
  rw [Layout.blanked, Layout.map, Layout.lone, Layout.mapNode_id]
  rfl

theorem finalNode : (ofNode (Layout.finalNode n)).IsReady :=
  of_lone hn.node.lone.relabelled rfl

theorem isClean_finalNode : (Layout.finalNode n).IsClean :=
  Layout.isClean_finalNode hn.well hn.unquoted

end IsReady

end NodeText

theorem Layout.hasCleanEdges_lone (n : NodeText) : (lone n).HasCleanEdges :=
  List.forall_mem_nil _

/-- A node by itself on a line that may hold a statement. -/
theorem NodeText.leads_nil {n : NodeText} (hn : n.IsReady)
    (hheld : Line.mayHoldStatement n.text = true) : n.Leads [] := by
  refine ⟨hn, .nil, by simp, fun a ha => ?_⟩
  rw [ha] at hheld
  rw [List.append_nil]
  exact hheld

/-- Free text that touches the node keeps the line from being anything but a statement. -/
theorem NodeText.leads_touching {n : NodeText} {t : Text} {c : Char} (hn : n.IsReady)
    (ht : t.IsUndelimited) (hlast : ∀ d ∈ t.getLast?, Text.isBlank d = false) (hc : c ∈ t.head?)
    (halnum : c.isAlphanum = false) (hblank : Text.isBlank c = false) : n.Leads t := by
  refine ⟨hn, ht, hlast, fun a ha => ?_⟩
  have hid : Ident.isValid a = true := by
    have := hn.well.id
    rwa [ha] at this
  obtain ⟨hne, hword, -⟩ := Ident.isValid_iff.1 hid
  have hsemi {d : Char} (hd : d ∈ t) : d ≠ ';' := (ht d hd).1.2.1
  obtain ⟨hdirective, hroot⟩ := Line.kinds_glued hne hword hc halnum hblank
    (hsemi (List.mem_of_mem_head? hc)) fun d hd => ⟨hlast d hd, hsemi (List.mem_of_getLast? hd)⟩
  rw [Line.mayHoldStatement, hdirective, hroot]
  rfl

theorem NodeText.IsReady.isTrimmed {n : NodeText} {t : Text} (hn : n.IsReady)
    (hlast : ∀ c ∈ t.getLast?, Text.isBlank c = false) : Text.IsTrimmed (n.text ++ t) := by
  have htrim := Layout.isTrimmed_text hn.well
  refine ⟨fun c hc => ?_, fun c hc => ?_⟩
  · rw [List.head?_append_of_ne_nil _ (Layout.text_ne_nil hn.well)] at hc
    exact htrim.head c hc
  · by_cases ht : t = []
    · rw [ht, List.append_nil] at hc
      exact htrim.getLast c hc
    · rw [List.getLast?_append_of_ne_nil _ ht] at hc
      exact hlast c hc

theorem NodeText.IsReady.isLine {n : NodeText} {t : Text} (hn : n.IsReady)
    (ht : t.IsUndelimited) (hlast : ∀ c ∈ t.getLast?, Text.isBlank c = false) :
    Text.IsLine (n.text ++ t) := by
  have hne := Layout.text_ne_nil hn.well
  refine (hn.isTrimmed hlast).isLine (by simp [hne]) fun hmem => ?_
  exact (List.mem_append.1 hmem).elim hn.newline ht.newline

namespace NodeText.Leads

variable {n : NodeText} {t : Text} (h : n.Leads t)

include h

theorem isLine : Text.IsLine (n.text ++ t) := h.ready.isLine h.free h.last

theorem isTrimmed : Text.IsTrimmed (n.text ++ t) := h.ready.isTrimmed h.last

theorem mayHoldStatement : Line.mayHoldStatement (n.text ++ t) = true := by
  have hwell := h.ready.well
  cases n with
  | bare a => exact h.held a rfl
  | shaped a c i =>
      have ha : Ident.isValid a = true := hwell.id
      obtain ⟨hne, halnum, -⟩ := Ident.isValid_iff.1 ha
      obtain ⟨hc, hblank, hsemi⟩ := Layout.head_opener (hwell.shape a c i rfl).1
      have hlast : ∀ d ∈ (c :: i ++ [closerOf c] ++ t).getLast?,
          Text.isBlank d = false ∧ d ≠ ';' := by
        intro d hd
        by_cases ht : t = []
        · rw [ht, List.append_nil, List.getLast?_concat] at hd
          cases hd
          exact Line.ends_of_isCloser (isCloser_closerOf c)
        · rw [List.getLast?_append_of_ne_nil _ ht] at hd
          exact ⟨h.last d hd, (h.free d (List.mem_of_getLast? hd)).1.2.1⟩
      have hsplit : (NodeText.shaped a c i).text ++ t = a ++ (c :: i ++ [closerOf c] ++ t) := by
        simp [NodeText.text]
      obtain ⟨hdirective, hroot⟩ := Line.kinds_glued hne halnum (c := c) rfl hc hblank hsemi hlast
      rw [hsplit, Line.mayHoldStatement, hdirective, hroot]
      rfl

theorem mapStatements (f : Text → Text) : Line.mapStatements f (n.text ++ t) = f (n.text ++ t) :=
  Line.mapStatements_line h.isLine h.mayHoldStatement f

theorem rootDirection? : Line.rootDirection? (n.text ++ t) = none := by
  have := h.mayHoldStatement
  rw [Line.mayHoldStatement, Bool.and_eq_true] at this
  exact Option.isNone_iff_eq_none.1 this.1

end NodeText.Leads

namespace NodeText.IsReady

variable {n : NodeText} {t : Text} (h : n.IsReady) (ht : t.IsUndelimited)

include h ht

theorem scan : Segment.scan (n.text ++ t) = n.segmentsWith t := by
  have hwell := h.well
  have hfree (back : Text) : Segment.scanFrom back t = Segment.ofBack (t.reverse ++ back) := by
    have := ht.isFree back []
    rwa [List.append_nil, Segment.scanFrom_nil] at this
  cases n with
  | bare a =>
      have ha : Ident.isValid a = true := hwell.id
      show Segment.scanFrom [] (a ++ t) = Layout.textSegment (a ++ t)
      rw [Layout.isFree_id ha, hfree, Layout.ofBack_eq]
      simp
  | shaped a c i =>
      rw [Segment.scan, Layout.scanFrom_shaped hwell (by intro c hc; cases hc), hfree,
        List.append_nil, Layout.ofBack_eq t.reverse, List.reverse_reverse]
      rfl

/-- A rule that changes segments one by one. -/
theorem mapSegments {φ : Segment → Segment} {g : Text → Text} {f : ShapedNode → ShapedNode}
    (htext : ∀ t, φ (.text t) = .text (g t)) (hnode : ∀ n, φ (.node n) = .node (f n))
    (hnil : g [] = []) :
    Line.mapSegments φ (n.text ++ t) = (Layout.mapNode f n.node).mapBehind g t := by
  rw [Line.mapSegments, Layout.renderAll_map htext hnode, h.scan ht]
  cases n with
  | bare a => exact Layout.flatMap_textSegment hnil _
  | shaped a c i =>
      exact congrArg ((f (ShapedNode.ofInterior a c i)).render ++ ·)
        (Layout.flatMap_textSegment hnil t)

end NodeText.IsReady

namespace NodeText.Leads

variable {n : NodeText} {t : Text} (h : n.Leads t)

include h

theorem node : (ofNode n.node).Leads t := by
  refine ⟨h.ready.node, h.free, h.last, fun a ha => h.held a ?_⟩
  cases n with
  | bare b => exact ha
  | shaped b c i => cases ha

theorem finalNode : (ofNode (Layout.finalNode n)).Leads t := by
  refine ⟨h.ready.finalNode, h.free, h.last, fun a ha => h.held a ?_⟩
  cases n with
  | bare b => exact ha
  | shaped b c i => cases ha

theorem normalizeBrackets : Repair.normalizeBrackets (n.text ++ t) = n.node.render ++ t := by
  have hmap : Repair.normalizeBrackets (n.text ++ t)
      = (Layout.mapNode (fun m => m) n.node).mapBehind Repair.blankDelimiters t :=
    (h.mapStatements _).trans (h.ready.mapSegments h.free (fun _ => rfl) (fun _ => rfl) rfl)
  rw [hmap, show Layout.mapNode (fun m => m) n.node = n.node from Layout.mapNode_id _]
  refine Node.mapBehind_eq (fun a ha => ?_) h.free.blankDelimiters
  have hid : Ident.isValid a = true := by
    have := h.ready.node.well.id
    rw [ha] at this
    exact this
  have hword := (Token.isPath_word (Ident.isValid_iff.1 hid).2.1).blankDelimiters
  rw [EdgeText.blankDelimiters_append, hword, h.free.blankDelimiters]

theorem sanitizeLabels :
    Repair.sanitizeLabels (n.node.render ++ t) = (Layout.finalNode n).render ++ t := by
  have hnode := h.node
  have hmap : Repair.sanitizeLabels ((ofNode n.node).text ++ t)
      = (Layout.finalNode n).mapBehind (Text.replaceMatches Repair.pipeLabel) t :=
    (hnode.mapStatements _).trans
      (hnode.ready.mapSegments h.free (fun _ => rfl) (fun _ => rfl)
        (by rw [Text.replaceMatches]))
  rw [text_ofNode] at hmap
  rw [hmap]
  refine Node.mapBehind_eq (fun a ha => ?_) h.free.replaceLabels
  have hid : Ident.isValid a = true := by
    have := h.ready.isClean_finalNode
    rw [ha] at this
    exact this
  have hword := Layout.pipe_notMem_word hid
  rw [EdgeText.replaceLabels_append hword, h.free.replaceLabels]

end NodeText.Leads

/-! ## Identifiers -/

namespace Repair

/-- What the rule for identifiers makes of free text. -/
def sanitizedText (t : Text) : Text :=
  Token.renderAll (sanitizeWords false (Token.lex (Text.replaceMatches classSuffix t))).1

theorem sanitizedText_nil : sanitizedText [] = [] := by
  simp [sanitizedText, Text.replaceMatches, Token.lex_nil, sanitizeWords, Token.renderAll]

theorem sanitizeSegments_textSegment (t : Text) :
    Segment.renderAll (sanitizeSegments false (Layout.textSegment t)) = sanitizedText t := by
  cases t with
  | nil => exact sanitizedText_nil.symm
  | cons c t =>
      simp [Layout.textSegment, sanitizeSegments, Segment.renderAll, Segment.render, sanitizedText]

end Repair

namespace NodeText.Leads

open Repair (sanitizedText)

variable {n : NodeText} {t : Text} (h : n.Leads t)

include h

theorem sanitizeIdents : Repair.sanitizeIdents ((Layout.finalNode n).render ++ t)
    = (Layout.finalNode n).mapBehind sanitizedText t := by
  have hfinal := h.finalNode
  have hclean := h.ready.isClean_finalNode
  have hmap := hfinal.mapStatements fun line =>
    Segment.renderAll (Repair.sanitizeSegments false (Segment.scan line))
  rw [text_ofNode] at hmap
  refine hmap.trans ?_
  rw [← text_ofNode, hfinal.ready.scan h.free]
  cases hnode : Layout.finalNode n with
  | bare a => exact Repair.sanitizeSegments_textSegment _
  | shaped m =>
      rw [hnode] at hclean
      have hread : ShapedNode.ofInterior m.id m.shape.opener (m.shape.interior m.label) = m :=
        (ShapedNode.IsClean.isReadBack hclean).ofInterior
      show Segment.renderAll (Repair.sanitizeSegments false (.node (ShapedNode.ofInterior m.id
        m.shape.opener (m.shape.interior m.label)) :: Layout.textSegment t)) = _
      rw [hread, Repair.sanitizeSegments, Layout.reidentify_eq_self hclean.1]
      exact congrArg (m.render ++ ·) (Repair.sanitizeSegments_textSegment t)

/-- The first five rules leave the free text to the rule for identifiers. -/
theorem repair_eq (hsemi : ';' ∉ n.text) : repair (n.text ++ t)
    = Repair.shapeDocument (Repair.normalizeSpacing
        (Repair.repairEdges ((Layout.finalNode n).mapBehind sanitizedText t))) := by
  have hsemi : ';' ∉ n.text ++ t := fun hmem =>
    (List.mem_append.1 hmem).elim hsemi fun ht => (h.free _ ht).1.2.1 rfl
  rw [Flowchart.repair_eq, Repair.stripQuotes_line h.isLine.ne_nil h.isLine.newline hsemi
    (h.ready.unquoted.append h.free.isUnquoted), h.normalizeBrackets, h.sanitizeLabels,
    h.sanitizeIdents]

end NodeText.Leads

/-! ## Behind a clean node -/

namespace Node.IsClean

variable {m : Node} {t : Text} (hm : m.IsClean)

include hm

theorem mapFreeText (h : (NodeText.ofNode m).Leads t) {f : Text → Text} (hnil : f [] = []) :
    Line.mapFreeText f (m.render ++ t) = m.mapBehind f t := by
  have hmap : Line.mapFreeText f ((NodeText.ofNode m).text ++ t)
      = (Layout.mapNode (fun n => n) (NodeText.ofNode m).node).mapBehind f t :=
    (h.mapStatements _).trans (h.ready.mapSegments h.free (fun _ => rfl) (fun _ => rfl) hnil)
  rw [NodeText.text_ofNode, NodeText.node_ofNode hm] at hmap
  rw [hmap, show Layout.mapNode (fun n => n) m = m from Layout.mapNode_id m]

theorem mapBehind_sanitizedText (ht : Token.EndsWord t) (hcolon : ':' ∉ t)
    (hself : Repair.sanitizedText t = t) : m.mapBehind Repair.sanitizedText t = m.render ++ t := by
  refine mapBehind_eq (fun a ha => ?_) hself
  subst ha
  have hword : ':' ∉ a := fun h => absurd ((Ident.isValid_iff.1 hm).2.1 _ h) (by decide)
  rw [Repair.sanitizedText, Layout.replaceMatches_classSuffix hcolon] at hself
  rw [Repair.sanitizedText, Layout.replaceMatches_classSuffix (by simp [hword, hcolon]),
    Layout.lex_word_append hm ht, Repair.sanitizeWords]
  simp only [Bool.false_eq_true, if_false, Layout.sanitize_eq_self hm]
  exact congrArg (a ++ ·) hself

theorem mapBehind_repairEdgeText (ht : Token.EndsWord t) :
    m.mapBehind Repair.repairEdgeText t = m.render ++ Repair.repairEdgeText t := by
  refine mapBehind_eq (fun a ha => ?_) rfl
  subst ha
  exact EdgeText.repairEdgeText_word (Layout.lex_word_append hm ht)

theorem mapBehind_padArrows (ht : Token.EndsWord t) :
    m.mapBehind Repair.padArrows t = m.render ++ Repair.padArrows t := by
  refine mapBehind_eq (fun a ha => ?_) rfl
  subst ha
  have hspace : ' ' ∉ a := fun h => absurd ((Ident.isValid_iff.1 hm).2.1 _ h) (by decide)
  exact EdgeText.padArrows_word hspace (Layout.lex_word_append hm ht)

/-- What the line is made of, where a word in front of the text ends there. -/
theorem ofLine (h : (NodeText.ofNode m).IsReady) (ht : t.IsUndelimited)
    (hends : ∀ a, m = .bare a → Token.EndsWord t) : Repair.Item.ofLine (m.render ++ t)
      = .node m :: Repair.Item.ofTokens (Token.lex t) := by
  have htext (u : Text) : Repair.Item.ofSegments (Layout.textSegment u)
      = Repair.Item.ofTokens (Token.lex u) := by
    cases u with
    | nil =>
        rw [Token.lex_nil]
        rfl
    | cons c u => exact List.append_nil _
  rw [Repair.Item.ofLine, ← NodeText.text_ofNode, h.scan ht]
  cases m with
  | bare a =>
      refine (htext (a ++ t)).trans ?_
      rw [Layout.lex_word_append hm (hends a rfl)]
      rfl
  | shaped n =>
      have hread : ShapedNode.ofInterior n.id n.shape.opener (n.shape.interior n.label) = n :=
        (ShapedNode.IsClean.isReadBack hm).ofInterior
      show Repair.Item.node (.shaped (ShapedNode.ofInterior n.id n.shape.opener
        (n.shape.interior n.label))) :: Repair.Item.ofSegments (Layout.textSegment t) = _
      rw [hread, htext]

end Node.IsClean

/-! ## Lines that are no statements -/

theorem Line.mapStatements_of_not {x : Text} (hx : Text.IsLine x)
    (h : mayHoldStatement x = false) (f : Text → Text) : mapStatements f x = x := by
  rw [mapStatements, Text.lines_of_notMem hx.newline hx.ne_nil, List.map_singleton, h]
  rfl

namespace Repair

theorem shapeDocument_root {x : Text} (hx : Text.IsLine x) (htrim : Text.IsTrimmed x)
    (hroot : Line.rootDirection? x = some default) :
    shapeDocument x = Chart.render ⟨default, []⟩ := by
  have hfound : ((Text.lines x).map Text.trim).filter (!·.isEmpty) = [x] := by
    have := hx.ne_nil
    simp [Text.lines_of_notMem hx.newline hx.ne_nil, Text.trim_eq_self htrim, this]
  have hbody : body [x] = (default, []) := by
    rw [body, splitAtRoot?, hroot]
    rfl
  rw [shapeDocument, hfound, hbody]
  rfl

/-- A line without joins that is no statement goes. -/
theorem shapeDocument_dropped {x : Text} (hx : Text.IsLine x) (htrim : Text.IsTrimmed x)
    (hroot : Line.rootDirection? x = none) (hjoin : .join ∉ Item.ofLine x)
    (hdropped : isStatement x = false) : shapeDocument x = Chart.render ⟨default, []⟩ := by
  have hnone : (expandJoins x).filter isStatement = [] := by
    simp [expandJoins_of_notMem hjoin, hdropped]
  rw [shapeDocument_line hx htrim hroot, hnone, ite_self]
  rfl

end Repair

namespace Layout

variable {p : Layout} (hp : p.IsReady)

include hp

/-- Nothing is left of a directive, and nothing but itself of a root declaration. -/
theorem lastRules_of_isMistakable (hm : p.isMistakable = true) :
    Repair.shapeDocument (Repair.normalizeSpacing (Repair.repairEdges p.text))
      = Chart.render ⟨default, []⟩ := by
  have hnot : Line.mayHoldStatement p.text = false := by
    rw [mayHoldStatement_text hp.well, hm]
    rfl
  have hheld (f : Text → Text) : Line.mapFreeText f p.text = p.text :=
    Line.mapStatements_of_not hp.isLine hnot _
  have hfinal : (Entry.statement p).finalText = p.core := if_pos hm
  obtain ⟨hline, -⟩ := Entry.isLine_finalText (e := .statement p) hp
  rw [hfinal] at hline
  have htrim : Text.IsTrimmed p.core := isTrimmed_core hp.well
  have hlines : Repair.normalizeSpacing (Repair.repairEdges p.text) = p.core := by
    have hne := hline.ne_nil
    rw [Repair.normalizeSpacing, Repair.repairEdges, hheld, hheld, Repair.trimLines,
      Text.lines_of_notMem hp.newline hp.isLine.ne_nil]
    simp [trim_text hp.well, hne, Text.joinLines, Text.joinWith]
  rw [hlines]
  cases hroot : p.isRoot with
  | true =>
      have hdirection := (kinds_text hp.well).2
      rw [if_pos hroot, ← Line.rootDirection?_trim, trim_text hp.well] at hdirection
      exact Repair.shapeDocument_root hline htrim hdirection
  | false =>
      have hkept : p.kept = none := by
        rw [kept, hm]
        rfl
      have := Repair.shapeDocument_finalText_lone hp hroot
      rwa [hfinal, hkept] at this

/-- What repair makes of a single line, a root declaration or not. -/
theorem repair_single (hsemi : ';' ∉ p.text) :
    repair p.text = Chart.render ⟨default, Statement.settleAll [] p.kept.toList⟩ := by
  cases hroot : p.isRoot with
  | false => exact repair_lone hp hroot hsemi
  | true =>
      have hm : p.isMistakable = true := by
        rw [isMistakable, hroot, Bool.or_true]
      have hnot : Line.mayHoldStatement p.text = false := by
        rw [mayHoldStatement_text hp.well, hm]
        rfl
      have hheld (f : Text → Text) : Line.mapStatements f p.text = p.text :=
        Line.mapStatements_of_not hp.isLine hnot f
      have hkept : p.kept = none := by
        rw [kept, hm]
        rfl
      rw [Flowchart.repair_eq, Repair.stripQuotes_line hp.isLine.ne_nil hp.newline hsemi
        hp.unquoted, Repair.normalizeBrackets, Line.mapFreeText, hheld, Repair.sanitizeLabels,
        hheld, Repair.sanitizeIdents, hheld, lastRules_of_isMistakable hp hm, hkept]
      rfl

end Layout

end Flowchart
