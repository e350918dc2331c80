import Flowchart.Proofs.TouchedShapes

/-!
# Lines of one arrow

Behind the rule for identifiers, a line is a word and an arrow in front of a shape, or the shape
alone. A canonical arrow leads to the shape, and any other one that is left takes the line with it.
-/

namespace Flowchart

/-! ## Free text of a word and an arrow -/

namespace Token

theorem isArrowText_of_isArrow {x : Text} (hx : ∀ c ∈ x, isArrowChar c = true)
    (h : isArrow x = true) : IsArrowText x := by
  have hrun : arrowRun x = x := List.takeWhile_eq_self_iff.2 hx
  rw [IsArrowText, arrowLength?, hrun, if_pos h, List.drop_length]
  rfl

/-- No arrow begins where no stroke is. -/
theorem startsArrow_of_not_isStroke {s : Text} (hs : ∀ c ∈ s, isStroke c = false) :
    startsArrow s = false := by
  have hzero : (arrowRun s).countP isStroke = 0 := by
    refine List.countP_eq_zero.2 fun c hc => ?_
    rw [hs c ((List.takeWhile_prefix _).subset hc)]
    exact Bool.false_ne_true
  rw [startsArrow, isArrow, hzero]
  rfl

theorem wordRest_of_not_isStroke {s : Text}
    (hs : ∀ c ∈ s, Text.isBlank c = false ∧ c ≠ '&' ∧ c ≠ '|' ∧ isStroke c = false) :
    wordRest s = (s, []) := by
  induction s with
  | nil => rfl
  | cons c s ih =>
      obtain ⟨hblank, hjoin, hpipe, -⟩ := hs c (by simp)
      have hstart := startsArrow_of_not_isStroke fun d hd => (hs d hd).2.2.2
      rw [wordRest, if_neg (by simp [hblank, hjoin, hpipe, hstart]),
        ih fun d hd => hs d (by simp [hd])]

theorem lex_of_not_isStroke {s : Text} (hne : s ≠ [])
    (hs : ∀ c ∈ s, Text.isBlank c = false ∧ c ≠ '&' ∧ c ≠ '|' ∧ isStroke c = false) :
    lex s = [.word s] := by
  obtain ⟨c, s, rfl⟩ := List.exists_cons_of_ne_nil hne
  obtain ⟨hblank, hjoin, hpipe, -⟩ := hs c (by simp)
  have hstart : isArrow (arrowRun (c :: s)) = false :=
    startsArrow_of_not_isStroke fun d hd => (hs d hd).2.2.2
  have hnone : arrowLength? (c :: s) = none := by
    simp [arrowLength?, hstart]
  rw [lex_cons_word hblank hpipe hjoin hnone,
    wordRest_of_not_isStroke fun d hd => hs d (by simp [hd]), lex_nil]

end Token

/-- Nothing of an arrow stays in an identifier. -/
theorem Ident.filter_arrow {x : Text} (hx : ∀ c ∈ x, Token.isArrowChar c = true) :
    x.filter Char.isAlphanum = [] := by
  refine List.filter_eq_nil_iff.2 fun c hc => ?_
  rw [Layout.isAlphanum_eq_false_of_isArrowChar (hx c hc)]
  exact Bool.false_ne_true

section

variable {a x : Text} (ha : Ident.isValid a = true)

include ha

theorem Ident.sanitize_append_arrow (hx : ∀ c ∈ x, Token.isArrowChar c = true) :
    sanitize (a ++ x) = a ∧ sanitize (x ++ a) = a := by
  have hself : a.filter Char.isAlphanum = a := List.filter_eq_self.2 (isValid_iff.1 ha).2.1
  have hres : a ≠ reservedWord := (isValid_iff.1 ha).2.2
  simp [sanitize, filter_arrow hx, hself, hres]

variable (hx : Token.IsArrowText x)

include hx

theorem Token.lex_word_arrow : lex (a ++ x) = [.word a, .arrow x] := by
  have hends : EndsArrow x [] := .inl nofun
  have hlex := lex_arrow_append hx hends
  have hstart := startsArrow_append hx hends
  rw [List.append_nil] at hlex hstart
  rw [Layout.lex_word_append ha (endsWord_of_startsArrow hstart), hlex, lex_nil]

theorem Repair.renderAll_sanitizeWords_arrow :
    Token.renderAll (sanitizeWords false (Token.lex (a ++ x))).1 = a ++ x := by
  rw [Token.lex_word_arrow ha hx]
  simp [sanitizeWords, Layout.sanitize_eq_self ha, Token.renderAll, Token.render]

theorem Repair.repairEdgeText_arrow :
    repairEdgeText (a ++ x) = a ++ if Token.opensLabel x then x else arrow := by
  have hnone : (if Token.opensLabel x then inlineLabel? [] else attachedLabel? []) = none := by
    split <;> rfl
  rw [repairEdgeText, Token.lex_word_arrow ha hx, repairTokens_cons (by simp), Token.render,
    repairTokens_arrow hnone, repairTokens_nil, List.append_nil]

theorem Repair.padArrows_arrow (hspace : ' ' ∉ x) :
    padArrows (a ++ x) = a ++ ' ' :: (x ++ [' ']) := by
  have hword : padTokens [.word a, .arrow x] = a ++ ' ' :: (x ++ [' ']) := by
    simp [padTokens, Token.render]
  have hid : ' ' ∉ a := fun h => absurd ((Ident.isValid_iff.1 ha).2.1 _ h) (by decide)
  obtain ⟨c, z, rfl⟩ := List.exists_cons_of_ne_nil hx.ne_nil
  have hc : c ≠ ' ' := fun h => hspace (by simp [h])
  rw [padArrows, Token.lex_word_arrow ha hx, hword, EdgeText.collapseSpaces_append hid,
    EdgeText.collapseSpaces_cons (.inr (by simpa using hc)), EdgeText.collapseSpaces_append hspace]
  rfl

end

/-! ## Arrows in front of a shape -/

/-- The statement of an edge to a shape. -/
def edgeTo (a : Text) (n : ShapedNode) : Statement := ⟨.bare a, [⟨none, .shaped n⟩]⟩

theorem isClean_edgeTo {a : Text} {n : ShapedNode} (ha : Ident.isValid a = true)
    (hn : n.IsClean) : (edgeTo a n).IsClean := by
  refine ⟨ha, fun k hk => ?_⟩
  rw [List.mem_singleton.1 hk]
  exact ⟨nofun, hn⟩

/-- The line of an edge without a label, whatever its arrow is. -/
def arrowLine (a x : Text) (n : ShapedNode) : Text := a ++ ' ' :: (x ++ ' ' :: n.render)

theorem render_edgeTo (a : Text) (n : ShapedNode) : (edgeTo a n).render = arrowLine a arrow n := by
  simp [arrowLine, edgeTo, Statement.render, Link.render, renderEdge, Node.render]

theorem getLast?_arrowLine (a x : Text) (n : ShapedNode) :
    ∀ c ∈ (arrowLine a x n).getLast?, isCloser c = true := by
  have hsplit : arrowLine a x n
      = (a ++ ' ' :: (x ++ ' ' :: (n.id ++ n.shape.opener :: n.shape.interior n.label)))
        ++ [closerOf n.shape.opener] := by
    rw [arrowLine, ShapedNode.render_eq]
    simp
  intro c hc
  rw [hsplit, List.getLast?_concat] at hc
  cases hc
  exact isCloser_closerOf _

section

variable {a x : Text} {n : ShapedNode} (ha : Ident.isValid a = true) (hn : n.IsClean)
  (hx : ∀ c ∈ x, Token.isArrowChar c = true)

include ha hn

include hx in
theorem newline_notMem_arrowLine : '\n' ∉ arrowLine a x n := by
  have hword := (Token.isPath_word (Ident.isValid_iff.1 ha).2.1).notMem (d := '\n') rfl rfl
  have harrow := (Token.isPath_arrow hx).notMem (d := '\n') rfl rfl
  have hnode : Text.All (· ≠ '\n') n.render :=
    all_node (n := .shaped n) (fun _ => ne_newline_of_isWritten) hn
      fun _ hl _ hc he => hl.newline (he ▸ hc)
  have : '\n' ∉ n.render := fun h => hnode _ h rfl
  simp [arrowLine, hword, harrow, this]

omit hn in
theorem isTrimmed_arrowLine : Text.IsTrimmed (arrowLine a x n) := by
  obtain ⟨hne, halnum, -⟩ := Ident.isValid_iff.1 ha
  refine Text.isTrimmed_word_append hne halnum (by simp) fun c hc => ?_
  rw [← List.getLast?_append_of_ne_nil a (by simp)] at hc
  exact Layout.isBlank_eq_false_of_isCloser (getLast?_arrowLine a x n c hc)

include hx in
theorem isLine_arrowLine : Text.IsLine (arrowLine a x n) :=
  (isTrimmed_arrowLine ha).isLine (by simp [arrowLine]) (newline_notMem_arrowLine ha hn hx)

omit hn in
/-- The second word keeps the line from being a root declaration. -/
theorem rootDirection?_arrowLine (hx : ∀ c ∈ x, Token.isArrowChar c = true) (hne : x ≠ []) :
    Line.rootDirection? (arrowLine a x n) = none := by
  obtain ⟨hid, halnum, -⟩ := Ident.isValid_iff.1 ha
  obtain ⟨c, z, rfl⟩ := List.exists_cons_of_ne_nil hne
  obtain ⟨w, ws, hwords⟩ := Layout.words_behind_blanks (c := c) (b := [' '])
    (s := z ++ ' ' :: n.render) .space (by simp) (hx c (by simp))
  have hlast : ∀ d ∈ (Text.trim (arrowLine a (c :: z) n)).getLast?, d ≠ ';' := by
    rw [Text.trim_eq_self (isTrimmed_arrowLine ha)]
    exact fun d hd => (Line.ends_of_isCloser (getLast?_arrowLine a (c :: z) n d hd)).2
  have hsecond := Line.ofText?_eq_none (w := w)
    (Layout.isAlphanum_eq_false_of_isArrowChar (hx c (by simp)))
  exact Line.rootDirection?_of_second (b := []) .nil hid halnum hlast hwords hsecond

section

variable (hx : ∀ c ∈ x, Token.isArrowChar c = true) (harrow : Token.isArrow x = true)
  (h : IsTouched a (a ++ x) n.id)

include hx harrow h

omit ha in
theorem repairEdges_touched : Repair.repairEdges (a ++ x ++ n.render)
    = (a ++ if Token.opensLabel x then x else arrow) ++ n.render := by
  have hheld := h.mapStatements_render rfl (Label.IsClean.newline hn.2.1)
  rw [Repair.repairEdges, hn.isReadBack.mapFreeText h.toIsApart hheld EdgeText.repairEdgeText_nil,
    Repair.repairEdgeText_arrow h.word (Token.isArrowText_of_isArrow hx harrow)]

theorem normalizeSpacing_touched :
    Repair.normalizeSpacing (a ++ x ++ n.render) = arrowLine a x n := by
  have hheld := h.mapStatements_render rfl (Label.IsClean.newline hn.2.1)
  have hspace : ' ' ∉ x := fun hmem => absurd (hx _ hmem) (by decide)
  have hline : (a ++ ' ' :: (x ++ [' '])) ++ n.render = arrowLine a x n := by simp [arrowLine]
  rw [Repair.normalizeSpacing, hn.isReadBack.mapFreeText h.toIsApart hheld EdgeText.padArrows_nil,
    Repair.padArrows_arrow ha (Token.isArrowText_of_isArrow hx harrow) hspace, hline]
  exact Repair.trimLines_line (isLine_arrowLine ha hn hx) (isTrimmed_arrowLine ha)

end

/-- A canonical arrow leads to the shape. -/
theorem shapeDocument_arrowLine : Repair.shapeDocument (arrowLine a arrow n)
    = Chart.render ⟨default, if a ∈ Line.directiveKeywords then [] else [edgeTo a n]⟩ := by
  have hkeyword : (edgeTo a n).isMistakable = decide (a ∈ Line.directiveKeywords) := by
    simp [edgeTo, Statement.isMistakable]
  rw [← render_edgeTo, Repair.shapeDocument_render (isClean_edgeTo ha hn) rfl, hkeyword]
  by_cases h : a ∈ Line.directiveKeywords
  · rw [decide_eq_true h, if_pos rfl, if_pos h]
    rfl
  · rw [decide_eq_false h, if_neg Bool.false_ne_true, if_neg h]
    rfl

omit hn in
theorem lex_arrow_between (hx : Token.IsArrowText x) :
    Token.lex (a ++ ' ' :: (x ++ [' '])) = [.word a, .space, .arrow x, .space] := by
  have hblanks : Text.IsBlanks [' '] := .space
  have hspace : Token.lex (' ' :: (x ++ [' '])) = .space :: Token.lex (x ++ [' ']) :=
    Token.lex_blanks_append hblanks (by simp) (EdgeText.IsArrowText.head_not_isBlank hx _)
  rw [Layout.lex_word_append ha (Token.endsWord_of_head (.inl rfl)), hspace,
    Token.lex_arrow_append hx (.inl (by simp)), Layout.lex_blanks hblanks]
  rfl

/-- Between its blanks the arrow is read apart from the nodes. -/
theorem ofLine_arrowLine (hx : ∀ c ∈ x, Token.isArrowChar c = true)
    (harrow : Token.isArrow x = true) : Repair.Item.ofLine (arrowLine a x n)
      = [.node (.bare a), .edge x none, .node (.shaped n)] := by
  obtain ⟨hid, halnum, -⟩ := Ident.isValid_iff.1 hn.1
  have hfree : Segment.IsFree (a ++ ' ' :: (x ++ [' '])) := by
    have hspace : Segment.IsFree [' '] := Segment.isFree_of_all (by decide)
    have hword := (Token.isPath_word (Ident.isValid_iff.1 ha).2.1).isFree
    exact hword.append (hspace.append ((Token.isPath_arrow hx).isFree.append hspace))
  have hstops : Segment.StopsGlue (a ++ ' ' :: (x ++ [' '])).reverse := by
    have hrev : (a ++ ' ' :: (x ++ [' '])).reverse = ' ' :: (x.reverse ++ ' ' :: a.reverse) := by
      simp
    rw [hrev]
    intro c hc
    cases hc
    exact .inl rfl
  have hapart : Segment.IsApart (a ++ ' ' :: (x ++ [' '])) n.id :=
    ⟨hfree, hid, Segment.isFree_word halnum, (Segment.isGlued_word hid halnum).glued _ hstops⟩
  have hline : arrowLine a x n = (a ++ ' ' :: (x ++ [' '])) ++ n.render := by simp [arrowLine]
  have hsegment : Layout.textSegment (a ++ ' ' :: (x ++ [' ']))
      = [.text (a ++ ' ' :: (x ++ [' ']))] := by
    simp [Layout.textSegment]
  rw [Repair.Item.ofLine, hline, hn.isReadBack.scan hapart, hsegment]
  show Repair.Item.ofTokens (Token.lex (a ++ ' ' :: (x ++ [' ']))) ++ [.node (.shaped n)] = _
  rw [lex_arrow_between ha (Token.isArrowText_of_isArrow hx harrow)]
  rfl

/-- An arrow that is not canonical leads nowhere. -/
theorem shapeDocument_arrowLine_of_ne (hx : ∀ c ∈ x, Token.isArrowChar c = true)
    (harrow : Token.isArrow x = true) (hne : x ≠ arrow) :
    Repair.shapeDocument (arrowLine a x n) = Chart.render ⟨default, []⟩ := by
  have hitems := ofLine_arrowLine ha hn hx harrow
  have hroot := rootDirection?_arrowLine (n := n) ha hx
    (Token.isArrowText_of_isArrow hx harrow).ne_nil
  have hexpand : Repair.expandJoins (arrowLine a x n) = [arrowLine a x n] :=
    Repair.expandJoins_of_notMem (by simp [hitems])
  have hdropped : Repair.isStatement (arrowLine a x n) = false := by
    rw [Repair.isStatement, hitems]
    simp [Repair.alternates, Repair.isProperEdge, hne]
  rw [Repair.shapeDocument_line (isLine_arrowLine ha hn hx) (isTrimmed_arrowLine ha) hroot, hexpand]
  simp [hdropped, Repair.settleLines, Chart.render]

end

/-! ## A shape on its own -/

namespace ShapedNode

/-- A shape behind letters and digits, which may spell the reserved word. -/
structure IsLone (n : ShapedNode) : Prop where
  ne_nil : n.id ≠ []
  alphanum : ∀ c ∈ n.id, c.isAlphanum = true
  label : Label.IsClean n.label
  plain : Label.HasPlainEnds n.label

namespace IsLone

variable {n : ShapedNode} (hn : n.IsLone)

include hn

theorem isApart : Segment.IsApart [] n.id :=
  ⟨.nil, hn.ne_nil, Segment.isFree_word hn.alphanum,
    (Segment.isGlued_word hn.ne_nil hn.alphanum).glued [] nofun⟩

theorem isReadBack : n.IsReadBack := isReadBack_of_isClean hn.label hn.plain

theorem newline_notMem : '\n' ∉ n.render := by
  have hall : Text.All (· ≠ '\n') n.render :=
    all_render_node (fun _ => ne_newline_of_isWritten)
      (fun c hc he => (Token.isPath_word hn.alphanum).notMem (d := '\n') rfl rfl (he ▸ hc))
      fun c hc he => hn.label.newline (he ▸ hc)
  exact fun h => hall _ h rfl

omit hn in
theorem exists_render_eq (n : ShapedNode) : ∃ r, n.render = n.id ++ r ∧
    n.shape.opener ∈ r.head? ∧ ∀ d ∈ r.getLast?, isCloser d = true := by
  refine ⟨n.shape.opener :: n.shape.interior n.label ++ [closerOf n.shape.opener], ?_, rfl, ?_⟩
  · rw [render_eq, List.append_assoc]
  · intro d hd
    rw [List.getLast?_concat] at hd
    cases hd
    exact isCloser_closerOf _

theorem isTrimmed : Text.IsTrimmed n.render := by
  obtain ⟨r, hr, hhead, hlast⟩ := exists_render_eq n
  have hne : r ≠ [] := by
    rintro rfl
    cases hhead
  rw [hr]
  exact Text.isTrimmed_word_append hn.ne_nil hn.alphanum hne
    fun c hc => Layout.isBlank_eq_false_of_isCloser (hlast c hc)

theorem isLine : Text.IsLine n.render := by
  refine hn.isTrimmed.isLine ?_ hn.newline_notMem
  rw [render_eq]
  simp

theorem kinds : Line.isDirective n.render = false ∧ Line.rootDirection? n.render = none := by
  obtain ⟨r, hr, hhead, hlast⟩ := exists_render_eq n
  obtain ⟨halnum, hblank, hsemi⟩ := Layout.head_opener n.shape.isOpener_opener
  rw [hr]
  exact Line.kinds_glued hn.ne_nil hn.alphanum hhead halnum hblank hsemi
    fun d hd => Line.ends_of_isCloser (hlast d hd)

theorem mapFreeText {f : Text → Text} (hf : f [] = []) :
    Line.mapFreeText f n.render = n.render := by
  obtain ⟨hdirective, hroot⟩ := hn.kinds
  have hmay : Line.mayHoldStatement n.render = true := by
    rw [Line.mayHoldStatement, hdirective, hroot]
    rfl
  have hmap := hn.isReadBack.mapFreeText hn.isApart (Line.mapStatements_line hn.isLine hmay) hf
  rwa [hf] at hmap

theorem normalizeSpacing_repairEdges :
    Repair.normalizeSpacing (Repair.repairEdges n.render) = n.render := by
  have hedges : Repair.repairEdges n.render = n.render :=
    hn.mapFreeText EdgeText.repairEdgeText_nil
  have harrows : Line.mapFreeText Repair.padArrows n.render = n.render :=
    hn.mapFreeText EdgeText.padArrows_nil
  rw [hedges, Repair.normalizeSpacing, harrows, Repair.trimLines_line hn.isLine hn.isTrimmed]

theorem isClean (hid : Ident.isValid n.id = true) : n.IsClean :=
  ⟨hid, hn.label, Label.hasPlainEnds_iff.1 hn.plain⟩

/-- The line is lost if its identifier is the reserved word. -/
theorem shapeDocument : Repair.shapeDocument n.render = Chart.render
    ⟨default, if Ident.isValid n.id = true then [⟨.shaped n, []⟩] else []⟩ := by
  obtain ⟨hdirective, hroot⟩ := hn.kinds
  have hscan : Segment.scan n.render = [.node n] := hn.isReadBack.scan hn.isApart
  have hitems : Repair.Item.ofLine n.render = [.node (.shaped n)] := by
    rw [Repair.Item.ofLine, hscan]
    rfl
  have hexpand : Repair.expandJoins n.render = [n.render] :=
    Repair.expandJoins_of_notMem (by simp [hitems])
  have hproper : Repair.isStatement n.render = Ident.isValid n.id := by
    have hne : n.label ≠ [] := hn.label.1
    have hlegal : n.label.any Label.isIllegal = false := by
      rw [List.any_eq_false]
      intro c hc
      rw [hn.label.isLegal c hc]
      exact Bool.false_ne_true
    rw [Repair.isStatement, hitems, Repair.alternates, Repair.isProperNode, hlegal]
    simp [hne]
  have hsettle : Repair.settleLines [] [n.render] = [n.render] := by
    rw [Repair.settleLines, hscan]
    simp [Repair.settleSegments, Segment.renderAll, Segment.render, Repair.settleLines]
  rw [Repair.shapeDocument_line hn.isLine hn.isTrimmed hroot, hdirective,
    if_neg Bool.false_ne_true, hexpand, List.filter_cons, hproper, List.filter_nil]
  split
  · rw [hsettle]
    simp [Chart.render, Statement.render, Node.render]
  · rfl

end IsLone

end ShapedNode

end Flowchart
