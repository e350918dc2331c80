import Flowchart.Proofs.ArrowLines

/-!
# Arrows with and without blanks

An arrow in front of a rectangle is written with blanks around it or without. With blanks it always
leads there. Without them the rectangle takes the end of the arrow for a part of its identifier, and
both spellings come to the same as long as what is left still finishes the edge.
-/

namespace Flowchart

/-! ## An arrow that is cut -/

section

variable {a b r : Text} (ha : Ident.isValid a = true) (hb : Ident.isValid b = true)
  (hr : ∀ c ∈ r, Token.isArrowChar c = true)

include ha hb hr

theorem isPath_line : Token.IsPath (a ++ (r ++ b)) :=
  (Token.isPath_word (Ident.isValid_iff.1 ha).2.1).append
    ((Token.isPath_arrow hr).append (Token.isPath_word (Ident.isValid_iff.1 hb).2.1))

/-- The shape takes the end of the arrow. -/
theorem isTouched_gluedPart (h : Token.leftPart r ≠ []) :
    IsTouched a (a ++ Token.leftPart r) (Token.gluedPart r ++ b) := by
  obtain ⟨hane, halnum, -⟩ := Ident.isValid_iff.1 ha
  obtain ⟨hbne, hbnum, -⟩ := Ident.isValid_iff.1 hb
  have hparts := Token.leftPart_append_gluedPart hr
  have hsplit : (a ++ Token.leftPart r) ++ (Token.gluedPart r ++ b) = a ++ (r ++ b) := by
    conv_rhs => rw [← hparts]
    simp
  have hpath := isPath_line ha hb hr
  rw [← hsplit] at hpath
  have hback : (Token.gluedPart r ++ b).reverse ++ (a ++ Token.leftPart r).reverse
      = b.reverse ++ (r.reverse ++ a.reverse) := by
    conv_rhs => rw [← hparts]
    simp
  have hglued := Token.gluedId_arrow hr halnum hbnum h
  obtain ⟨c, z, hcons⟩ := List.exists_cons_of_ne_nil h
  refine ⟨⟨Token.IsPath.isFree fun c hc => hpath c (List.mem_append_left _ hc), by simp [hbne],
    Token.IsPath.isFree fun c hc => hpath c (List.mem_append_right _ hc), ?_⟩, ha, hpath,
    c, z ++ (Token.gluedPart r ++ b), by simp [hcons], ?_⟩
  · rw [hback, hglued, List.reverse_append]
  · exact Token.isArrowChar_leftPart hr c (by simp [hcons])

theorem isTouched_leftPart (h : Token.leftPart r ≠ []) : IsTouched a (a ++ Token.leftPart r) b := by
  obtain ⟨hane, halnum, -⟩ := Ident.isValid_iff.1 ha
  obtain ⟨hbne, hbnum, -⟩ := Ident.isValid_iff.1 hb
  have hleft := Token.isArrowChar_leftPart hr
  have hpath := isPath_line ha hb hleft
  rw [← List.append_assoc] at hpath
  have hglued := Token.gluedId_leftPart hr halnum hbnum h
  obtain ⟨c, z, hcons⟩ := List.exists_cons_of_ne_nil h
  refine ⟨⟨Token.IsPath.isFree fun c hc => hpath c (List.mem_append_left _ hc), hbne,
    Segment.isFree_word hbnum, ?_⟩, ha, hpath, c, z ++ b, by simp [hcons], ?_⟩
  · rw [List.reverse_append, hglued]
  · exact hleft c (by simp [hcons])

theorem isTouched_whole (hne : r ≠ []) (h : Token.leftPart r = []) :
    IsTouched a [] (a ++ (r ++ b)) := by
  obtain ⟨hane, halnum, -⟩ := Ident.isValid_iff.1 ha
  obtain ⟨hbne, hbnum, -⟩ := Ident.isValid_iff.1 hb
  have hpath := isPath_line ha hb hr
  have hglued := Token.gluedId_arrow_of_nil hr halnum hbnum h
  obtain ⟨c, z, rfl⟩ := List.exists_cons_of_ne_nil hne
  refine ⟨⟨.nil, by simp [hane], hpath.isFree, ?_⟩, ha, hpath, c, z ++ b, rfl, hr c (by simp)⟩
  simpa using hglued

end

/-! ## Both spellings -/

/-- An edge to a rectangle, written without a blank. -/
def tightLine (a r b l : Text) : Text := a ++ (r ++ (b ++ '[' :: l ++ [']']))

def spacedLine (a r b l : Text) : Text := a ++ ' ' :: (r ++ ' ' :: (b ++ '[' :: l ++ [']']))

/-- The target of the edge behind blanks. -/
def spacedTarget (b l : Text) : ShapedNode := Repair.relabel (ShapedNode.ofInterior b '[' l)

/-- The target of the edge behind the arrow, whose end may become the label. -/
def tightTarget (r b l : Text) : ShapedNode :=
  ⟨b, (Segment.classifyInterior '[' l).1,
    (Repair.relabel (ShapedNode.ofInterior (Token.gluedPart r ++ b) '[' l)).label⟩

/-- A character that neither ends a line nor is one for the first two rules. -/
def IsInert (c : Char) : Prop := c ≠ '\n' ∧ c ≠ ';' ∧ Label.isQuotationMark c = false

theorem Token.IsPath.isInert {t : Text} (ht : IsPath t) : Text.All IsInert t := fun c hc =>
  ⟨fun he => ht.notMem (d := '\n') rfl rfl (he ▸ hc),
    fun he => ht.notMem (d := ';') rfl rfl (he ▸ hc), ht.isUnquoted c hc⟩

theorem Label.IsClean.isInert {l : Text} (hl : IsClean l) : Text.All IsInert l := fun c hc =>
  ⟨fun he => hl.newline (he ▸ hc),
    fun he => absurd (hl.not_isIllegal (he ▸ hc : ';' ∈ l)) (by decide), hl.not_isQuotationMark hc⟩

theorem Repair.stripQuotes_isInert {x : Text} (hne : x ≠ []) (hx : Text.All IsInert x) :
    stripQuotes (splitStatements x) = x :=
  stripQuotes_line hne (fun h => (hx _ h).1 rfl) (fun h => (hx _ h).2.1 rfl)
    fun c hc => (hx c hc).2.2

section

variable {a b r l : Text} (ha : Ident.isValid a = true) (hb : Ident.isValid b = true)
  (hr : ∀ c ∈ r, Token.isArrowChar c = true) (hl : Label.IsClean l)

include ha hb hr hl

theorem isInert_lines :
    Text.All IsInert (tightLine a r b l) ∧ Text.All IsInert (spacedLine a r b l) := by
  have hword := (Token.isPath_word (Ident.isValid_iff.1 ha).2.1).isInert
  have harrow := (Token.isPath_arrow hr).isInert
  have htarget := (Token.isPath_word (Ident.isValid_iff.1 hb).2.1).isInert
  have hsign : ∀ c ∈ [' ', '[', ']'], IsInert c := by
    intro c hc
    simp only [List.mem_cons, List.not_mem_nil, or_false] at hc
    rcases hc with rfl | rfl | rfl <;> exact ⟨by decide, by decide, by decide⟩
  have hspace := hsign ' ' (by simp)
  have hshape : Text.All IsInert (b ++ '[' :: l ++ [']']) :=
    (htarget.append (.cons (hsign '[' (by simp)) hl.isInert)).append
      (.cons (hsign ']' (by simp)) .nil)
  exact ⟨hword.append (harrow.append hshape),
    hword.append (.cons hspace (harrow.append (.cons hspace hshape)))⟩

def spacedLayout (a r b l : Text) : Layout :=
  ⟨[], .bare a, [(.plain [' '] r [' '], .shaped b '[' l)], []⟩

omit ha hb hr hl in
theorem text_spacedLayout (a r b l : Text) : (spacedLayout a r b l).text = spacedLine a r b l := by
  simp [spacedLayout, Layout.text, Layout.linksText, NodeText.text, EdgeText.text, spacedLine,
    closerOf]

omit ha hb hr in
theorem statement_spacedLayout :
    (spacedLayout a r b l).statement = edgeTo a (spacedTarget b l) := by
  have hself : (NodeText.ofNode (NodeText.shaped b '[' l).node).node
      = .shaped (ShapedNode.ofInterior b '[' l) :=
    congrArg Node.shaped (ShapedNode.isReadBack_ofInterior hl b).ofInterior
  have hfinal : Layout.finalNode (.shaped b '[' l) = .shaped (spacedTarget b l) := by
    rw [Layout.finalNode, hself]
    rfl
  show Statement.mk _ [⟨_, Layout.finalNode (.shaped b '[' l)⟩] = _
  rw [hfinal]
  rfl

omit ha hb hr in
theorem kept_spacedLayout : (spacedLayout a r b l).kept
    = if a ∈ Line.directiveKeywords then none else some (edgeTo a (spacedTarget b l)) := by
  have hdirective : (spacedLayout a r b l).isMistakable = decide (a ∈ Line.directiveKeywords) := by
    simp [spacedLayout, Layout.isMistakable, Layout.isDirective, Layout.isRoot, Layout.endsFirst,
      EdgeText.before]
  have hlost : (edgeTo a (spacedTarget b l)).isMistakable
      = decide (a ∈ Line.directiveKeywords) := by
    simp [edgeTo, Statement.isMistakable]
  rw [Layout.kept, statement_spacedLayout hl, hdirective, hlost, Bool.or_self]
  simp

variable (harrow : Token.isArrow r = true) (hopen : Token.opensLabel r = false)

include harrow hopen

theorem isReady_spacedLayout : (spacedLayout a r b l).IsReady := by
  have hread := ShapedNode.isReadBack_ofInterior hl b
  have hfirst : (NodeText.bare a).IsWell := by
    refine ⟨ha, fun id c i he => ?_⟩
    cases he
  have hedge : (EdgeText.plain [' '] r [' ']).IsWell :=
    ⟨.space, ⟨Token.isArrowText_of_isArrow hr harrow, hopen⟩, .space, .inl ⟨' ', rfl, .inl rfl⟩⟩
  have htarget : (NodeText.shaped b '[' l).IsWell := by
    refine ⟨hb, fun id c i he => ?_⟩
    cases he
    exact ⟨rfl, hl.isLegal.isBalanced, hread.legal⟩
  have hinert := (isInert_lines ha hb hr hl).2
  rw [← text_spacedLayout] at hinert
  refine ⟨⟨.nil, hfirst, fun k hk => ?_, .nil⟩, fun h => (hinert _ h).1 rfl,
    fun c hc => (hinert c hc).2.2, fun hlast => by cases hlast⟩
  rw [List.mem_singleton.1 hk]
  exact ⟨hedge, htarget⟩

theorem repair_spacedLine : repair (spacedLine a r b l) = Chart.render ⟨default,
    if a ∈ Line.directiveKeywords then [] else [edgeTo a (spacedTarget b l)]⟩ := by
  have hsemi : ';' ∉ spacedLine a r b l := fun h => ((isInert_lines ha hb hr hl).2 _ h).2.1 rfl
  rw [← text_spacedLayout] at hsemi ⊢
  rw [Layout.repair_lone (isReady_spacedLayout ha hb hr hl harrow hopen) rfl hsemi,
    kept_spacedLayout hl]
  split <;> rfl

end

/-! ## What becomes of the line without blanks -/

/-- Any line in which a shape takes its identifier from an arrow. -/
theorem IsTouched.repair_eq {a t id l : Text} (h : IsTouched a t id) (hl : Label.IsClean l)
    (hinert : Text.All IsInert (t ++ (id ++ '[' :: l ++ [']']))) :
    repair (t ++ (id ++ '[' :: l ++ [']']))
      = Repair.shapeDocument (Repair.normalizeSpacing (Repair.repairEdges
          (Token.renderAll (Repair.sanitizeWords false (Token.lex t)).1
            ++ (Repair.reidentify (Repair.relabel (ShapedNode.ofInterior id '[' l))).render))) := by
  rw [Flowchart.repair_eq, Repair.stripQuotes_isInert (by simp) hinert, h.sanitizeIdents_line hl]

theorem Repair.reidentify_eq {n : ShapedNode} (h : Ident.sanitize n.id ≠ []) :
    reidentify n = { n with id := Ident.sanitize n.id } := by
  simp [reidentify, orElseText, h]

theorem shapeDocument_touched {a x : Text} {n : ShapedNode} (ha : Ident.isValid a = true)
    (hn : n.IsClean) (hx : ∀ c ∈ x, Token.isArrowChar c = true) (harrow : Token.isArrow x = true)
    (h : IsTouched a (a ++ x) n.id) :
    Repair.shapeDocument (Repair.normalizeSpacing (Repair.repairEdges (a ++ x ++ n.render)))
      = Chart.render ⟨default,
        if Token.opensLabel x = true ∨ a ∈ Line.directiveKeywords then []
        else [edgeTo a n]⟩ := by
  rw [repairEdges_touched hn hx harrow h]
  cases hopen : Token.opensLabel x with
  | true =>
      have hother : x ≠ arrow := by
        rintro rfl
        exact absurd hopen (by decide)
      rw [if_pos rfl, normalizeSpacing_touched ha hn hx harrow h,
        shapeDocument_arrowLine_of_ne ha hn hx harrow hother, if_pos (.inl rfl)]
  | false =>
      have hcanonical : ∀ c ∈ arrow, Token.isArrowChar c = true := List.all_eq_true.1 (by decide)
      have hself : Token.leftPart arrow = arrow := by decide
      have htouched := isTouched_leftPart ha hn.1 hcanonical (by decide)
      rw [hself] at htouched
      rw [if_neg Bool.false_ne_true, normalizeSpacing_touched ha hn hcanonical (by decide) htouched,
        shapeDocument_arrowLine ha hn]
      simp

section

variable {a b r l : Text} (ha : Ident.isValid a = true) (hb : Ident.isValid b = true)
  (hr : ∀ c ∈ r, Token.isArrowChar c = true) (hl : Label.IsClean l)

include ha hb hr hl

theorem repair_tightLine (h : Token.isArrow (Token.leftPart r) = true) :
    repair (tightLine a r b l) = Chart.render ⟨default,
      if Token.opensLabel (Token.leftPart r) = true ∨ a ∈ Line.directiveKeywords then []
      else [edgeTo a (tightTarget r b l)]⟩ := by
  have hne : Token.leftPart r ≠ [] := by
    intro he
    rw [he] at h
    exact absurd h (by decide)
  have hleft := Token.isArrowChar_leftPart hr
  have hglued := Token.isArrowChar_gluedPart hr
  have hsplit : tightLine a r b l
      = (a ++ Token.leftPart r) ++ ((Token.gluedPart r ++ b) ++ '[' :: l ++ [']']) := by
    simp only [tightLine, List.append_assoc]
    rw [← List.append_assoc (Token.leftPart r), Token.leftPart_append_gluedPart hr]
  have htouched := isTouched_gluedPart ha hb hr hne
  obtain ⟨hlabel, hends⟩ := htouched.isClean_label hl
  obtain ⟨m, hm⟩ : ∃ m,
      Repair.relabel (ShapedNode.ofInterior (Token.gluedPart r ++ b) '[' l) = m := ⟨_, rfl⟩
  have hid : m.id = Token.gluedPart r ++ b := by
    rw [← hm]
    rfl
  have htarget : tightTarget r b l = { m with id := b } := by
    rw [← hm]
    rfl
  rw [hm] at hlabel hends
  have hsanitized : Ident.sanitize m.id = b := by
    rw [hid]
    exact (Ident.sanitize_append_arrow hb hglued).2
  have hinert := (isInert_lines ha hb hr hl).1
  rw [hsplit] at hinert ⊢
  rw [htouched.repair_eq hl hinert, hm, Repair.renderAll_sanitizeWords_arrow ha
    (Token.isArrowText_of_isArrow hleft h), Repair.reidentify_eq
    (by rw [hsanitized]; exact (Ident.isValid_iff.1 hb).1), hsanitized, htarget]
  exact shapeDocument_touched ha ⟨hb, hlabel, Label.hasPlainEnds_iff.1 hends⟩ hleft h
    (isTouched_leftPart ha hb hr hne)

omit hb hr hl in
/-- No keyword of a directive begins the reserved word. -/
theorem isValid_append_of_mem (hb : Ident.isValid b = true) (h : a ∈ Line.directiveKeywords) :
    Ident.isValid (a ++ b) = true := by
  obtain ⟨hane, halnum, -⟩ := Ident.isValid_iff.1 ha
  obtain ⟨hbne, hbnum, -⟩ := Ident.isValid_iff.1 hb
  have hlong : 3 ≤ a.length :=
    (by decide : ∀ k ∈ Line.directiveKeywords, 3 ≤ k.length) a h
  have hpos := List.length_pos_iff.2 hbne
  refine Ident.isValid_iff.2 ⟨by simp [hane], fun c hc => ?_, fun he => ?_⟩
  · exact (List.mem_append.1 hc).elim (halnum c) (hbnum c)
  · have hlength := congrArg List.length he
    have hreserved : Ident.reservedWord.length = 3 := rfl
    rw [List.length_append, hreserved] at hlength
    omega

omit hl in
/-- Where no arrow is left, the identifier of the shape takes both words. -/
theorem exists_isTouched_merged (hne : r ≠ []) (h : Token.isArrow (Token.leftPart r) = false) :
    ∃ t id w, IsTouched a t id ∧ a ++ (r ++ b) = t ++ id ∧ w ≠ [] ∧
      (∀ c ∈ w, c.isAlphanum = true) ∧ (a ∈ Line.directiveKeywords → Ident.isValid w = true) ∧
        Ident.sanitize id ≠ [] ∧
        Token.renderAll (Repair.sanitizeWords false (Token.lex t)).1 ++ Ident.sanitize id = w := by
  obtain ⟨hane, halnum, -⟩ := Ident.isValid_iff.1 ha
  obtain ⟨hbne, hbnum, -⟩ := Ident.isValid_iff.1 hb
  by_cases hp : Token.leftPart r = []
  · -- the identifier is the whole text
    have htouched := isTouched_whole ha hb hr hne hp
    have hkept : (a ++ (r ++ b)).filter Char.isAlphanum = a ++ b := by
      rw [List.filter_append, List.filter_append, Ident.filter_arrow hr,
        List.filter_eq_self.2 halnum, List.filter_eq_self.2 hbnum, List.nil_append]
    have hsome : Ident.sanitize (a ++ (r ++ b)) ≠ [] := by
      rw [Ident.sanitize, hkept]
      split <;> simp [hane]
    have hvalid := Ident.isValid_sanitize hsome
    refine ⟨[], a ++ (r ++ b), _, htouched, rfl, hsome, (Ident.isValid_iff.1 hvalid).2.1,
      fun _ => hvalid, hsome, ?_⟩
    rw [Token.lex_nil]
    rfl
  · -- what is left of the arrow stays in the first word, up to the rule for identifiers
    have htouched := isTouched_gluedPart ha hb hr hp
    have hleft := Token.isArrowChar_leftPart hr
    have hglued := Token.isArrowChar_gluedPart hr
    have hsanitized : Ident.sanitize (Token.gluedPart r ++ b) = b :=
      (Ident.sanitize_append_arrow hb hglued).2
    have hstrokes := Token.isArrow_leftPart hr h
    have hlex : Token.lex (a ++ Token.leftPart r) = [.word (a ++ Token.leftPart r)] := by
      have hpath : Token.IsPath (a ++ Token.leftPart r) :=
        (Token.isPath_word halnum).append (Token.isPath_arrow hleft)
      refine Token.lex_of_not_isStroke (by simp [hane]) fun c hc => ⟨?_, ?_, ?_, ?_⟩
      · exact hpath.not_isBlank c hc
      · exact fun he => hpath.notMem (d := '&') rfl rfl (he ▸ hc)
      · exact fun he => hpath.notMem (d := '|') rfl rfl (he ▸ hc)
      · exact (List.mem_append.1 hc).elim
          (fun hc => Token.not_isStroke_of_isAlphanum (halnum c hc)) (hstrokes c)
    refine ⟨a ++ Token.leftPart r, Token.gluedPart r ++ b, a ++ b, htouched, ?_, by simp [hane],
      fun c hc => (List.mem_append.1 hc).elim (halnum c) (hbnum c),
      isValid_append_of_mem ha hb, by rw [hsanitized]; exact hbne, ?_⟩
    · rw [List.append_assoc, ← List.append_assoc (Token.leftPart r),
        Token.leftPart_append_gluedPart hr]
    · rw [hlex, hsanitized]
      simp [Repair.sanitizeWords, Token.renderAll, Token.render,
        (Ident.sanitize_append_arrow ha hleft).1]

theorem exists_repair_tightLine (hne : r ≠ []) (h : Token.isArrow (Token.leftPart r) = false) :
    ∃ n : ShapedNode, n.IsLone ∧ (a ∈ Line.directiveKeywords → Ident.isValid n.id = true) ∧
      repair (tightLine a r b l) = Chart.render
        ⟨default, if Ident.isValid n.id = true then [⟨.shaped n, []⟩] else []⟩ := by
  obtain ⟨t, id, w, htouched, hsplit, hwne, hwnum, hkeyword, hsome, hmerged⟩ :=
    exists_isTouched_merged ha hb hr hne h
  obtain ⟨hlabel, hends⟩ := htouched.isClean_label hl
  have hline : tightLine a r b l = t ++ (id ++ '[' :: l ++ [']']) := by
    have hassoc : tightLine a r b l = (a ++ (r ++ b)) ++ ('[' :: l ++ [']']) := by
      simp [tightLine]
    rw [hassoc, hsplit]
    simp
  have hinert := (isInert_lines ha hb hr hl).1
  rw [hline] at hinert ⊢
  obtain ⟨m, hm⟩ : ∃ m, Repair.relabel (ShapedNode.ofInterior id '[' l) = m := ⟨_, rfl⟩
  have hid : m.id = id := by
    rw [← hm]
    rfl
  have hrepair := htouched.repair_eq hl hinert
  rw [hm] at hlabel hends hrepair
  have hlone : ShapedNode.IsLone { m with id := w } := ⟨hwne, hwnum, hlabel, hends⟩
  have hrender : Token.renderAll (Repair.sanitizeWords false (Token.lex t)).1
      ++ (Repair.reidentify m).render = ShapedNode.render { m with id := w } := by
    rw [Repair.reidentify_eq (by rwa [hid]), hid, ShapedNode.render, ShapedNode.render,
      ← List.append_assoc, hmerged]
  rw [hrender, hlone.normalizeSpacing_repairEdges, hlone.shapeDocument] at hrepair
  exact ⟨{ m with id := w }, hlone, hkeyword, hrepair⟩

end

/-! ## Where both spellings come to the same -/

theorem Token.IsPath.cleanShapeLabel {t : Text} (ht : IsPath t) (hne : t ≠ []) :
    Repair.cleanShapeLabel t = t := by
  have hillegal : ∀ c ∈ t, Label.isIllegal c = false := by
    intro c hc
    by_contra h
    have hmem : c ∈ Label.illegalChars := by simpa [Label.isIllegal] using h
    have hall : Label.illegalChars.all (fun d => !d.isAlphanum && !isArrowChar d) = true := by
      decide
    have hplain : c.isAlphanum = false ∧ isArrowChar c = false := by
      simpa using List.all_eq_true.1 hall c hmem
    exact ht.notMem hplain.1 hplain.2 hc
  have hslash : ∀ c ∈ t, Label.isSlash c = false := by
    intro c hc
    have hforward : c ≠ '/' := fun he => ht.notMem (d := '/') rfl rfl (he ▸ hc)
    have hback : c ≠ '\\' := fun he => ht.notMem (d := '\\') rfl rfl (he ▸ hc)
    simp [Label.isSlash, hforward, hback]
  have hclean : Label.clean t = t := by
    rw [Label.clean_eq_joinWith_words hillegal, Text.words_word ⟨hne, ht.not_isBlank⟩]
    rfl
  rw [Repair.cleanShapeLabel, hclean, Label.trimSlashes_eq_self
    ⟨fun c hc => ht.not_isBlank c (List.mem_of_mem_head? hc),
      fun c hc => ht.not_isBlank c (List.mem_of_getLast? hc)⟩
    ⟨fun c hc => hslash c (List.mem_of_mem_head? hc),
      fun c hc => hslash c (List.mem_of_getLast? hc)⟩]

/-- A label that comes out empty is replaced by the identifier as it stands. -/
theorem label_relabel_ofInterior {id l : Text} (hid : Token.IsPath id) (hne : id ≠ [])
    (hl : Label.IsClean l) : (Repair.relabel (ShapedNode.ofInterior id '[' l)).label
      = if Repair.cleanShapeLabel l = [] then id
        else Repair.cleanShapeLabel (Segment.classifyInterior '[' l).2 := by
  have hempty := ShapedNode.cleanShapeLabel_ofInterior hl id
  rw [ShapedNode.ofInterior] at hempty ⊢
  dsimp only [Repair.relabel] at hempty ⊢
  by_cases h : Repair.cleanShapeLabel l = []
  · rw [hempty.2 h, if_pos h, hid.cleanShapeLabel hne]
    simp [hne]
  · have hlabel := mt hempty.1 h
    rw [if_neg h]
    simp [hlabel]

theorem Chart.eq_of_render_settleAll {ss ts : List Statement} (hss : ∀ s ∈ ss, s.IsClean)
    (hts : ∀ s ∈ ts, s.IsClean)
    (h : Chart.render ⟨default, Statement.settleAll [] ss⟩
      = Chart.render ⟨default, Statement.settleAll [] ts⟩) :
    (⟨default, ss⟩ : Chart).edges = (⟨default, ts⟩ : Chart).edges ∧
      ∀ id, id ∈ Node.ids (⟨default, ss⟩ : Chart).nodes
        ↔ id ∈ Node.ids (⟨default, ts⟩ : Chart).nodes := by
  obtain ⟨x, hx, hxfound⟩ := Chart.exists_isFound_settleAll default hss
  obtain ⟨y, hy, hyfound⟩ := Chart.exists_isFound_settleAll default hts
  rw [h, hy] at hx
  cases hx
  exact ⟨hxfound.edges.symm.trans hyfound.edges,
    fun id => (hxfound.ids id).symm.trans (hyfound.ids id)⟩

theorem spacedTarget_eq (b l : Text) : spacedTarget b l
    = ⟨b, (Segment.classifyInterior '[' l).1, (spacedTarget b l).label⟩ := by
  have hparts (n : ShapedNode) : n = ⟨n.id, n.shape, n.label⟩ := rfl
  exact hparts _

theorem tightTarget_eq_iff_label (r b l : Text) : tightTarget r b l = spacedTarget b l
    ↔ (tightTarget r b l).label = (spacedTarget b l).label := by
  constructor
  · intro h
    rw [h]
  · intro h
    rw [spacedTarget_eq, ← h, tightTarget]

section

variable {a b r l : Text} (ha : Ident.isValid a = true) (hb : Ident.isValid b = true)
  (hr : ∀ c ∈ r, Token.isArrowChar c = true) (hl : Label.IsClean l)

include hb hr hl

/-- The nodes differ if an empty label shows how much of the arrow was glued. -/
theorem tightTarget_eq_iff : tightTarget r b l = spacedTarget b l
    ↔ Token.leftPart r = r ∨ ∃ c ∈ l, Label.isSlash c = false ∧ Text.isBlank c = false := by
  obtain ⟨hbne, hbnum, -⟩ := Ident.isValid_iff.1 hb
  have hglued := Token.isArrowChar_gluedPart hr
  have hparts : Token.leftPart r = r ↔ Token.gluedPart r = [] := by
    have := Token.leftPart_append_gluedPart hr
    constructor
    · intro h
      rw [h] at this
      simpa using this
    · intro h
      rw [h, List.append_nil] at this
      exact this
  have hlabel := label_relabel_ofInterior (Token.isPath_word hbnum) hbne hl
  have hpath := (Token.isPath_arrow hglued).append (Token.isPath_word hbnum)
  have hother := label_relabel_ofInterior hpath (by simp [hbne]) hl
  rw [tightTarget_eq_iff_label, tightTarget, spacedTarget, hlabel, hother, hparts,
    ← cleanShapeLabel_ne_nil_iff hl]
  by_cases h : Repair.cleanShapeLabel l = []
  · rw [if_pos h, if_pos h]
    simp [h]
  · rw [if_neg h, if_neg h]
    simp [h]

include ha

theorem isClean_targets : (spacedTarget b l).IsClean ∧
    (Token.leftPart r ≠ [] → (tightTarget r b l).IsClean) := by
  constructor
  · have hquote : ∀ c ∈ (ShapedNode.ofInterior b '[' l).label, Label.isQuotationMark c = false :=
      fun c hc => hl.not_isQuotationMark (Segment.mem_of_mem_classifyInterior hc)
    exact Layout.isClean_relabel (n := ShapedNode.ofInterior b '[' l) hb hquote
  · intro h
    obtain ⟨hlabel, hends⟩ := (isTouched_gluedPart ha hb hr h).isClean_label hl
    have hplain := Label.hasPlainEnds_iff.1 hends
    generalize hm : (Repair.relabel (ShapedNode.ofInterior (Token.gluedPart r ++ b) '[' l)).label
      = k at hlabel hplain
    rw [tightTarget, hm]
    exact ⟨hb, hlabel, hplain⟩

end

theorem render_edgeTo_eq_iff (a r b l : Text) :
    Chart.render ⟨default, Statement.settleAll [] [edgeTo a (tightTarget r b l)]⟩
      = Chart.render ⟨default, Statement.settleAll [] [edgeTo a (spacedTarget b l)]⟩
        ↔ tightTarget r b l = spacedTarget b l := by
  refine ⟨fun h => ?_, fun h => by rw [h]⟩
  have hrender (n : ShapedNode) :
      Chart.render ⟨default, Statement.settleAll [] [edgeTo a n]⟩
        = (Chart.rootLine default ++ '\n' :: (a ++ ' ' :: (arrow ++ [' '])))
          ++ (n.id ++ (n.shape.opening ++ (n.label ++ n.shape.closing))) := by
    have : Statement.settleAll [] [edgeTo a n] = [edgeTo a n] := rfl
    rw [this]
    simp [Chart.render, Text.joinLines, Text.joinWith, edgeTo, Statement.render, Link.render,
      renderEdge, Node.render, ShapedNode.render, Shape.wrap]
  rw [hrender, hrender, spacedTarget_eq, tightTarget] at h
  rw [tightTarget_eq_iff_label, tightTarget]
  dsimp only at h ⊢
  rw [List.append_cancel_left_eq, List.append_cancel_left_eq, List.append_cancel_left_eq] at h
  exact List.append_cancel_right h

section

variable {a b r l : Text} (ha : Ident.isValid a = true) (hb : Ident.isValid b = true)
  (hr : ∀ c ∈ r, Token.isArrowChar c = true) (harrow : Token.isArrow r = true)
  (hopen : Token.opensLabel r = false) (hl : Label.IsClean l)

include ha hb hr harrow hl

theorem exists_statements_tightLine : ∃ ss : List Statement, (∀ s ∈ ss, s.IsClean) ∧
    repair (tightLine a r b l) = Chart.render ⟨default, Statement.settleAll [] ss⟩ ∧
      ((Token.isArrow (Token.leftPart r) = true ∧
          ss = if Token.opensLabel (Token.leftPart r) = true ∨ a ∈ Line.directiveKeywords then []
            else [edgeTo a (tightTarget r b l)]) ∨
        Token.isArrow (Token.leftPart r) = false ∧ (⟨default, ss⟩ : Chart).edges = [] ∧
          (a ∈ Line.directiveKeywords → Node.ids (⟨default, ss⟩ : Chart).nodes ≠ [])) := by
  cases h : Token.isArrow (Token.leftPart r) with
  | true =>
      have hne : Token.leftPart r ≠ [] := by
        intro he
        rw [he] at h
        exact absurd h (by decide)
      have htarget := (isClean_targets ha hb hr hl).2 hne
      refine ⟨_, ?_, (repair_tightLine ha hb hr hl h).trans ?_, .inl ⟨rfl, rfl⟩⟩
      · split
        · nofun
        · intro s hs
          rw [List.mem_singleton.1 hs]
          exact isClean_edgeTo ha htarget
      · split <;> rfl
  | false =>
      have hne : r ≠ [] := by
        rintro rfl
        exact absurd harrow (by decide)
      obtain ⟨n, hn, hkeyword, hrepair⟩ := exists_repair_tightLine ha hb hr hl hne h
      refine ⟨if Ident.isValid n.id = true then [⟨.shaped n, []⟩] else [], ?_, hrepair.trans ?_,
        .inr ⟨rfl, ?_, ?_⟩⟩
      · split
        · rename_i hid
          intro s hs
          rw [List.mem_singleton.1 hs]
          exact ⟨hn.isClean hid, nofun⟩
        · nofun
      · split <;> rfl
      · split <;> rfl
      · intro ha
        rw [if_pos (hkeyword ha)]
        simp [Chart.nodes, Statement.nodes, Node.ids]

include hopen

theorem exists_statements_spacedLine : ∃ ts : List Statement, (∀ s ∈ ts, s.IsClean) ∧
    repair (spacedLine a r b l) = Chart.render ⟨default, Statement.settleAll [] ts⟩ ∧
      ts = if a ∈ Line.directiveKeywords then [] else [edgeTo a (spacedTarget b l)] := by
  refine ⟨_, ?_, (repair_spacedLine ha hb hr hl harrow hopen).trans ?_, rfl⟩
  · split
    · nofun
    · intro s hs
      rw [List.mem_singleton.1 hs]
      exact isClean_edgeTo ha (isClean_targets ha hb hr hl).1
  · split <;> rfl

/-- The repaired text is accepted with one edge between the two identifiers. -/
def HasLoneEdge (t a b : Text) : Prop :=
  ∃ summary, check (repair t) = .ok summary ∧ summary.edges = [⟨a, b, none⟩]

omit ha hb hr harrow hl hopen in
theorem hasLoneEdge_iff {t : Text} {ss : List Statement} (hss : ∀ s ∈ ss, s.IsClean)
    (ht : repair t = Chart.render ⟨default, Statement.settleAll [] ss⟩) :
    HasLoneEdge t a b ↔ (⟨default, ss⟩ : Chart).edges = [⟨a, b, none⟩] := by
  obtain ⟨summary, hcheck, hfound⟩ := Chart.exists_isFound_settleAll default hss
  rw [← ht] at hcheck
  constructor
  · rintro ⟨other, hother, hedges⟩
    rw [hcheck] at hother
    cases hother
    exact hfound.edges.symm.trans hedges
  · exact fun hedges => ⟨summary, hcheck, hfound.edges.trans hedges⟩

/-- Blanks around an arrow in front of a rectangle are insignificant exactly if what the rectangle
leaves of the arrow still finishes an edge, and the rectangle is not left without a label by a part
of the arrow. Behind a keyword of a directive, neither line is kept. -/
theorem repair_tightLine_eq_iff :
    (repair (tightLine a r b l) = repair (spacedLine a r b l) ↔
      Token.isArrow (Token.leftPart r) = true ∧ (a ∈ Line.directiveKeywords ∨
        Token.opensLabel (Token.leftPart r) = false ∧
          (Token.leftPart r = r ∨
            ∃ c ∈ l, Label.isSlash c = false ∧ Text.isBlank c = false))) ∧
    (a ∉ Line.directiveKeywords → HasLoneEdge (spacedLine a r b l) a b ∧
      (HasLoneEdge (tightLine a r b l) a b ↔
        Token.isArrow (Token.leftPart r) = true ∧
          Token.opensLabel (Token.leftPart r) = false)) := by
  obtain ⟨ts, hts, hspaced, hts'⟩ := exists_statements_spacedLine ha hb hr harrow hopen hl
  obtain ⟨ss, hss, htight, hcases⟩ := exists_statements_tightLine ha hb hr harrow hl
  have hkept (h : a ∉ Line.directiveKeywords) : (⟨default, ts⟩ : Chart).edges = [⟨a, b, none⟩] := by
    rw [hts', if_neg h]
    rfl
  have hlost (h : a ∈ Line.directiveKeywords) : ts = [] := by rw [hts', if_pos h]
  have hedge := hasLoneEdge_iff (a := a) (b := b) hss htight
  refine ⟨?_, fun h => ⟨(hasLoneEdge_iff hts hspaced).2 (hkept h), ?_⟩⟩
  · rcases hcases with ⟨harrow, hss'⟩ | ⟨hnone, hedges, hnodes⟩
    · rw [harrow, and_iff_right rfl]
      by_cases h : a ∈ Line.directiveKeywords
      · rw [if_pos (.inr h)] at hss'
        rw [htight, hspaced, hss', hlost h]
        exact iff_of_true rfl (.inl h)
      cases hopens : Token.opensLabel (Token.leftPart r) with
      | true =>
          rw [if_pos (.inl hopens)] at hss'
          refine ⟨fun heq => ?_, fun hor => absurd (hor.resolve_left h).1 (by decide)⟩
          rw [htight, hspaced] at heq
          have heqEdges := (Chart.eq_of_render_settleAll hss hts heq).1
          rw [hkept h, hss'] at heqEdges
          cases heqEdges
      | false =>
          rw [if_neg (by simp [h, hopens])] at hss'
          rw [if_neg h] at hts'
          rw [htight, hspaced, hss', hts', render_edgeTo_eq_iff, tightTarget_eq_iff hb hr hl]
          simp [h]
    · rw [hnone]
      refine ⟨fun heq => ?_, fun h => absurd h.1 Bool.false_ne_true⟩
      rw [htight, hspaced] at heq
      obtain ⟨heqEdges, heqIds⟩ := Chart.eq_of_render_settleAll hss hts heq
      by_cases h : a ∈ Line.directiveKeywords
      · rw [hlost h] at heqIds
        obtain ⟨id, hid⟩ := List.exists_mem_of_ne_nil _ (hnodes h)
        exact absurd ((heqIds id).1 hid) (by simp [Chart.nodes, Node.ids])
      · rw [hkept h, hedges] at heqEdges
        cases heqEdges
  · rw [hedge]
    rcases hcases with ⟨harrow, hss'⟩ | ⟨hnone, hedges, -⟩
    · rw [harrow, and_iff_right rfl]
      cases hopens : Token.opensLabel (Token.leftPart r) with
      | true =>
          rw [if_pos (.inl hopens)] at hss'
          rw [hss']
          exact iff_of_false (fun hedges => by cases hedges) (by decide)
      | false =>
          rw [if_neg (by simp [h, hopens])] at hss'
          rw [hss']
          exact iff_of_true rfl rfl
    · rw [hedges, hnone]
      simp

end

/-- The rectangle may take a part of the arrow, and the rest of it still leads there. -/
theorem repair_tightLine_eq_partly :
    let r := "==>-.".toList
    Ident.isValid "A".toList = true ∧ Ident.isValid "B".toList = true ∧
      (∀ c ∈ r, Token.isArrowChar c = true) ∧ Token.isArrow r = true ∧
      Token.opensLabel r = false ∧ Label.IsClean "go / stop".toList ∧
      repair (tightLine "A".toList r "B".toList "go / stop".toList)
        = repair (spacedLine "A".toList r "B".toList "go / stop".toList) ∧
      HasLoneEdge (tightLine "A".toList r "B".toList "go / stop".toList) "A".toList "B".toList := by
  intro r
  have ha : Ident.isValid "A".toList = true := by decide
  have hb : Ident.isValid "B".toList = true := by decide
  have hr : ∀ c ∈ r, Token.isArrowChar c = true := List.all_eq_true.1 (by decide)
  have harrow : Token.isArrow r = true := by decide
  have hopen : Token.opensLabel r = false := by decide
  have hl : Label.IsClean "go / stop".toList := by decide +kernel
  obtain ⟨heq, hedge⟩ := repair_tightLine_eq_iff ha hb hr harrow hopen hl
  have hleft : Token.isArrow (Token.leftPart r) = true ∧
      Token.opensLabel (Token.leftPart r) = false := by decide
  have hlabel : ∃ c ∈ "go / stop".toList, Label.isSlash c = false ∧ Text.isBlank c = false :=
    ⟨'g', by decide, by decide, by decide⟩
  exact ⟨ha, hb, hr, harrow, hopen, hl, heq.2 ⟨hleft.1, .inr ⟨hleft.2, .inr hlabel⟩⟩,
    ((hedge (by decide)).2).2 hleft⟩

/-- An arrow without a head or two equal strokes is lost in the identifier. -/
theorem repair_tightLine_ne :
    Ident.isValid "A".toList = true ∧ Ident.isValid "B".toList = true ∧
      (∀ c ∈ "-.-".toList, Token.isArrowChar c = true) ∧ Token.isArrow "-.-".toList = true ∧
      Token.opensLabel "-.-".toList = false ∧ Label.IsClean "x".toList ∧
      repair (tightLine "A".toList "-.-".toList "B".toList "x".toList)
        = "flowchart TD\nAB[x]".toList ∧
      repair (spacedLine "A".toList "-.-".toList "B".toList "x".toList)
        = "flowchart TD\nA --> B[x]".toList ∧
      repair (tightLine "A".toList "-.-".toList "B".toList "x".toList)
        ≠ repair (spacedLine "A".toList "-.-".toList "B".toList "x".toList) := by
  have hx : Label.IsClean "x".toList := by decide +kernel
  refine ⟨by decide, by decide, List.all_eq_true.1 (by decide), by decide, by decide, hx, ?_⟩
  decide +kernel

end Flowchart
