import Flowchart.Proofs.TouchedShapes

/-!
# Shapes in front of an arrow

The rule for delimiters reads a shape and writes it in its canonical way, and the rule for labels
reads it from there. A label that holds delimiters may be read in another way the second time. As
long as nothing but delimiters and blanks is left between the shape and the arrow, the arrow leads
on from the shape that is read last.
-/

namespace Flowchart

/-! ## What is left in front of an arrow -/

/-- A canonical arrow to a bare identifier. -/
def arrowTo (b : Text) : Text := arrow ++ ' ' :: b

theorem mem_arrowTo {b : Text} (hb : Ident.isValid b = true) {c : Char} (hc : c ∈ arrowTo b) :
    isOpener c = false ∧ isCloser c = false ∧ c ≠ '|' ∧ c ≠ ':' := by
  have hword {d : Char} (hd : d.isAlphanum = true) : d ≠ ':' := by
    rintro rfl
    exact absurd hd (by decide)
  simp only [arrowTo, arrow, List.mem_append, List.mem_cons, List.not_mem_nil, or_false] at hc
  rcases hc with (rfl | rfl | rfl) | rfl | hc
  · decide
  · decide
  · decide
  · decide
  · have halnum := (Ident.isValid_iff.1 hb).2.1 c hc
    have hkinds := Segment.not_delimiter_of_isAlphanum halnum
    exact ⟨hkinds.1, hkinds.2.1, hkinds.2.2, hword halnum⟩

namespace Segment

/-- Delimiters and blanks. -/
def IsLeftover (g : Text) : Prop :=
  ∀ c ∈ g, isOpener c = true ∨ isCloser c = true ∨ Text.isBlank c = true

instance (g : Text) : Decidable (IsLeftover g) :=
  List.decidableBAll (fun c => isOpener c = true ∨ isCloser c = true ∨ Text.isBlank c = true) g

theorem isLeftover_of_isBlanks {g : Text} (hg : Text.IsBlanks g) : IsLeftover g :=
  fun c hc => .inr (.inr (hg c hc))

theorem kinds_of_leftover {c : Char}
    (h : isOpener c = true ∨ isCloser c = true ∨ Text.isBlank c = true) :
    stopsId c = true ∧ c.isAlphanum = false ∧ Token.isArrowChar c = false ∧ c ≠ '|' ∧ c ≠ '&' ∧
      c ≠ ':' := by
  rcases h with h | h | h
  · simp only [isOpener, Bool.or_eq_true, beq_iff_eq] at h
    rcases h with (rfl | rfl) | rfl <;> decide
  · simp only [isCloser, Bool.or_eq_true, beq_iff_eq] at h
    rcases h with (rfl | rfl) | rfl <;> decide
  · have hne {d : Char} (hd : Text.isBlank d = false) : c ≠ d := by
      rintro rfl
      rw [h] at hd
      cases hd
    exact ⟨EdgeText.stopsId_of_isBlank h, Layout.isAlphanum_eq_false_of_isBlank h,
      Token.isArrowChar_eq_false_of_isBlank h, hne rfl, hne rfl, hne rfl⟩

theorem gluedId_eq_nil {back : Text} (h : ∀ c ∈ back.head?, stopsId c = true) :
    gluedId back = [] := by
  have hnil : back.takeWhile (!stopsId ·) = [] := by
    cases back with
    | nil => rfl
    | cons c back => rw [List.takeWhile_cons, if_neg (by simp [h c rfl])]
  rw [gluedId, hnil]
  rfl

/-- No shape opens where no identifier is glued. -/
theorem scanFrom_leftover {g back : Text} (hg : IsLeftover g)
    (hback : ∀ c ∈ back.head?, stopsId c = true) (s : Text) :
    scanFrom back (g ++ s) = scanFrom (g.reverse ++ back) s := by
  induction g generalizing back with
  | nil => rfl
  | cons c g ih =>
      have hc := kinds_of_leftover (hg c (by simp))
      have hstop : ∀ d ∈ (c :: back).head?, stopsId d = true := by
        intro d hd
        cases hd
        exact hc.1
      rw [List.cons_append,
        scanFrom_cons (absurd · hc.2.2.2.1) (by simp [gluedId_eq_nil hback]),
        ih (fun d hd => hg d (by simp [hd])) hstop]
      simp

section

variable {b : Text} (hb : Ident.isValid b = true)

include hb

theorem isFree_arrowTo : IsFree (arrowTo b) :=
  isFree_of_chars fun _ hc => ⟨(mem_arrowTo hb hc).1, (mem_arrowTo hb hc).2.2.1⟩

theorem scan_leftover {g : Text} (hg : IsLeftover g) :
    scan (g ++ arrowTo b) = [.text (g ++ arrowTo b)] := by
  have hnil : ∀ c ∈ ([] : Text).head?, stopsId c = true := by simp
  have hend := isFree_arrowTo hb (g.reverse ++ []) []
  rw [List.append_nil (arrowTo b)] at hend
  rw [scan, scanFrom_leftover hg hnil, hend, scanFrom_nil, Layout.ofBack_eq]
  simp [Layout.textSegment, arrowTo]

end

/-- A shape opens behind a word at the front of a text. -/
theorem scan_shape {a : Text} {c : Char} (ha : Ident.isValid a = true) (hc : isOpener c = true)
    (s : Text) : scan (a ++ c :: s)
      = .node (ShapedNode.ofInterior a c (shapeInterior c s).1) :: scan (shapeInterior c s).2 := by
  obtain ⟨hne, halnum, -⟩ := Ident.isValid_iff.1 ha
  have hglued := (isGlued_word hne halnum).glued [] nofun
  have hopen : isOpener c = true ∧ gluedId (a.reverse ++ []) ≠ [] := by
    rw [hglued]
    exact ⟨hc, by simpa using hne⟩
  rw [scan, isFree_word halnum, scanFrom_opener hopen, hglued]
  simp [ofBack, scan]

end Segment

namespace Token

variable {b : Text} (hb : Ident.isValid b = true)

include hb

theorem lex_arrowTo : lex (arrowTo b) = [.arrow Flowchart.arrow, .space, .word b] := by
  obtain ⟨hne, halnum, -⟩ := Ident.isValid_iff.1 hb
  have hspace : ∀ c ∈ b.head?, Text.isBlank c = false :=
    fun c hc => Ident.not_isBlank_of_isAlphanum (halnum c (List.mem_of_mem_head? hc))
  have hblanks : Text.IsBlanks [' '] := .space
  have htail := lex_blanks_append hblanks (by simp) hspace
  rw [Layout.lex_word hb] at htail
  rw [arrowTo, lex_arrow_append (by decide) (.inl (by simp))]
  exact congrArg _ htail

omit hb in
theorem head?_arrowTo {c : Char} (h : c ∈ (arrowTo b).head?) : c = '-' := by
  cases h
  rfl

theorem lex_blanks_arrowTo {g : Text} (hg : Text.IsBlanks g) : lex (g ++ arrowTo b)
    = EdgeText.blankTokens g ++ [.arrow Flowchart.arrow, .space, .word b] := by
  have hhead : ∀ c ∈ (arrowTo b).head?, Text.isBlank c = false := by
    intro c hc
    rw [head?_arrowTo hc]
    rfl
  rw [EdgeText.lex_blanks_append hg hhead, lex_arrowTo hb]

omit hb in
/-- A text is a run of blanks or a word, and what is behind it. -/
theorem exists_run (c : Char) (s : Text) : ∃ t r, c :: s = c :: t ++ r ∧
    (∀ d ∈ c :: t, Text.isBlank d = Text.isBlank c) ∧
      ∀ d ∈ r.head?, Text.isBlank d = !Text.isBlank c := by
  let p : Char → Bool := fun d => Text.isBlank d == Text.isBlank c
  refine ⟨s.takeWhile p, s.dropWhile p, ?_, fun d hd => ?_, fun d hd => ?_⟩
  · rw [List.cons_append, List.takeWhile_append_dropWhile]
  · rcases List.mem_cons.1 hd with rfl | hd
    · rfl
    · exact beq_iff_eq.1 (List.mem_takeWhile_imp (p := p) hd)
  · have hstop : p d = false := Text.eq_false_of_head?_dropWhile hd
    have hne : Text.isBlank d ≠ Text.isBlank c := by simpa [p] using hstop
    exact Bool.eq_not_of_ne hne

omit hb in
theorem renderAll_sanitizeWords_blanks {t s : Text} (ht : Text.IsBlanks t) (hne : t ≠ [])
    (hs : ∀ c ∈ s.head?, Text.isBlank c = false) :
    renderAll (Repair.sanitizeWords false (lex (t ++ s))).1
      = ' ' :: renderAll (Repair.sanitizeWords false (lex s)).1 := by
  rw [lex_blanks_append ht hne hs, Repair.sanitizeWords]
  · rfl
  all_goals simp

omit hb in
/-- A word of delimiters comes out empty. -/
theorem renderAll_sanitizeWords_leftover {w s : Text} (hw : Segment.IsLeftover w)
    (hword : Text.IsWord w) (hs : EndsWord s) :
    renderAll (Repair.sanitizeWords false (lex (w ++ s))).1
      = renderAll (Repair.sanitizeWords false (lex s)).1 := by
  have hpart : ∀ c ∈ w, isWordPart c = true := by
    intro c hc
    simp [isWordPart, hword.2 c hc, Segment.kinds_of_leftover (hw c hc)]
  have hnone : w.filter Char.isAlphanum = [] := by
    refine List.filter_eq_nil_iff.2 fun c hc => ?_
    simp [(Segment.kinds_of_leftover (hw c hc)).2.1]
  have hempty : Ident.sanitize w = [] := by
    rw [Ident.sanitize, hnone]
    rfl
  rw [lex_word_append hword.1 hpart hs, Repair.sanitizeWords, if_neg Bool.false_ne_true, hempty]
  rfl

/-- Of delimiters and blanks in front of the arrow, nothing but spaces is left. -/
theorem exists_renderAll_leftover {g : Text} (hg : Segment.IsLeftover g) :
    ∃ k, (∀ c ∈ k, c = ' ') ∧
      renderAll (Repair.sanitizeWords false (lex (g ++ arrowTo b))).1 = k ++ arrowTo b := by
  -- by induction on the length, run of blanks by run of blanks and word by word
  induction hn : g.length using Nat.strong_induction_on generalizing g with
  | _ n ih =>
      cases g with
      | nil =>
          refine ⟨[], nofun, ?_⟩
          rw [List.nil_append, lex_arrowTo hb]
          simp [Repair.sanitizeWords, Layout.sanitize_eq_self hb, renderAll, render, arrowTo,
            opensLabel, Flowchart.arrow]
      | cons c s =>
          obtain ⟨t, r, hsplit, hrun, hstop⟩ := exists_run c s
          rw [hsplit] at hg hn ⊢
          have hshort : r.length < n := by
            rw [List.length_append, List.length_cons] at hn
            omega
          obtain ⟨k, hk, hrender⟩ := ih _ hshort (fun d hd => hg d (List.mem_append_right _ hd)) rfl
          rw [List.append_assoc]
          cases hc : Text.isBlank c with
          | true =>
              have hhead : ∀ d ∈ (r ++ arrowTo b).head?, Text.isBlank d = false := by
                intro d hd
                cases r with
                | nil =>
                    rw [head?_arrowTo hd]
                    rfl
                | cons e r => rw [hstop d hd, hc, Bool.not_true]
              refine ⟨' ' :: k, List.forall_mem_cons.2 ⟨rfl, hk⟩, ?_⟩
              rw [renderAll_sanitizeWords_blanks (fun d hd => (hrun d hd).trans hc) (by simp) hhead,
                hrender]
              rfl
          | false =>
              have hword : Text.IsWord (c :: t) := ⟨by simp, fun d hd => (hrun d hd).trans hc⟩
              have hends : EndsWord (r ++ arrowTo b) := by
                cases r with
                | nil => exact endsWord_of_startsArrow rfl
                | cons e r => exact endsWord_of_head (.inl (by rw [hstop e rfl, hc]; rfl))
              refine ⟨k, hk, ?_⟩
              rw [renderAll_sanitizeWords_leftover (fun d hd => hg d (List.mem_append_left _ hd))
                hword hends, hrender]

section

variable {k : Text} (hk : Text.IsBlanks k)

include hk

theorem repairEdgeText_arrowTo :
    Repair.repairEdgeText (k ++ arrowTo b) = EdgeText.space k ++ arrowTo b := by
  have hnone : Repair.attachedLabel? [.space, .word b] = none := rfl
  have hrest : Repair.repairTokens [.space, .word b] = ' ' :: b := by
    simp [Repair.repairTokens, render]
  rw [Repair.repairEdgeText, lex_blanks_arrowTo hb hk, EdgeText.repairTokens_blankTokens,
    EdgeText.repairTokens_plain rfl hnone, hrest, arrowTo]

theorem padArrows_arrowTo : Repair.padArrows (k ++ arrowTo b) = ' ' :: arrowTo b := by
  have hblanks : Text.IsBlanks [' '] := .space
  have hstart : EdgeText.StartsNode b :=
    fun c hc => (Ident.isValid_iff.1 hb).2.1 c (List.mem_of_mem_head? hc)
  have hspace : ' ' ∉ b := fun h => absurd ((Ident.isValid_iff.1 hb).2.1 _ h) (by decide)
  have hself : Repair.padArrows b = b := EdgeText.padArrows_lone hspace (Layout.lex_word hb)
  have hlabel : ∀ l, (none : Option Text) = some l → Label.IsClean l := by
    intro l hl
    cases hl
  have hedge := EdgeText.padArrows_ofLabel_append hk hlabel hblanks hstart
  rw [hself] at hedge
  simpa [EdgeText.ofLabel, EdgeText.text, arrowTo] using hedge

end

end Token

namespace ShapedNode

/-! ## The rules on a shape and an arrow -/

/-- A shape and an arrow behind it, with a gap between them. -/
def lineTo (n : ShapedNode) (g b : Text) : Text := n.render ++ (g ++ arrowTo b)

theorem lineTo_eq (n : ShapedNode) (g b : Text) : n.lineTo g b
    = n.id ++ n.shape.opener ::
      (n.shape.interior n.label ++ closerOf n.shape.opener :: (g ++ arrowTo b)) := by
  rw [lineTo, render_eq]
  simp

section

variable {n m : ShapedNode} {g k b : Text} (hn : Ident.isValid n.id = true)
  (hb : Ident.isValid b = true)

include hn

/-- What opens at the front of the line keeps its identifier. -/
theorem id_of_scan_lineTo {segments : List Segment}
    (h : Segment.scan (n.lineTo g b) = .node m :: segments) : m.id = n.id := by
  rw [lineTo_eq, Segment.scan_shape hn n.shape.isOpener_opener] at h
  cases h
  rfl

include hb

theorem mapStatements_lineTo (hline : '\n' ∉ n.lineTo g b) (f : Text → Text) :
    Line.mapStatements f (n.lineTo g b) = f (n.lineTo g b) := by
  obtain ⟨hne, halnum, -⟩ := Ident.isValid_iff.1 hn
  obtain ⟨hbne, hbnum, -⟩ := Ident.isValid_iff.1 hb
  obtain ⟨hopen, hblank, hsemi⟩ := Layout.head_opener n.shape.isOpener_opener
  rw [lineTo_eq] at hline ⊢
  refine Line.mapStatements_glued hne halnum rfl hopen hblank hsemi (fun d hd => ?_) hline f
  have hlast : d ∈ b.getLast? := by
    have hsplit : n.shape.opener :: (n.shape.interior n.label
        ++ closerOf n.shape.opener :: (g ++ arrowTo b))
          = (n.shape.opener :: (n.shape.interior n.label
            ++ closerOf n.shape.opener :: (g ++ arrow ++ [' ']))) ++ b := by
      simp [arrowTo]
    rwa [hsplit, List.getLast?_append_of_ne_nil _ hbne] at hd
  have hd := hbnum d (List.mem_of_getLast? hlast)
  refine ⟨Ident.not_isBlank_of_isAlphanum hd, ?_⟩
  rintro rfl
  exact absurd hd (by decide)

theorem newline_notMem_lineTo (hlabel : '\n' ∉ n.label) (hg : '\n' ∉ g) : '\n' ∉ n.lineTo g b := by
  have hword {w : Text} (hw : Ident.isValid w = true) : Text.All (· ≠ '\n') w :=
    all_id (fun _ => ne_newline_of_isWritten) hw
  have hnode : Text.All (· ≠ '\n') n.render :=
    all_render_node (fun _ => ne_newline_of_isWritten) (hword hn) fun c hc he => hlabel (he ▸ hc)
  have hnone : '\n' ∉ n.render := fun h => hnode _ h rfl
  have hlast : '\n' ∉ b := fun h => hword hb _ h rfl
  simp [lineTo, arrowTo, arrow, hnone, hg, hlast]

section

variable (hline : '\n' ∉ n.lineTo g b)
  (h : Segment.scan (n.lineTo g b) = [.node m, .text (k ++ arrowTo b)])

include hline h

theorem normalizeBrackets_lineTo :
    Repair.normalizeBrackets (n.lineTo g b) = m.lineTo (Repair.blankDelimiters k) b := by
  have hkeep : Repair.blankDelimiters (arrowTo b) = arrowTo b := by
    exact EdgeText.blankDelimiters_eq_self fun c hc =>
      ⟨(mem_arrowTo hb hc).1, (mem_arrowTo hb hc).2.1⟩
  refine (mapStatements_lineTo hn hb hline _).trans ?_
  rw [Line.mapSegments, h]
  show m.render ++ (Repair.blankDelimiters (k ++ arrowTo b) ++ []) = _
  rw [EdgeText.blankDelimiters_append, hkeep, List.append_nil, lineTo]

theorem sanitizeLabels_lineTo (hk : Segment.IsLeftover k) :
    Repair.sanitizeLabels (n.lineTo g b) = (Repair.relabel m).lineTo k b := by
  have hpipe : '|' ∉ k ++ arrowTo b := by
    intro hmem
    rcases List.mem_append.1 hmem with hmem | hmem
    · exact (Segment.kinds_of_leftover (hk _ hmem)).2.2.2.1 rfl
    · exact (mem_arrowTo hb hmem).2.2.1 rfl
  have hkeep := EdgeText.replaceLabels_append hpipe []
  rw [List.append_nil, Text.replaceMatches, List.append_nil] at hkeep
  refine (mapStatements_lineTo hn hb hline _).trans ?_
  rw [Line.mapSegments, h]
  show (Repair.relabel m).render
    ++ (Text.replaceMatches Repair.pipeLabel (k ++ arrowTo b) ++ []) = _
  rw [hkeep, List.append_nil, lineTo]

end

end

section

variable {n : ShapedNode} {g b : Text} (hn : n.IsClean) (hb : Ident.isValid b = true)

include hn hb

/-- A clean shape is read as it is. -/
theorem IsClean.scan_lineTo (hg : Segment.IsLeftover g) :
    Segment.scan (n.lineTo g b) = [.node n, .text (g ++ arrowTo b)] := by
  have hread := hn.isReadBack
  rw [lineTo_eq, Segment.scan_shape hn.1 n.shape.isOpener_opener,
    Segment.shapeInterior_of_isBalanced (n.shape.isBalanced_interior hread.legal),
    hread.ofInterior, Segment.scan_leftover hb hg]

theorem IsClean.mapFreeText_lineTo {f : Text → Text} (hg : Segment.IsLeftover g)
    (hline : '\n' ∉ n.lineTo g b) :
    Line.mapFreeText f (n.lineTo g b) = n.render ++ f (g ++ arrowTo b) := by
  refine (mapStatements_lineTo hn.1 hb hline _).trans ?_
  rw [Line.mapSegments, hn.scan_lineTo hb hg]
  simp [Segment.renderAll, Segment.render]

/-- The rule for identifiers leaves blanks in front of the arrow. -/
theorem IsClean.exists_sanitizeIdents_lineTo (hg : Segment.IsLeftover g)
    (hline : '\n' ∉ n.lineTo g b) :
    ∃ k, (∀ c ∈ k, c = ' ') ∧ Repair.sanitizeIdents (n.lineTo g b) = n.lineTo k b := by
  obtain ⟨k, hk, hrender⟩ := Token.exists_renderAll_leftover hb hg
  have hcolon : ':' ∉ g ++ arrowTo b := by
    intro hmem
    rcases List.mem_append.1 hmem with hmem | hmem
    · exact (Segment.kinds_of_leftover (hg _ hmem)).2.2.2.2.2 rfl
    · exact (mem_arrowTo hb hmem).2.2.2 rfl
  refine ⟨k, hk, (mapStatements_lineTo hn.1 hb hline _).trans ?_⟩
  rw [hn.scan_lineTo hb hg, Repair.sanitizeSegments, Repair.sanitizeSegments,
    Repair.sanitizeSegments, Layout.replaceMatches_classSuffix hcolon,
    Layout.reidentify_eq_self hn.1]
  simp [Segment.renderAll, Segment.render, hrender, lineTo]

/-- The statement of the line. -/
def statementTo (n : ShapedNode) (b : Text) : Statement := ⟨.shaped n, [⟨none, .bare b⟩]⟩

omit hn hb in
theorem lineTo_space (n : ShapedNode) (b : Text) : n.lineTo [' '] b = (n.statementTo b).render := by
  simp [lineTo, arrowTo, statementTo, Statement.render, Link.render, renderEdge, Node.render]

theorem IsClean.isClean_statementTo : (n.statementTo b).IsClean := by
  refine ⟨hn, fun l hl => ?_⟩
  rw [List.mem_singleton.1 hl]
  exact ⟨nofun, hb⟩

/-- The last rules write the statement. -/
theorem IsClean.shapeDocument_lineTo (hg : ∀ c ∈ g, c = ' ') :
    Repair.shapeDocument (Repair.normalizeSpacing (Repair.repairEdges (n.lineTo g b)))
      = Chart.render ⟨default, [n.statementTo b]⟩ := by
  have hblanks : Text.IsBlanks g := by
    intro c hc
    rw [hg c hc]
    rfl
  have hnewline : '\n' ∉ g := fun h => absurd (hg _ h) (by decide)
  have hspace : '\n' ∉ EdgeText.space g := by
    unfold EdgeText.space
    split <;> simp
  have hedges : Repair.repairEdges (n.lineTo g b) = n.lineTo (EdgeText.space g) b := by
    refine (hn.mapFreeText_lineTo hb (Segment.isLeftover_of_isBlanks hblanks)
      (newline_notMem_lineTo hn.1 hb hn.2.1.newline hnewline)).trans ?_
    rw [Token.repairEdgeText_arrowTo hb hblanks, lineTo]
  have hpadded : Line.mapFreeText Repair.padArrows (n.lineTo (EdgeText.space g) b)
      = n.lineTo [' '] b := by
    have hspaces := EdgeText.isBlanks_space g
    refine (hn.mapFreeText_lineTo hb (Segment.isLeftover_of_isBlanks hspaces)
      (newline_notMem_lineTo hn.1 hb hn.2.1.newline hspace)).trans ?_
    rw [Token.padArrows_arrowTo hb hspaces]
    rfl
  have hclean := hn.isClean_statementTo hb
  obtain ⟨hline, htrim⟩ := Statement.isLine_render hclean
  rw [hedges, Repair.normalizeSpacing, hpadded, lineTo_space, Repair.trimLines_line hline htrim,
    Repair.shapeDocument_render hclean rfl]
  rfl

end

end ShapedNode

/-! ## Both readings -/

/-- The line is read as a shape, and nothing but delimiters and blanks is left in front of the
arrow. -/
def Segment.IsReadAs (x : Text) (n : ShapedNode) (b : Text) : Prop :=
  ∃ g, IsLeftover g ∧ scan x = [.node n, .text (g ++ arrowTo b)]

section

variable {o n m : ShapedNode} {g b : Text} (ho : Ident.isValid o.id = true)
  (hb : Ident.isValid b = true) (hline : '\n' ∉ o.lineTo g b)
  (hquote : Text.IsUnquoted (o.lineTo g b)) (hn : Segment.IsReadAs (o.lineTo g b) n b)
  (hm : Segment.IsReadAs (Repair.normalizeBrackets (o.lineTo g b)) m b)

include ho hb hline hquote hn hm

/-- The rules behind the one for quotation marks make a statement of the shape that is read last. -/
theorem shapeDocument_of_isReadAs : (Repair.relabel m).IsClean ∧ m.id = o.id ∧
    Repair.shapeDocument (Repair.normalizeSpacing (Repair.repairEdges (Repair.sanitizeIdents
      (Repair.sanitizeLabels (Repair.normalizeBrackets (o.lineTo g b))))))
        = Chart.render ⟨default, [(Repair.relabel m).statementTo b]⟩ := by
  obtain ⟨k, -, hn⟩ := hn
  obtain ⟨l, hl, hm⟩ := hm
  have hid := ShapedNode.id_of_scan_lineTo ho hn
  have hbrackets := ShapedNode.normalizeBrackets_lineTo ho hb hline hn
  obtain ⟨f, hf, hkept⟩ : ∃ f, Text.Keeps f ∧
      Repair.normalizeBrackets (o.lineTo g b) = f (o.lineTo g b) :=
    ⟨_, keeps_normalizeBrackets, ShapedNode.mapStatements_lineTo ho hb hline _⟩
  have hline' := hf.newline hline
  have hquote' := hf.isUnquoted hquote
  rw [← hkept] at hline' hquote'
  have hlabel := holds_scan hquote' (.node m) (by simp [hm])
  have hrest : Text.All (· ≠ '\n') (l ++ arrowTo b) :=
    holds_scan (q := (· ≠ '\n')) (fun c hc he => hline' (he ▸ hc)) (.text _) (by simp [hm])
  rw [hbrackets] at hm hline'
  have hn' : Ident.isValid n.id = true := by rwa [hid]
  have hid' := ShapedNode.id_of_scan_lineTo hn' hm
  have hclean : (Repair.relabel m).IsClean :=
    Layout.isClean_relabel (by rwa [hid', hid]) hlabel.2
  obtain ⟨s, hs, hidents⟩ := hclean.exists_sanitizeIdents_lineTo hb hl
    (ShapedNode.newline_notMem_lineTo hclean.1 hb hclean.2.1.newline fun h =>
      hrest _ (List.mem_append_left _ h) rfl)
  refine ⟨hclean, hid'.trans hid, ?_⟩
  rw [hbrackets, ShapedNode.sanitizeLabels_lineTo hn' hb hline' hm hl, hidents,
    hclean.shapeDocument_lineTo hb hs]

end

/-! ## Enclosed labels -/

namespace Segment

/-- What stands behind the interior does not matter. -/
theorem closedInterior?_append {closers : List Char} {s i r : Text}
    (h : closedInterior? closers s = some (i, r)) (t : Text) :
    closedInterior? closers (s ++ t) = some (i, r ++ t) := by
  induction s generalizing closers i with
  | nil => cases h
  | cons c s ih =>
      have step {outer : List Char}
          (h : (closedInterior? outer s).map (fun r => (c :: r.1, r.2)) = some (i, r)) :
          (closedInterior? outer (s ++ t)).map (fun r => (c :: r.1, r.2)) = some (i, r ++ t) := by
        obtain ⟨⟨j, r'⟩, hj, he⟩ := Option.map_eq_some_iff.1 h
        cases he
        rw [ih hj]
        rfl
      rw [closedInterior?] at h
      rw [List.cons_append, closedInterior?]
      split at h
      · rename_i hopen
        rw [if_pos hopen]
        exact step h
      · rename_i hopen
        rw [if_neg hopen]
        split at h
        · rename_i hclose
          rw [if_pos hclose]
          cases hw : closeWith c closers with
          | none =>
              rw [hw] at h
              exact step h
          | some outer =>
              rw [hw] at h
              cases outer with
              | nil =>
                  cases h
                  rfl
              | cons d outer => exact step h
        · rename_i hclose
          rw [if_neg hclose]
          exact step h

/-- Text without delimiters may be put into an interior or taken out of it. -/
theorem closedInterior?_insert {t : Text}
    (ht : ∀ c ∈ t, isOpener c = false ∧ isCloser c = false) {closers : List Char}
    (hne : closers ≠ []) {p q i r : Text} :
    closedInterior? closers (p ++ (t ++ q)) = some (p ++ (t ++ i), r)
      ↔ closedInterior? closers (p ++ q) = some (p ++ i, r) := by
  have hcons {o : Option (Text × Text)} {c : Char} {j : Text} :
      o.map (fun r => (c :: r.1, r.2)) = some (c :: j, r) ↔ o = some (j, r) := by
    cases o <;> simp [Prod.ext_iff]
  induction p generalizing closers with
  | nil =>
      rw [List.nil_append, List.nil_append, List.nil_append, List.nil_append,
        isBalanced_of_chars ht closers q hne]
      cases closedInterior? closers q <;> simp [Prod.ext_iff]
  | cons c p ih =>
      simp only [List.cons_append, closedInterior?]
      split
      · exact hcons.trans ((ih (by simp)).trans hcons.symm)
      · split
        · cases closeWith c closers with
          | none => exact hcons.trans ((ih hne).trans hcons.symm)
          | some outer =>
              cases outer with
              | nil => simp
              | cons d outer => exact hcons.trans ((ih (by simp)).trans hcons.symm)
        · exact hcons.trans ((ih hne).trans hcons.symm)

theorem shapeInterior_of_closedInterior? {c : Char} {i : Text}
    (h : closedInterior? [closerOf c] (i ++ [closerOf c]) = some (i, [])) (s : Text) :
    shapeInterior c (i ++ closerOf c :: s) = (i, s) := by
  have hclosed := closedInterior?_append h s
  rw [List.append_assoc, List.singleton_append, List.nil_append] at hclosed
  rw [shapeInterior, hclosed]

end Segment

namespace Shape

/-- The shape ends at its own delimiters, whatever delimiters the label holds. -/
def Encloses (s : Shape) (l : Text) : Prop :=
  Segment.closedInterior? [closerOf s.opener] (s.interior l ++ [closerOf s.opener])
    = some (s.interior l, [])

instance (s : Shape) (l : Text) : Decidable (s.Encloses l) :=
  inferInstanceAs (Decidable (_ = _))

/-- The inner delimiters stand around the label. -/
theorem exists_interior_eq (s : Shape) : ∃ p q, ∀ l, s.interior l = p ++ (l ++ q) := by
  cases s with
  | terminal => exact ⟨['['], [']'], fun l => rfl⟩
  | input => exact ⟨['/'], ['/'], fun l => rfl⟩
  | output => exact ⟨['\\'], ['\\'], fun l => rfl⟩
  | process => exact ⟨[], [], fun l => (List.append_nil l).symm⟩
  | decision => exact ⟨[], [], fun l => (List.append_nil l).symm⟩
  | storage => exact ⟨['('], [')'], fun l => rfl⟩

theorem Encloses.trim {s : Shape} {l : Text} (h : s.Encloses l) : s.Encloses (Text.trim l) := by
  obtain ⟨b, b', hb, hb', hl⟩ := Text.exists_trim l
  obtain ⟨p, q, hinterior⟩ := s.exists_interior_eq
  have hplain {b : Text} (hb : Text.IsBlanks b) :
      ∀ c ∈ b, isOpener c = false ∧ isCloser c = false :=
    fun c hc => EdgeText.not_delimiter_of_isBlank (hb c hc)
  rw [Encloses, hinterior] at h ⊢
  rw [hl] at h
  simp only [List.append_assoc] at h ⊢
  have houter := (Segment.closedInterior?_insert (hplain hb) (by simp)).1 h
  simp only [← List.append_assoc p] at houter ⊢
  have hinner := (Segment.closedInterior?_insert (hplain hb') (by simp)).1 houter
  exact hinner

end Shape

theorem ShapedNode.scan_lineTo_of_encloses {n : ShapedNode} {g b : Text}
    (hn : Ident.isValid n.id = true) (hb : Ident.isValid b = true)
    (hlabel : n.shape.Encloses n.label) (hkeep : n.shape.KeepsLabel (Text.trim n.label))
    (hg : Segment.IsLeftover g) : Segment.scan (n.lineTo g b)
      = [.node ⟨n.id, n.shape, Text.trim n.label⟩, .text (g ++ arrowTo b)] := by
  rw [lineTo_eq, Segment.scan_shape hn n.shape.isOpener_opener,
    Segment.shapeInterior_of_closedInterior? hlabel, ofInterior,
    Segment.classifyInterior_of_keepsLabel n.shape hkeep, Segment.scan_leftover hb hg]

end Flowchart
