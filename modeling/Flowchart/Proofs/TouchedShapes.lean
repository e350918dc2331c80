import Flowchart.Proofs.GluedArrows
import Flowchart.Proofs.LoneLines

/-!
# Shapes that touch an arrow

A shape takes its identifier from the text in front of it, and it may take a part of an arrow with
it. The rules up to the one for identifiers write such a shape in its canonical form, whatever its
identifier holds, and the end of the arrow goes.
-/

namespace Flowchart

/-! ## Labels that come out empty -/

/-- A label comes out empty if it holds nothing but slashes and what labels cannot hold. -/
theorem Repair.cleanShapeLabel_eq_nil_iff {l : Text} : cleanShapeLabel l = [] ↔
    ∀ c ∈ l, Label.isSlash c = true ∨ Text.isBlank c = true ∨ Label.isIllegal c = true := by
  rw [cleanShapeLabel, Label.trimSlashes, Text.trimBy_eq_nil_iff]
  constructor
  · intro h c hc
    by_cases hillegal : Label.isIllegal c = true
    · exact .inr (.inr hillegal)
    by_cases hblank : Text.isBlank c = true
    · exact .inr (.inl hblank)
    obtain ⟨w, hw, hmem⟩ := Text.exists_mem_words
      (s := l.map fun c => if Label.isIllegal c then ' ' else c) (c := c)
      (List.mem_map.2 ⟨c, hc, if_neg hillegal⟩) (by simpa using hblank)
    have := h c (Text.mem_joinWith_of_mem hw hmem)
    simp only [Bool.or_eq_true] at this
    exact .inl (this.resolve_right hblank)
  · intro h c hc
    rcases Label.mem_clean hc with rfl | ⟨hmem, hlegal⟩
    · rfl
    · have := h c hmem
      simp only [hlegal, Bool.false_eq_true, or_false] at this
      simpa using this

/-- What a clean label comes out as, if it does not come out empty. -/
theorem cleanShapeLabel_ne_nil_iff {l : Text} (hl : Label.IsClean l) :
    Repair.cleanShapeLabel l ≠ [] ↔ ∃ c ∈ l, Label.isSlash c = false ∧ Text.isBlank c = false := by
  rw [ne_eq, Repair.cleanShapeLabel_eq_nil_iff]
  constructor
  · intro h
    by_contra hnone
    refine h fun c hc => ?_
    by_contra hplain
    simp only [not_or, Bool.not_eq_true] at hplain
    exact hnone ⟨c, hc, hplain.1, hplain.2.1⟩
  · rintro ⟨c, hc, hslash, hblank⟩ h
    have := h c hc
    simp [hslash, hblank, hl.isLegal c hc] at this

/-! ## A shape behind free text -/

/-- Free text and an identifier that are read apart in front of a shape. -/
structure Segment.IsApart (t id : Text) : Prop where
  free : IsFree t
  id_ne_nil : id ≠ []
  id_free : IsFree id
  glued : gluedId (id.reverse ++ t.reverse) = id.reverse

namespace Segment.IsApart

open Layout (textSegment)

variable {t id i : Text} {c : Char} (h : IsApart t id) (hc : isOpener c = true)
  (hi : IsBalanced i)

include h hc hi

theorem scan : Segment.scan (t ++ (id ++ c :: i ++ [closerOf c]))
    = textSegment t ++ [.node (ShapedNode.ofInterior id c i)] := by
  rw [Segment.scan, h.free, List.append_nil,
    scanFrom_glued h.id_ne_nil h.id_free h.glued hc hi, Layout.ofBack_eq, List.reverse_reverse,
    scanFrom_nil]
  rfl

/-- A rule that changes segments one by one. -/
theorem mapSegments {φ : Segment → Segment} {g : Text → Text} {f : ShapedNode → ShapedNode}
    (htext : ∀ t, φ (.text t) = .text (g t)) (hnode : ∀ n, φ (.node n) = .node (f n))
    (hnil : g [] = []) : Line.mapSegments φ (t ++ (id ++ c :: i ++ [closerOf c]))
      = g t ++ (f (ShapedNode.ofInterior id c i)).render := by
  rw [Line.mapSegments, Layout.renderAll_map htext hnode, h.scan hc hi, List.flatMap_append,
    Layout.flatMap_textSegment hnil]
  simp [Layout.part]

theorem sanitize (hcolon : ':' ∉ t) :
    Segment.renderAll (Repair.sanitizeSegments false
        (Segment.scan (t ++ (id ++ c :: i ++ [closerOf c]))))
      = Token.renderAll (Repair.sanitizeWords false (Token.lex t)).1
        ++ (Repair.reidentify (ShapedNode.ofInterior id c i)).render := by
  rw [h.scan hc hi, Strand.renderAll_sanitizeSegments hcolon, Repair.sanitizeSegments,
    Repair.sanitizeSegments]
  simp [Segment.renderAll, Segment.render]

end Segment.IsApart

/-- A shape that is read from its canonical text. -/
structure ShapedNode.IsReadBack (n : ShapedNode) : Prop where
  legal : Label.IsLegal n.label
  trimmed : Text.IsTrimmed n.label
  plain : n.shape = .process → ∀ c ∈ n.label.head?, Label.isSlash c = false

namespace ShapedNode

theorem IsReadBack.ofInterior {n : ShapedNode} (h : n.IsReadBack) :
    ofInterior n.id n.shape.opener (n.shape.interior n.label) = n := by
  have htrim := Text.trim_eq_self h.trimmed
  have hread := Segment.classifyInterior_interior n.shape h.legal (by rw [htrim]; exact h.plain)
  rw [ShapedNode.ofInterior, hread, htrim]

section

variable {n : ShapedNode} (h : n.IsReadBack) {t : Text} (ht : Segment.IsApart t n.id)

include h ht

theorem IsReadBack.scan :
    Segment.scan (t ++ n.render) = Layout.textSegment t ++ [.node n] := by
  have := ht.scan n.shape.isOpener_opener (n.shape.isBalanced_interior h.legal)
  rwa [h.ofInterior, ← render_eq] at this

/-- What a rule for segments makes of a canonical shape behind free text. -/
theorem IsReadBack.mapSegments {φ : Segment → Segment} {g : Text → Text}
    {f : ShapedNode → ShapedNode} (htext : ∀ t, φ (.text t) = .text (g t))
    (hnode : ∀ n, φ (.node n) = .node (f n)) (hnil : g [] = []) :
    Line.mapSegments φ (t ++ n.render) = g t ++ (f n).render := by
  have := ht.mapSegments n.shape.isOpener_opener (n.shape.isBalanced_interior h.legal) htext hnode
    hnil
  rwa [h.ofInterior, ← render_eq] at this

theorem IsReadBack.mapFreeText {f : Text → Text}
    (hheld : ∀ g : Text → Text, Line.mapStatements g (t ++ n.render) = g (t ++ n.render))
    (hnil : f [] = []) : Line.mapFreeText f (t ++ n.render) = f t ++ n.render := by
  refine (hheld _).trans ?_
  exact h.mapSegments ht (f := fun n => n) (fun _ => rfl) (fun _ => rfl) hnil

theorem IsReadBack.sanitize (hcolon : ':' ∉ t) :
    Segment.renderAll (Repair.sanitizeSegments false (Segment.scan (t ++ n.render)))
      = Token.renderAll (Repair.sanitizeWords false (Token.lex t)).1
        ++ (Repair.reidentify n).render := by
  have := ht.sanitize n.shape.isOpener_opener (n.shape.isBalanced_interior h.legal) hcolon
  rwa [h.ofInterior, ← render_eq] at this

end

end ShapedNode

/-! ## Rectangles -/

theorem ShapedNode.isReadBack_of_isClean {n : ShapedNode} (hl : Label.IsClean n.label)
    (he : Label.HasPlainEnds n.label) : n.IsReadBack :=
  ⟨hl.isLegal, hl.isTrimmed, fun _ => he.head⟩

theorem ShapedNode.IsClean.isReadBack {n : ShapedNode} (hn : n.IsClean) : n.IsReadBack :=
  isReadBack_of_isClean hn.2.1 (Label.hasPlainEnds_iff.2 hn.2.2)

section

variable {l : Text} (hl : Label.IsClean l)

include hl

/-- A slash at the front of a label slants the sides of its rectangle. -/
theorem Segment.classifyInterior_isClean :
    (∃ k, l = '/' :: k ∧
        classifyInterior '[' l = (.input, Text.trim (Text.dropLastIf Label.isSlash k)))
      ∨ (∃ k, l = '\\' :: k ∧
        classifyInterior '[' l = (.output, Text.trim (Text.dropLastIf Label.isSlash k)))
      ∨ classifyInterior '[' l = (.process, l) ∧ ∀ c ∈ l.head?, Label.isSlash c = false := by
  have htrim := Text.trim_eq_self hl.isTrimmed
  obtain ⟨c, k, rfl⟩ := List.exists_cons_of_ne_nil hl.1
  by_cases hslash : c = '/'
  · exact .inl ⟨k, by rw [hslash], classifyInterior_input (by rw [htrim, hslash])⟩
  by_cases hback : c = '\\'
  · exact .inr (.inl ⟨k, by rw [hback], classifyInterior_output (by rw [htrim, hback])⟩)
  have hplain : ∀ d ∈ (c :: k).head?, Label.isSlash d = false := by
    intro d hd
    cases hd
    simp [Label.isSlash, hslash, hback]
  have hread := classifyInterior_process (i := c :: k) (by rwa [htrim])
    (by rw [htrim]; exact between?_eq_none (head?_ne_of_isLegal hl.isLegal (by decide)))
  have hnone : peel? '[' (· == ']') (c :: k) = none :=
    peel?_eq_none (head?_ne_of_isLegal hl.isLegal (by decide))
  rw [htrim, hnone, Option.getD_none, htrim] at hread
  exact .inr (.inr ⟨hread, hplain⟩)

theorem ShapedNode.isReadBack_ofInterior (id : Text) : (ofInterior id '[' l).IsReadBack := by
  refine ⟨fun c hc => hl.isLegal c (Segment.mem_of_mem_classifyInterior hc), ?_, ?_⟩
  · exact Text.isTrimmed_trim _
  · rw [ofInterior]
    rcases Segment.classifyInterior_isClean hl with ⟨k, -, h⟩ | ⟨k, -, h⟩ | ⟨h, hplain⟩
    · simp [h]
    · simp [h]
    · rw [h]
      exact fun _ => hplain

/-- Nothing but slashes and blanks is taken off the label. -/
theorem ShapedNode.cleanShapeLabel_ofInterior (id : Text) :
    Repair.cleanShapeLabel (ofInterior id '[' l).label = [] ↔ Repair.cleanShapeLabel l = [] := by
  have hslash (c : Char) (hc : Label.isSlash c = true) : Label.isSlash c = true ∨
      Text.isBlank c = true ∨ Label.isIllegal c = true := .inl hc
  have hblank (c : Char) (hc : Text.isBlank c = true) : Label.isSlash c = true ∨
      Text.isBlank c = true ∨ Label.isIllegal c = true := .inr (.inl hc)
  rw [Repair.cleanShapeLabel_eq_nil_iff, Repair.cleanShapeLabel_eq_nil_iff, ofInterior]
  rcases Segment.classifyInterior_isClean hl with ⟨k, rfl, h⟩ | ⟨k, rfl, h⟩ | ⟨h, -⟩
  · rw [h, Text.forall_mem_trim_iff hblank, Segment.forall_mem_dropLastIf_iff hslash,
      List.forall_mem_cons]
    exact (and_iff_right (hslash _ rfl)).symm
  · rw [h, Text.forall_mem_trim_iff hblank, Segment.forall_mem_dropLastIf_iff hslash,
      List.forall_mem_cons]
    exact (and_iff_right (hslash _ rfl)).symm
  · rw [h]

end

/-! ## Words and arrows in front of a shape -/

namespace Token

/-- Letters, digits and arrows. -/
def IsPath (t : Text) : Prop := ∀ c ∈ t, c.isAlphanum = true ∨ isArrowChar c = true

theorem IsPath.append {t u : Text} (ht : IsPath t) (hu : IsPath u) : IsPath (t ++ u) := by
  intro c hc
  exact (List.mem_append.1 hc).elim (ht c) (hu c)

theorem isPath_word {w : Text} (hw : ∀ c ∈ w, c.isAlphanum = true) : IsPath w :=
  fun c hc => .inl (hw c hc)

theorem isPath_arrow {x : Text} (hx : ∀ c ∈ x, isArrowChar c = true) : IsPath x :=
  fun c hc => .inr (hx c hc)

namespace IsPath

variable {t : Text} (ht : IsPath t)

include ht

theorem notMem {d : Char} (hd : d.isAlphanum = false) (harrow : isArrowChar d = false) :
    d ∉ t := by
  intro hmem
  rcases ht d hmem with h | h
  · rw [hd] at h
    cases h
  · rw [harrow] at h
    cases h

theorem not_delimiter : ∀ c ∈ t, isOpener c = false ∧ isCloser c = false ∧ c ≠ '|' := by
  intro c hc
  rcases ht c hc with h | h
  · exact Segment.not_delimiter_of_isAlphanum h
  · simp only [isArrowChar, Bool.or_eq_true, beq_iff_eq] at h
    rcases h with (((rfl | rfl) | rfl) | rfl) | rfl <;> decide

theorem not_isBlank : ∀ c ∈ t, Text.isBlank c = false := by
  intro c hc
  rcases ht c hc with h | h
  · exact Ident.not_isBlank_of_isAlphanum h
  · exact Layout.isBlank_eq_false_of_isArrowChar h

theorem isFree : Segment.IsFree t :=
  Segment.isFree_of_chars fun c hc => ⟨(ht.not_delimiter c hc).1, (ht.not_delimiter c hc).2.2⟩

theorem blankDelimiters : Repair.blankDelimiters t = t :=
  EdgeText.blankDelimiters_eq_self fun c hc =>
    ⟨(ht.not_delimiter c hc).1, (ht.not_delimiter c hc).2.1⟩

theorem isUnquoted : Text.IsUnquoted t := by
  intro c hc
  by_contra hmark
  simp only [Label.isQuotationMark, Label.quotationMarks, List.contains_cons, List.contains_nil,
    Bool.not_eq_false, Bool.or_eq_true, beq_iff_eq, Bool.false_eq_true, or_false] at hmark
  rcases hmark with rfl | rfl | rfl | rfl | rfl <;> exact ht.notMem rfl rfl hc

theorem replaceLabels : Text.replaceMatches Repair.pipeLabel t = t := by
  have := EdgeText.replaceLabels_append (ht.notMem (d := '|') rfl rfl) []
  rwa [List.append_nil, Text.replaceMatches, List.append_nil] at this

end IsPath

end Token

/-- A word, something of an arrow and an identifier in front of a shape. The identifier may reach
back into the arrow. -/
structure IsTouched (a t id : Text) : Prop extends Segment.IsApart t id where
  word : Ident.isValid a = true
  path : Token.IsPath (t ++ id)
  behind : ∃ c z, t ++ id = a ++ c :: z ∧ Token.isArrowChar c = true

namespace IsTouched

variable {a t id : Text} (h : IsTouched a t id)

include h

theorem path_front : Token.IsPath t := fun c hc => h.path c (List.mem_append_left _ hc)

theorem path_id : Token.IsPath id := fun c hc => h.path c (List.mem_append_right _ hc)

/-- The line is never taken for anything but a statement. -/
theorem mapStatements {y : Text} (hne : y ≠ []) (hclose : ∀ d ∈ y.getLast?, isCloser d = true)
    (hn : '\n' ∉ y) (f : Text → Text) :
    Line.mapStatements f (t ++ (id ++ y)) = f (t ++ (id ++ y)) := by
  obtain ⟨hid, halnum, -⟩ := Ident.isValid_iff.1 h.word
  obtain ⟨c, z, hsplit, hc⟩ := h.behind
  have hline : t ++ (id ++ y) = a ++ (c :: z ++ y) := by
    rw [← List.append_assoc, hsplit, List.append_assoc]
  have hnewline : '\n' ∉ a ++ (c :: z ++ y) := by
    rw [← hline, ← List.append_assoc, List.mem_append]
    exact fun hmem => hmem.elim (h.path.notMem rfl rfl) hn
  have hlast : ∀ d ∈ (c :: z ++ y).getLast?, isCloser d = true := by
    rwa [List.getLast?_append_of_ne_nil _ hne]
  rw [hline]
  refine Line.mapStatements_glued hid halnum (c := c) rfl
    (Layout.isAlphanum_eq_false_of_isArrowChar hc) (Layout.isBlank_eq_false_of_isArrowChar hc)
    (fun he => absurd (he ▸ hc) (by decide)) (fun d hd => Line.ends_of_isCloser (hlast d hd))
    hnewline f

theorem mapStatements_render {n : ShapedNode} (hn : n.id = id) (hlabel : '\n' ∉ n.label)
    (f : Text → Text) : Line.mapStatements f (t ++ n.render) = f (t ++ n.render) := by
  have hlast : n.shape.wrap n.label
      = (n.shape.opener :: n.shape.interior n.label) ++ [closerOf n.shape.opener] := by
    rw [Shape.wrap_eq]
  have hnewline : Text.All (· ≠ '\n') (n.shape.wrap n.label) :=
    all_render_node (n := ⟨[], n.shape, n.label⟩) (fun _ => ne_newline_of_isWritten) nofun
      fun c hc he => hlabel (he ▸ hc)
  rw [ShapedNode.render, hn]
  refine h.mapStatements (by simp [hlast]) (fun d hd => ?_) (fun hmem => hnewline _ hmem rfl) f
  rw [hlast, List.getLast?_concat] at hd
  cases hd
  exact isCloser_closerOf _

section

variable {l : Text} (hl : Label.IsClean l)

include hl

theorem normalizeBrackets_line : Repair.normalizeBrackets (t ++ (id ++ '[' :: l ++ [']']))
    = t ++ (ShapedNode.ofInterior id '[' l).render := by
  have hclose : ∀ d ∈ ('[' :: l ++ [']']).getLast?, isCloser d = true := by
    intro d hd
    rw [List.getLast?_concat] at hd
    cases hd
    rfl
  have hnewline : '\n' ∉ '[' :: l ++ [']'] := by simp [hl.newline]
  rw [List.append_assoc id]
  refine (h.mapStatements (y := '[' :: l ++ [']']) (by simp) hclose hnewline _).trans ?_
  rw [← List.append_assoc id]
  refine (h.toIsApart.mapSegments (c := '[') rfl hl.isLegal.isBalanced (f := fun n => n)
    (fun _ => rfl) (fun _ => rfl) rfl).trans ?_
  rw [h.path_front.blankDelimiters]

theorem isClean_label :
    Label.IsClean (Repair.relabel (ShapedNode.ofInterior id '[' l)).label ∧
      Label.HasPlainEnds (Repair.relabel (ShapedNode.ofInterior id '[' l)).label :=
  Layout.isClean_label_relabel (n := ShapedNode.ofInterior id '[' l) h.path_id.isUnquoted
    fun _ hc => hl.not_isQuotationMark (Segment.mem_of_mem_classifyInterior hc)

theorem sanitizeLabels_line :
    Repair.sanitizeLabels (t ++ (ShapedNode.ofInterior id '[' l).render)
      = t ++ (Repair.relabel (ShapedNode.ofInterior id '[' l)).render := by
  have hnewline : '\n' ∉ (ShapedNode.ofInterior id '[' l).label :=
    fun hmem => hl.newline (Segment.mem_of_mem_classifyInterior hmem)
  refine (h.mapStatements_render rfl hnewline _).trans ?_
  refine ((ShapedNode.isReadBack_ofInterior hl id).mapSegments h.toIsApart
    (fun _ => rfl) (fun _ => rfl) (by rw [Text.replaceMatches])).trans ?_
  rw [h.path_front.replaceLabels]

/-- The rules up to the one for identifiers write the shape in its canonical form. -/
theorem sanitizeIdents_line :
    Repair.sanitizeIdents (Repair.sanitizeLabels (Repair.normalizeBrackets
        (t ++ (id ++ '[' :: l ++ [']']))))
      = Token.renderAll (Repair.sanitizeWords false (Token.lex t)).1
        ++ (Repair.reidentify (Repair.relabel (ShapedNode.ofInterior id '[' l))).render := by
  obtain ⟨hlabel, hends⟩ := h.isClean_label hl
  have hread := ShapedNode.isReadBack_of_isClean hlabel hends
  rw [normalizeBrackets_line h hl, sanitizeLabels_line h hl]
  exact (h.mapStatements_render rfl hlabel.newline _).trans
    (hread.sanitize h.toIsApart (h.path_front.notMem rfl rfl))

end

end IsTouched

end Flowchart
