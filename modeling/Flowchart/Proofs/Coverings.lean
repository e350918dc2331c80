import Flowchart.Proofs.Readings

/-!
# Segments cover their line

The segments of a line are read from consecutive pieces of it, one each, and the pieces make up the
line. Free text is never divided, and an identifier ends where the scanner has to stop.
-/

namespace Flowchart.Segment

/-! ## Identifiers -/

theorem untilDouble_isPrefix (c : Char) (s : Text) : untilDouble c s <+: s := by
  fun_induction untilDouble c s with
  | case1 => exact List.prefix_rfl
  | case2 => exact List.prefix_rfl
  | case3 => exact List.nil_prefix
  | case4 a b s h ih => exact List.prefix_cons_inj a |>.2 ih

theorem not_infix_untilDouble (c : Char) (s : Text) : ¬ [c, c] <:+: untilDouble c s := by
  fun_induction untilDouble c s with
  | case1 => exact fun h => absurd h.length_le (by simp)
  | case2 => exact fun h => absurd h.length_le (by simp)
  | case3 => exact fun h => absurd h.length_le (by simp)
  | case4 a b s h ih =>
      intro hpair
      rcases List.infix_cons_iff.1 hpair with hprefix | hpair
      · obtain ⟨hfirst, hsecond⟩ := List.cons_prefix_cons.1 hprefix
        have hsecond := hsecond.trans (untilDouble_isPrefix c (b :: s))
        exact h ⟨hfirst.symm, (List.cons_prefix_cons.1 hsecond).1.symm⟩
      · exact ih hpair

/-- The text that the identifier is looked for in. -/
def glueable (back : Text) : Text :=
  (back.takeWhile (!stopsId ·)).takeWhile (· != '>')

theorem gluedId_isPrefix_glueable (back : Text) : gluedId back <+: glueable back :=
  (untilDouble_isPrefix _ _).trans (untilDouble_isPrefix _ _)

theorem gluedId_isPrefix (back : Text) : gluedId back <+: back :=
  (gluedId_isPrefix_glueable back).trans
    ((List.takeWhile_prefix _).trans (List.takeWhile_prefix _))

/-- What stands between an arrow, a blank or another mark and a shape. -/
structure IsIdentifier (id : Text) : Prop where
  ne_nil : id ≠ []
  chars : ∀ c ∈ id, Text.isBlank c = false ∧ isOpener c = false ∧ isCloser c = false ∧
    c ≠ '|' ∧ c ≠ '&' ∧ c ≠ '>'
  not_dashes : ¬ ['-', '-'] <:+: id
  not_bars : ¬ ['=', '='] <:+: id

theorem isIdentifier_gluedId {back : Text} (h : gluedId back ≠ []) :
    IsIdentifier (gluedId back).reverse where
  ne_nil := by simpa using h
  chars := by
    intro c hc
    have hglueable := (gluedId_isPrefix_glueable back).subset (List.mem_reverse.1 hc)
    have hstop : stopsId c = false := by
      simpa using List.mem_takeWhile_imp ((List.takeWhile_prefix _).subset hglueable)
    have hhead : c ≠ '>' := by simpa using List.mem_takeWhile_imp hglueable
    simp only [stopsId, Bool.or_eq_false_iff, beq_eq_false_iff_ne] at hstop
    obtain ⟨⟨⟨⟨hblank, hopener⟩, hcloser⟩, hpipe⟩, hand⟩ := hstop
    exact ⟨hblank, hopener, hcloser, hpipe, hand, hhead⟩
  not_dashes := by
    intro h
    have hpair : ['-', '-'] <:+: gluedId back := by
      rw [← List.reverse_infix]
      exact h
    exact not_infix_untilDouble '-' _ (hpair.trans (untilDouble_isPrefix _ _).isInfix)
  not_bars := by
    intro h
    have hpair : ['=', '='] <:+: gluedId back := by
      rw [← List.reverse_infix]
      exact h
    exact not_infix_untilDouble '=' _ hpair

theorem isIdentifier_of_mem_scanFrom {back s : Text} {n : ShapedNode}
    (h : .node n ∈ scanFrom back s) : IsIdentifier n.id := by
  obtain ⟨back', c, i, -, hne, rfl⟩ := exists_of_mem_scanFrom h
  exact isIdentifier_gluedId hne

/-! ## Pieces -/

/-- A segment is read from a piece of a line, in front of the rest of the line. A shape that no
delimiter closes ends before an arrow or with the line. -/
inductive IsReadFrom : Segment → Text → Text → Prop
  | text {t rest : Text} (hne : t ≠ []) : IsReadFrom (.text t) t rest
  | closed (id : Text) {opener : Char} {interior rest : Text} (hopener : isOpener opener = true)
      (hclosed : closedInterior? [closerOf opener] (interior ++ closerOf opener :: rest) =
        some (interior, rest)) :
      IsReadFrom (.node (.ofInterior id opener interior))
        (id ++ opener :: interior ++ [closerOf opener]) rest
  | unclosed (id : Text) {opener : Char} {interior rest : Text} (hopener : isOpener opener = true)
      (hunclosed : closedInterior? [closerOf opener] (interior ++ rest) = none)
      (harrow : untilArrow (interior ++ rest) = (interior, rest)) :
      IsReadFrom (.node (.ofInterior id opener interior)) (id ++ opener :: interior) rest

/-- Consecutive pieces of a line, each with the segment that is read from it. -/
inductive Divides : List (Segment × Text) → Text → Prop
  | nil : Divides [] []
  | cons {segment : Segment} {piece rest : Text} {parts : List (Segment × Text)}
      (h : segment.IsReadFrom piece rest) (hparts : Divides parts rest) :
      Divides ((segment, piece) :: parts) (piece ++ rest)

theorem Divides.flatMap_eq {parts : List (Segment × Text)} {line : Text} (h : Divides parts line) :
    parts.flatMap Prod.snd = line := by
  induction h with
  | nil => rfl
  | cons _ _ ih => rw [List.flatMap_cons, ih]

/-- Free text that is given backwards stands in front of a line. -/
theorem Divides.exists_ofBack {parts : List (Segment × Text)} {line : Text}
    (h : Divides parts line) (back : Text) : ∃ parts',
      parts'.map Prod.fst = ofBack back ++ parts.map Prod.fst ∧
        Divides parts' (back.reverse ++ line) := by
  unfold ofBack
  split
  · rename_i hnil
    rw [List.isEmpty_iff.1 hnil]
    exact ⟨parts, rfl, h⟩
  · rename_i hne
    exact ⟨(.text back.reverse, back.reverse) :: parts, rfl, .cons (.text (by simpa using hne)) h⟩

theorem exists_isReadFrom_shape (id : Text) {opener : Char} (hopener : isOpener opener = true)
    (s : Text) : ∃ piece, piece ++ (shapeInterior opener s).2 = id ++ opener :: s ∧
      IsReadFrom (.node (.ofInterior id opener (shapeInterior opener s).1)) piece
        (shapeInterior opener s).2 := by
  unfold shapeInterior
  cases hs : closedInterior? [closerOf opener] s with
  | some r =>
      have hinterior : s = r.1 ++ closerOf opener :: r.2 := eq_append_closer hs rfl
      refine ⟨_, ?_, .closed id hopener (hinterior ▸ hs)⟩
      simp [← hinterior]
  | none =>
      have hrest := untilArrow_append s
      refine ⟨_, ?_, .unclosed id hopener (hrest.symm ▸ hs) (by rw [hrest])⟩
      rw [List.append_assoc, List.cons_append, hrest]

/-- Behind free text that is given backwards, the segments are read from that text and from what
follows it. -/
theorem exists_divides_scanFrom (back s : Text) : ∃ parts,
    parts.map Prod.fst = scanFrom back s ∧ Divides parts (back.reverse ++ s) := by
  fun_induction scanFrom back s with
  | case1 back => simpa using Divides.nil.exists_ofBack back
  | case2 back s label rest h ih =>
      obtain ⟨rfl, -⟩ := eq_append_of_untilPipe? h
      simpa using ih
  | case3 back s h ih => simpa using ih
  | case4 back c s hc h id body read ih =>
      obtain ⟨parts, hparts, hdivides⟩ := ih
      obtain ⟨piece, hpiece, hread⟩ := exists_isReadFrom_shape id.reverse h.1 s
      obtain ⟨parts', hparts', hdivides'⟩ :=
        (Divides.cons hread (by simpa using hdivides)).exists_ofBack (back.drop id.length)
      -- the identifier goes over from the free text to the piece of the shape
      have hback : back.reverse = (back.drop id.length).reverse ++ id.reverse :=
        (congrArg List.reverse (List.prefix_iff_eq_append.1 (gluedId_isPrefix back)).symm).trans
          List.reverse_append
      refine ⟨parts', by rw [hparts', List.map_cons, hparts]; rfl, ?_⟩
      rwa [hback, List.append_assoc, ← hpiece]
  | case5 back c s hc h ih => simpa using ih

/-! ## Free text -/

/-- Two segments that may stand side by side. -/
inductive Apart : Segment → Segment → Prop
  | left (n : ShapedNode) (segment : Segment) : Apart (.node n) segment
  | right (segment : Segment) (n : ShapedNode) : Apart segment (.node n)

theorem isChain_ofBack_append {back : Text} {n : ShapedNode} {segments : List Segment}
    (h : (.node n :: segments).IsChain Apart) :
    (ofBack back ++ .node n :: segments).IsChain Apart := by
  unfold ofBack
  split
  · exact h
  · exact .cons_cons (.right _ n) h

theorem isChain_scanFrom (back s : Text) : (scanFrom back s).IsChain Apart := by
  fun_induction scanFrom back s with
  | case1 back =>
      unfold ofBack
      split
      · exact .nil
      · exact .singleton _
  | case2 back s label rest h ih => exact ih
  | case3 back s h ih => exact ih
  | case4 back c s hc h id body read ih =>
      exact isChain_ofBack_append (ih.cons fun segment _ => .left _ segment)
  | case5 back c s hc h ih => exact ih

end Flowchart.Segment
