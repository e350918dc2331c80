import Flowchart.Proofs.Rereadings
import Flowchart.Proofs.Unquoting

/-!
# Labels in double quotes

Quotation marks keep the semicolons of a label from ending its statement. They are taken away before
any delimiter is read, so that the label is read as if it had been written without them.
-/

namespace Flowchart

namespace Repair

/-! ## One quoted label -/

theorem quote_mem_of_quotedLabel {opening closing s : Text} {r : Text × Nat}
    (h : quotedLabel opening closing s = some r) : ∃ w t, s = w ++ '"' :: t ∧ '"' ∈ t := by
  unfold quotedLabel at h
  obtain ⟨body, hbody, h⟩ := Option.bind_eq_some_iff.1 h
  obtain ⟨inner, hinner, h⟩ := Option.bind_eq_some_iff.1 h
  obtain ⟨behind, hbehind, -⟩ := Option.bind_eq_some_iff.1 h
  rw [Text.after?_eq_some_iff] at hbody hinner hbehind
  refine ⟨opening ++ body.takeWhile Text.isBlank, inner, ?_, ?_⟩
  · have hsplit := List.takeWhile_append_dropWhile (p := Text.isBlank) (l := body)
    rw [hinner] at hsplit
    rw [hbody, List.append_assoc]
    exact congrArg _ hsplit.symm
  · have hmem := List.mem_append_left behind (List.mem_singleton_self '"')
    rw [← hbehind] at hmem
    exact List.mem_of_mem_drop hmem

theorem quotedLabel_eq_none_of_last {opening closing u s : Text} (hu : '"' ∉ u) (hs : '"' ∉ s) :
    quotedLabel opening closing (u ++ '"' :: s) = none := by
  cases h : quotedLabel opening closing (u ++ '"' :: s) with
  | none => rfl
  | some r =>
      obtain ⟨w, t, hsplit, ht⟩ := quote_mem_of_quotedLabel h
      obtain ⟨v, -, hrest⟩ := exists_append_of_append_eq hu hsplit
      have hmem : '"' ∈ s := by
        cases v with
        | nil =>
            cases hrest
            exact ht
        | cons c v =>
            rw [List.cons_append, List.cons.injEq] at hrest
            rw [hrest.2]
            simp
      exact absurd hmem hs

section

variable {a t s : Text} (ha : Ident.isValid a = true) (ht : '"' ∉ t) (hs : '"' ∉ s)

include ha ht hs

/-- The passes for a list of delimiters unwrap a label in one of them. -/
theorem foldl_quoted (hline : '\n' ∉ t) {e : Text × Text} {ds : List (Text × Text)}
    (hds : ∀ d ∈ ds, IsDelimiter d) (hpair : ds.Pairwise fun d e => ¬ d.1 <:+ e.1) (he : e ∈ ds) :
    ds.foldl (fun t d => Text.replaceMatches (quotedLabel d.1 d.2) t)
        (a ++ (e.1 ++ '"' :: (t ++ '"' :: (e.2 ++ s))))
      = a ++ (e.1 ++ (t ++ (e.2 ++ s))) := by
  have hmarks := (hds e he).quote_notMem
  have hrest : '"' ∉ e.2 ++ s := by simp [hmarks.2, hs]
  have hpass {d : Text × Text} : Text.replaceMatches (quotedLabel d.1 d.2) (e.2 ++ s) = e.2 ++ s :=
    Text.replaceMatches_eq_self fun u hu => quotedLabel_eq_none fun h => hrest (hu.subset h)
  induction ds with
  | nil => cases he
  | cons d ds ih =>
      rw [List.pairwise_cons] at hpair
      have hd := hds d (by simp)
      rw [List.foldl_cons, Chunk.replaceMatches_id hd ha]
      by_cases hed : e = d
      · have hmatch := quotedLabel_append (hds e he) ht hline s
        have hword := quote_notMem_of_isAlphanum (Ident.isValid_iff.1 ha).2.1
        have hnone : '"' ∉ a ++ (e.1 ++ (t ++ (e.2 ++ s))) := by
          simp [hword, hmarks.1, hmarks.2, ht, hs]
        have hsplit : e.1 ++ '"' :: (t ++ '"' :: (e.2 ++ s))
            = (e.1 ++ '"' :: (t ++ '"' :: e.2)) ++ s := by simp
        have hself : Text.replaceMatches (quotedLabel e.1 e.2) s = s :=
          Text.replaceMatches_eq_self fun u hu => quotedLabel_eq_none fun h => hs (hu.subset h)
        rw [← hed, hsplit, Text.replaceMatches_append_of_some (by simp) hmatch, hself]
        simp only [List.append_assoc]
        exact foldl_quotedLabel_eq_self ds hnone
      · have hmem := (List.mem_cons.1 he).resolve_left hed
        rw [Chunk.replaceMatches_other hd (hds e he) (hpair.1 e hmem) fun u hu =>
          quotedLabel_eq_none_of_last (fun h => ht (hu.subset h)) hrest, hpass]
        exact ih (fun f hf => hds f (by simp [hf])) hpair.2 hmem

end

theorem mem_quotedDelimiters (s : Shape) : (s.opening, s.closing) ∈ quotedDelimiters := by
  cases s <;> decide

theorem splitStatements_of_isLevel {x : Text} (hne : x ≠ []) (hn : '\n' ∉ x) (hx : IsLevel x) :
    splitStatements x = x := by
  have hone : splitFrom 0 false false x = [x] := by
    have := hx 0 false []
    rw [List.append_nil] at this
    rw [this]
    simp [splitFrom, prefixFirst]
  have hline : splitLine x = [x] := by
    rw [splitLine, hone]
    split <;> rfl
  rw [splitStatements, Text.lines_of_notMem hn hne, List.flatMap_singleton, hline]
  rfl

end Repair

/-- A quoted label in a shape, and an arrow to a bare identifier. -/
def quotedLine (a : Text) (s : Shape) (t b : Text) : Text :=
  ShapedNode.lineTo ⟨a, s, '"' :: t ++ ['"']⟩ [' '] b

section

variable {a t b : Text} (s : Shape) (ha : Ident.isValid a = true) (hb : Ident.isValid b = true)
  (ht : '"' ∉ t) (hline : '\n' ∉ t)

include ha hb ht

theorem isLevel_quotedLine : Repair.IsLevel (quotedLine a s t b) := by
  have hwrap : Repair.IsLevel (s.wrap ('"' :: t ++ ['"'])) := by
    rw [Shape.wrap_eq]
    exact (Repair.isLevel_interior s (Repair.isLevel_quoted ht)).enclose s.isOpener_opener
  have harrow : Repair.IsLevel (' ' :: arrow ++ [' ']) :=
    Repair.isLevel_of_plain (List.all_eq_true.1 (by decide))
  have hsplit : quotedLine a s t b
      = (a ++ s.wrap ('"' :: t ++ ['"'])) ++ ((' ' :: arrow ++ [' ']) ++ b) := by
    simp [quotedLine, ShapedNode.lineTo, ShapedNode.render, arrowTo]
  rw [hsplit]
  exact ((Repair.isLevel_id ha).append hwrap).append (harrow.append (Repair.isLevel_id hb))

include hline

theorem stripQuotes_quotedLine : Repair.stripQuotes (Repair.splitStatements (quotedLine a s t b))
    = ShapedNode.lineTo ⟨a, s, t.unmarked⟩ [' '] b := by
  have hword := Repair.quote_notMem_of_isAlphanum (Ident.isValid_iff.1 ha).2.1
  have hlast := Repair.quote_notMem_of_isAlphanum (Ident.isValid_iff.1 hb).2.1
  have hmarks := (Repair.isDelimiter_of_mem (Repair.mem_quotedDelimiters s)).quote_notMem
  have hrest : '"' ∉ ' ' :: arrowTo b := by simp [arrowTo, arrow, hlast]
  have hnewline : '\n' ∉ quotedLine a s t b :=
    ShapedNode.newline_notMem_lineTo (n := ⟨a, s, '"' :: t ++ ['"']⟩) ha hb (by simp [hline])
      (by simp)
  have hquoted : quotedLine a s t b
      = a ++ (s.opening ++ '"' :: (t ++ '"' :: (s.closing ++ ' ' :: arrowTo b))) := by
    simp [quotedLine, ShapedNode.lineTo, ShapedNode.render, Shape.wrap]
  have hbare : a ++ (s.opening ++ (t ++ (s.closing ++ ' ' :: arrowTo b)))
      = ShapedNode.lineTo ⟨a, s, t⟩ [' '] b := by
    simp [ShapedNode.lineTo, ShapedNode.render, Shape.wrap]
  have hunwrap := Repair.foldl_quoted ha ht hrest hline (fun _ => Repair.isDelimiter_of_mem)
    Repair.pairwise_quotedDelimiters (Repair.mem_quotedDelimiters s)
  have hnone : '"' ∉ a ++ (s.opening ++ (t ++ (s.closing ++ ' ' :: arrowTo b))) := by
    rw [List.mem_append, List.mem_append, List.mem_append, List.mem_append]
    tauto
  rw [Repair.splitStatements_of_isLevel (by simp [hquoted]) hnewline
      (isLevel_quotedLine s ha hb ht),
    Repair.stripQuotes, Repair.unwrapQuotes, hquoted, hunwrap,
    Repair.dropEscapedQuotes_eq_self hnone, hbare]
  have hid := Text.unmarked_eq_self (Text.isUnquoted_id ha)
  have hfront : Text.IsUnquoted (' ' :: arrow ++ [' ']) :=
    .written (fun _ => isQuotationMark_of_isWritten) (by decide)
  have hend : Text.IsUnquoted (' ' :: arrowTo b) := hfront.append (Text.isUnquoted_id hb)
  show (a ++ s.wrap t ++ ' ' :: arrowTo b).unmarked = a ++ s.wrap t.unmarked ++ ' ' :: arrowTo b
  rw [Text.unmarked_append, Text.unmarked_append, hid, Shape.unmarked_wrap,
    Text.unmarked_eq_self hend]

end

/-! ## What the shape and the edge become -/

/-- The repaired text is accepted with one edge between two identifiers, and the first of them has a
shape. -/
def IsDrawnAs (x a : Text) (s : Shape) (b : Text) : Prop :=
  ∃ summary, check (repair x) = .ok summary ∧ summary.edges = [⟨a, b, none⟩] ∧
    (summary.nodes.lookup a).map NodeSummary.shape = some s

theorem isDrawnAs_iff {x a b : Text} {s : Shape} {summary : Summary}
    (hx : check (repair x) = .ok summary) : IsDrawnAs x a s b ↔
      summary.edges = [⟨a, b, none⟩] ∧
        (summary.nodes.lookup a).map NodeSummary.shape = some s := by
  constructor
  · rintro ⟨other, hother, h⟩
    rw [hx] at hother
    cases hother
    exact h
  · exact fun h => ⟨summary, hx, h⟩

theorem IsDrawnAs.unique {x a b : Text} {s k : Shape} (h : IsDrawnAs x a s b) :
    IsDrawnAs x a k b ↔ s = k := by
  obtain ⟨summary, hx, hedges, hshape⟩ := h
  rw [isDrawnAs_iff hx, and_iff_right hedges, hshape]
  exact Option.some_inj

theorem ShapedNode.IsClean.isDrawnAs {x b : Text} {n : ShapedNode} (hn : n.IsClean)
    (hb : Ident.isValid b = true) (hx : repair x = Chart.render ⟨default, [n.statementTo b]⟩) :
    IsDrawnAs x n.id n.shape b := by
  have hstatement : ∀ s ∈ [n.statementTo b], s.IsClean := by
    intro s hs
    rw [List.mem_singleton.1 hs]
    exact hn.isClean_statementTo hb
  have hclean : (⟨default, [n.statementTo b]⟩ : Chart).IsClean :=
    Chart.isClean_settleAll default hstatement
  obtain ⟨summary, hcheck⟩ := Chart.exists_check_render hclean
  have hrecords := (Chart.check_render_eq_ok_iff hclean).1 hcheck
  have hempty : Check.Tells [] [] := fun _ => rfl
  obtain ⟨-, htells⟩ := Check.foldlM_declare List.Pairwise.nil hempty hrecords.nodes
  refine ⟨summary, hx ▸ hcheck, ?_, ?_⟩
  · rw [hrecords.edges]
    rfl
  · have hmentions : Node.mentions n.id [.shaped n, .bare b] = [n] := by
      simp [Node.mentions, Node.shaped?]
    show (summary.nodes.lookup n.id).map NodeSummary.shape = _
    rw [htells, List.nil_append]
    show (Check.known n.id [.shaped n, .bare b]).map NodeSummary.shape = _
    rw [Check.known, hmentions]
    rfl

section

variable {a t b : Text} {s : Shape} (ha : Ident.isValid a = true) (hb : Ident.isValid b = true)
  (ht : '"' ∉ t) (hline : '\n' ∉ t)

include ha hb ht hline

theorem isDrawnAs_of_isReadAs {n m : ShapedNode}
    (hn : Segment.IsReadAs (ShapedNode.lineTo ⟨a, s, t.unmarked⟩ [' '] b) n b)
    (hm : Segment.IsReadAs
      (Repair.normalizeBrackets (ShapedNode.lineTo ⟨a, s, t.unmarked⟩ [' '] b)) m b) :
    IsDrawnAs (quotedLine a s t b) a m.shape b := by
  have hquotes := stripQuotes_quotedLine s ha hb ht hline
  have hunquoted := Repair.isUnquoted_stripQuotes (Repair.splitStatements (quotedLine a s t b))
  rw [hquotes] at hunquoted
  have hnewline : '\n' ∉ ShapedNode.lineTo ⟨a, s, t.unmarked⟩ [' '] b :=
    ShapedNode.newline_notMem_lineTo ha hb (fun h => hline (Text.unmarked_subset t h)) (by simp)
  obtain ⟨hclean, hid, hdocument⟩ := shapeDocument_of_isReadAs ha hb hnewline hunquoted hn hm
  have hrepair : repair (quotedLine a s t b)
      = Chart.render ⟨default, [(Repair.relabel m).statementTo b]⟩ := by
    rw [repair_eq, hquotes, hdocument]
  have hdrawn := hclean.isDrawnAs hb hrepair
  have hsource : (Repair.relabel m).id = a := hid
  rwa [hsource] at hdrawn

/-- A label that its shape encloses, and that begins with nothing that is read as a delimiter, stays
in its shape. -/
theorem isDrawnAs_of_encloses (hclosed : s.Encloses t.unmarked)
    (hkeep : s.KeepsLabel (Text.trim t.unmarked)) : IsDrawnAs (quotedLine a s t b) a s b := by
  have hblanks : Text.IsBlanks [' '] := .space
  have hgap := Segment.isLeftover_of_isBlanks hblanks
  let o : ShapedNode := ⟨a, s, t.unmarked⟩
  let n : ShapedNode := ⟨a, s, Text.trim t.unmarked⟩
  have hfirst : Segment.scan (o.lineTo [' '] b) = [.node n, .text ([' '] ++ arrowTo b)] :=
    ShapedNode.scan_lineTo_of_encloses ha hb hclosed hkeep hgap
  have hnewline : '\n' ∉ o.lineTo [' '] b :=
    ShapedNode.newline_notMem_lineTo ha hb (fun h => hline (Text.unmarked_subset t h)) (by simp)
  have hbrackets : Repair.normalizeBrackets (o.lineTo [' '] b) = n.lineTo [' '] b :=
    ShapedNode.normalizeBrackets_lineTo ha hb hnewline hfirst
  have hsecond : Segment.scan (n.lineTo [' '] b) = [.node n, .text ([' '] ++ arrowTo b)] := by
    have hscan := ShapedNode.scan_lineTo_of_encloses (n := n) ha hb hclosed.trim
      (by rwa [Text.trim_trim]) hgap
    rwa [Text.trim_trim] at hscan
  exact isDrawnAs_of_isReadAs ha hb ht hline ⟨_, hgap, hfirst⟩ ⟨_, hgap, hbrackets ▸ hsecond⟩

/-- A quoted label is read as if it stood in its shape without quotation marks. Where nothing but
delimiters and blanks is then left between the shape and the arrow, before and after the shape is
written in its canonical way, the edge is kept, and the shape is the one that is read last. It is
the one that was written if it encloses the label and no part of the label is read as its
delimiter. -/
theorem isDrawnAs_quotedLine :
    (∀ n m, Segment.IsReadAs (ShapedNode.lineTo ⟨a, s, t.unmarked⟩ [' '] b) n b →
      Segment.IsReadAs
        (Repair.normalizeBrackets (ShapedNode.lineTo ⟨a, s, t.unmarked⟩ [' '] b)) m b →
      ∀ k, IsDrawnAs (quotedLine a s t b) a k b ↔ m.shape = k) ∧
    (s.Encloses t.unmarked → s.KeepsLabel (Text.trim t.unmarked) →
      IsDrawnAs (quotedLine a s t b) a s b) :=
  ⟨fun _ _ hn hm _ => (isDrawnAs_of_isReadAs ha hb ht hline hn hm).unique,
    isDrawnAs_of_encloses ha hb ht hline⟩

end

/-- Delimiters, arrows, pipes and semicolons in the label, and a delimiter that is never closed. -/
theorem isDrawnAs_quotedLine_nested :
    let t : Text := "a (b) [c]; d --> e | f/".toList
    Ident.isValid "A".toList = true ∧ Ident.isValid "B".toList = true ∧ '"' ∉ t ∧ '\n' ∉ t ∧
      IsDrawnAs (quotedLine "A".toList .process t "B".toList) "A".toList .process "B".toList ∧
      IsDrawnAs (quotedLine "A".toList .process "[x".toList "B".toList) "A".toList .process
        "B".toList := by
  intro t
  have ha : Ident.isValid "A".toList = true := by decide
  have hb : Ident.isValid "B".toList = true := by decide
  have ht : '"' ∉ t := by decide
  have hline : '\n' ∉ t := by decide
  have hclosed : Shape.process.Encloses t.unmarked := by decide
  have hkeep : Shape.process.KeepsLabel (Text.trim t.unmarked) :=
    ⟨by rintro c ⟨⟩; decide, by decide⟩
  have hopen : Segment.IsReadAs
      (ShapedNode.lineTo ⟨"A".toList, .process, Text.unmarked "[x".toList⟩ [' '] "B".toList)
        ⟨"A".toList, .process, "x".toList⟩ "B".toList := ⟨[], nofun, by decide +kernel⟩
  have hagain : Segment.IsReadAs (Repair.normalizeBrackets
      (ShapedNode.lineTo ⟨"A".toList, .process, Text.unmarked "[x".toList⟩ [' '] "B".toList))
        ⟨"A".toList, .process, "x".toList⟩ "B".toList := ⟨[], nofun, by decide +kernel⟩
  exact ⟨ha, hb, ht, hline, (isDrawnAs_quotedLine ha hb ht hline).2 hclosed hkeep,
    ((isDrawnAs_quotedLine ha hb (by decide) (by decide)).1 _ _ hopen hagain _).2 rfl⟩

/-- A slash at the front slants the sides of the shape, and a delimiter may end it. -/
theorem not_isDrawnAs_quotedLine :
    Ident.isValid "A".toList = true ∧ Ident.isValid "B".toList = true ∧
      (∀ t ∈ ["/x".toList, "a]b".toList], '"' ∉ t ∧ '\\' ∉ t ∧ '\n' ∉ t ∧
        Repair.cleanShapeLabel t ≠ []) ∧
      ¬ IsDrawnAs (quotedLine "A".toList .process "/x".toList "B".toList) "A".toList .process
        "B".toList ∧
      ∀ k, ¬ IsDrawnAs (quotedLine "A".toList .process "a]b".toList "B".toList) "A".toList k
        "B".toList := by
  have hslash : check (repair (quotedLine "A".toList .process "/x".toList "B".toList)) = .ok
      ⟨.topDown, [("A".toList, ⟨.input, "x".toList⟩), ("B".toList, ⟨.process, "B".toList⟩)],
        [⟨"A".toList, "B".toList, none⟩]⟩ := by decide +kernel
  have hclose : check (repair (quotedLine "A".toList .process "a]b".toList "B".toList)) = .ok
      ⟨.topDown, [], []⟩ := by decide +kernel
  refine ⟨by decide, by decide, by decide, fun h => ?_, fun k h => ?_⟩
  · exact absurd ((isDrawnAs_iff hslash).1 h).2 (by decide)
  · exact absurd ((isDrawnAs_iff hclose).1 h).1 (by decide)

end Flowchart
