import Flowchart.Proofs.Documents

/-!
# Settled charts

The last rule keeps the lines that are statements, and the first shape of an identifier is the one
it keeps. On canonical lines both can be told from the statements themselves: the lines are those
of the settled statements, and settling changes nothing where no identifier has two shapes.
-/

namespace Flowchart

open Repair (Shapes)

/-! ## Items -/

namespace Repair.Item

theorem ofTokens_blankTokens (b : Text) (ts : List Token) :
    ofTokens (EdgeText.blankTokens b ++ ts) = ofTokens ts := by
  unfold EdgeText.blankTokens
  split
  · rfl
  · simp [ofTokens]

theorem ofTokens_arrow (a : Text) {ts : List Token} (h : ∀ t ∈ ts.head?, ∀ l, t ≠ .label l) :
    ofTokens (.arrow a :: ts) = edge a none :: ofTokens ts := by
  cases ts with
  | nil => rfl
  | cons t ts =>
      have ht := h t rfl
      cases t with
      | label l => exact absurd rfl (ht l)
      | space => rfl
      | word w => rfl
      | arrow a' => simp [ofTokens]
      | join => rfl

theorem head?_ne_label (b : Text) {u : Text} (hu : EdgeText.StartsNode u) :
    ∀ t ∈ (EdgeText.blankTokens b ++ Token.lex u).head?, ∀ l, t ≠ .label l := by
  unfold EdgeText.blankTokens
  intro t ht l
  split at ht
  · rcases EdgeText.lex_startsNode hu with h | ⟨c, w, ts, h, -⟩
    · rw [h] at ht
      cases ht
    · rw [h] at ht
      cases ht
      simp
  · cases ht
    simp

/-- A canonical arrow is one item with its label. -/
theorem ofTokens_ofLabel_append (b : Text) (label : Option Text) (b' : Text) {u : Text}
    (hu : EdgeText.StartsNode u) :
    ofTokens ((EdgeText.ofLabel b label b').tokens ++ Token.lex u)
      = edge arrow label :: ofTokens (Token.lex u) := by
  cases label with
  | none =>
      simp only [EdgeText.ofLabel, EdgeText.tokens, List.append_assoc, List.cons_append]
      rw [ofTokens_blankTokens, ofTokens_arrow arrow (head?_ne_label b' hu), ofTokens_blankTokens]
  | some l =>
      simp only [EdgeText.ofLabel, EdgeText.tokens, List.append_assoc, List.cons_append]
      rw [ofTokens_blankTokens]
      show ofTokens (.arrow arrow :: .label l :: (EdgeText.blankTokens b' ++ Token.lex u)) = _
      rw [ofTokens, ofTokens_blankTokens]

end Repair.Item

namespace Layout

open Repair (Item)

/-- Every arrow is the canonical one, and a label stands right behind it. -/
def HasCanonicalArrows (p : Layout) : Prop :=
  ∀ l ∈ p.links, ∃ b label b', l.1 = EdgeText.ofLabel b label b'

/-- The label as it is written. -/
def rawLabel : EdgeText → Option Text
  | .plain _ _ _ => none
  | .piped _ _ _ l _ => some l
  | .inline _ _ _ l _ _ _ => some l

theorem rawLabel_ofLabel (b : Text) (label : Option Text) (b' : Text) :
    rawLabel (EdgeText.ofLabel b label b') = label := by
  cases label <;> rfl

/-- The items of a line. -/
def items (p : Layout) : List Item :=
  .node p.first.node :: p.links.flatMap fun l => [.edge arrow (rawLabel l.1), .node l.2.node]

theorem items_splits {p : Layout} (hp : p.IsWell) (hc : p.HasCanonicalArrows) :
    p.Splits (fun t => Item.ofTokens (Token.lex t)) (fun e => [.edge arrow (rawLabel e)])
      (fun w => [.node (.bare w)]) (fun _ => []) where
  nil := by simp [Token.lex_nil, Item.ofTokens]
  edge l hl u hu := by
    obtain ⟨b, label, b', he⟩ := hc l hl
    rw [EdgeText.lex_text_append (hp.links l hl).1 hu, he,
      Item.ofTokens_ofLabel_append b label b' hu, rawLabel_ofLabel]
    rfl
  word w t hw ht := by
    rw [lex_word_append hw ht]
    rfl
  lead u hu := by
    rw [EdgeText.lex_blanks_append hp.lead hu.not_isBlank, Item.ofTokens_blankTokens]
    rfl
  trail := by
    have := Item.ofTokens_blankTokens p.trail []
    rw [List.append_nil] at this
    rw [lex_blanks hp.trail, this]
    rfl

theorem ofLine_text {p : Layout} (hp : p.IsWell) (hc : p.HasCanonicalArrows) :
    Item.ofLine p.text = p.items := by
  have hpart : Item.ofLine p.text = p.segments.flatMap
      (part (fun t => Item.ofTokens (Token.lex t)) fun n => [.node (.shaped n)]) := by
    rw [Item.ofLine, Item.ofSegments, scan_text hp]
    congr 1
    funext s
    cases s <;> rfl
  have hnode (n : NodeText) : nodePart (fun w => [Item.node (.bare w)])
      (fun n => [Item.node (.shaped n)]) n = [.node n.node] := by
    cases n <;> rfl
  rw [hpart, flatMap_segments hp (items_splits hp hc)]
  simp [hnode, items]

theorem join_notMem_items (p : Layout) : Item.join ∉ p.items := by
  simp [items]

/-- A line without joins stands for itself. -/
theorem expandJoins_text {p : Layout} (hp : p.IsWell) (hc : p.HasCanonicalArrows) :
    Repair.expandJoins p.text = [p.text] := by
  have hjoin : p.items.contains .join = false := by
    simpa using join_notMem_items p
  unfold Repair.expandJoins
  rw [ofLine_text hp hc]
  dsimp only
  split
  · rw [hjoin]
    rfl
  · rfl

theorem hasCanonicalArrows_ofStatement (s : Statement) : (ofStatement s).HasCanonicalArrows := by
  intro l hl
  obtain ⟨m, -, rfl⟩ := List.mem_map.1 hl
  exact ⟨_, _, _, rfl⟩

end Layout

namespace Statement

open Repair (Item)

theorem isProperNode_of_isClean {n : Node} (hn : n.IsClean) : Repair.isProperNode n = true := by
  cases n with
  | bare w => exact hn
  | shaped m =>
      have hlabel : Label.IsClean m.label := hn.2.1
      have hlegal : m.label.any Label.isIllegal = false := by
        simp only [List.any_eq_false]
        intro c hc
        simp [hlabel.not_isIllegal hc]
      have hid : Ident.isValid m.id = true := hn.1
      simp [Repair.isProperNode, hid, hlegal, hlabel.1]

theorem alternates_items {first : Node} {links : List Link} (hfirst : first.IsClean)
    (hlinks : ∀ l ∈ links, l.IsClean) :
    Repair.alternates (.node first :: links.flatMap fun l =>
      [.edge arrow l.label, .node l.target]) = true := by
  induction links generalizing first with
  | nil => exact isProperNode_of_isClean hfirst
  | cons l links ih =>
      obtain ⟨hlabel, htarget⟩ := hlinks l (by simp)
      have hedge : Repair.isProperEdge arrow l.label = true := by
        cases hl : l.label with
        | none => rfl
        | some k =>
            have := (hlabel k hl).1
            simp [Repair.isProperEdge, this]
      have hrest := ih htarget fun m hm => hlinks m (by simp [hm])
      simp [Repair.alternates, isProperNode_of_isClean hfirst, hedge, hrest]

theorem isStatement_render {s : Statement} (hs : s.IsClean) :
    Repair.isStatement s.render = true := by
  have hwell := Layout.isWell_ofStatement hs
  have hitems : (Layout.ofStatement s).items
      = .node s.first :: s.links.flatMap fun l => [.edge arrow l.label, .node l.target] := by
    rw [Layout.items, Layout.ofStatement, NodeText.node_ofNode hs.1, List.flatMap_map]
    refine congrArg _ (List.flatMap_congr fun l hl => ?_)
    rw [Layout.ofLink, Layout.rawLabel_ofLabel, NodeText.node_ofNode (hs.2 l hl).2]
  rw [Repair.isStatement, ← Layout.text_ofStatement,
    Layout.ofLine_text hwell (Layout.hasCanonicalArrows_ofStatement s), hitems]
  exact alternates_items hs.1 hs.2

end Statement

/-! ## Settling -/

/-- A node with the shape that it keeps, and the shapes known behind it. -/
def Node.settle (known : Shapes) : Node → Node × Shapes
  | .bare w => (.bare w, known)
  | .shaped n =>
    match known.lookup n.id with
    | none => (.shaped n, (n.id, n.shape) :: known)
    | some shape => (if shape = n.shape then .shaped n else .bare n.id, known)

def Link.settleAll (known : Shapes) : List Link → List Link × Shapes
  | [] => ([], known)
  | l :: links =>
    let target := l.target.settle known
    let rest := settleAll target.2 links
    (⟨l.label, target.1⟩ :: rest.1, rest.2)

namespace Statement

def settle (known : Shapes) (s : Statement) : Statement × Shapes :=
  let first := s.first.settle known
  let links := Link.settleAll first.2 s.links
  (⟨first.1, links.1⟩, links.2)

def settleAll (known : Shapes) : List Statement → List Statement
  | [] => []
  | s :: ss =>
    let settled := s.settle known
    settled.1 :: settleAll settled.2 ss

end Statement

namespace Layout

theorem settleSegments_textSegment (known : Shapes) (t : Text) (segments : List Segment) :
    Repair.settleSegments known (textSegment t ++ segments) =
      (textSegment t ++ (Repair.settleSegments known segments).1,
        (Repair.settleSegments known segments).2) := by
  unfold textSegment
  split
  · rfl
  · rfl

theorem renderAll_textSegment (t : Text) (segments : List Segment) :
    Segment.renderAll (textSegment t ++ segments) = t ++ Segment.renderAll segments := by
  unfold textSegment
  split
  · rename_i h
    rw [List.isEmpty_iff.1 h]
    rfl
  · rfl

/-- A shape among the segments is settled as its node is. -/
theorem settleSegments_node (known : Shapes) (n : ShapedNode) (segments : List Segment) :
    Segment.renderAll (Repair.settleSegments known (.node n :: segments)).1 =
        (Node.settle known (.shaped n)).1.render ++ Segment.renderAll
          (Repair.settleSegments (Node.settle known (.shaped n)).2 segments).1 ∧
      (Repair.settleSegments known (.node n :: segments)).2 =
        (Repair.settleSegments (Node.settle known (.shaped n)).2 segments).2 := by
  rw [Repair.settleSegments, Node.settle]
  cases known.lookup n.id with
  | none => exact ⟨rfl, rfl⟩
  | some shape =>
      dsimp only
      split <;> exact ⟨rfl, rfl⟩

theorem tailSegments_bare {w : Text} (e : EdgeText) (links : List (EdgeText × NodeText))
    (trail : Text) : tailSegments ((e, .bare w) :: links) trail =
      (e.text ++ (w ++ (tailSegments links trail).1), (tailSegments links trail).2) := rfl

theorem tailSegments_shaped {n : ShapedNode} (hn : n.IsClean) (e : EdgeText)
    (links : List (EdgeText × NodeText)) (trail : Text) :
    tailSegments ((e, NodeText.ofNode (.shaped n)) :: links) trail =
      (e.text, .node n :: (textSegment (tailSegments links trail).1 ++
        (tailSegments links trail).2)) := by
  have hread : (NodeText.ofNode (.shaped n)).node = .shaped n :=
    NodeText.node_ofNode (n := .shaped n) hn
  rw [NodeText.ofNode, NodeText.node, Node.shaped.injEq] at hread
  rw [NodeText.ofNode, tailSegments, hread]

theorem settle_tailSegments {links : List Link} (hlinks : ∀ l ∈ links, l.IsClean) (known : Shapes) :
    (tailSegments (links.map ofLink) []).1 ++ Segment.renderAll
        (Repair.settleSegments known (tailSegments (links.map ofLink) []).2).1
        = (Link.settleAll known links).1.flatMap Link.render ∧
      (Repair.settleSegments known (tailSegments (links.map ofLink) []).2).2
        = (Link.settleAll known links).2 := by
  induction links generalizing known with
  | nil => exact ⟨rfl, rfl⟩
  | cons l links ih =>
      obtain ⟨label, target⟩ := l
      have hrest : ∀ l ∈ links, l.IsClean := fun m hm => hlinks m (by simp [hm])
      have htarget : target.IsClean := (hlinks ⟨label, target⟩ (by simp)).2
      have hrender (n : Node) : (⟨label, n⟩ : Link).render
          = (EdgeText.ofLabel [' '] label [' ']).text ++ n.render := by
        simp [Link.render, EdgeText.text_ofLabel]
      rw [List.map_cons, ofLink]
      cases target with
      | bare w =>
          obtain ⟨htext, hknown⟩ := ih hrest known
          rw [NodeText.ofNode, tailSegments_bare]
          refine ⟨?_, hknown⟩
          simp only [Link.settleAll, Node.settle, List.flatMap_cons, hrender, Node.render]
          rw [← htext]
          simp
      | shaped n =>
          obtain ⟨htext, hknown⟩ := ih hrest (Node.settle known (.shaped n)).2
          rw [tailSegments_shaped htarget]
          obtain ⟨hnode, hnodeKnown⟩ := settleSegments_node known n
            (textSegment (tailSegments (links.map ofLink) []).1 ++
              (tailSegments (links.map ofLink) []).2)
          constructor
          · rw [hnode, settleSegments_textSegment, renderAll_textSegment, htext]
            simp [Link.settleAll, hrender]
          · rw [hnodeKnown, settleSegments_textSegment, hknown]
            rfl

/-- The canonical line of a statement is settled as the statement is. -/
theorem settleSegments_render {s : Statement} (hs : s.IsClean) (known : Shapes) :
    Segment.renderAll (Repair.settleSegments known (Segment.scan s.render)).1
        = (s.settle known).1.render ∧
      (Repair.settleSegments known (Segment.scan s.render)).2 = (s.settle known).2 := by
  obtain ⟨first, links⟩ := s
  have hfirst : first.IsClean := hs.1
  have hlinks : ∀ l ∈ links, l.IsClean := hs.2
  rw [← text_ofStatement, scan_text (isWell_ofStatement hs)]
  cases first with
  | bare w =>
      obtain ⟨htext, hknown⟩ := settle_tailSegments hlinks known
      simp only [segments, ofStatement, NodeText.ofNode]
      rw [settleSegments_textSegment, renderAll_textSegment]
      refine ⟨?_, hknown⟩
      simp only [Statement.settle, Statement.render, Node.settle, Node.render]
      rw [← htext]
      simp
  | shaped n =>
      obtain ⟨htext, hknown⟩ := settle_tailSegments hlinks (Node.settle known (.shaped n)).2
      have hsegments : (ofStatement ⟨.shaped n, links⟩).segments
          = .node n :: (textSegment (tailSegments (links.map ofLink) []).1 ++
            (tailSegments (links.map ofLink) []).2) := by
        have hread : (NodeText.ofNode (.shaped n)).node = .shaped n :=
          NodeText.node_ofNode (n := .shaped n) hfirst
        rw [NodeText.ofNode, NodeText.node, Node.shaped.injEq] at hread
        simp only [segments, ofStatement, NodeText.ofNode]
        rw [hread]
        rfl
      obtain ⟨hnode, hnodeKnown⟩ := settleSegments_node known n
        (textSegment (tailSegments (links.map ofLink) []).1 ++
          (tailSegments (links.map ofLink) []).2)
      rw [hsegments]
      constructor
      · rw [hnode, settleSegments_textSegment, renderAll_textSegment, htext]
        rfl
      · rw [hnodeKnown, settleSegments_textSegment, hknown]
        rfl

theorem settleLines_render {ss : List Statement} (hss : ∀ s ∈ ss, s.IsClean) (known : Shapes) :
    Repair.settleLines known (ss.map Statement.render)
      = (Statement.settleAll known ss).map Statement.render := by
  induction ss generalizing known with
  | nil => rfl
  | cons s ss ih =>
      obtain ⟨htext, hknown⟩ := settleSegments_render (hss s (by simp)) known
      rw [List.map_cons, Repair.settleLines, htext, hknown, ih fun t ht => hss t (by simp [ht])]
      rfl

end Layout

/-! ## One shape for each identifier -/

section Fits

/-! The shapes agree with one choice of a shape for every identifier. -/

variable (g : Text → Option Shape)

def Node.Fits (n : Node) : Prop := ∀ a ∈ n.shape?, g n.id = some a

/-- The shapes known so far are among the choice. -/
def KnownFits (known : Shapes) : Prop := ∀ id a, known.lookup id = some a → g id = some a

variable {g}

theorem lookup_cons_eq (known : Shapes) (id other : Text) (a : Shape) :
    List.lookup other ((id, a) :: known) = if other = id then some a else known.lookup other := by
  rw [List.lookup_cons]
  by_cases h : other = id
  · simp [h]
  · simp [h, beq_eq_false_iff_ne.2 h]

/-- Nothing is settled where the shapes agree. -/
theorem settle_of_fits {known : Shapes} (hknown : KnownFits g known) {n : Node} (hn : n.Fits g) :
    (n.settle known).1 = n ∧ KnownFits g (n.settle known).2 := by
  cases n with
  | bare w => exact ⟨rfl, hknown⟩
  | shaped n =>
      have hshape : g n.id = some n.shape := hn n.shape rfl
      rw [Node.settle]
      cases hl : known.lookup n.id with
      | none =>
          refine ⟨rfl, fun id a ha => ?_⟩
          rw [lookup_cons_eq] at ha
          split at ha
          · rename_i h
            cases ha
            rw [h, hshape]
          · exact hknown id a ha
      | some shape =>
          have heq : shape = n.shape := by
            have := hknown n.id shape hl
            rw [hshape] at this
            exact (Option.some.inj this).symm
          exact ⟨if_pos heq, hknown⟩

theorem settleLinks_of_fits {links : List Link} {known : Shapes} (hknown : KnownFits g known)
    (hlinks : ∀ l ∈ links, l.target.Fits g) :
    (Link.settleAll known links).1 = links ∧ KnownFits g (Link.settleAll known links).2 := by
  induction links generalizing known with
  | nil => exact ⟨rfl, hknown⟩
  | cons l links ih =>
      obtain ⟨htarget, hnext⟩ := settle_of_fits hknown (hlinks l (by simp))
      obtain ⟨hrest, hlast⟩ := ih hnext fun m hm => hlinks m (by simp [hm])
      exact ⟨by rw [Link.settleAll, htarget, hrest], hlast⟩

theorem settleStatement_of_fits {s : Statement} {known : Shapes} (hknown : KnownFits g known)
    (hs : ∀ n ∈ s.nodes, n.Fits g) :
    (s.settle known).1 = s ∧ KnownFits g (s.settle known).2 := by
  obtain ⟨hfirst, hnext⟩ := settle_of_fits hknown (hs s.first (by simp [Statement.nodes]))
  have htargets : ∀ l ∈ s.links, l.target.Fits g :=
    fun l hl => hs l.target (List.mem_cons_of_mem _ (List.mem_map_of_mem hl))
  obtain ⟨hlinks, hlast⟩ := settleLinks_of_fits hnext htargets
  exact ⟨by rw [Statement.settle, hfirst, hlinks], hlast⟩

theorem settleAll_of_fits {ss : List Statement} {known : Shapes} (hknown : KnownFits g known)
    (hss : ∀ s ∈ ss, ∀ n ∈ s.nodes, n.Fits g) : Statement.settleAll known ss = ss := by
  induction ss generalizing known with
  | nil => rfl
  | cons s ss ih =>
      obtain ⟨hs, hnext⟩ := settleStatement_of_fits hknown (hss s (by simp))
      rw [Statement.settleAll, hs, ih hnext fun t ht => hss t (by simp [ht])]

end Fits

/-- The shape that a chart gives an identifier, if any. -/
def Chart.shapeOf (c : Chart) (id : Text) : Option Shape :=
  c.nodes.findSome? fun n => if n.id = id then n.shape? else none

theorem Chart.IsConsistent.fits {c : Chart} (hc : c.IsConsistent) :
    ∀ n ∈ c.nodes, n.Fits c.shapeOf := by
  intro n hn a ha
  have hsome : c.shapeOf n.id ≠ none := by
    intro h
    have := List.findSome?_eq_none_iff.1 h n hn
    rw [if_pos rfl] at this
    rw [this] at ha
    cases ha
  obtain ⟨b, hb⟩ := Option.ne_none_iff_exists'.1 hsome
  obtain ⟨m, hm, hmb⟩ := List.exists_of_findSome?_eq_some hb
  split at hmb
  · rename_i hid
    rw [hb, hc m hm n hn hid b hmb a ha]
  · cases hmb

/-- A consistent chart is settled. -/
theorem Chart.settleAll_statements {c : Chart} (hc : c.IsConsistent) :
    Statement.settleAll [] c.statements = c.statements := by
  refine settleAll_of_fits (g := c.shapeOf) (fun id a h => by cases h) fun s hs n hn => ?_
  exact hc.fits n (List.mem_flatMap.2 ⟨s, hs, hn⟩)

/-! ## Settled charts are consistent -/

/-- What is known stays known. -/
def Extends (known known' : Shapes) : Prop :=
  ∀ id a, known.lookup id = some a → known'.lookup id = some a

theorem Extends.refl (known : Shapes) : Extends known known := fun _ _ h => h

theorem Extends.trans {a b c : Shapes} (h : Extends a b) (h' : Extends b c) : Extends a c :=
  fun id s hs => h' id s (h id s hs)

/-- The shapes of the node are known. -/
def IsKnown (known : Shapes) (n : Node) : Prop := ∀ a ∈ n.shape?, known.lookup n.id = some a

theorem IsKnown.of_extends {known known' : Shapes} {n : Node} (hn : IsKnown known n)
    (h : Extends known known') : IsKnown known' n :=
  fun a ha => h _ _ (hn a ha)

theorem isKnown_settle (known : Shapes) (n : Node) :
    IsKnown (n.settle known).2 (n.settle known).1 ∧ Extends known (n.settle known).2 := by
  cases n with
  | bare w => exact ⟨by simp [IsKnown, Node.settle, Node.shape?], .refl known⟩
  | shaped n =>
      rw [Node.settle]
      cases hl : known.lookup n.id with
      | none =>
          refine ⟨fun a ha => ?_, fun id a h => ?_⟩
          · cases ha
            rw [lookup_cons_eq]
            exact if_pos rfl
          · rw [lookup_cons_eq]
            split
            · rename_i he
              rw [he, hl] at h
              cases h
            · exact h
      | some shape =>
          refine ⟨?_, .refl known⟩
          dsimp only
          split
          · rename_i he
            intro a ha
            cases ha
            exact he ▸ hl
          · simp [IsKnown, Node.shape?]

theorem isKnown_settleLinks (known : Shapes) (links : List Link) :
    (∀ l ∈ (Link.settleAll known links).1, IsKnown (Link.settleAll known links).2 l.target) ∧
      Extends known (Link.settleAll known links).2 := by
  induction links generalizing known with
  | nil => exact ⟨by simp [Link.settleAll], .refl known⟩
  | cons l links ih =>
      obtain ⟨htarget, hnext⟩ := isKnown_settle known l.target
      obtain ⟨hrest, hlast⟩ := ih (l.target.settle known).2
      refine ⟨fun m hm => ?_, hnext.trans hlast⟩
      rcases List.mem_cons.1 hm with rfl | hm
      · exact htarget.of_extends hlast
      · exact hrest m hm

theorem isKnown_settleStatement (known : Shapes) (s : Statement) :
    (∀ n ∈ (s.settle known).1.nodes, IsKnown (s.settle known).2 n) ∧
      Extends known (s.settle known).2 := by
  obtain ⟨hfirst, hnext⟩ := isKnown_settle known s.first
  obtain ⟨hlinks, hlast⟩ := isKnown_settleLinks (s.first.settle known).2 s.links
  refine ⟨fun n hn => ?_, hnext.trans hlast⟩
  simp only [Statement.nodes, List.mem_cons, List.mem_map] at hn
  rcases hn with rfl | ⟨l, hl, rfl⟩
  · exact hfirst.of_extends hlast
  · exact hlinks l hl

/-- All shapes of settled statements are known in one table. -/
theorem exists_known_settleAll (known : Shapes) (ss : List Statement) :
    ∃ last, Extends known last ∧
      ∀ s ∈ Statement.settleAll known ss, ∀ n ∈ s.nodes, IsKnown last n := by
  induction ss generalizing known with
  | nil => exact ⟨known, .refl known, by simp [Statement.settleAll]⟩
  | cons s ss ih =>
      obtain ⟨hs, hnext⟩ := isKnown_settleStatement known s
      obtain ⟨last, hlast, hrest⟩ := ih (s.settle known).2
      refine ⟨last, hnext.trans hlast, fun t ht n hn => ?_⟩
      rcases List.mem_cons.1 ht with rfl | ht
      · exact (hs n hn).of_extends hlast
      · exact hrest t ht n hn

theorem isClean_settle {n : Node} (hn : n.IsClean) (known : Shapes) :
    (n.settle known).1.IsClean := by
  cases n with
  | bare w => exact hn
  | shaped n =>
      rw [Node.settle]
      cases known.lookup n.id with
      | none => exact hn
      | some shape =>
          dsimp only
          split
          · exact hn
          · exact hn.1

theorem isClean_settleLinks {links : List Link} (hlinks : ∀ l ∈ links, l.IsClean)
    (known : Shapes) : ∀ l ∈ (Link.settleAll known links).1, l.IsClean := by
  induction links generalizing known with
  | nil => simp [Link.settleAll]
  | cons l links ih =>
      have hl := hlinks l (by simp)
      intro m hm
      rcases List.mem_cons.1 hm with rfl | hm
      · exact ⟨hl.1, isClean_settle hl.2 known⟩
      · exact ih (fun k hk => hlinks k (by simp [hk])) _ m hm

theorem isClean_settleAll {ss : List Statement} (hss : ∀ s ∈ ss, s.IsClean) (known : Shapes) :
    ∀ s ∈ Statement.settleAll known ss, s.IsClean := by
  induction ss generalizing known with
  | nil => simp [Statement.settleAll]
  | cons s ss ih =>
      have hs := hss s (by simp)
      intro t ht
      rcases List.mem_cons.1 ht with rfl | ht
      · exact ⟨isClean_settle hs.1 known, isClean_settleLinks hs.2 _⟩
      · exact ih (fun u hu => hss u (by simp [hu])) _ t ht

/-- Settled clean statements make a clean chart. -/
theorem Chart.isClean_settleAll (d : Direction) {ss : List Statement}
    (hss : ∀ s ∈ ss, s.IsClean) : (⟨d, Statement.settleAll [] ss⟩ : Chart).IsClean := by
  refine ⟨Flowchart.isClean_settleAll hss [], ?_⟩
  obtain ⟨last, -, hlast⟩ := exists_known_settleAll [] ss
  intro m hm n hn hid a ha b hb
  obtain ⟨s, hs, hms⟩ := List.mem_flatMap.1 hm
  obtain ⟨t, ht, hnt⟩ := List.mem_flatMap.1 hn
  have hma := hlast s hs m hms a ha
  rw [hid, hlast t ht n hnt b hb] at hma
  exact (Option.some.inj hma).symm

end Flowchart
