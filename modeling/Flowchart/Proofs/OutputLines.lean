import Flowchart.Proofs.FixedPoints

/-!
# Lines that the last rule writes

The last rule keeps a line whose items alternate between nodes and edges. Whatever the text was,
such a line comes out as a chain of canonical nodes and arrows. Its labels are as they were found:
a label between pipes may be blank, and the label of a node may have a slash at its end.
-/

namespace Flowchart

namespace Layout

/-- A canonical node whose label is trimmed and legal. -/
def IsRawNode (n : NodeText) : Prop :=
  ∃ m, n = NodeText.ofNode m ∧ Repair.isProperNode m = true ∧
    ∀ k, m = .shaped k → Text.IsTrimmed k.label

/-- A canonical arrow, with any label between pipes. -/
def IsRawEdge (e : EdgeText) : Prop :=
  ∃ b label b', e = EdgeText.ofLabel b label b' ∧ Text.IsBlanks b ∧ Text.IsBlanks b' ∧
    ∀ l ∈ label, '|' ∉ l

/-- Canonical nodes and arrows. -/
structure IsRaw (p : Layout) : Prop where
  lead : Text.IsBlanks p.lead
  first : IsRawNode p.first
  links : ∀ l ∈ p.links, IsRawEdge l.1 ∧ IsRawNode l.2
  trail : Text.IsBlanks p.trail

theorem isProperNode_iff {m : Node} : Repair.isProperNode m = true ↔
    Ident.isValid m.id = true ∧ ∀ k, m = .shaped k → k.label ≠ [] ∧ Label.IsLegal k.label := by
  cases m with
  | bare w => simp [Repair.isProperNode, Node.id]
  | shaped k => simp [Repair.isProperNode, Node.id, Label.IsLegal, and_assoc]

theorem IsRawNode.isWell {n : NodeText} (h : IsRawNode n) : n.IsWell := by
  obtain ⟨m, rfl, hm, -⟩ := h
  obtain ⟨hid, hlabel⟩ := isProperNode_iff.1 hm
  exact NodeText.isWell_ofNode hid fun k hk => (hlabel k hk).2

theorem IsRawEdge.isWell {e : EdgeText} (h : IsRawEdge e) : e.IsWell := by
  obtain ⟨b, label, b', rfl, hb, hb', hl⟩ := h
  exact EdgeText.isWell_ofLabel hb hl hb'

namespace IsRaw

variable {p : Layout} (hp : p.IsRaw)

include hp

theorem isWell : p.IsWell :=
  ⟨hp.lead, hp.first.isWell, fun l hl => ⟨(hp.links l hl).1.isWell, (hp.links l hl).2.isWell⟩,
    hp.trail⟩

theorem hasLevelNodes (hq : Text.IsUnquoted p.text) : Repair.HasLevelNodes p := by
  have hlevel {n : NodeText} (hn : IsRawNode n) (hq : Text.IsUnquoted n.text) :
      Repair.IsLevel n.text := by
    obtain ⟨m, rfl, hm, -⟩ := hn
    obtain ⟨hid, hlabel⟩ := isProperNode_iff.1 hm
    rw [NodeText.text_ofNode] at hq ⊢
    refine Repair.isLevel_render hid ?_
    rintro k rfl
    refine ⟨(hlabel k rfl).2, hq.of_subset fun c hc => ?_⟩
    simp [Node.render, ShapedNode.render, Shape.wrap, hc]
  exact ⟨hlevel hp.first (isUnquoted_first hq),
    fun l hl => hlevel (hp.links l hl).2 (isUnquoted_link hq hl).2⟩

end IsRaw

end Layout

namespace Repair

/-! ## Texts of items -/

/-- How an item is written. -/
def Item.IsText : Item → Text → Prop
  | node n, s => s = n.render
  | edge a none, s => s = a
  | edge a (some l), s => s = a ++ '|' :: l ++ ['|'] ∧ '|' ∉ l
  | join, s => s = ['&']
  | strayLabel, _ => True

/-- A text that the items were read from, with blanks between them. -/
def Spells : List Item → Text → Prop
  | [], t => Text.IsBlanks t
  | i :: items, t => ∃ b s u, Text.IsBlanks b ∧ i.IsText s ∧ t = b ++ (s ++ u) ∧ Spells items u

theorem Spells.blanks_append {items : List Item} {b t : Text} (hb : Text.IsBlanks b)
    (h : Spells items t) : Spells items (b ++ t) := by
  cases items with
  | nil => exact hb.append h
  | cons i items =>
      obtain ⟨b', s, u, hb', hs, rfl, hu⟩ := h
      exact ⟨b ++ b', s, u, hb.append hb', hs, by simp, hu⟩

theorem Spells.cons {i : Item} {items : List Item} {s t : Text} (hs : i.IsText s)
    (h : Spells items t) : Spells (i :: items) (s ++ t) :=
  ⟨[], s, t, .nil, hs, rfl, h⟩

theorem Spells.append {is js : List Item} {t u : Text} (hi : Spells is t) (hj : Spells js u) :
    Spells (is ++ js) (t ++ u) := by
  induction is generalizing t with
  | nil => exact hj.blanks_append hi
  | cons i is ih =>
      obtain ⟨b, s, v, hb, hs, rfl, hv⟩ := hi
      exact ⟨b, s, v ++ u, hb, hs, by simp, ih hv⟩

theorem spells_ofTokens {ts : List Token} {t : Text} (h : Token.Spells ts t) :
    Spells (Item.ofTokens ts) t := by
  fun_induction Item.ofTokens ts generalizing t with
  | case1 =>
      cases h
      exact .nil
  | case2 a l ts ih =>
      cases h with
      | arrow h =>
          cases h with
          | label hl h =>
              have := Spells.cons (i := .edge a (some l)) ⟨rfl, hl⟩ (ih h)
              simpa using this
  | case3 a ts hne ih =>
      cases h with
      | arrow h => exact Spells.cons (i := .edge a none) rfl (ih h)
  | case4 l ts ih =>
      cases h with
      | label hl h =>
          have := Spells.cons (i := .strayLabel) (s := '|' :: l ++ ['|']) trivial (ih h)
          simpa using this
  | case5 ts ih =>
      cases h with
      | join h => exact Spells.cons (i := .join) (s := ['&']) rfl (ih h)
  | case6 w ts ih =>
      cases h with
      | word h => exact Spells.cons (i := .node (.bare w)) rfl (ih h)
  | case7 ts ih =>
      cases h with
      | space hb h => exact (ih h).blanks_append hb

/-- A text whose items alternate is the text of a raw layout. -/
theorem exists_isRaw {items : List Item} {t : Text} (h : Spells items t)
    (ha : alternates items = true)
    (htrim : ∀ k, .node (.shaped k) ∈ items → Text.IsTrimmed k.label) :
    ∃ p : Layout, p.IsRaw ∧ p.text = t := by
  have hraw {n : Node} (hn : isProperNode n = true) (hmem : .node n ∈ items) :
      Layout.IsRawNode (NodeText.ofNode n) :=
    ⟨n, rfl, hn, fun k hk => htrim k (hk ▸ hmem)⟩
  fun_induction alternates items generalizing t with
  | case1 n =>
      obtain ⟨b, s, u, hb, rfl, rfl, hu⟩ := h
      refine ⟨⟨b, NodeText.ofNode n, [], u⟩, ⟨hb, hraw ha (by simp), by simp, hu⟩, ?_⟩
      rw [Layout.text, NodeText.text_ofNode]
      rfl
  | case2 n a l items ih =>
      simp only [Bool.and_eq_true] at ha
      obtain ⟨⟨hn, he⟩, hrest⟩ := ha
      obtain ⟨b, s, u, hb, rfl, rfl, b₁, e, v, hb₁, hedge, rfl, hv⟩ := h
      obtain ⟨p, hp, rfl⟩ := ih hv hrest (fun k hk => htrim k (by simp [hk]))
        fun hn hmem => hraw hn (by simp [hmem])
      have harrow : a = arrow := by
        simp only [isProperEdge, Bool.and_eq_true, beq_iff_eq] at he
        exact he.1
      subst harrow
      have hlabel : e = renderEdge arrow l ∧ ∀ k ∈ l, '|' ∉ k := by
        cases l with
        | none => exact ⟨hedge, by simp⟩
        | some k =>
            obtain ⟨rfl, hk⟩ := hedge
            refine ⟨rfl, fun k' hk' => ?_⟩
            cases hk'
            exact hk
      refine ⟨⟨b, NodeText.ofNode n, (EdgeText.ofLabel b₁ l p.lead, p.first) :: p.links, p.trail⟩,
        ⟨hb, hraw hn (by simp), fun m hm => ?_, hp.trail⟩, ?_⟩
      · rcases List.mem_cons.1 hm with rfl | hm
        · exact ⟨⟨b₁, l, p.lead, rfl, hb₁, hp.lead, hlabel.2⟩, hp.first⟩
        · exact hp.links m hm
      · rw [Layout.text, NodeText.text_ofNode, Layout.linksText, EdgeText.text_ofLabel, hlabel.1,
          Layout.text]
        simp
  | case3 items h₁ h₂ => cases ha

/-! ## Settled lines -/

/-- A shaped node may become a bare one. -/
def Item.SettlesTo (i j : Item) : Prop :=
  j = i ∨ ∃ n, i = .node (.shaped n) ∧ j = .node (.bare n.id)

theorem Item.SettlesTo.refl (items : List Item) : List.Forall₂ Item.SettlesTo items items :=
  List.forall₂_same.2 fun _ _ => .inl rfl

theorem isProperNode_of_settlesTo {n : Node} {j : Item} (h : Item.SettlesTo (.node n) j)
    (hn : isProperNode n = true) : ∃ m, j = .node m ∧ isProperNode m = true := by
  rcases h with rfl | ⟨k, hk, rfl⟩
  · exact ⟨n, rfl, hn⟩
  · cases hk
    exact ⟨_, rfl, (Layout.isProperNode_iff.1 hn).1⟩

theorem alternates_of_settlesTo {is js : List Item} (h : List.Forall₂ Item.SettlesTo is js)
    (ha : alternates is = true) : alternates js = true := by
  fun_induction alternates is generalizing js with
  | case1 n =>
      obtain ⟨j, js, hj, hjs, rfl⟩ := List.forall₂_cons_left_iff.1 h
      cases hjs
      obtain ⟨m, rfl, hm⟩ := isProperNode_of_settlesTo hj ha
      exact hm
  | case2 n a l items ih =>
      simp only [Bool.and_eq_true] at ha
      obtain ⟨⟨hn, he⟩, hrest⟩ := ha
      obtain ⟨j, _, hj, hbehind, rfl⟩ := List.forall₂_cons_left_iff.1 h
      obtain ⟨k, js, hk, hjs, rfl⟩ := List.forall₂_cons_left_iff.1 hbehind
      obtain ⟨m, rfl, hm⟩ := isProperNode_of_settlesTo hj hn
      have hedge : k = .edge a l := by
        rcases hk with rfl | ⟨_, hk, -⟩
        · rfl
        · cases hk
      subst hedge
      simp [alternates, hm, he, ih hjs hrest]
  | case3 items h₁ h₂ => cases ha

/-- A shape that is still there was there before. -/
theorem shaped_mem_of_settlesTo {is js : List Item} (h : List.Forall₂ Item.SettlesTo is js)
    {k : ShapedNode} (hk : .node (.shaped k) ∈ js) : .node (.shaped k) ∈ is := by
  induction h with
  | nil => cases hk
  | cons hij hrest ih =>
      rcases List.mem_cons.1 hk with rfl | hk
      · rcases hij with rfl | ⟨n, -, hn⟩
        · simp
        · cases hn
      · exact List.mem_cons_of_mem _ (ih hk)

/-- What settled segments are the text of. -/
theorem exists_settlesTo (known : Shapes) (segments : List Segment) :
    ∃ items, List.Forall₂ Item.SettlesTo (Item.ofSegments segments) items ∧
      Spells items (Segment.renderAll (settleSegments known segments).1) := by
  induction segments generalizing known with
  | nil => exact ⟨[], .nil, .nil⟩
  | cons segment segments ih =>
      cases segment with
      | text t =>
          obtain ⟨items, hitems, hspells⟩ := ih known
          refine ⟨Item.ofTokens (Token.lex t) ++ items,
            List.rel_append (Item.SettlesTo.refl _) hitems, ?_⟩
          exact (spells_ofTokens (Token.spells_lex t)).append hspells
      | node n =>
          rw [settleSegments]
          cases known.lookup n.id with
          | none =>
              obtain ⟨items, hitems, hspells⟩ := ih ((n.id, n.shape) :: known)
              exact ⟨.node (.shaped n) :: items, .cons (.inl rfl) hitems,
                Spells.cons (i := .node (.shaped n)) rfl hspells⟩
          | some shape =>
              obtain ⟨items, hitems, hspells⟩ := ih known
              dsimp only
              split
              · exact ⟨.node (.shaped n) :: items, .cons (.inl rfl) hitems,
                  Spells.cons (i := .node (.shaped n)) rfl hspells⟩
              · exact ⟨.node (.bare n.id) :: items, .cons (.inr ⟨n, rfl, rfl⟩) hitems,
                  Spells.cons (i := .node (.bare n.id)) rfl hspells⟩

/-- The tokens that an item comes from. -/
theorem mem_ofTokens {ts : List Token} {i : Item} (h : i ∈ Item.ofTokens ts) :
    (∃ w, i = .node (.bare w) ∧ .word w ∈ ts) ∨
      (∃ a label, i = .edge a label ∧ .arrow a ∈ ts ∧ ∀ l ∈ label, .label l ∈ ts) ∨
        i = .join ∨ i = .strayLabel := by
  have weaken {t : Token} {ts : List Token}
      (h : (∃ w, i = .node (.bare w) ∧ .word w ∈ ts) ∨
        (∃ a label, i = .edge a label ∧ .arrow a ∈ ts ∧ ∀ l ∈ label, .label l ∈ ts) ∨
          i = .join ∨ i = .strayLabel) :
      (∃ w, i = .node (.bare w) ∧ .word w ∈ t :: ts) ∨
        (∃ a label, i = .edge a label ∧ .arrow a ∈ t :: ts ∧ ∀ l ∈ label, .label l ∈ t :: ts) ∨
          i = .join ∨ i = .strayLabel := by
    rcases h with ⟨w, hi, hw⟩ | ⟨a, label, hi, ha, hl⟩ | h
    · exact .inl ⟨w, hi, by simp [hw]⟩
    · exact .inr (.inl ⟨a, label, hi, by simp [ha], fun l hmem => by simp [hl l hmem]⟩)
    · exact .inr (.inr h)
  fun_induction Item.ofTokens ts with
  | case1 => cases h
  | case2 a l ts ih =>
      rcases List.mem_cons.1 h with rfl | h
      · exact .inr (.inl ⟨a, some l, rfl, by simp, by simp⟩)
      · exact weaken (weaken (ih h))
  | case3 a ts hne ih =>
      rcases List.mem_cons.1 h with rfl | h
      · exact .inr (.inl ⟨a, none, rfl, by simp, by simp⟩)
      · exact weaken (ih h)
  | case4 l ts ih =>
      rcases List.mem_cons.1 h with rfl | h
      · exact .inr (.inr (.inr rfl))
      · exact weaken (ih h)
  | case5 ts ih =>
      rcases List.mem_cons.1 h with rfl | h
      · exact .inr (.inr (.inl rfl))
      · exact weaken (ih h)
  | case6 w ts ih =>
      rcases List.mem_cons.1 h with rfl | h
      · exact .inl ⟨w, rfl, by simp⟩
      · exact weaken (ih h)
  | case7 ts ih => exact weaken (ih h)

theorem node_of_mem_ofTokens {ts : List Token} {n : Node} (h : .node n ∈ Item.ofTokens ts) :
    ∃ w, n = .bare w ∧ .word w ∈ ts := by
  rcases mem_ofTokens h with ⟨w, hn, hw⟩ | ⟨_, _, hn, -⟩ | hn | hn
  · cases hn
    exact ⟨w, rfl, hw⟩
  all_goals cases hn

theorem not_isBlank_of_mem_gluedId {back : Text} {c : Char} (h : c ∈ Segment.gluedId back) :
    Text.isBlank c = false := by
  have hmem := (List.takeWhile_prefix _).subset
    (untilDouble_subset _ _ (untilDouble_subset _ _ h))
  have := List.mem_takeWhile_imp hmem
  simp only [Segment.stopsId, Bool.not_eq_true', Bool.or_eq_false_iff] at this
  exact this.1.1.1.1

theorem isTrimmed_classifyInterior (c : Char) (i : Text) :
    Text.IsTrimmed (Segment.classifyInterior c i).2 :=
  Text.isTrimmed_trim _

/-- What is read of a node: an identifier without blanks, and a trimmed label. -/
theorem isTrimmed_of_mem_scanFrom {back s : Text} {n : ShapedNode}
    (h : .node n ∈ Segment.scanFrom back s) : n.id ≠ [] ∧ (∀ c ∈ n.id, Text.isBlank c = false) ∧
      Text.IsTrimmed n.label := by
  obtain ⟨back', c, i, -, hne, rfl⟩ := Segment.exists_of_mem_scanFrom h
  refine ⟨by simpa [ShapedNode.ofInterior] using hne, fun d hd => ?_,
    isTrimmed_classifyInterior c i⟩
  exact not_isBlank_of_mem_gluedId (List.mem_reverse.1 hd)

theorem isTrimmed_of_mem_ofLine {line : Text} {k : ShapedNode}
    (h : .node (.shaped k) ∈ Item.ofLine line) : Text.IsTrimmed k.label := by
  obtain ⟨segment, hs, hi⟩ := List.mem_flatMap.1 h
  cases segment with
  | node n =>
      rw [List.mem_singleton] at hi
      cases hi
      exact (isTrimmed_of_mem_scanFrom hs).2.2
  | text t =>
      obtain ⟨w, hk, -⟩ := node_of_mem_ofTokens hi
      cases hk

/-! ## The ends of settled lines -/

theorem renderAll_settle_ofBack (known : Shapes) (back : Text) (segments : List Segment) :
    Segment.renderAll (settleSegments known (Segment.ofBack back ++ segments)).1
      = back.reverse ++ Segment.renderAll (settleSegments known segments).1 := by
  rw [Layout.ofBack_eq, Layout.settleSegments_textSegment, Layout.renderAll_textSegment]

theorem getLast?_render_settle {n : ShapedNode} (hid : ∀ c ∈ n.id, Text.isBlank c = false)
    (known : Shapes) :
    ∀ c ∈ (Node.settle known (.shaped n)).1.render.getLast?, Text.isBlank c = false := by
  have hshaped : ∀ c ∈ n.render.getLast?, Text.isBlank c = false := by
    intro c hc
    rw [ShapedNode.render, Shape.wrap_eq, ← List.append_assoc, List.getLast?_append] at hc
    cases hc
    exact Layout.isBlank_eq_false_of_isCloser (isCloser_closerOf _)
  rw [Node.settle]
  cases known.lookup n.id with
  | none => exact hshaped
  | some shape =>
      dsimp only
      split
      · exact hshaped
      · exact fun c hc => hid c (List.mem_of_getLast? hc)

theorem render_settle_ne_nil {n : ShapedNode} (hid : n.id ≠ []) (known : Shapes) :
    (Node.settle known (.shaped n)).1.render ≠ [] := by
  have hshaped : n.render ≠ [] := by simp [ShapedNode.render, hid]
  rw [Node.settle]
  cases known.lookup n.id with
  | none => exact hshaped
  | some shape =>
      dsimp only
      split
      · exact hshaped
      · exact hid

/-- A settled line ends in a blank only where the line did. -/
theorem getLast?_settle {back s : Text} (known : Shapes) {c : Char} (hb : Text.isBlank c = true)
    (h : c ∈ (Segment.renderAll (settleSegments known (Segment.scanFrom back s)).1).getLast?) :
    c ∈ (back.reverse ++ s).getLast? := by
  have hid := @isTrimmed_of_mem_scanFrom back s
  fun_induction Segment.scanFrom back s generalizing known with
  | case1 back =>
      have hself := renderAll_settle_ofBack known back []
      rw [List.append_nil] at hself
      rw [hself] at h
      exact h
  | case2 back s label rest hp ih =>
      obtain ⟨rfl, -⟩ := Segment.eq_append_of_untilPipe? hp
      have := ih known h hid
      simpa using this
  | case3 back s hp ih =>
      have := ih known h hid
      simpa using this
  | case4 back d s hd ho id body read ih =>
      have hnode : (∀ c ∈ id.reverse, Text.isBlank c = false) ∧ ∀ known, (Node.settle known
          (.shaped ⟨id.reverse, read.1, read.2⟩)).1.render ≠ [] := by
        obtain ⟨hne, hblank, -⟩ := hid (n := ⟨id.reverse, read.1, read.2⟩) (by simp)
        exact ⟨hblank, render_settle_ne_nil hne⟩
      have hbehind : ∀ n, .node n ∈ Segment.scanFrom [] body.2 → _ :=
        fun n hn => hid (n := n) (by simp [hn])
      rw [renderAll_settle_ofBack, (Layout.settleSegments_node known _ _).1] at h
      by_cases hnil : Segment.renderAll (settleSegments (Node.settle known
          (.shaped ⟨id.reverse, read.1, read.2⟩)).2 (Segment.scanFrom [] body.2)).1 = []
      · rw [hnil, List.append_nil, List.getLast?_append_of_ne_nil _ (hnode.2 known)] at h
        rw [getLast?_render_settle hnode.1 known c h] at hb
        cases hb
      · rw [← List.append_assoc, List.getLast?_append_of_ne_nil _ hnil] at h
        have hrest := ih _ h (fun hn => hbehind _ hn)
        obtain ⟨t, ht⟩ := shapeInterior_suffix d s
        have hne : body.2 ≠ [] := by
          rintro he
          rw [he] at hrest
          cases hrest
        rw [List.reverse_nil, List.nil_append] at hrest
        have hsplit : back.reverse ++ d :: s = (back.reverse ++ d :: t) ++ body.2 := by
          rw [List.append_assoc, List.cons_append]
          exact congrArg (fun u => back.reverse ++ d :: u) ht.symm
        rw [hsplit, List.getLast?_append_of_ne_nil _ hne]
        exact hrest
  | case5 back d s hd ho ih =>
      have := ih known h hid
      simpa using this

/-! ## Lines of a chain -/

theorem mem_of_group? {items rest : List Item} {g : Group} (h : group? items = some (g, rest)) :
    (∀ n ∈ g.nodes, .node n ∈ items) ∧ rest ⊆ items := by
  fun_induction group? items generalizing g with
  | case1 n items ih =>
      obtain ⟨⟨g', r⟩, hr, he⟩ := Option.map_eq_some_iff.1 h
      cases he
      obtain ⟨hnodes, hrest⟩ := ih hr
      refine ⟨fun m hm => ?_, fun i hi => by simp [hrest hi]⟩
      rcases List.mem_cons.1 hm with rfl | hm
      · simp
      · simp [hnodes m hm]
  | case2 n items =>
      cases h
      refine ⟨fun m hm => ?_, fun i hi => by simp [hi]⟩
      rw [Group.nodes, List.mem_singleton] at hm
      simp [hm]
  | case3 => cases h

/-- A link of a chain comes from the items. -/
def IsLinkOf (items : List Item) (l : (Text × Option Text) × Group) : Prop :=
  .edge l.1.1 l.1.2 ∈ items ∧ ∀ n ∈ l.2.nodes, .node n ∈ items

theorem mem_of_chainLinks? {items : List Item} {links : List ((Text × Option Text) × Group)}
    (h : chainLinks? items = some links) : ∀ l ∈ links, IsLinkOf items l := by
  fun_induction chainLinks? items generalizing links with
  | case1 =>
      cases h
      simp
  | case2 a k items g rest hg ih =>
      obtain ⟨ls, hls, rfl⟩ := Option.map_eq_some_iff.1 h
      obtain ⟨hnodes, hrest⟩ := mem_of_group? hg
      intro l hl
      rcases List.mem_cons.1 hl with rfl | hl
      · exact ⟨by simp, fun n hn => by simp [hnodes n hn]⟩
      · obtain ⟨hedge, hn⟩ := ih hls l hl
        exact ⟨by simp [hrest hedge], fun n hmem => by simp [hrest (hn n hmem)]⟩
  | case3 a k items hg => cases h
  | case4 items h₁ h₂ => cases h

theorem mem_pairLines {items : List Item} {sources : Group}
    {links : List ((Text × Option Text) × Group)} (hs : ∀ n ∈ sources.nodes, .node n ∈ items)
    (hlinks : ∀ l ∈ links, IsLinkOf items l) {line : Text} (h : line ∈ pairLines sources links) :
    ∃ e s t, .edge e.1 e.2 ∈ items ∧ .node s ∈ items ∧ .node t ∈ items ∧ line = edgeLine e s t := by
  induction links generalizing sources with
  | nil => cases h
  | cons l links ih =>
      obtain ⟨e, targets⟩ := l
      obtain ⟨hedge, htargets⟩ := hlinks (e, targets) (by simp)
      rw [pairLines] at h
      rcases List.mem_append.1 h with h | h
      · obtain ⟨s, hmem, h⟩ := List.mem_flatMap.1 h
        obtain ⟨t, ht, rfl⟩ := List.mem_map.1 h
        exact ⟨e, s, t, hedge, hs s hmem, htargets t ht, rfl⟩
      · exact ih htargets (fun m hm => hlinks m (by simp [hm])) h

/-- A line that stands for another one is that line, a node of it, or an edge of it with two of its
nodes. -/
theorem mem_expandJoins {line l : Text} (h : l ∈ expandJoins line) :
    l = line ∨ (∃ n, .node n ∈ Item.ofLine line ∧ l = n.render) ∨
      ∃ e s t, .edge e.1 e.2 ∈ Item.ofLine line ∧ .node s ∈ Item.ofLine line ∧
        .node t ∈ Item.ofLine line ∧ l = edgeLine e s t := by
  unfold expandJoins at h
  dsimp only at h
  split at h
  · rename_i chain hchain
    split at h
    · right
      unfold chain? at hchain
      split at hchain
      · rename_i g rest hg
        obtain ⟨links, hl, rfl⟩ := Option.map_eq_some_iff.1 hchain
        obtain ⟨hnodes, hrest⟩ := mem_of_group? hg
        have hlinks : ∀ l ∈ links, IsLinkOf (Item.ofLine line) l := fun l hmem =>
          ⟨hrest (mem_of_chainLinks? hl l hmem).1,
            fun n hn => hrest ((mem_of_chainLinks? hl l hmem).2 n hn)⟩
        unfold Chain.lines at h
        dsimp only at h
        split at h
        · obtain ⟨n, hn, rfl⟩ := List.mem_map.1 h
          exact .inl ⟨n, hnodes n hn, rfl⟩
        · exact .inr (mem_pairLines hnodes hlinks h)
      · cases hchain
    · exact .inl (List.mem_singleton.1 h)
  · exact .inl (List.mem_singleton.1 h)

/-! ## What the items of a line hold -/

def Item.Holds (q : Char → Prop) : Item → Prop
  | node n => Text.All q n.render
  | edge a label => Text.All q a ∧ ∀ l ∈ label, Text.All q l
  | _ => True

theorem holds_ofTokens {q : Char → Prop} {ts : List Token} (h : ∀ t ∈ ts, t.Holds q) :
    ∀ i ∈ Item.ofTokens ts, i.Holds q := by
  intro i hi
  rcases mem_ofTokens hi with ⟨w, rfl, hw⟩ | ⟨a, label, rfl, ha, hl⟩ | rfl | rfl
  · exact h _ hw
  · exact ⟨h _ ha, fun l hmem => h _ (hl l hmem)⟩
  · trivial
  · trivial

theorem holds_ofLine {q : Char → Prop} (hq : ∀ c, isWritten c = true → q c) {line : Text}
    (h : Text.All q line) : ∀ i ∈ Item.ofLine line, i.Holds q := by
  intro i hi
  obtain ⟨segment, hs, hi⟩ := List.mem_flatMap.1 hi
  have hholds := holds_scan h segment hs
  cases segment with
  | text t => exact holds_ofTokens (holds_lex hholds) i hi
  | node n =>
      rw [List.mem_singleton] at hi
      subst hi
      exact all_render_node hq hholds.1 hholds.2

theorem all_expandJoins {q : Char → Prop} (hq : ∀ c, isWritten c = true → q c) {line : Text}
    (h : Text.All q line) {l : Text} (hl : l ∈ expandJoins line) : Text.All q l := by
  have hspace : q ' ' := hq ' ' (by decide)
  have hholds := holds_ofLine hq h
  rcases mem_expandJoins hl with rfl | ⟨n, hn, rfl⟩ | ⟨e, s, t, he, hs, ht, rfl⟩
  · exact h
  · exact hholds _ hn
  · obtain ⟨ha, hlabel⟩ := hholds _ he
    exact .append (.append (hholds _ hs) (.cons hspace (all_renderEdge hq ha hlabel)))
      (.cons hspace (hholds _ ht))

/-- A node of a line ends in a character that is not blank. -/
theorem render_of_mem_ofLine {line : Text} {n : Node} (h : .node n ∈ Item.ofLine line) :
    n.render ≠ [] ∧ ∀ c ∈ n.render.getLast?, Text.isBlank c = false := by
  obtain ⟨segment, hs, hi⟩ := List.mem_flatMap.1 h
  cases segment with
  | node m =>
      rw [List.mem_singleton] at hi
      cases hi
      obtain ⟨hne, hblank, -⟩ := isTrimmed_of_mem_scanFrom hs
      exact ⟨render_settle_ne_nil hne [], getLast?_render_settle hblank []⟩
  | text t =>
      obtain ⟨w, rfl, hw⟩ := node_of_mem_ofTokens hi
      have hword := Token.isWord_of_mem_lex hw
      exact ⟨hword.1, fun c hc => hword.2 c (List.mem_of_getLast? hc)⟩

theorem getLast?_expandJoins {line l : Text} (hline : ∀ c ∈ line.getLast?, Text.isBlank c = false)
    (h : l ∈ expandJoins line) : ∀ c ∈ l.getLast?, Text.isBlank c = false := by
  rcases mem_expandJoins h with rfl | ⟨n, hn, rfl⟩ | ⟨e, s, t, he, hs, ht, rfl⟩
  · exact hline
  · exact (render_of_mem_ofLine hn).2
  · obtain ⟨hne, hlast⟩ := render_of_mem_ofLine ht
    intro c hc
    have hsplit : edgeLine e s t
        = (s.render ++ ' ' :: renderEdge e.1 e.2 ++ [' ']) ++ t.render := by
      simp [edgeLine]
    rw [hsplit, List.getLast?_append_of_ne_nil _ hne] at hc
    exact hlast c hc

/-! ## Lines that are written -/

/-- A statement line without a blank at its end and without quotation marks. -/
structure IsOutputLine (line : Text) : Prop where
  statement : isStatement line = true
  last : ∀ c ∈ line.getLast?, Text.isBlank c = false
  newline : '\n' ∉ line
  unquoted : Text.IsUnquoted line

theorem isOutputLine_of_mem {ls : List Text} (hls : ∀ line ∈ ls, Text.IsTrimmed line ∧
    '\n' ∉ line ∧ Text.IsUnquoted line) {line : Text} (h : line ∈ statementLines ls) :
    IsOutputLine line := by
  obtain ⟨hmem, hstatement⟩ := List.mem_filter.1 h
  obtain ⟨source, hsource, hmem⟩ := List.mem_flatMap.1 hmem
  obtain ⟨htrimmed, hnewline, hunquoted⟩ := hls source (List.mem_filter.1 hsource).1
  have hall : Text.All (· ≠ '\n') source := fun c hc he => hnewline (he ▸ hc)
  exact ⟨hstatement, getLast?_expandJoins htrimmed.getLast hmem,
    fun h => all_expandJoins (fun _ => ne_newline_of_isWritten) hall hmem _ h rfl,
    all_expandJoins (fun _ => isQuotationMark_of_isWritten) hunquoted hmem⟩

theorem holds_settleSegments {q : Char → Prop} {segments : List Segment}
    (h : ∀ s ∈ segments, s.Holds q) (known : Shapes) :
    ∀ s ∈ (settleSegments known segments).1, s.Holds q := by
  induction segments generalizing known with
  | nil => simp [settleSegments]
  | cons segment segments ih =>
      have hfirst := h segment (by simp)
      have hrest := ih fun s hs => h s (by simp [hs])
      intro s hs
      cases segment with
      | text t =>
          rcases List.mem_cons.1 hs with rfl | hs
          · exact hfirst
          · exact hrest known s hs
      | node n =>
          rw [settleSegments] at hs
          split at hs
          · rcases List.mem_cons.1 hs with rfl | hs
            · exact hfirst
            · exact hrest _ s hs
          · rcases List.mem_cons.1 hs with rfl | hs
            · split
              · exact hfirst
              · exact hfirst.1
            · exact hrest known s hs

/-- A settled output line is the text of a raw layout that the first two rules leave alone. -/
theorem IsOutputLine.exists_layout {line : Text} (h : IsOutputLine line) (known : Shapes) :
    ∃ p : Layout, p.IsRaw ∧ p.IsSettledLine ∧
      p.text = Segment.renderAll (settleSegments known (Segment.scan line)).1 := by
  obtain ⟨items, hitems, hspells⟩ := exists_settlesTo known (Segment.scan line)
  have htrim : ∀ k, .node (.shaped k) ∈ items → Text.IsTrimmed k.label :=
    fun k hk => isTrimmed_of_mem_ofLine (shaped_mem_of_settlesTo hitems hk)
  obtain ⟨p, hp, htext⟩ := exists_isRaw hspells (alternates_of_settlesTo hitems h.statement) htrim
  have hall {q : Char → Prop} (hq : ∀ c, isWritten c = true → q c) (hline : Text.All q line) :
      Text.All q p.text := by
    rw [htext]
    exact all_renderAll hq (holds_settleSegments (holds_scan hline) known)
  have hunquoted : Text.IsUnquoted p.text :=
    hall (fun _ => isQuotationMark_of_isWritten) h.unquoted
  refine ⟨p, hp, ⟨⟨hp.isWell, fun hmem => ?_, hunquoted, fun hr => ?_⟩, hp.hasLevelNodes hunquoted⟩,
    htext⟩
  · exact hall (q := (· ≠ '\n')) (fun _ => ne_newline_of_isWritten)
      (fun c hc he => h.newline (he ▸ hc)) _ hmem rfl
  · -- a blank at the end would be one of the line itself
    have hne : p.trail ≠ [] := by
      rintro he
      rw [he] at hr
      cases hr
    have hlast : '\r' ∈ p.text.getLast? := by
      rw [Layout.text_eq_core, List.getLast?_append_of_ne_nil _ hne]
      exact hr
    rw [htext] at hlast
    have : '\r' ∈ ([] ++ line).getLast? := getLast?_settle known (by decide) hlast
    exact absurd (h.last _ this) (by decide)

theorem exists_layouts {ls : List Text} (hls : ∀ line ∈ ls, IsOutputLine line) (known : Shapes) :
    ∃ ps : List Layout, (∀ p ∈ ps, p.IsRaw ∧ p.IsSettledLine) ∧
      settleLines known ls = ps.map Layout.text := by
  induction ls generalizing known with
  | nil => exact ⟨[], by simp, rfl⟩
  | cons line ls ih =>
      obtain ⟨p, hraw, hline, htext⟩ := (hls line (by simp)).exists_layout known
      obtain ⟨ps, hps, hrest⟩ := ih (fun l hl => hls l (by simp [hl]))
        (settleSegments known (Segment.scan line)).2
      refine ⟨p :: ps, fun q hq => ?_, ?_⟩
      · rcases List.mem_cons.1 hq with rfl | hq
        · exact ⟨hraw, hline⟩
        · exact hps q hq
      · rw [settleLines, List.map_cons, htext, hrest]

theorem body_subset (ls : List Text) : (body ls).2 ⊆ ls := by
  have hroot : ∀ d rest, splitAtRoot? ls = some (d, rest) → rest ⊆ ls := by
    induction ls with
    | nil => simp [splitAtRoot?]
    | cons line ls ih =>
        intro d rest h l hl
        rw [splitAtRoot?] at h
        split at h
        · cases h
          exact List.mem_cons_of_mem _ hl
        · exact List.mem_cons_of_mem _ (ih d rest h hl)
  unfold body
  split
  · exact List.Subset.refl _
  · rename_i d rest h
    exact fun l hl => hroot d rest h ((List.takeWhile_prefix _).subset hl)

theorem isUnquoted_mapStatements {f : Text → Text} (hf : Text.Keeps f) {t : Text}
    (ht : Text.IsUnquoted t) : Text.IsUnquoted (Line.mapStatements f t) := by
  refine all_joinWith (by decide) fun line hline => ?_
  obtain ⟨l, hl, rfl⟩ := List.mem_map.1 hline
  have hl : Text.IsUnquoted l := fun c hc => ht c (Text.mem_of_mem_lines hl hc)
  split
  · exact hf.isUnquoted hl
  · exact hl

theorem isUnquoted_trimLines {t : Text} (ht : Text.IsUnquoted t) :
    Text.IsUnquoted (trimLines t) := by
  refine all_joinWith (by decide) fun line hline => ?_
  obtain ⟨l, hl, rfl⟩ := List.mem_map.1 (List.mem_filter.1 hline).1
  exact fun c hc => ht c (Text.mem_of_mem_lines hl (Text.trim_subset l hc))

theorem isUnquoted_stripQuotes (t : Text) : Text.IsUnquoted (stripQuotes t) := by
  intro c hc
  simpa using (List.mem_filter.1 hc).2

/-- The last rule settles the statement lines of trimmed lines. -/
theorem shapeDocument_eq {t : Text} (ht : Text.IsUnquoted t) :
    ∃ d ls, (∀ line ∈ ls, Text.IsTrimmed line ∧ '\n' ∉ line ∧ Text.IsUnquoted line) ∧
      shapeDocument t =
        Text.joinLines (Chart.rootLine d :: settleLines [] (statementLines ls)) := by
  let ls := ((Text.lines t).map Text.trim).filter (!·.isEmpty)
  refine ⟨(body ls).1, (body ls).2, fun line hline => ?_, rfl⟩
  obtain ⟨l, hl, rfl⟩ := List.mem_map.1 (List.mem_filter.1 (body_subset ls hline)).1
  exact ⟨Text.isTrimmed_trim l,
    fun h => Text.newline_notMem_of_mem_lines hl (Text.trim_subset l h),
    fun c hc => ht c (Text.mem_of_mem_lines hl (Text.trim_subset l hc))⟩

end Repair

/-- Whatever the text, repair writes a root line and settled statement lines. -/
theorem exists_settleLines_eq (x : Text) :
    ∃ d ls, (∀ line ∈ ls, Text.IsTrimmed line ∧ '\n' ∉ line ∧ Text.IsUnquoted line) ∧
      repair x = Text.joinLines
        (Chart.rootLine d :: Repair.settleLines [] (Repair.statementLines ls)) := by
  rw [repair_eq]
  refine Repair.shapeDocument_eq (Repair.isUnquoted_trimLines ?_)
  refine Repair.isUnquoted_mapStatements keeps_padArrows ?_
  refine Repair.isUnquoted_mapStatements keeps_repairEdges ?_
  refine Repair.isUnquoted_mapStatements keeps_sanitizeIdents ?_
  refine Repair.isUnquoted_mapStatements keeps_sanitizeLabels ?_
  refine Repair.isUnquoted_mapStatements keeps_normalizeBrackets ?_
  exact Repair.isUnquoted_stripQuotes _

/-- Whatever the text, repair writes a root line and raw layouts, each on a line that the first two
rules leave alone. -/
theorem exists_repair_eq (x : Text) :
    ∃ d, ∃ ps : List Layout, (∀ p ∈ ps, p.IsRaw ∧ p.IsSettledLine) ∧
      repair x = Text.joinLines (Chart.rootLine d :: ps.map Layout.text) := by
  obtain ⟨d, ls, hls, hx⟩ := exists_settleLines_eq x
  obtain ⟨ps, hps, hlines⟩ :=
    Repair.exists_layouts (fun _ => Repair.isOutputLine_of_mem hls) []
  exact ⟨d, ps, hps, by rw [hx, hlines]⟩

end Flowchart
