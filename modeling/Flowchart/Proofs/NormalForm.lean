import Flowchart.Proofs.Acceptance

/-!
# The normal form of repaired texts

A text in normal form is the text of a clean chart. Whatever the text was, repair writes a root line
and chains of canonical nodes and arrows without blanks at their ends, so only the labels, the
spaces in front of and behind arrows and the shapes of an identifier can be out of form. A second
run puts them in form.
-/

namespace Flowchart

/-! ## Layouts and their texts -/

theorem Text.eq_of_blanks_append {b b' s t : Text} (hb : IsBlanks b) (hb' : IsBlanks b')
    (hs : ∀ c ∈ s.head?, isBlank c = false) (ht : ∀ c ∈ t.head?, isBlank c = false)
    (h : b ++ s = b' ++ t) : b = b' ∧ s = t := by
  have htake {u v : Text} (hu : IsBlanks u) (hv : ∀ c ∈ v.head?, isBlank c = false) :
      (u ++ v).takeWhile isBlank = u := Segment.takeWhile_append_of_stop hu hv
  have hblanks : b = b' := by rw [← htake hb hs, h, htake hb' ht]
  subst hblanks
  exact ⟨rfl, List.append_cancel_left h⟩

theorem eq_of_renderEdge_append {label label' : Option Text} {s t : Text}
    (hlabel : ∀ l ∈ label, '|' ∉ l) (hlabel' : ∀ l ∈ label', '|' ∉ l)
    (hs : ∀ c ∈ s.head?, c ≠ '|') (ht : ∀ c ∈ t.head?, c ≠ '|')
    (h : renderEdge arrow label ++ s = renderEdge arrow label' ++ t) : label = label' ∧ s = t := by
  have hpipe (l u : Text) : renderEdge arrow (some l) ++ u = arrow ++ '|' :: (l ++ '|' :: u) := by
    simp [renderEdge]
  cases label with
  | none =>
      cases label' with
      | none => exact ⟨rfl, List.append_cancel_left h⟩
      | some l' =>
          rw [hpipe] at h
          exact absurd rfl (hs '|' (by rw [List.append_cancel_left h]; rfl))
  | some l =>
      cases label' with
      | none =>
          rw [hpipe] at h
          exact absurd rfl (ht '|' (by rw [← List.append_cancel_left h]; rfl))
      | some l' =>
          rw [hpipe, hpipe] at h
          have hread := congrArg Segment.untilPipe? (List.cons.inj (List.append_cancel_left h)).2
          rw [Segment.untilPipe?_append (hlabel l rfl),
            Segment.untilPipe?_append (hlabel' l' rfl)] at hread
          cases hread
          exact ⟨rfl, rfl⟩

namespace Layout

/-- The first node of a chain, and what stands in front of its first arrow and behind. -/
theorem eq_of_operand_eq {m n : NodeText} {links links' : List (EdgeText × NodeText)}
    {trail trail' : Text} (hm : IsRawNode m) (hn : IsRawNode n)
    (hlinks : ∀ l ∈ links, IsRawEdge l.1 ∧ IsRawNode l.2)
    (hlinks' : ∀ l ∈ links', IsRawEdge l.1 ∧ IsRawNode l.2) (htrail : Text.IsBlanks trail)
    (htrail' : Text.IsBlanks trail')
    (h : m.text ++ linksText links trail = n.text ++ linksText links' trail') :
    m = n ∧ gap links trail = gap links' trail' ∧
      fromArrow links trail = fromArrow links' trail' := by
  have hoperand := operand_node hm .nil hlinks htrail
  have hoperand' := operand_node hn .nil hlinks' htrail'
  rw [List.nil_append, List.nil_append] at hoperand hoperand'
  rw [h, hoperand', Prod.mk.injEq] at hoperand
  obtain ⟨htext, hbehind⟩ := hoperand
  have htrim {k : NodeText} (hk : IsRawNode k) {b : Text} (hb : Text.IsBlanks b) :
      Text.trim (k.text ++ b) = k.text :=
    Text.trim_append_append .nil hb (text_ne_nil hk.isWell) (isTrimmed_text hk.isWell)
  have hnode : n.text = m.text := by
    rw [← htrim hn (linksText_eq_gap hlinks' htrail').1, htext,
      htrim hm (linksText_eq_gap hlinks htrail).1]
  obtain rfl := NodeText.eq_of_text_eq hn.isWell hm.isWell hnode
  exact ⟨rfl, (List.append_cancel_left htext).symm, hbehind.symm⟩

theorem eq_of_linksText_eq {m n : NodeText} {links links' : List (EdgeText × NodeText)}
    {trail trail' : Text} (hm : IsRawNode m) (hn : IsRawNode n)
    (hlinks : ∀ l ∈ links, IsRawEdge l.1 ∧ IsRawNode l.2)
    (hlinks' : ∀ l ∈ links', IsRawEdge l.1 ∧ IsRawNode l.2) (htrail : Text.IsBlanks trail)
    (htrail' : Text.IsBlanks trail')
    (h : m.text ++ linksText links trail = n.text ++ linksText links' trail') :
    m = n ∧ links = links' ∧ trail = trail' := by
  have hne {b b' : Text} {label : Option Text} {k : NodeText}
      {ls : List (EdgeText × NodeText)} {t : Text} :
      fromArrow ((EdgeText.ofLabel b label b', k) :: ls) t ≠ [] := by
    rw [fromArrow_cons]
    cases label <;> exact List.cons_ne_nil _ _
  have hnil {t : Text} : fromArrow [] t = [] := by simp [fromArrow, linksText, gap]
  induction links generalizing m n links' with
  | nil =>
      obtain ⟨rfl, hgap, hbehind⟩ := eq_of_operand_eq hm hn hlinks hlinks' htrail htrail' h
      cases links' with
      | nil => exact ⟨rfl, rfl, hgap⟩
      | cons l' links' =>
          obtain ⟨e', k'⟩ := l'
          obtain ⟨b, label, b', rfl, -⟩ := (hlinks' (e', k') (by simp)).1
          exact absurd (hbehind.symm.trans hnil) hne
  | cons l links ih =>
      obtain ⟨e, k⟩ := l
      obtain ⟨⟨b, label, a, rfl, hb, ha, hlabel⟩, hk⟩ := hlinks (e, k) (by simp)
      obtain ⟨rfl, hgap, hbehind⟩ := eq_of_operand_eq hm hn hlinks hlinks' htrail htrail' h
      cases links' with
      | nil => exact absurd (hbehind.trans hnil) hne
      | cons l' links' =>
          obtain ⟨e', k'⟩ := l'
          obtain ⟨⟨b', label', a', rfl, hb', ha', hlabel'⟩, hk'⟩ := hlinks' (e', k') (by simp)
          have hstart {t : Text} {j : NodeText} (hj : IsRawNode j) :
              EdgeText.StartsNode (j.text ++ t) := startsNode_text hj.isWell t
          rw [fromArrow_cons, fromArrow_cons] at hbehind
          obtain ⟨rfl, hbehind⟩ := eq_of_renderEdge_append hlabel hlabel'
            (fun c hc => (Check.head_blanks_append ha (hstart hk) c hc).2)
            (fun c hc => (Check.head_blanks_append ha' (hstart hk') c hc).2) hbehind
          obtain ⟨rfl, hbehind⟩ := Text.eq_of_blanks_append ha ha' (hstart hk).not_isBlank
            (hstart hk').not_isBlank hbehind
          obtain ⟨rfl, rfl, rfl⟩ := ih hk hk' (fun j hj => hlinks j (by simp [hj]))
            (fun j hj => hlinks' j (by simp [hj])) hbehind
          rw [gap, gap, before_ofLabel, before_ofLabel] at hgap
          rw [hgap]
          exact ⟨rfl, rfl, rfl⟩

theorem IsRaw.eq_of_text_eq {p q : Layout} (hp : p.IsRaw) (hq : q.IsRaw) (h : p.text = q.text) :
    p = q := by
  obtain ⟨lead, first, links, trail⟩ := p
  obtain ⟨lead', first', links', trail'⟩ := q
  have hstart {n : NodeText} (hn : IsRawNode n) (s : Text) :
      ∀ c ∈ (n.text ++ s).head?, Text.isBlank c = false :=
    (startsNode_text hn.isWell s).not_isBlank
  obtain ⟨rfl, hbehind⟩ := Text.eq_of_blanks_append hp.lead hq.lead (hstart hp.first _)
    (hstart hq.first _) h
  obtain ⟨rfl, rfl, rfl⟩ := eq_of_linksText_eq hp.first hq.first hp.links hq.links hp.trail
    hq.trail hbehind
  rfl

end Layout

/-! ## The ends of repaired lines -/

namespace Repair

/-- The identifier of a shape is not blank, whether the shape stays or not. -/
theorem head?_render_settle {n : ShapedNode} (hne : n.id ≠ [])
    (hid : ∀ c ∈ n.id, Text.isBlank c = false) (known : Shapes) (s : Text) :
    ∀ c ∈ ((Node.settle known (.shaped n)).1.render ++ s).head?, Text.isBlank c = false := by
  have hprefix : ∃ t, (Node.settle known (.shaped n)).1.render = n.id ++ t := by
    rw [Node.settle]
    cases known.lookup n.id with
    | none => exact ⟨_, rfl⟩
    | some shape =>
        dsimp only
        split
        · exact ⟨_, rfl⟩
        · exact ⟨[], (List.append_nil _).symm⟩
  obtain ⟨t, ht⟩ := hprefix
  obtain ⟨d, id, hcons⟩ := List.exists_cons_of_ne_nil hne
  intro c hc
  rw [ht, hcons] at hc
  cases hc
  exact hid d (by simp [hcons])

theorem head?_settle {back s : Text} (known : Shapes) {c : Char} (hb : Text.isBlank c = true)
    (h : c ∈ (Segment.renderAll (settleSegments known (Segment.scanFrom back s)).1).head?) :
    c ∈ (back.reverse ++ s).head? := by
  have hid := @isTrimmed_of_mem_scanFrom back s
  fun_induction Segment.scanFrom back s generalizing known with
  | case1 back =>
      have hself := renderAll_settle_ofBack known back []
      rw [List.append_nil] at hself
      rw [hself] at h
      exact h
  | case2 back s label rest hp ih =>
      obtain ⟨rfl, -⟩ := Segment.eq_append_of_untilPipe? hp
      have := ih known h hid
      simpa using this
  | case3 back s hp ih =>
      have := ih known h hid
      simpa using this
  | case4 back d s hd ho id body read ih =>
      obtain ⟨hne, hblank, -⟩ := hid (n := ⟨id.reverse, read.1, read.2⟩) (by simp)
      rw [renderAll_settle_ofBack, (Layout.settleSegments_node known _ _).1] at h
      by_cases hfree : back.drop id.length = []
      · rw [hfree, List.reverse_nil, List.nil_append] at h
        rw [head?_render_settle hne hblank known _ c h] at hb
        cases hb
      · have hlt : ¬ back.length ≤ id.length := by simpa using hfree
        have hback : back ≠ [] := by
          rintro rfl
          exact hfree (List.drop_nil)
        rw [List.head?_append_of_ne_nil _ (by simpa using hfree), List.head?_reverse,
          List.getLast?_drop, if_neg hlt] at h
        rw [List.head?_append_of_ne_nil _ (by simpa using hback), List.head?_reverse]
        exact h
  | case5 back d s hd ho ih =>
      have := ih known h hid
      simpa using this

theorem head?_render_of_mem_ofLine {line : Text} {n : Node} (h : .node n ∈ Item.ofLine line)
    (s : Text) : ∀ c ∈ (n.render ++ s).head?, Text.isBlank c = false := by
  obtain ⟨segment, hs, hi⟩ := List.mem_flatMap.1 h
  cases segment with
  | node m =>
      rw [List.mem_singleton] at hi
      cases hi
      obtain ⟨hne, hblank, -⟩ := isTrimmed_of_mem_scanFrom hs
      exact head?_render_settle hne hblank [] s
  | text t =>
      obtain ⟨w, rfl, hw⟩ := node_of_mem_ofTokens hi
      have hword := Token.isWord_of_mem_lex hw
      obtain ⟨d, w, rfl⟩ := List.exists_cons_of_ne_nil hword.1
      intro c hc
      cases hc
      exact hword.2 d (by simp)

theorem isTrimmed_expandJoins {line l : Text} (hline : Text.IsTrimmed line)
    (h : l ∈ expandJoins line) : Text.IsTrimmed l := by
  refine ⟨?_, getLast?_expandJoins hline.getLast h⟩
  rcases mem_expandJoins h with rfl | ⟨n, hn, rfl⟩ | ⟨e, s, t, he, hs, ht, rfl⟩
  · exact hline.head
  · simpa using head?_render_of_mem_ofLine hn []
  · rw [edgeLine, List.append_assoc]
    exact head?_render_of_mem_ofLine hs _

theorem isTrimmed_of_mem_settleLines {ls : List Text} (hls : ∀ line ∈ ls, Text.IsTrimmed line)
    (known : Shapes) : ∀ l ∈ settleLines known ls, Text.IsTrimmed l := by
  induction ls generalizing known with
  | nil => exact nofun
  | cons line ls ih =>
      obtain ⟨hline, hrest⟩ := List.forall_mem_cons.1 hls
      rw [settleLines]
      refine List.forall_mem_cons.2 ⟨⟨fun c hc => ?_, fun c hc => ?_⟩, ih hrest _⟩
      · by_contra hb
        have := head?_settle known (by simpa using hb) hc
        exact hb (hline.head c this)
      · by_contra hb
        have := getLast?_settle known (by simpa using hb) hc
        exact hb (hline.getLast c this)

end Repair

namespace Layout

/-- A raw layout without blanks at its ends. -/
structure IsTidy (p : Layout) : Prop extends p.IsRaw where
  lead_eq_nil : p.lead = []
  trail_eq_nil : p.trail = []

theorem IsRaw.isTidy {p : Layout} (hp : p.IsRaw) (ht : Text.IsTrimmed p.text) : p.IsTidy := by
  have hself : p.lead ++ p.core ++ p.trail = p.core := by
    rw [← text_eq_core, ← trim_text hp.isWell, Text.trim_eq_self ht]
  have hlength := congrArg List.length hself
  simp only [List.length_append] at hlength
  exact ⟨hp, List.eq_nil_of_length_eq_zero (by omega), List.eq_nil_of_length_eq_zero (by omega)⟩

end Layout

theorem exists_isTidy_repair_eq (x : Text) :
    ∃ d, ∃ ps : List Layout, (∀ p ∈ ps, p.IsTidy ∧ p.IsSettledLine) ∧
      repair x = Text.joinLines (Chart.rootLine d :: ps.map Layout.text) := by
  obtain ⟨d, ls, hls, hx⟩ := exists_settleLines_eq x
  obtain ⟨ps, hps, hlines⟩ := Repair.exists_layouts (fun _ => Repair.isOutputLine_of_mem hls) []
  have htrimmed : ∀ line ∈ Repair.statementLines ls, Text.IsTrimmed line := by
    intro line hline
    obtain ⟨source, hsource, hmem⟩ := List.mem_flatMap.1 (List.mem_filter.1 hline).1
    exact Repair.isTrimmed_expandJoins (hls source (List.mem_filter.1 hsource).1).1 hmem
  refine ⟨d, ps, fun p hp => ⟨(hps p hp).1.isTidy ?_, (hps p hp).2⟩, by rw [hx, hlines]⟩
  have hmem : p.text ∈ Repair.settleLines [] (Repair.statementLines ls) :=
    hlines ▸ List.mem_map_of_mem hp
  exact Repair.isTrimmed_of_mem_settleLines htrimmed [] _ hmem

/-! ## Normal forms -/

/-- A clean node in its canonical text. -/
def NodeText.IsNormal (n : NodeText) : Prop := n = ofNode n.node ∧ n.node.IsClean

/-- One space in front of the canonical arrow and one behind, and a clean label if there is one. -/
def EdgeText.IsNormal (e : EdgeText) : Prop :=
  ∃ label, e = ofLabel [' '] label [' '] ∧ ∀ l ∈ label, Label.IsClean l

namespace Layout

structure IsNormal (p : Layout) : Prop where
  first : p.first.IsNormal
  links : ∀ l ∈ p.links, l.1.IsNormal ∧ l.2.IsNormal

/-- The statement that the line is read as. -/
def read (p : Layout) : Statement :=
  ⟨p.first.node, p.links.map fun l => ⟨rawLabel l.1, l.2.node⟩⟩

/-- A tidy layout in normal form is the canonical line of a clean statement. -/
theorem IsNormal.eq_ofStatement {p : Layout} (h : p.IsNormal) (hp : p.IsTidy) :
    p = ofStatement p.read ∧ p.read.IsClean := by
  obtain ⟨lead, first, links, trail⟩ := p
  obtain rfl : lead = [] := hp.lead_eq_nil
  obtain rfl : trail = [] := hp.trail_eq_nil
  have hlink : ∀ l ∈ links, ofLink ⟨rawLabel l.1, l.2.node⟩ = l ∧
      (⟨rawLabel l.1, l.2.node⟩ : Link).IsClean := by
    rintro ⟨e, n⟩ hl
    obtain ⟨⟨label, rfl, hlabel⟩, hn, hclean⟩ := h.links _ hl
    rw [ofLink, rawLabel_ofLabel, ← hn]
    exact ⟨rfl, hlabel, hclean⟩
  constructor
  · rw [ofStatement, read, ← h.first.1, List.map_map]
    exact congrArg (Layout.mk [] first · []) ((List.map_id links).symm.trans
      (List.map_congr_left fun l hl => (hlink l hl).1.symm))
  · refine ⟨h.first.2, fun m hm => ?_⟩
    obtain ⟨l, hl, rfl⟩ := List.mem_map.1 hm
    exact (hlink l hl).2

theorem isNormal_ofStatement {s : Statement} (hs : s.IsClean) : (ofStatement s).IsNormal := by
  have hnode {n : Node} (hn : n.IsClean) : (NodeText.ofNode n).IsNormal := by
    rw [NodeText.IsNormal, NodeText.node_ofNode hn]
    exact ⟨rfl, hn⟩
  refine ⟨hnode hs.1, fun l hl => ?_⟩
  obtain ⟨m, hm, rfl⟩ := List.mem_map.1 hl
  exact ⟨⟨m.label, rfl, (hs.2 m hm).1⟩, hnode (hs.2 m hm).2⟩

theorem read_ofStatement {s : Statement} (hs : s.IsClean) : (ofStatement s).read = s := by
  obtain ⟨first, links⟩ := s
  rw [read, ofStatement, List.map_map]
  dsimp only
  rw [NodeText.node_ofNode hs.1]
  refine congrArg (Statement.mk first) ((List.map_congr_left fun l hl => ?_).trans
    (List.map_id links))
  rw [Function.comp_apply, ofLink, rawLabel_ofLabel, NodeText.node_ofNode (hs.2 l hl).2]
  rfl

theorem eq_of_map_text_eq {ps qs : List Layout} (hps : ∀ p ∈ ps, p.IsRaw)
    (hqs : ∀ q ∈ qs, q.IsRaw) (h : ps.map text = qs.map text) : ps = qs := by
  induction ps generalizing qs with
  | nil => exact (List.map_eq_nil_iff.1 h.symm).symm
  | cons p ps ih =>
      cases qs with
      | nil => cases h
      | cons q qs =>
          obtain ⟨hp, hps⟩ := List.forall_mem_cons.1 hps
          obtain ⟨hq, hqs⟩ := List.forall_mem_cons.1 hqs
          obtain ⟨htext, hrest⟩ := List.cons.inj h
          rw [hp.eq_of_text_eq hq htext, ih hps hqs hrest]

end Layout

/-- The text is the canonical text of a clean chart. -/
def Text.IsNormal (y : Text) : Prop := ∃ c : Chart, c.IsClean ∧ y = c.render

/-- Lines of tidy layouts are in normal form exactly when each of them is and no identifier has two
shapes. -/
theorem isNormal_joinLines_iff (d : Direction) {ps : List Layout}
    (hps : ∀ p ∈ ps, p.IsTidy ∧ p.IsSettledLine) :
    (Text.joinLines (Chart.rootLine d :: ps.map Layout.text)).IsNormal ↔
      (∀ p ∈ ps, p.IsNormal) ∧ (⟨d, ps.map Layout.read⟩ : Chart).IsConsistent := by
  constructor
  · rintro ⟨c, hc, h⟩
    have hclean := Chart.isSettledLine_ofStatement hc.1
    rw [Chart.render_eq_joinLines] at h
    have hread := congrArg Text.lines h
    rw [Layout.lines_joinLines d fun p hp => (hps p hp).2,
      Layout.lines_joinLines _ fun q hq => (hclean q hq).2] at hread
    have hself := Layout.eq_of_map_text_eq (fun p hp => (hps p hp).1.toIsRaw)
      (fun q hq => (hclean q hq).1) (List.cons.inj hread).2
    have hstatements : ps.map Layout.read = c.statements := by
      rw [hself, List.map_map]
      exact (List.map_congr_left fun s hs => Layout.read_ofStatement (hc.1 s hs)).trans
        (List.map_id _)
    rw [hstatements]
    refine ⟨fun p hp => ?_, hc.2⟩
    rw [hself] at hp
    obtain ⟨s, hs, rfl⟩ := List.mem_map.1 hp
    exact Layout.isNormal_ofStatement (hc.1 s hs)
  · rintro ⟨hnormal, hconsistent⟩
    have hstatement := fun p hp => (hnormal p hp).eq_ofStatement (hps p hp).1
    refine ⟨⟨d, ps.map Layout.read⟩, ⟨fun s hs => ?_, hconsistent⟩, ?_⟩
    · obtain ⟨p, hp, rfl⟩ := List.mem_map.1 hs
      exact (hstatement p hp).2
    · have hself : (ps.map Layout.read).map Layout.ofStatement = ps := by
        rw [List.map_map]
        exact (List.map_congr_left fun p hp => (hstatement p hp).1.symm).trans (List.map_id ps)
      rw [Chart.render_eq_joinLines, hself]

/-- What repair writes is in normal form exactly when its labels are clean, its arrows have one
space around them, and no identifier has two shapes. The second run writes a normal form. -/
theorem exists_isNormal_repair_iff (x : Text) :
    (∃ d, ∃ ps : List Layout, (∀ p ∈ ps, p.IsTidy ∧ Text.IsUnquoted p.text) ∧
      repair x = Text.joinLines (Chart.rootLine d :: ps.map Layout.text) ∧
        ((repair x).IsNormal ↔
          (∀ p ∈ ps, p.IsNormal) ∧ (⟨d, ps.map Layout.read⟩ : Chart).IsConsistent)) ∧
      (repair (repair x)).IsNormal := by
  refine ⟨?_, exists_isClean_repair_repair x⟩
  obtain ⟨d, ps, hps, hx⟩ := exists_isTidy_repair_eq x
  refine ⟨d, ps, fun p hp => ⟨(hps p hp).1, (hps p hp).2.unquoted⟩, hx, ?_⟩
  rw [hx]
  exact isNormal_joinLines_iff d hps

/-- The label between pipes is read from another place in the line once the empty label in front of
it is gone, and nothing cleans it any more. -/
theorem not_isNormal_repair :
    ¬ (repair "Z[[q] --> x||(w|a --> y -->|,|_|d,| E & F]".toList).IsNormal := by
  rintro ⟨c, hc, hx⟩
  have hrejected : (check (repair
      "Z[[q] --> x||(w|a --> y -->|,|_|d,| E & F]".toList)).isOk ≠ true := by decide +kernel
  exact hrejected (hx ▸ Chart.isOk_check_render hc)

end Flowchart
