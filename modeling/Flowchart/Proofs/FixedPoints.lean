import Flowchart.Proofs.Splitting

/-!
# Charts that repair leaves alone

Repair makes a clean chart of every document of a root line and statement lines with canonical
nodes. A clean chart is such a document, and it comes out as it is unless one of its lines is taken
for a directive or a root declaration.
-/

namespace Flowchart

theorem Text.isUnquoted_rootLine (d : Direction) : Text.IsUnquoted (Chart.rootLine d) :=
  fun c hc => beq_iff_eq.1 (List.all_eq_true.1
    (by cases d <;> decide : (Chart.rootLine d).all (Label.isQuotationMark · == false) = true) c hc)

theorem Text.isLine_rootLine (d : Direction) : Text.IsLine (Chart.rootLine d) := by
  cases d <;> exact ⟨by decide, by decide, by decide⟩

namespace Layout

/-- A line of a document that the first two rules leave alone. -/
structure IsSettledLine (p : Layout) : Prop extends p.IsReady where
  level : Repair.HasLevelNodes p

/-- A document of such lines is read back line by line. -/
theorem lines_joinLines (d : Direction) {ps : List Layout} (hps : ∀ p ∈ ps, p.IsSettledLine) :
    Text.lines (Text.joinLines (Chart.rootLine d :: ps.map text)) =
      Chart.rootLine d :: ps.map text := by
  refine Text.lines_joinLines fun line hline => ?_
  rcases List.mem_cons.1 hline with rfl | hline
  · exact Text.isLine_rootLine d
  · obtain ⟨p, hp, rfl⟩ := List.mem_map.1 hline
    exact (hps p hp).isLine

end Layout

/-- What repair makes of a document of a root line and statement lines. -/
theorem repair_joinLines (d : Direction) {ps : List Layout} (hps : ∀ p ∈ ps, p.IsSettledLine) :
    repair (Text.joinLines (Chart.rootLine d :: ps.map Layout.text)) =
      Chart.render ⟨d, Statement.settleAll []
        ((ps.takeWhile (!·.isRoot)).filterMap Layout.kept)⟩ := by
  have hlines : ∀ l ∈ Chart.rootLine d :: ps.map Layout.text,
      Text.IsLine l ∧ Repair.splitLine l = [l] ∧ Text.IsUnquoted l := by
    intro l hl
    rcases List.mem_cons.1 hl with rfl | hl
    · exact ⟨Text.isLine_rootLine d, Repair.splitLine_rootLine d, Text.isUnquoted_rootLine d⟩
    · obtain ⟨p, hp, rfl⟩ := List.mem_map.1 hl
      have h := hps p hp
      exact ⟨h.isLine, Repair.splitLine_text h.toIsReady h.level, h.unquoted⟩
  have hunquoted : Text.IsUnquoted (Text.joinLines (Chart.rootLine d :: ps.map Layout.text)) :=
    all_joinWith (by decide) fun l hl => (hlines l hl).2.2
  rw [repair_eq, Repair.splitStatements_joinLines (fun l hl => (hlines l hl).1)
      (fun l hl => (hlines l hl).2.1), Repair.stripQuotes_eq_self hunquoted,
    Repair.shapeDocument_joinLines (Text.isLine_rootLine d) (Line.rootDirection?_rootLine d)
      fun p hp => (hps p hp).toIsReady]

/-! ## Clean charts -/

theorem Label.IsClean.newline {l : Text} (hl : IsClean l) : '\n' ∉ l := by
  intro h
  have := hl.isSpaced.eq_space h (by decide)
  exact absurd this (by decide)

section

variable {q : Char → Prop} (hq : ∀ c, isWritten c = true → q c)

include hq

theorem all_id {w : Text} (hw : Ident.isValid w = true) : Text.All q w :=
  fun c hc => hq c (by simp [isWritten, (Ident.isValid_iff.1 hw).2.1 c hc])

theorem all_node {n : Node} (hn : n.IsClean) (hl : ∀ l, Label.IsClean l → Text.All q l) :
    Text.All q n.render := by
  cases n with
  | bare w => exact all_id hq hn
  | shaped m => exact all_render_node hq (all_id hq hn.1) (hl _ hn.2.1)

theorem all_link {l : Link} (h : l.IsClean) (hl : ∀ l, Label.IsClean l → Text.All q l) :
    Text.All q l.render := by
  have hspace : q ' ' := hq ' ' (by decide)
  have hedge := all_renderEdge hq (.written hq (by decide : arrow.all isWritten = true))
    fun k hk => hl k (h.1 k hk)
  exact (Text.All.cons hspace hedge).append (.cons hspace (all_node hq h.2 hl))

theorem all_statement {s : Statement} (hs : s.IsClean) (hl : ∀ l, Label.IsClean l → Text.All q l) :
    Text.All q s.render := by
  refine (all_node hq hs.1 hl).append fun c hc => ?_
  obtain ⟨l, hmem, hc⟩ := List.mem_flatMap.1 hc
  exact all_link hq (hs.2 l hmem) hl c hc

end

theorem Statement.IsClean.newline {s : Statement} (hs : s.IsClean) : '\n' ∉ s.render := by
  have hall := all_statement (q := (· ≠ '\n')) (fun _ => ne_newline_of_isWritten) hs
    fun l hl c hc he => hl.newline (he ▸ hc)
  exact fun h => hall '\n' h rfl

theorem Statement.IsClean.isUnquoted {s : Statement} (hs : s.IsClean) :
    Text.IsUnquoted s.render :=
  all_statement (fun _ => isQuotationMark_of_isWritten) hs
    fun _ hl _ hc => hl.not_isQuotationMark hc

namespace Layout

theorem isLevel_node {n : Node} (hn : n.IsClean) : Repair.IsLevel (NodeText.ofNode n).text := by
  rw [NodeText.text_ofNode]
  refine Repair.isLevel_render (Node.IsClean.id hn) ?_
  rintro m rfl
  have hl : Label.IsClean m.label := hn.2.1
  exact ⟨hl.isLegal, fun c hc => hl.not_isQuotationMark hc⟩

theorem isSettledLine_ofStatement {s : Statement} (hs : s.IsClean) :
    (ofStatement s).IsSettledLine where
  well := isWell_ofStatement hs
  newline := by
    rw [text_ofStatement]
    exact hs.newline
  unquoted := by
    rw [text_ofStatement]
    exact hs.isUnquoted
  trail := by simp [ofStatement]
  level := by
    refine ⟨isLevel_node hs.1, fun l hl => ?_⟩
    obtain ⟨m, hm, rfl⟩ := List.mem_map.1 hl
    exact isLevel_node (hs.2 m hm).2

/-- The text of a clean node comes out as that node. -/
theorem finalNode_eq {n : NodeText} (hn : n.node.IsClean) : finalNode n = n.node := by
  rw [finalNode, NodeText.node_ofNode hn]
  cases h : n.node with
  | bare w => rfl
  | shaped m =>
      rw [h] at hn
      have : Repair.relabel m = m := relabel_of_isClean hn
      rw [mapNode, this]

theorem finalNode_ofNode {n : Node} (hn : n.IsClean) : finalNode (NodeText.ofNode n) = n := by
  have hself := NodeText.node_ofNode hn
  rw [finalNode_eq (hself.symm ▸ hn), hself]

/-- A clean statement comes out as it is. -/
theorem statement_ofStatement {s : Statement} (hs : s.IsClean) : (ofStatement s).statement = s := by
  obtain ⟨first, links⟩ := s
  have hlinks : ((links.map ofLink).map fun l => (⟨l.1.label, finalNode l.2⟩ : Link)) = links := by
    rw [List.map_map]
    refine (List.map_congr_left fun l hl => ?_).trans (List.map_id links)
    have hl := hs.2 l hl
    simp [ofLink, EdgeText.label_ofLabel hl.1, finalNode_ofNode hl.2]
  rw [statement, ofStatement]
  dsimp only
  rw [hlinks, finalNode_ofNode hs.1]

end Layout

theorem Chart.render_eq_joinLines (c : Chart) : c.render = Text.joinLines
    (Chart.rootLine c.direction :: (c.statements.map Layout.ofStatement).map Layout.text) := by
  rw [Chart.render, List.map_map]
  refine congrArg (fun ls => Text.joinLines (_ :: ls)) (List.map_congr_left fun s _ => ?_)
  exact (Layout.text_ofStatement s).symm

/-- Repairing a clean chart keeps the statements up to the first line taken for a root declaration,
without those taken for directives. -/
theorem repair_render (c : Chart) (hc : ∀ s ∈ c.statements, s.IsClean) :
    repair c.render = Chart.render ⟨c.direction, Statement.settleAll []
      (((c.statements.map Layout.ofStatement).takeWhile (!·.isRoot)).filterMap Layout.kept)⟩ := by
  rw [c.render_eq_joinLines]
  refine repair_joinLines c.direction fun p hp => ?_
  obtain ⟨s, hs, rfl⟩ := List.mem_map.1 hp
  exact Layout.isSettledLine_ofStatement (hc s hs)

/-- A line is not taken for anything else if the canonical line of its statement is not. -/
theorem Layout.isMistakable_eq_false {p : Layout} (h : p.statement.isMistakable = false) :
    p.isMistakable = false := by
  obtain ⟨lead, first, links, trail⟩ := p
  cases first with
  | shaped id c i => rfl
  | bare w =>
      have hempty : (statement ⟨lead, .bare w, links, trail⟩).links.isEmpty = links.isEmpty := by
        cases links <;> rfl
      have hm : (Line.directiveKeywords.contains w || (statement ⟨lead, .bare w, links,
          trail⟩).links.isEmpty && Line.isRootKeyword w) = false := h
      rw [hempty, Bool.or_eq_false_iff] at hm
      show ((endsFirst ⟨lead, .bare w, links, trail⟩ && Line.directiveKeywords.contains w) ||
        links.isEmpty && Line.isRootKeyword w) = false
      rw [hm.1, hm.2, Bool.and_false]
      rfl

/-- Lines that are not taken for anything else are all kept. -/
theorem kept_of_not_isMistakable {ps : List Layout}
    (hm : ∀ p ∈ ps, p.statement.isMistakable = false) :
    (ps.takeWhile (!·.isRoot)).filterMap Layout.kept = ps.map Layout.statement := by
  induction ps with
  | nil => rfl
  | cons p ps ih =>
      have hstatement := hm p (by simp)
      have hline := Layout.isMistakable_eq_false hstatement
      have hroot : p.isRoot = false := by
        rw [Layout.isMistakable, Bool.or_eq_false_iff] at hline
        exact hline.2
      have hkept : p.kept = some p.statement := by
        rw [Layout.kept, hline, hstatement]
        rfl
      rw [List.takeWhile_cons, if_pos (by simp [hroot]), List.filterMap_cons, hkept, List.map_cons,
        ih fun q hq => hm q (by simp [hq])]

/-- A clean chart without such lines is settled as a whole. -/
theorem repair_render_of_not_isMistakable (c : Chart) (hc : ∀ s ∈ c.statements, s.IsClean)
    (hm : ∀ s ∈ c.statements, s.isMistakable = false) :
    repair c.render = Chart.render ⟨c.direction, Statement.settleAll [] c.statements⟩ := by
  have hself : (c.statements.map Layout.ofStatement).map Layout.statement = c.statements := by
    rw [List.map_map]
    refine (List.map_congr_left fun s hs => ?_).trans (List.map_id _)
    exact Layout.statement_ofStatement (hc s hs)
  rw [repair_render c hc, kept_of_not_isMistakable, hself]
  intro p hp
  obtain ⟨s, hs, rfl⟩ := List.mem_map.1 hp
  rw [Layout.statement_ofStatement (hc s hs)]
  exact hm s hs

/-- A clean chart is repaired to itself, character for character, unless one of its lines is taken
for a directive or a root declaration. -/
theorem Chart.repair_render_eq_self (c : Chart) (hc : c.IsClean)
    (hm : ∀ s ∈ c.statements, s.isMistakable = false) : repair c.render = c.render := by
  rw [repair_render_of_not_isMistakable c hc.1 hm, Chart.settleAll_statements hc.2]

/-- Labels may hold what is special elsewhere on a line. -/
theorem Chart.repair_render_special :
    let c : Chart := ⟨.leftRight,
      [⟨.shaped ⟨"A".toList, .terminal, "go --> on & %% done".toList⟩,
          [⟨some "a/b == c".toList, .shaped ⟨"x".toList, .decision, "i<j - 1 ?".toList⟩⟩]⟩,
        ⟨.bare "x".toList, [⟨none, .bare "o".toList⟩, ⟨some "é -.-> o".toList, .bare "A".toList⟩]⟩,
        ⟨.shaped ⟨"style".toList, .input, "read x/y".toList⟩, []⟩]⟩
    c.IsClean ∧ (∀ s ∈ c.statements, s.isMistakable = false) ∧ repair c.render = c.render := by
  intro c
  have hc : c.IsClean := by decide +kernel
  have hm : ∀ s ∈ c.statements, s.isMistakable = false := by decide +kernel
  exact ⟨hc, hm, repair_render_eq_self c hc hm⟩

end Flowchart
