import Flowchart.Proofs.AcceptedCharts
import Flowchart.Proofs.StrandLines

/-!
# Charts with names for identifiers

People write names where identifiers belong. Repair writes the identifier for the name wherever it
stands, so that every edge still leads from and to the node that it named.
-/

namespace Flowchart

/-! ## Edges of charts -/

/-- The edges behind a node. -/
def Link.edges (source : Text) : List Link → List Edge
  | [] => []
  | l :: links => ⟨source, l.target.id, l.label⟩ :: edges l.target.id links

def Statement.edges (s : Statement) : List Edge := Link.edges s.first.id s.links

def Chart.edges (c : Chart) : List Edge := c.statements.flatMap Statement.edges

theorem Layout.linkEdges_ofLink (source : Text) (links : List Link) :
    linkEdges source (links.map ofLink) = Link.edges source links := by
  induction links generalizing source with
  | nil => rfl
  | cons l links ih =>
      rw [List.map_cons, ofLink, linkEdges, NodeText.id_ofNode, rawLabel_ofLabel, ih]
      rfl

theorem Layout.edges_ofStatement (s : Statement) : (ofStatement s).edges = s.edges := by
  rw [edges, ofStatement, NodeText.id_ofNode, linkEdges_ofLink]
  rfl

/-- Settling changes no edge. -/
theorem Repair.edges_settleLinks (known : Shapes) (source : Text) (links : List Link) :
    Link.edges source (Link.settleAll known links).1 = Link.edges source links := by
  induction links generalizing known source with
  | nil => rfl
  | cons l links ih =>
      rw [Link.settleAll, Link.edges, Link.edges, ih, id_settle]

theorem Repair.edges_settleAll (known : Shapes) (ss : List Statement) :
    (Statement.settleAll known ss).flatMap Statement.edges = ss.flatMap Statement.edges := by
  induction ss generalizing known with
  | nil => rfl
  | cons s ss ih =>
      have hfirst : (s.settle known).1.edges = s.edges := by
        rw [Statement.edges, Statement.settle, edges_settleLinks, id_settle]
        rfl
      rw [Statement.settleAll, List.flatMap_cons, List.flatMap_cons, hfirst, ih]

/-- The check of a clean chart finds its direction, its edges and its identifiers. -/
structure Chart.IsFound (c : Chart) (summary : Summary) : Prop where
  direction : summary.direction = c.direction
  edges : summary.edges = c.edges
  ids : ∀ id, id ∈ summary.nodes.map Prod.fst ↔ id ∈ Node.ids c.nodes

theorem Chart.exists_isFound {c : Chart} (hc : c.IsClean) :
    ∃ summary, check c.render = .ok summary ∧ c.IsFound summary := by
  obtain ⟨summary, hsummary⟩ := exists_check_render hc
  have hrecords := (check_render_eq_ok_iff hc).1 hsummary
  refine ⟨summary, hsummary, hrecords.direction, ?_, hrecords.keys.2⟩
  rw [hrecords.edges, List.nil_append, List.flatMap_map]
  exact List.flatMap_congr fun s _ => Layout.edges_ofStatement s

/-- Settled statements have the edges and the identifiers that they had. -/
theorem Chart.exists_isFound_settleAll (d : Direction) {ss : List Statement}
    (hss : ∀ s ∈ ss, s.IsClean) :
    ∃ summary, check (Chart.render ⟨d, Statement.settleAll [] ss⟩) = .ok summary ∧
      (⟨d, ss⟩ : Chart).IsFound summary := by
  obtain ⟨summary, hcheck, hfound⟩ := exists_isFound (isClean_settleAll d hss)
  refine ⟨summary, hcheck, hfound.direction, ?_, fun id => ?_⟩
  · rw [hfound.edges, edges, Repair.edges_settleAll]
    rfl
  · rw [hfound.ids, nodes, nodes, Node.ids_flatMap, Node.ids_flatMap, Repair.ids_settleAll]

/-! ## Renamed charts -/

section

variable (f : Text → Text)

def Edge.rename (e : Edge) : Edge := ⟨f e.source, f e.target, e.label⟩

def Link.rename (l : Link) : Link := ⟨l.label, l.target.rename f⟩

def Statement.rename (s : Statement) : Statement := ⟨s.first.rename f, s.links.map (Link.rename f)⟩

def Chart.rename (c : Chart) : Chart := ⟨c.direction, c.statements.map (Statement.rename f)⟩

theorem Link.edges_rename (source : Text) (links : List Link) :
    edges (f source) (links.map (rename f)) = (edges source links).map (Edge.rename f) := by
  induction links generalizing source with
  | nil => rfl
  | cons l links ih =>
      rw [List.map_cons, edges, edges, List.map_cons, rename, Node.id_rename, ih]
      rfl

/-- The edges of a renamed chart stand between the renamed nodes. -/
theorem Chart.edges_rename (c : Chart) : (c.rename f).edges = c.edges.map (Edge.rename f) := by
  rw [edges, rename, edges, List.flatMap_map, List.map_flatMap]
  refine List.flatMap_congr fun s _ => ?_
  rw [Statement.edges, Statement.rename, Node.id_rename, Link.edges_rename]
  rfl

theorem Chart.ids_rename (c : Chart) :
    Node.ids (c.rename f).nodes = (Node.ids c.nodes).map f := by
  have hstatement (s : Statement) :
      Node.ids (s.rename f).nodes = (Node.ids s.nodes).map f := by
    simp [Node.ids, Statement.nodes, Statement.rename, Link.rename, Node.id_rename]
  rw [nodes, rename, List.flatMap_map, nodes, Node.ids_flatMap, Node.ids_flatMap,
    List.map_flatten, List.map_map]
  exact congrArg _ (List.map_congr_left fun s _ => hstatement s)

end

/-! ## Statements with names -/

namespace Statement

/-- Names for identifiers, canonical shapes and clean labels. -/
def IsNamed (s : Statement) : Prop :=
  s.first.IsNamed ∧ ∀ l ∈ s.links, (∀ k ∈ l.label, Label.IsClean k) ∧ l.target.IsNamed

instance (s : Statement) : Decidable s.IsNamed :=
  inferInstanceAs (Decidable (_ ∧ _))

/-- The line of the statement. -/
def strand (s : Statement) : Strand :=
  ⟨s.first, s.links.map fun l => (.edge l.label, l.target)⟩

theorem text_strand (s : Statement) : s.strand.text = s.render := by
  rw [Strand.text, strand, Strand.linksText, List.flatMap_map, render]
  refine congrArg _ (List.flatMap_congr fun l _ => ?_)
  simp [Gap.text, Link.render]

/-- What the rules make of the line of a statement is the line of the renamed statement. -/
theorem map_strand {fg : Gap → Gap} (hfg : ∀ label, fg (.edge label) = .edge label)
    (f : Text → Text) (s : Statement) :
    s.strand.map fg (Node.rename f) = (s.rename f).strand := by
  simp [strand, Strand.map, rename, Link.rename, hfg]

theorem isMistakable_strand (s : Statement) :
    s.strand.isMistakable = (['%', '%'].isPrefixOf s.first.id || s.isMistakable) := by
  have hempty : s.strand.links.isEmpty = s.links.isEmpty := List.isEmpty_map
  rw [Strand.isMistakable, hempty]
  rfl

variable {s : Statement} (hs : s.IsNamed)

include hs

theorem IsNamed.isWell_strand : s.strand.IsWell := by
  refine ⟨hs.1, fun l hl => ?_⟩
  obtain ⟨k, hk, rfl⟩ := List.mem_map.1 hl
  exact hs.2 k hk

theorem IsNamed.isClean_rename : (s.rename Ident.sanitize).IsClean := by
  refine ⟨hs.1.isClean_rename, fun l hl => ?_⟩
  obtain ⟨k, hk, rfl⟩ := List.mem_map.1 hl
  exact ⟨(hs.2 k hk).1, (hs.2 k hk).2.isClean_rename⟩

end Statement

/-! ## Charts with names -/

/-- The canonical line of a clean statement stands for itself. -/
theorem Repair.filter_expandJoins_render {s : Statement} (hs : s.IsClean) :
    (expandJoins s.render).filter isStatement = [s.render] := by
  have hexpand := Layout.expandJoins_text (Layout.isWell_ofStatement hs)
    (Layout.hasCanonicalArrows_ofStatement s)
  rw [Layout.text_ofStatement] at hexpand
  rw [hexpand, List.filter_cons, if_pos (Statement.isStatement_render hs), List.filter_nil]

/-- No sanitized identifier begins a comment. -/
theorem Ident.IsName.isPrefixOf_sanitize {w : Text} (hw : IsName w) :
    ['%', '%'].isPrefixOf (sanitize w) = false := by
  obtain ⟨hne, halnum, -⟩ := isValid_iff.1 hw.isValid_sanitize
  obtain ⟨c, v, hcons⟩ := List.exists_cons_of_ne_nil hne
  have hc := halnum c (by simp [hcons])
  have hpercent : ('%' == c) = false := by
    refine beq_eq_false_iff_ne.2 fun he => ?_
    rw [← he] at hc
    exact absurd hc (by decide)
  rw [hcons, List.isPrefixOf, hpercent, Bool.false_and]

namespace Chart

/-- A chart is written as a root line and a strand for each statement. -/
theorem render_eq_document (c : Chart) :
    c.render = Strand.document c.direction (c.statements.map Statement.strand) := by
  rw [render, Strand.document, List.map_map]
  exact congrArg (fun ls => Text.joinLines (_ :: ls))
    (List.map_congr_left fun s _ => s.text_strand.symm)

section

variable {c : Chart} (hc : ∀ s ∈ c.statements, s.IsNamed)

include hc

theorem isClean_rename_statements : ∀ s ∈ (c.rename Ident.sanitize).statements, s.IsClean := by
  rw [rename, List.forall_mem_map]
  exact fun s hs => (hc s hs).isClean_rename

/-- No statement of the renamed chart has anything to expand. -/
theorem filter_expandJoins_tidied :
    ((c.statements.map Statement.strand).flatMap fun p =>
        Repair.expandJoins p.tidied.text).filter Repair.isStatement
      = (c.rename Ident.sanitize).statements.map Statement.render := by
  have htidied (s : Statement) : s.strand.tidied = (s.rename Ident.sanitize).strand :=
    s.map_strand (fun _ => rfl) Ident.sanitize
  rw [List.filter_flatMap, List.flatMap_map, rename, List.map_map, List.map_eq_flatMap]
  refine List.flatMap_congr fun s hs => ?_
  rw [htidied, Statement.text_strand]
  exact Repair.filter_expandJoins_render (hc s hs).isClean_rename

variable (hcomment : ∀ s ∈ c.statements, ['%', '%'].isPrefixOf s.first.id = false)
  (hm : ∀ s ∈ c.statements, s.isMistakable = false ∧ (s.rename Ident.sanitize).isMistakable = false)

include hcomment hm

/-- A chart with names is repaired to the chart with identifiers in their place. -/
theorem repair_render_eq_rename : repair c.render = Chart.render ⟨c.direction,
    Statement.settleAll [] (c.rename Ident.sanitize).statements⟩ := by
  have hplain : ∀ p ∈ c.statements.map Statement.strand, p.IsPlain := by
    rw [List.forall_mem_map]
    refine fun s hs => ⟨(hc s hs).isWell_strand, ?_⟩
    rw [Statement.isMistakable_strand, hcomment s hs, (hm s hs).1]
    rfl
  have hrenamed : ∀ p ∈ c.statements.map Statement.strand,
      (p.map id (Node.rename Ident.sanitize)).isMistakable = false := by
    rw [List.forall_mem_map]
    intro s hs
    have hid : (s.rename Ident.sanitize).first.id = Ident.sanitize s.first.id :=
      Node.id_rename _ _
    rw [Statement.map_strand (fun _ => rfl), Statement.isMistakable_strand, (hm s hs).2, hid,
      (hc s hs).1.id.isPrefixOf_sanitize]
    rfl
  rw [render_eq_document, Strand.repair_document hplain hrenamed, filter_expandJoins_tidied hc,
    Layout.settleLines_render (isClean_rename_statements hc)]
  rfl

/-- The edges of a repaired chart stand between the identifiers of the names, in their order and
with their labels, and its nodes are those identifiers. -/
theorem exists_check_repair_names : ∃ summary, check (repair c.render) = .ok summary ∧
    summary.direction = c.direction ∧ summary.edges = c.edges.map (Edge.rename Ident.sanitize) ∧
      ∀ id, id ∈ summary.nodes.map Prod.fst ↔ ∃ n ∈ c.nodes, id = Ident.sanitize n.id := by
  obtain ⟨summary, hcheck, hfound⟩ :=
    exists_isFound_settleAll c.direction (isClean_rename_statements hc)
  refine ⟨summary, ?_, hfound.direction, ?_, fun id => ?_⟩
  · rw [repair_render_eq_rename hc hcomment hm, hcheck]
  · rw [hfound.edges]
    exact edges_rename Ident.sanitize c
  · rw [hfound.ids]
    have hids : Node.ids (⟨c.direction, (c.rename Ident.sanitize).statements⟩ : Chart).nodes
        = (Node.ids c.nodes).map Ident.sanitize := c.ids_rename Ident.sanitize
    rw [hids, Node.ids, List.map_map, List.mem_map]
    exact exists_congr fun n => and_congr_right fun _ => eq_comm

end

/-- Two names may come to one identifier, and its second shape then goes. -/
theorem exists_check_repair_names_merged :
    let c : Chart := ⟨.leftRight,
      [⟨.bare "node-1-b".toList,
          [⟨none, .shaped ⟨"my_node".toList, .decision, "a --> b ?".toList⟩⟩,
            ⟨some "x = y".toList, .bare "step.2".toList⟩, ⟨none, .bare "e.n<d".toList⟩]⟩,
        ⟨.shaped ⟨"%na\u00efve-".toList, .storage, "end".toList⟩,
          [⟨some "no".toList, .shaped ⟨"my.node".toList, .input, "in".toList⟩⟩]⟩,
        ⟨.bare "style#1".toList, [⟨none, .bare "-x=.".toList⟩]⟩]⟩
    (∀ s ∈ c.statements, s.IsNamed) ∧
      (∀ s ∈ c.statements, ['%', '%'].isPrefixOf s.first.id = false) ∧
      (∀ s ∈ c.statements,
        s.isMistakable = false ∧ (s.rename Ident.sanitize).isMistakable = false) ∧
      ∃ summary, check (repair c.render) = .ok summary ∧ summary.direction = c.direction ∧
        summary.edges = c.edges.map (Edge.rename Ident.sanitize) ∧
        ∀ id, id ∈ summary.nodes.map Prod.fst ↔ ∃ n ∈ c.nodes, id = Ident.sanitize n.id := by
  intro c
  have hc : ∀ s ∈ c.statements, s.IsNamed := by decide +kernel
  have hcomment : ∀ s ∈ c.statements, ['%', '%'].isPrefixOf s.first.id = false := by
    decide +kernel
  have hm : ∀ s ∈ c.statements,
      s.isMistakable = false ∧ (s.rename Ident.sanitize).isMistakable = false := by
    decide +kernel
  exact ⟨hc, hcomment, hm, exists_check_repair_names hc hcomment hm⟩

end Chart

end Flowchart
