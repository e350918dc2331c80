import Flowchart.Proofs.Renaming

/-!
# Lines of groups

Nodes joined by `&` are a group, and an edge between two groups stands for an edge from each node of
the one to each node of the other. A line of groups is read group by group, and the lines that take
its place have exactly those edges, in their order.
-/

namespace Flowchart

open Repair (Item Group Chain)

/-! ## Items of a strand -/

def Gap.item : Gap → Item
  | edge label => .edge arrow label
  | join _ _ => .join

namespace Strand

theorem ofTokens_gap (g : Gap) (ts : List Token) :
    Item.ofTokens (g.tokens ++ ts) = g.item :: Item.ofTokens ts := by
  cases g with
  | edge label => cases label <;> rfl
  | join b a =>
      show Item.ofTokens ((EdgeText.blankTokens b ++ .join :: EdgeText.blankTokens a) ++ ts) = _
      rw [List.append_assoc, Item.ofTokens_blankTokens]
      show .join :: Item.ofTokens (EdgeText.blankTokens a ++ ts) = _
      rw [Item.ofTokens_blankTokens]
      rfl

/-- A strand is read node by node, with the gaps between them. -/
theorem ofLine_text {p : Strand} (hp : p.IsWell) : Item.ofLine p.text =
    .node p.first :: p.links.flatMap fun l => [l.1.item, .node l.2] := by
  have hreads : Reads (fun segments => segments.flatMap (Layout.part
        (fun t => Item.ofTokens (Token.lex t)) fun n => [Item.node (.shaped n)]))
      (fun g => [g.item]) (fun w => [.node (.bare w)]) fun n => [.node (.shaped n)] := by
    refine Reads.of_part (by simp [Token.lex_nil, Item.ofTokens]) (fun hg hu => ?_)
      fun hw ht => ?_
    · rw [Gap.lex_text_append hg hu, ofTokens_gap]
      rfl
    · rw [Token.lex_name_append hw ht.ends]
      rfl
  have hnode (n : Node) : readNode (fun w => [Item.node (.bare w)])
      (fun n => [Item.node (.shaped n)]) n = [.node n] := by
    cases n <;> rfl
  have hpart : Item.ofLine p.text = (Segment.scan p.text).flatMap (Layout.part
      (fun t => Item.ofTokens (Token.lex t)) fun n => [Item.node (.shaped n)]) := by
    rw [Item.ofLine, Item.ofSegments]
    congr 1
    funext s
    cases s <;> rfl
  rw [hpart, hreads.scan hp]
  simp only [hnode]
  rfl

end Strand

/-! ## Groups as they are written -/

/-- A node and the nodes joined to it, each with the blanks around the join. -/
structure SpelledGroup where
  first : Node
  others : List ((Text × Text) × Node)

/-- A group, and the edges behind it, each with its label and the group that it leads to. -/
structure SpelledChain where
  first : SpelledGroup
  links : List (Option Text × SpelledGroup)

namespace SpelledGroup

def nodes (g : SpelledGroup) : List Node := g.first :: g.others.map Prod.snd

def joins (g : SpelledGroup) : List (Gap × Node) :=
  g.others.map fun o => (.join o.1.1 o.1.2, o.2)

def group (g : SpelledGroup) : Group := ⟨g.first, g.others.map Prod.snd⟩

def items (g : SpelledGroup) : List Item :=
  .node g.first :: g.others.flatMap fun o => [.join, .node o.2]

def IsClean (g : SpelledGroup) : Prop :=
  (∀ n ∈ g.nodes, n.IsClean) ∧ ∀ o ∈ g.others, Text.IsPadding o.1.1 ∧ Text.IsPadding o.1.2

instance (g : SpelledGroup) : Decidable g.IsClean :=
  inferInstanceAs (Decidable (_ ∧ _))

theorem first_mem_nodes (g : SpelledGroup) : g.first ∈ g.nodes := List.mem_cons_self

/-- A group is read up to the next item that is no join. -/
theorem group?_items (g : SpelledGroup) {rest : List Item} (hrest : rest.head? ≠ some .join) :
    Repair.group? (g.items ++ rest) = some (g.group, rest) := by
  obtain ⟨first, others⟩ := g
  induction others generalizing first with
  | nil =>
      show Repair.group? (.node first :: rest) = some (⟨first, []⟩, rest)
      cases rest with
      | nil => rfl
      | cons item rest =>
          cases item with
          | join => exact absurd rfl hrest
          | _ => rfl
  | cons o others ih =>
      show Repair.group? (.node first :: .join :: (items ⟨o.2, others⟩ ++ rest)) = _
      rw [Repair.group?, ih o.2]
      rfl

end SpelledGroup

namespace SpelledChain

variable (z : SpelledChain)

def strand : Strand :=
  ⟨z.first.first, z.first.joins ++ z.links.flatMap fun l => (.edge l.1, l.2.first) :: l.2.joins⟩

def text : Text := z.strand.text

def nodes : List Node := z.first.nodes ++ z.links.flatMap fun l => l.2.nodes

def items : List Item :=
  z.first.items ++ z.links.flatMap fun l => .edge arrow l.1 :: l.2.items

def chain : Chain := ⟨z.first.group, z.links.map fun l => ((arrow, l.1), l.2.group)⟩

def IsClean : Prop :=
  z.first.IsClean ∧ ∀ l ∈ z.links, (∀ k ∈ l.1, Label.IsClean k) ∧ l.2.IsClean

instance : Decidable z.IsClean :=
  inferInstanceAs (Decidable (_ ∧ _))

/-- Wherever an identifier has a shape on the line, it is the same one. -/
def IsConsistent : Prop :=
  ∀ m ∈ z.nodes, ∀ n ∈ z.nodes, m.id = n.id → ∀ a ∈ m.shape?, ∀ b ∈ n.shape?, a = b

instance : Decidable z.IsConsistent :=
  inferInstanceAs (Decidable (∀ m ∈ z.nodes, ∀ n ∈ z.nodes, m.id = n.id → _))

variable {z}

theorem IsClean.isWell (hz : z.IsClean) : z.strand.IsWell := by
  have hjoins {g : SpelledGroup} (hg : g.IsClean) : ∀ l ∈ g.joins, l.1.IsWell ∧ l.2.IsNamed := by
    intro l hl
    obtain ⟨o, ho, rfl⟩ := List.mem_map.1 hl
    exact ⟨hg.2 o ho, (hg.1 o.2 (List.mem_cons_of_mem _ (List.mem_map_of_mem ho))).isNamed⟩
  refine ⟨(hz.1.1 _ z.first.first_mem_nodes).isNamed, fun l hl => ?_⟩
  rcases List.mem_append.1 hl with hl | hl
  · exact hjoins hz.1 l hl
  · obtain ⟨k, hk, hl⟩ := List.mem_flatMap.1 hl
    obtain ⟨hlabel, hgroup⟩ := hz.2 k hk
    rcases List.mem_cons.1 hl with rfl | hl
    · exact ⟨hlabel, (hgroup.1 _ k.2.first_mem_nodes).isNamed⟩
    · exact hjoins hgroup l hl

theorem IsClean.of_mem_nodes (hz : z.IsClean) : ∀ n ∈ z.nodes, n.IsClean := by
  intro n hn
  rcases List.mem_append.1 hn with hn | hn
  · exact hz.1.1 n hn
  · obtain ⟨l, hl, hn⟩ := List.mem_flatMap.1 hn
    exact (hz.2 l hl).2.1 n hn

theorem IsClean.rename_strand (hz : z.IsClean) (fg : Gap → Gap) :
    z.strand.map fg (Node.rename Ident.sanitize) = z.strand.map fg id := by
  have hnodes : ∀ n ∈ z.strand.first :: z.strand.links.map Prod.snd, n.IsClean := by
    intro n hn
    refine hz.of_mem_nodes n ?_
    simp only [strand, SpelledGroup.joins, List.mem_cons, List.map_append, List.mem_append,
      List.map_map, List.map_flatMap, List.map_cons] at hn
    simp only [nodes, SpelledGroup.nodes, List.mem_append, List.mem_cons]
    exact (or_assoc.2 hn)
  have hself : ∀ n ∈ z.strand.first :: z.strand.links.map Prod.snd,
      n.rename Ident.sanitize = n := fun n hn => (hnodes n hn).rename
  rw [Strand.map, Strand.map, hself _ List.mem_cons_self]
  refine congrArg (Strand.mk _) (List.map_congr_left fun l hl => ?_)
  rw [hself _ (List.mem_cons_of_mem _ (List.mem_map_of_mem hl))]
  rfl

/-! ## A line of groups read -/

variable (z)

theorem items_strand : (.node z.strand.first ::
    z.strand.links.flatMap fun l => [l.1.item, .node l.2]) = z.items := by
  have hjoins (g : SpelledGroup) : g.joins.flatMap (fun l => [l.1.item, .node l.2])
      = g.others.flatMap fun o => [.join, .node o.2] := by
    rw [SpelledGroup.joins, List.flatMap_map]
    rfl
  rw [strand, items, SpelledGroup.items, List.flatMap_append, hjoins, List.flatMap_assoc,
    List.cons_append]
  refine congrArg (fun rest => _ :: (_ ++ rest)) (List.flatMap_congr fun l _ => ?_)
  rw [List.flatMap_cons, hjoins]
  rfl

theorem chain?_items : Repair.chain? z.items = some z.chain := by
  have hhead (links : List (Option Text × SpelledGroup)) :
      (links.flatMap fun l => .edge arrow l.1 :: l.2.items).head? ≠ some Item.join := by
    cases links <;> simp
  have hlinks (links : List (Option Text × SpelledGroup)) :
      Repair.chainLinks? (links.flatMap fun l => .edge arrow l.1 :: l.2.items)
        = some (links.map fun l => ((arrow, l.1), l.2.group)) := by
    induction links with
    | nil => rw [List.flatMap_nil, Repair.chainLinks?, List.map_nil]
    | cons l links ih =>
        rw [List.flatMap_cons, List.cons_append, Repair.chainLinks?,
          SpelledGroup.group?_items l.2 (hhead links)]
        dsimp only
        rw [ih]
        rfl
  rw [Repair.chain?, items, SpelledGroup.group?_items z.first (hhead z.links)]
  dsimp only
  rw [hlinks]
  rfl

/-- Whether two nodes on the line are joined. -/
def hasJoin : Bool := !z.first.others.isEmpty || z.links.any fun l => !l.2.others.isEmpty

theorem contains_join_items : z.items.contains .join = z.hasJoin := by
  have hgroup (g : SpelledGroup) : g.items.contains .join = !g.others.isEmpty := by
    obtain ⟨first, others⟩ := g
    cases others <;> simp [SpelledGroup.items]
  have hlinks (links : List (Option Text × SpelledGroup)) :
      (links.flatMap fun l => .edge arrow l.1 :: l.2.items).contains Item.join
        = links.any fun l => !l.2.others.isEmpty := by
    induction links with
    | nil => rfl
    | cons l links ih =>
        rw [List.flatMap_cons, List.contains_append, ih, List.contains_cons, hgroup]
        rfl
  rw [items, List.contains_append, hgroup, hlinks]
  rfl

/-! ## What the line stands for -/

/-- An edge from each source to each target, and so on from the targets. -/
def pairStatements (sources : List Node) : List (Option Text × SpelledGroup) → List Statement
  | [] => []
  | (label, targets) :: links =>
    (sources.flatMap fun s => targets.nodes.map fun t => ⟨s, [⟨label, t⟩]⟩)
      ++ pairStatements targets.nodes links

/-- The nodes alone, one statement for each pair of neighbours, or the line itself where no two
nodes are joined. -/
def statements : List Statement :=
  if z.links = [] then z.first.nodes.map fun n => ⟨n, []⟩
  else if z.hasJoin = true then pairStatements z.first.nodes z.links
  else [⟨z.first.first, z.links.map fun l => ⟨l.1, l.2.first⟩⟩]

/-- The product of neighbouring groups, arrow by arrow. -/
def productEdges (sources : List Node) : List (Option Text × SpelledGroup) → List Edge
  | [] => []
  | (label, targets) :: links =>
    (sources.flatMap fun s => targets.nodes.map fun t => ⟨s.id, t.id, label⟩)
      ++ productEdges targets.nodes links

def edges : List Edge := productEdges z.first.nodes z.links

theorem pairLines_eq (sources : SpelledGroup) (links : List (Option Text × SpelledGroup)) :
    Repair.pairLines sources.group (links.map fun l => ((arrow, l.1), l.2.group))
      = (pairStatements sources.nodes links).map Statement.render := by
  induction links generalizing sources with
  | nil => rfl
  | cons l links ih =>
      have hedge (s t : Node) : Repair.edgeLine (arrow, l.1) s t
          = (⟨s, [⟨l.1, t⟩]⟩ : Statement).render := by
        simp [Repair.edgeLine, Statement.render, Link.render]
      rw [List.map_cons, Repair.pairLines, ih, pairStatements, List.map_append, List.map_flatMap]
      refine congrArg (· ++ _) (List.flatMap_congr fun s _ => ?_)
      rw [List.map_map]
      exact List.map_congr_left fun t _ => hedge s t

/-- Each node of two groups that are not empty is at an end of a pair. -/
theorem mem_nodes_pairs {n : Node} {sources targets : List Node} (hs : sources ≠ [])
    (ht : targets ≠ []) (label : Option Text) :
    n ∈ (sources.flatMap fun s => targets.map fun t =>
        (⟨s, [⟨label, t⟩]⟩ : Statement)).flatMap Statement.nodes ↔
      n ∈ sources ∨ n ∈ targets := by
  obtain ⟨s₀, hs₀⟩ := List.exists_mem_of_ne_nil _ hs
  obtain ⟨t₀, ht₀⟩ := List.exists_mem_of_ne_nil _ ht
  simp only [List.mem_flatMap, List.mem_map, Statement.nodes]
  constructor
  · rintro ⟨_, ⟨s, hs, t, ht, rfl⟩, hn⟩
    simp only [List.map_cons, List.map_nil, List.mem_cons, List.not_mem_nil, or_false] at hn
    rcases hn with rfl | rfl
    · exact .inl hs
    · exact .inr ht
  · rintro (hn | hn)
    · exact ⟨_, ⟨n, hn, t₀, ht₀, rfl⟩, by simp⟩
    · exact ⟨_, ⟨s₀, hs₀, n, hn, rfl⟩, by simp⟩

/-- The statements of pairs mention the nodes of the groups. -/
theorem mem_nodes_pairStatements {n : Node} {sources : List Node} (hs : sources ≠ [])
    {links : List (Option Text × SpelledGroup)} (hlinks : links ≠ []) :
    n ∈ (pairStatements sources links).flatMap Statement.nodes ↔
      n ∈ sources ∨ n ∈ links.flatMap fun l => l.2.nodes := by
  induction links generalizing sources with
  | nil => exact absurd rfl hlinks
  | cons l links ih =>
      have htargets : l.2.nodes ≠ [] := List.cons_ne_nil _ _
      rw [pairStatements, List.flatMap_append, List.mem_append, mem_nodes_pairs hs htargets]
      by_cases hrest : links = []
      · simp [hrest, pairStatements]
      · rw [ih htargets hrest, List.flatMap_cons, List.mem_append]
        tauto

theorem edges_pairStatements (sources : List Node) (links : List (Option Text × SpelledGroup)) :
    (pairStatements sources links).flatMap Statement.edges = productEdges sources links := by
  induction links generalizing sources with
  | nil => rfl
  | cons l links ih =>
      rw [pairStatements, productEdges, List.flatMap_append, ih, List.flatMap_assoc]
      refine congrArg (· ++ _) (List.flatMap_congr fun s _ => ?_)
      rw [List.flatMap_map, List.map_eq_flatMap]
      rfl

/-- Without joins each group is one node. -/
theorem others_eq_nil (h : z.hasJoin = false) :
    z.first.others = [] ∧ ∀ l ∈ z.links, l.2.others = [] := by
  simpa [hasJoin] using h

theorem edges_single {g : SpelledGroup} (hg : g.others = [])
    {links : List (Option Text × SpelledGroup)} (hlinks : ∀ l ∈ links, l.2.others = []) :
    Link.edges g.first.id (links.map fun l => ⟨l.1, l.2.first⟩) = productEdges g.nodes links := by
  have hnodes {g : SpelledGroup} (hg : g.others = []) : g.nodes = [g.first] := by
    rw [SpelledGroup.nodes, hg]
    rfl
  induction links generalizing g with
  | nil => rfl
  | cons l links ih =>
      have htarget := hlinks l (by simp)
      have hrest := ih htarget fun k hk => hlinks k (by simp [hk])
      rw [List.map_cons, Link.edges, hrest, productEdges, hnodes hg, hnodes htarget]
      rfl

/-- The line without joins is the line of one statement. -/
theorem strand_eq (h : z.hasJoin = false) : z.strand
    = (⟨z.first.first, z.links.map fun l => ⟨l.1, l.2.first⟩⟩ : Statement).strand := by
  obtain ⟨hfirst, hlinks⟩ := z.others_eq_nil h
  rw [strand, Statement.strand, SpelledGroup.joins, hfirst, List.map_map, List.map_nil,
    List.nil_append]
  refine congrArg (Strand.mk _) ?_
  rw [List.map_eq_flatMap]
  refine List.flatMap_congr fun l hl => ?_
  rw [SpelledGroup.joins, hlinks l hl]
  rfl

/-- The statements have the edges of the product. -/
theorem edges_statements : z.statements.flatMap Statement.edges = z.edges := by
  rw [statements]
  split_ifs with hlinks hjoin
  · rw [edges, hlinks, productEdges, List.flatMap_map]
    exact List.flatMap_eq_nil_iff.2 fun n _ => rfl
  · exact edges_pairStatements _ _
  · obtain ⟨hfirst, hsingle⟩ := z.others_eq_nil (by simpa using hjoin)
    rw [List.flatMap_singleton]
    exact edges_single hfirst hsingle

/-- The statements mention the nodes on the line. -/
theorem mem_nodes_statements {n : Node} :
    n ∈ z.statements.flatMap Statement.nodes ↔ n ∈ z.nodes := by
  rw [statements]
  split_ifs with hlinks hjoin
  · simp [nodes, hlinks, Statement.nodes]
  · exact (mem_nodes_pairStatements (List.cons_ne_nil _ _) hlinks).trans List.mem_append.symm
  · obtain ⟨hfirst, hsingle⟩ := z.others_eq_nil (by simpa using hjoin)
    have hnodes : z.links.flatMap (fun l => l.2.nodes) = z.links.map fun l => l.2.first := by
      rw [List.map_eq_flatMap]
      refine List.flatMap_congr fun l hl => ?_
      rw [SpelledGroup.nodes, hsingle l hl]
      rfl
    rw [List.flatMap_singleton, Statement.nodes, List.map_map, nodes, hnodes, SpelledGroup.nodes,
      hfirst]
    rfl

theorem isClean_pairStatements {sources : List Node} (hs : ∀ n ∈ sources, n.IsClean)
    {links : List (Option Text × SpelledGroup)}
    (hlinks : ∀ l ∈ links, (∀ k ∈ l.1, Label.IsClean k) ∧ l.2.IsClean) :
    ∀ s ∈ pairStatements sources links, s.IsClean := by
  induction links generalizing sources with
  | nil => simp [pairStatements]
  | cons l links ih =>
      obtain ⟨hlabel, htargets⟩ := hlinks l (by simp)
      intro s hmem
      rcases List.mem_append.1 hmem with hmem | hmem
      · obtain ⟨n, hn, hmem⟩ := List.mem_flatMap.1 hmem
        obtain ⟨t, ht, rfl⟩ := List.mem_map.1 hmem
        refine ⟨hs n hn, fun k hk => ?_⟩
        rw [List.mem_singleton.1 hk]
        exact ⟨hlabel, htargets.1 t ht⟩
      · exact ih htargets.1 (fun k hk => hlinks k (by simp [hk])) s hmem

section

variable {z} (hz : z.IsClean)

include hz

theorem IsClean.isClean_statements : ∀ s ∈ z.statements, s.IsClean := by
  rw [statements]
  split_ifs with hlinks hjoin
  · rw [List.forall_mem_map]
    exact fun n hn => ⟨hz.1.1 n hn, by simp⟩
  · exact isClean_pairStatements hz.1.1 hz.2
  · intro s hs
    rw [List.mem_singleton.1 hs]
    refine ⟨hz.1.1 _ z.first.first_mem_nodes, fun l hl => ?_⟩
    obtain ⟨k, hk, rfl⟩ := List.mem_map.1 hl
    exact ⟨(hz.2 k hk).1, (hz.2 k hk).2.1 _ k.2.first_mem_nodes⟩

/-- Behind the rules that work line by line the groups are read as they were written. -/
theorem IsClean.ofLine_tidied : Item.ofLine z.strand.tidied.text = z.items := by
  have hwell : z.strand.tidied.IsWell := hz.isWell.map (fun g => g.isWell_padded)
    fun n hn => hn.isClean_rename.isNamed
  have hitem (g : Gap) : g.padded.item = g.item := by
    cases g <;> rfl
  rw [Strand.ofLine_text hwell, ← items_strand, Strand.tidied, hz.rename_strand, Strand.map,
    List.flatMap_map]
  simp only [hitem, id]

/-- A line without joins comes out as the canonical line of its statement. -/
theorem IsClean.text_tidied (h : z.hasJoin = false) : z.strand.tidied.text
    = (⟨z.first.first, z.links.map fun l => ⟨l.1, l.2.first⟩⟩ : Statement).render := by
  rw [Strand.tidied, hz.rename_strand, z.strand_eq h, ← Statement.text_strand]
  refine congrArg Strand.text ?_
  simp [Strand.map, Statement.strand, Gap.padded]

/-- The lines that the line stands for. -/
theorem IsClean.expandJoins_tidied :
    Repair.expandJoins z.strand.tidied.text = z.statements.map Statement.render := by
  have hlone : z.first.nodes.map Node.render
      = (z.first.nodes.map fun n => (⟨n, []⟩ : Statement)).map Statement.render := by
    rw [List.map_map]
    exact List.map_congr_left fun n _ => by simp [Statement.render]
  unfold Repair.expandJoins
  rw [hz.ofLine_tidied]
  dsimp only
  rw [z.chain?_items]
  dsimp only
  rw [z.contains_join_items, statements]
  by_cases hjoin : z.hasJoin = true
  · rw [if_pos hjoin, if_pos hjoin]
    by_cases hlinks : z.links = []
    · rw [if_pos hlinks, ← hlone, Chain.lines, chain, hlinks]
      rfl
    · rw [if_neg hlinks, ← pairLines_eq, Chain.lines, chain]
      split
      · rename_i hnil
        exact absurd (List.map_eq_nil_iff.1 hnil) hlinks
      · rfl
  · have hsingle : z.hasJoin = false := by simpa using hjoin
    rw [if_neg hjoin, if_neg hjoin, hz.text_tidied hsingle]
    by_cases hlinks : z.links = []
    · obtain ⟨hfirst, -⟩ := z.others_eq_nil hsingle
      rw [if_pos hlinks, hlinks, SpelledGroup.nodes, hfirst]
      rfl
    · rw [if_neg hlinks]
      rfl

/-- The statements are settled already where no identifier has two shapes. -/
theorem IsClean.isClean_chart (d : Direction) (hshapes : z.IsConsistent) :
    (⟨d, z.statements⟩ : Chart).IsClean := by
  refine ⟨hz.isClean_statements, fun m hm n hn => ?_⟩
  exact hshapes m (z.mem_nodes_statements.1 hm) n (z.mem_nodes_statements.1 hn)

theorem IsClean.repair_line (d : Direction) (hshapes : z.IsConsistent)
    (hm : z.strand.isMistakable = false) :
    repair (Chart.rootLine d ++ '\n' :: z.text) = Chart.render ⟨d, z.statements⟩ := by
  have hdocument : Chart.rootLine d ++ '\n' :: z.text = Strand.document d [z.strand] := rfl
  have hplain : ∀ p ∈ [z.strand], p.IsPlain := by
    intro p hp
    rw [List.mem_singleton.1 hp]
    exact ⟨hz.isWell, hm⟩
  have hrenamed : ∀ p ∈ [z.strand],
      (p.map id (Node.rename Ident.sanitize)).isMistakable = false := by
    intro p hp
    rw [List.mem_singleton.1 hp, hz.rename_strand, Strand.map_id]
    exact hm
  have hstatements : (z.statements.map Statement.render).filter Repair.isStatement
      = z.statements.map Statement.render := by
    rw [List.filter_eq_self, List.forall_mem_map]
    exact fun s hs => Statement.isStatement_render (hz.isClean_statements s hs)
  have hsettled := Chart.settleAll_statements (hz.isClean_chart d hshapes).2
  rw [hdocument, Strand.repair_document hplain hrenamed, List.flatMap_singleton,
    hz.expandJoins_tidied, hstatements, Layout.settleLines_render hz.isClean_statements, hsettled]
  rfl

end

variable {z} in
/-- A line of groups stands for its nodes or for an edge from each node of a group to each node of
the next one, with the label between the two, and that is what the check finds. -/
theorem exists_check_repair_groups (d : Direction) (hz : z.IsClean) (hshapes : z.IsConsistent)
    (hm : z.strand.isMistakable = false) :
    repair (Chart.rootLine d ++ '\n' :: z.text) = Chart.render ⟨d, z.statements⟩ ∧
      ∃ summary, check (repair (Chart.rootLine d ++ '\n' :: z.text)) = .ok summary ∧
        summary.direction = d ∧ summary.edges = z.edges ∧
          ∀ id, id ∈ summary.nodes.map Prod.fst ↔ ∃ n ∈ z.nodes, id = n.id := by
  have hrepair := hz.repair_line d hshapes hm
  obtain ⟨summary, hcheck, hfound⟩ := Chart.exists_isFound (hz.isClean_chart d hshapes)
  refine ⟨hrepair, summary, by rw [hrepair, hcheck], hfound.direction, ?_, fun id => ?_⟩
  · rw [hfound.edges]
    exact z.edges_statements
  · rw [hfound.ids, Node.ids, List.mem_map]
    refine exists_congr fun n => and_congr z.mem_nodes_statements eq_comm

/-- Labels and shapes may stand in any group, and a node may stand in two of them. -/
theorem exists_check_repair_groups_mixed :
    let z : SpelledChain :=
      ⟨⟨.bare "A".toList, [(([], []), .shaped ⟨"B1".toList, .decision, "a & b ?".toList⟩)]⟩,
        [(some "x --> y".toList, ⟨.bare "flowchart".toList,
            [(([' '], ['\t', ' ']), .bare "style".toList), (([], [' ']), .bare "A".toList)]⟩),
          (none, ⟨.shaped ⟨"B1".toList, .decision, "again".toList⟩, []⟩)]⟩
    z.IsClean ∧ z.IsConsistent ∧ z.strand.isMistakable = false ∧
      z.text = ("A&B1\x7ba & b ?\x7d -->|x --> y| flowchart &\t style& A".toList ++
        " --> B1\x7bagain\x7d".toList) ∧ z.edges.length = 9 ∧
      repair (Chart.rootLine .leftRight ++ '\n' :: z.text)
          = Chart.render ⟨.leftRight, z.statements⟩ ∧
        ∃ summary, check (repair (Chart.rootLine .leftRight ++ '\n' :: z.text)) = .ok summary ∧
          summary.direction = .leftRight ∧ summary.edges = z.edges ∧
            ∀ id, id ∈ summary.nodes.map Prod.fst ↔ ∃ n ∈ z.nodes, id = n.id := by
  intro z
  have hz : z.IsClean := by decide +kernel
  have hshapes : z.IsConsistent := by decide +kernel
  have hm : z.strand.isMistakable = false := by decide +kernel
  have htext : z.text = ("A&B1\x7ba & b ?\x7d -->|x --> y| flowchart &\t style& A".toList ++
      " --> B1\x7bagain\x7d".toList) ∧ z.edges.length = 9 := by
    decide +kernel
  exact ⟨hz, hshapes, hm, htext.1, htext.2,
    exists_check_repair_groups .leftRight hz hshapes hm⟩

end SpelledChain

end Flowchart
