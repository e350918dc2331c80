import Flowchart.Proofs.Acceptance
import Flowchart.Proofs.Contents
import Mathlib.Data.List.Sort

/-!
# Charts that pass the check

Repair takes the marks out of the labels of a chart that passes the check, and makes labels and
shapes canonical. No node and no edge is lost or put elsewhere, unless a line begins with a bare
identifier for which it is taken for a directive or a root declaration.
-/

namespace Flowchart

/-! ## Strict lines without marks -/

def Node.unmarked : Node → Node
  | .bare id => .bare id
  | .shaped n => .shaped { n with label := n.label.unmarked }

theorem Node.id_unmarked (n : Node) : n.unmarked.id = n.id := by
  cases n <;> rfl

def StrictLink.unmarked (l : StrictLink) : StrictLink :=
  ⟨l.before, l.label.map Text.unmarked, l.after, l.target.unmarked⟩

def StrictLine.unmarked (p : StrictLine) : StrictLine :=
  ⟨p.first.unmarked, p.links.map StrictLink.unmarked⟩

theorem Text.isUnquoted_id {id : Text} (h : Ident.isValid id = true) : IsUnquoted id :=
  all_id (fun _ => isQuotationMark_of_isWritten) h

theorem Shape.unmarked_wrap (s : Shape) (l : Text) : (s.wrap l).unmarked = s.wrap l.unmarked := by
  have hopening : s.opening.unmarked = s.opening := by cases s <;> rfl
  have hclosing : s.closing.unmarked = s.closing := by cases s <;> rfl
  rw [wrap, wrap, Text.unmarked_append, Text.unmarked_append, hopening, hclosing]

theorem Node.unmarked_render {n : Node} (h : n.IsStrict) :
    n.render.unmarked = n.unmarked.render := by
  have hid := Text.unmarked_eq_self (Text.isUnquoted_id h.id)
  cases n with
  | bare id => exact hid
  | shaped n =>
      show (n.id ++ n.shape.wrap n.label).unmarked = _
      rw [Text.unmarked_append, Shape.unmarked_wrap]
      exact congrArg (· ++ _) hid

theorem unmarked_renderEdge (label : Option Text) :
    (renderEdge arrow label).unmarked = renderEdge arrow (label.map Text.unmarked) := by
  cases label with
  | none => rfl
  | some l =>
      have hpipe (t : Text) : Text.unmarked ('|' :: t) = '|' :: t.unmarked := rfl
      show (arrow ++ '|' :: l ++ ['|']).unmarked = arrow ++ '|' :: l.unmarked ++ ['|']
      rw [Text.unmarked_append, Text.unmarked_append, hpipe]
      rfl

theorem StrictLink.unmarked_text {l : StrictLink} (h : l.IsWell) :
    l.text.unmarked = l.unmarked.text := by
  rw [text, Text.unmarked_append, Text.unmarked_append, Text.unmarked_append,
    Text.unmarked_eq_self (Text.isUnquoted_of_isBlanks h.before),
    Text.unmarked_eq_self (Text.isUnquoted_of_isBlanks h.after), unmarked_renderEdge,
    Node.unmarked_render h.target]
  rfl

namespace StrictLine

variable {p : StrictLine} (hp : p.IsWell)

include hp

/-- The marks of a line stand in its labels. -/
theorem unmarked_text : p.text.unmarked = p.unmarked.text := by
  have hlinks : Text.unmarked (p.links.flatMap StrictLink.text)
      = (p.links.map StrictLink.unmarked).flatMap StrictLink.text := by
    rw [Text.unmarked, List.filter_flatMap, List.flatMap_map]
    exact List.flatMap_congr fun l hl => StrictLink.unmarked_text (hp.links l hl)
  rw [text, Text.unmarked_append, Node.unmarked_render hp.first, hlinks]
  rfl

omit hp in
theorem isWell_ofNode_unmarked {n : Node} (h : n.IsStrict) :
    (NodeText.ofNode n.unmarked).IsWell := by
  refine NodeText.isWell_ofNode (n.id_unmarked ▸ h.id) fun m hm c hc => ?_
  cases n with
  | bare id => cases hm
  | shaped n =>
      cases hm
      exact h.2.2.2.1 c (Text.unmarked_subset _ hc)

theorem isWell_layout_unmarked : p.unmarked.layout.IsWell := by
  refine ⟨.nil, isWell_ofNode_unmarked hp.first, fun l hl => ?_, .nil⟩
  obtain ⟨m, hm, rfl⟩ := List.mem_map.1 hl
  obtain ⟨k, hk, rfl⟩ := List.mem_map.1 hm
  have hk := hp.links k hk
  refine ⟨EdgeText.isWell_ofLabel hk.before (fun t ht => ?_) hk.after,
    isWell_ofNode_unmarked hk.target⟩
  obtain ⟨t, hlabel, rfl⟩ := Option.map_eq_some_iff.1 ht
  exact fun h => (hk.label t hlabel).2.pipe (Text.unmarked_subset t h)

theorem isReady_layout_unmarked (hline : '\n' ∉ p.text) : p.unmarked.layout.IsReady := by
  have htext : p.unmarked.layout.text = p.text.unmarked := by
    rw [Layout.text_eq_core, core_layout, unmarked_text hp]
    exact List.append_nil _
  refine ⟨isWell_layout_unmarked hp, ?_, ?_, nofun⟩
  · rw [htext]
    exact fun h => hline (Text.unmarked_subset _ h)
  · rw [htext]
    exact Text.isUnquoted_unmarked _

end StrictLine

/-! ## Identifiers and ends -/

def Edge.ends (e : Edge) : Text × Text := (e.source, e.target)

/-- Each text with the next one. -/
def consecutive (ids : List Text) : List (Text × Text) := ids.zip ids.tail

/-- The identifiers of nodes. -/
def Node.ids (ns : List Node) : List Text := ns.map Node.id

namespace Layout

theorem ends_linkEdges (source : Text) (links : List (EdgeText × NodeText)) :
    (linkEdges source links).map Edge.ends = consecutive (source :: links.map fun l => l.2.id) := by
  induction links generalizing source with
  | nil => rfl
  | cons l links ih =>
      rw [linkEdges, List.map_cons, ih]
      rfl

theorem ids_nodes (p : Layout) :
    Node.ids p.nodes = p.first.id :: p.links.map fun l => l.2.id := by
  rw [nodes, Node.ids, List.map_cons, NodeText.id_node, List.map_map]
  exact congrArg _ (List.map_congr_left fun l _ => NodeText.id_node l.2)

/-- Edges go from node to node. -/
theorem ends_edges (p : Layout) : p.edges.map Edge.ends = consecutive (Node.ids p.nodes) := by
  rw [edges, ends_linkEdges, ids_nodes]

theorem id_mapNode_relabel (n : Node) : (mapNode Repair.relabel n).id = n.id := by
  cases n <;> rfl

theorem id_finalNode (n : NodeText) : (finalNode n).id = n.id := by
  rw [finalNode, id_mapNode_relabel, NodeText.id_node, NodeText.id_ofNode, NodeText.id_node]

theorem ids_statement (p : Layout) : Node.ids p.statement.nodes = Node.ids p.nodes := by
  rw [ids_nodes, Statement.nodes, statement, Node.ids, List.map_cons, id_finalNode, List.map_map,
    List.map_map]
  exact congrArg _ (List.map_congr_left fun l _ => id_finalNode l.2)

end Layout

theorem StrictLine.ids_layout_unmarked (p : StrictLine) :
    Node.ids p.unmarked.layout.nodes = Node.ids p.nodes := by
  rw [Layout.ids_nodes, nodes, Node.ids, List.map_cons, layout, NodeText.id_ofNode, List.map_map,
    unmarked, Node.id_unmarked, List.map_map, List.map_map]
  refine congrArg _ (List.map_congr_left fun l _ => ?_)
  exact (NodeText.id_ofNode _).trans l.target.id_unmarked

/-- Edges go from node to node. -/
theorem StrictLine.ends_edges (p : StrictLine) :
    p.edges.map Edge.ends = consecutive (Node.ids p.nodes) := by
  have hids : Node.ids p.layout.nodes = Node.ids p.nodes := by
    rw [Layout.ids_nodes, nodes, Node.ids, List.map_cons, layout, NodeText.id_ofNode, List.map_map,
      List.map_map]
    exact congrArg _ (List.map_congr_left fun l _ => NodeText.id_ofNode _)
  rw [← edges_layout, Layout.ends_edges, hids]

namespace Repair

theorem id_settle (known : Shapes) (n : Node) : (n.settle known).1.id = n.id := by
  cases n with
  | bare id => rfl
  | shaped n =>
      cases h : known.lookup n.id with
      | none => simp [Node.settle, h]
      | some a =>
          by_cases ha : a = n.shape
          · simp [Node.settle, h, ha]
          · simp [Node.settle, h, ha, Node.id]

theorem ids_settleLinks (known : Shapes) (links : List Link) :
    Node.ids ((Link.settleAll known links).1.map Link.target)
      = Node.ids (links.map Link.target) := by
  induction links generalizing known with
  | nil => rfl
  | cons l links ih =>
      have hrest := ih (l.target.settle known).2
      rw [Node.ids] at hrest ⊢
      rw [Link.settleAll, List.map_cons, List.map_cons, hrest, id_settle]
      rfl

theorem ids_settle (known : Shapes) (s : Statement) :
    Node.ids (s.settle known).1.nodes = Node.ids s.nodes := by
  have hlinks := ids_settleLinks (s.first.settle known).2 s.links
  rw [Node.ids] at hlinks ⊢
  rw [Statement.nodes, Statement.settle, List.map_cons, id_settle, hlinks]
  rfl

theorem ids_settleAll (known : Shapes) (ss : List Statement) :
    (Statement.settleAll known ss).map (fun s => Node.ids s.nodes)
      = ss.map fun s => Node.ids s.nodes := by
  induction ss generalizing known with
  | nil => rfl
  | cons s ss ih => rw [Statement.settleAll, List.map_cons, List.map_cons, ids_settle, ih]

end Repair

/-! ## Lines that begin with a bare identifier -/

/-- Whether a line begins with a bare identifier that is a directive keyword, or is nothing but a
root keyword. -/
def Line.isMistakable (line : Text) : Bool :=
  let id := line.takeWhile Char.isAlphanum
  let rest := line.dropWhile Char.isAlphanum
  !rest.head?.any isOpener &&
    (directiveKeywords.contains id || rest.isEmpty && isRootKeyword id)

theorem Line.isMistakable_append {id rest : Text} (hid : ∀ c ∈ id, c.isAlphanum = true)
    (hrest : ∀ c ∈ rest.head?, c.isAlphanum = false) :
    isMistakable (id ++ rest) = (!rest.head?.any isOpener &&
      (directiveKeywords.contains id || rest.isEmpty && isRootKeyword id)) := by
  rw [isMistakable, Segment.takeWhile_append_of_stop hid hrest, List.dropWhile_append_of_pos hid,
    Text.dropWhile_eq_self_of_head hrest]

namespace StrictLine

variable {p : StrictLine} (hp : p.IsWell)

/-- No identifier and no shape goes on where links begin. -/
theorem head?_links (hlinks : ∀ l ∈ p.links, l.IsWell) :
    ∀ c ∈ (p.links.flatMap StrictLink.text).head?,
      c.isAlphanum = false ∧ isOpener c = false := by
  intro c hc
  cases h : p.links with
  | nil =>
      rw [h] at hc
      cases hc
  | cons l links =>
      have hl := hlinks l (h ▸ List.mem_cons_self)
      rw [h, List.flatMap_cons, StrictLink.text] at hc
      cases hb : l.before with
      | nil =>
          have hdash : c = '-' := by
            rw [hb] at hc
            cases hlabel : l.label <;> simpa [hlabel, renderEdge, arrow] using hc.symm
          rw [hdash]
          decide
      | cons d b =>
          rw [hb] at hc
          cases hc
          have hblank := hl.before c (hb ▸ List.mem_cons_self)
          exact ⟨Layout.isAlphanum_eq_false_of_isBlank hblank,
            Segment.isOpener_eq_false_of_isBlank hblank⟩

theorem links_text_eq_nil_iff : p.links.flatMap StrictLink.text = [] ↔ p.links = [] := by
  cases p.links with
  | nil => simp
  | cons l links =>
      have : l.text ≠ [] := by
        cases hlabel : l.label <;> simp [StrictLink.text, hlabel, renderEdge, arrow]
      simp [this]

include hp

/-- A strict line looks like something else exactly when its statement does. -/
theorem isMistakable_text :
    Line.isMistakable p.text = p.unmarked.layout.statement.isMistakable := by
  have hword : ∀ c ∈ p.first.id, c.isAlphanum = true := (Ident.isValid_iff.1 hp.first.id).2.1
  cases hfirst : p.first with
  | bare id =>
      rw [hfirst, Node.id] at hword
      have hhead := head?_links hp.links
      have htext : p.text = id ++ p.links.flatMap StrictLink.text := by
        rw [text, hfirst]
        rfl
      have hstatement : p.unmarked.layout.statement.isMistakable =
          (Line.directiveKeywords.contains id || p.links.isEmpty && Line.isRootKeyword id) := by
        rw [unmarked, hfirst]
        cases p.links <;> rfl
      have hopener : (p.links.flatMap StrictLink.text).head?.any isOpener = false := by
        cases h : (p.links.flatMap StrictLink.text).head? with
        | none => rfl
        | some c => exact (hhead c h).2
      have hempty : (p.links.flatMap StrictLink.text).isEmpty = p.links.isEmpty := by
        rw [Bool.eq_iff_iff, List.isEmpty_iff, List.isEmpty_iff, links_text_eq_nil_iff]
      rw [htext, Line.isMistakable_append hword fun c hc => (hhead c hc).1, hopener, hempty,
        hstatement]
      rfl
  | shaped n =>
      rw [hfirst, Node.id] at hword
      have htext : p.text = n.id ++ (n.shape.wrap n.label ++ p.links.flatMap StrictLink.text) := by
        rw [text, hfirst, ← List.append_assoc]
        rfl
      have hwrap : ∃ c s, n.shape.wrap n.label = c :: s ∧ isOpener c = true := by
        rw [Shape.wrap_eq]
        exact ⟨_, _, rfl, n.shape.isOpener_opener⟩
      obtain ⟨c, s, hcons, hopener⟩ := hwrap
      have hstatement : p.unmarked.layout.statement.isMistakable = false := by
        rw [unmarked, hfirst]
        rfl
      rw [htext, hcons, List.cons_append, hstatement, Line.isMistakable_append hword]
      · simp [hopener]
      · intro d hd
        cases hd
        exact (Layout.head_opener hopener).1

end StrictLine

/-! ## Summaries -/

theorem Check.isSome_known_iff {id : Text} {ns : List Node} :
    (known id ns).isSome = true ↔ id ∈ Node.ids ns := by
  induction ns using List.reverseRecOn with
  | nil => simp [known, Node.mentions, Node.ids]
  | append_singleton ns n ih =>
      have hids : id ∈ Node.ids (ns ++ [n]) ↔ id ∈ Node.ids ns ∨ id = n.id := by
        simp [Node.ids, eq_comm]
      rw [hids, ← ih]
      cases n with
      | bare other =>
          rw [known_append_bare]
          by_cases h : id = other
          · subst h
            cases known id ns <;> simp [Node.id]
          · simp [h, Node.id]
      | shaped k =>
          rw [known_append_shaped]
          by_cases h : id = k.id
          · simp [h, Node.id]
          · simp [h, Node.id]

theorem NodeTable.mem_keys_iff {id : Text} {table : NodeTable} :
    id ∈ table.map Prod.fst ↔ (table.lookup id).isSome = true := by
  rw [Option.isSome_iff_ne_none, ne_eq, List.lookup_eq_none_iff]
  constructor
  · rintro hmem hnone
    obtain ⟨entry, hentry, rfl⟩ := List.mem_map.1 hmem
    simpa using hnone entry hentry
  · intro h
    by_contra hmem
    refine h fun entry hentry => bne_iff_ne.2 ?_
    rintro rfl
    exact hmem (List.mem_map_of_mem hentry)

/-! ## Repair of a strict chart -/

theorem Label.IsStrict.all {q : Char → Prop} {l : Text} (h : Label.IsStrict l)
    (hq : ∀ c, Label.isIllegal c = false → q c) : Text.All q l :=
  fun c hc => hq c (h.2 c hc)

section

variable {q : Char → Prop} (hwritten : ∀ c, isWritten c = true → q c)
  (hblank : ∀ c, Text.isBlank c = true → q c) (hlegal : ∀ c, Label.isIllegal c = false → q c)

include hwritten hlegal

theorem Node.IsStrict.all_render {n : Node} (h : n.IsStrict) : Text.All q n.render := by
  cases n with
  | bare id => exact all_id hwritten h
  | shaped n =>
      exact all_render_node hwritten (all_id hwritten h.1) fun c hc => hlegal c (h.2.2.2.1 c hc)

include hblank

theorem StrictLine.IsWell.all_text {p : StrictLine} (hp : p.IsWell) : Text.All q p.text := by
  refine (hp.first.all_render hwritten hlegal).append fun c hc => ?_
  obtain ⟨l, hl, hc⟩ := List.mem_flatMap.1 hc
  have hl := hp.links l hl
  have hedge := all_renderEdge hwritten (.written hwritten (by decide : arrow.all isWritten = true))
    fun k hk => (hl.label k hk).all hlegal
  have hblanks {b : Text} (hb : Text.IsBlanks b) : Text.All q b := fun c hc => hblank c (hb c hc)
  exact (hblanks hl.before).append (hedge.append ((hblanks hl.after).append
    (hl.target.all_render hwritten hlegal))) c hc

end

namespace StrictChart

theorem isAlphanum_of_mem_code {d : Direction} {c : Char} (h : c ∈ d.code) :
    c.isAlphanum = true := by
  cases d <;> exact List.all_eq_true.1 (by decide) c h

variable {c : StrictChart} {s : Text} (h : c.Spells s)

include h

theorem isTrimmed_header : Text.IsTrimmed c.header ∧ c.header ≠ [] :=
  Text.isTrimmed_of_mem_contents (h.contents ▸ List.mem_cons_self)

theorem all_header {q : Char → Prop} (hwritten : ∀ c, isWritten c = true → q c)
    (hblank : ∀ c, Text.isBlank c = true → q c) : Text.All q c.header := by
  have hkeyword : Text.All q Chart.rootKeyword := .written hwritten (by decide)
  have hcode : Text.All q c.direction.code :=
    fun d hd => hwritten d (by simp [isWritten, isAlphanum_of_mem_code hd])
  exact hkeyword.append (.append (fun d hd => hblank d (h.gap d hd)) hcode)

theorem rootDirection?_header : Line.rootDirection? c.header = some c.direction := by
  have hkeyword : Text.IsWord Chart.rootKeyword :=
    ⟨nofun, fun d hd => Ident.not_isBlank_of_isAlphanum (List.all_eq_true.1 (by decide) d hd)⟩
  have hcode : Text.IsWord c.direction.code :=
    ⟨by cases c.direction <;> nofun,
      fun d hd => Ident.not_isBlank_of_isAlphanum (isAlphanum_of_mem_code hd)⟩
  have htrimmed := (isTrimmed_header h).1
  have hlast : ∀ d ∈ c.header.getLast?, (d == ';') = false := by
    intro d hd
    rw [header, ← List.append_assoc, List.getLast?_append_of_ne_nil _ hcode.1] at hd
    have := isAlphanum_of_mem_code (List.mem_of_getLast? hd)
    exact beq_eq_false_iff_ne.2 fun he => absurd (he ▸ this) (by decide)
  have hwords : Text.words c.header = [Chart.rootKeyword, c.direction.code] :=
    (Text.words_eq_pair_iff htrimmed hkeyword hcode).2 ⟨c.gap, h.gap_ne_nil, h.gap, rfl⟩
  rw [Line.rootDirection?, Text.trim_eq_self htrimmed, Text.trimEndBy_eq_self hlast, hwords]
  cases c.direction <;> rfl

/-- The first two rules take the marks out of a strict chart, and nothing else. -/
theorem contents_stripQuotes : (Repair.stripQuotes (Repair.splitStatements s)).contents =
    c.header :: c.lines.map fun p => p.unmarked.layout.core := by
  have hheader : c.header.unmarked = c.header := by
    have hblank (d : Char) (hd : Text.isBlank d = true) : Label.isQuotationMark d = false :=
      Text.isUnquoted_of_isBlanks (b := [d]) (by simpa [Text.IsBlanks] using hd) d (by simp)
    exact Text.unmarked_eq_self (all_header h (fun _ => isQuotationMark_of_isWritten) hblank)
  have hline {p : StrictLine} (hp : p ∈ c.lines) :
      p.text.unmarked = p.unmarked.layout.core := by
    rw [StrictLine.core_layout, StrictLine.unmarked_text (h.lines p hp)]
  have hsemi : ∀ line ∈ s.contents, ';' ∉ line := by
    have hblank : ∀ d, Text.isBlank d = true → d ≠ ';' := by
      rintro d hd rfl
      exact absurd hd (by decide)
    have hwritten : ∀ d, isWritten d = true → d ≠ ';' := by
      rintro d hd rfl
      exact absurd hd (by decide)
    have hlegal : ∀ d, Label.isIllegal d = false → d ≠ ';' := by
      rintro d hd rfl
      exact absurd hd (by decide)
    rw [h.contents, List.forall_mem_cons, List.forall_mem_map]
    exact ⟨fun hm => all_header h hwritten hblank _ hm rfl,
      fun p hp hm => (h.lines p hp).all_text hwritten hblank hlegal _ hm rfl⟩
  rw [Repair.contents_stripQuotes hsemi (fun line hl hm => h.plain line hl _ hm (by decide)),
    h.contents, List.map_cons, List.map_map, hheader]
  · exact congrArg _ (List.map_congr_left fun p hp => hline hp)
  · rw [h.contents, List.forall_mem_cons, List.forall_mem_map, hheader]
    refine ⟨isTrimmed_header h, fun p hp => ?_⟩
    have hwell := StrictLine.isWell_layout_unmarked (h.lines p hp)
    rw [hline hp]
    exact ⟨Layout.isTrimmed_core hwell, Layout.core_ne_nil hwell⟩

theorem isReady_of_mem_lines {p : StrictLine} (hp : p ∈ c.lines) : p.unmarked.layout.IsReady :=
  StrictLine.isReady_layout_unmarked (h.lines p hp) (Text.newline_notMem_of_mem_contents
    (h.contents ▸ List.mem_cons_of_mem _ (List.mem_map_of_mem hp)))

/-- Repair makes a clean chart of a strict one, in which every line has its statement. -/
theorem repair_eq_render (hm : ∀ line ∈ s.contents.tail, Line.isMistakable line = false) :
    repair s = Chart.render ⟨c.direction, Statement.settleAll []
      (c.lines.map fun p => p.unmarked.layout.statement)⟩ := by
  have htrimmed := isTrimmed_header h
  have hline : Text.IsLine c.header := htrimmed.1.isLine htrimmed.2
    (Text.newline_notMem_of_mem_contents (h.contents ▸ List.mem_cons_self))
  have hready : ∀ p ∈ c.lines.map fun p => p.unmarked.layout, p.IsReady := by
    rw [List.forall_mem_map]
    exact fun p hp => isReady_of_mem_lines h hp
  have hkept : ∀ p ∈ c.lines.map fun p => p.unmarked.layout, p.statement.isMistakable = false := by
    rw [List.forall_mem_map]
    intro p hp
    rw [← StrictLine.isMistakable_text (h.lines p hp)]
    refine hm _ ?_
    rw [h.contents]
    exact List.mem_map_of_mem hp
  rw [repair_eq, Repair.shapeDocument_of_contents hline (rootDirection?_header h) hready,
    kept_of_not_isMistakable hkept, List.map_map]
  · rfl
  · rw [contents_stripQuotes h, Text.trim_eq_self htrimmed.1, List.map_map]
    rfl

end StrictChart

/-! ## The check of a repaired chart -/

theorem Node.ids_flatMap {α : Type} (xs : List α) (f : α → List Node) :
    Node.ids (xs.flatMap f) = (xs.map fun x => Node.ids (f x)).flatten := by
  rw [ids, List.map_flatMap, List.flatMap]
  rfl

namespace Check

/-- The identifiers of the nodes are listed, in their order. -/
theorem Records.keys {d : Direction} {summary : Summary} {ns : List Node} {es : List Edge}
    (h : Records ⟨d, [], []⟩ summary ns es) :
    summary.nodes.IsSorted ∧ ∀ id, id ∈ summary.nodes.map Prod.fst ↔ id ∈ Node.ids ns := by
  have hempty : Tells [] [] := fun _ => rfl
  obtain ⟨hsorted, htells⟩ := foldlM_declare List.Pairwise.nil hempty h.nodes
  refine ⟨hsorted, fun id => ?_⟩
  rw [NodeTable.mem_keys_iff, htells, List.nil_append, isSome_known_iff]

/-- What is recorded of the same identifiers is listed alike. -/
theorem Records.keys_eq {d d' : Direction} {summary summary' : Summary} {ns ns' : List Node}
    {es es' : List Edge} (h : Records ⟨d, [], []⟩ summary ns es)
    (h' : Records ⟨d', [], []⟩ summary' ns' es') (hids : Node.ids ns = Node.ids ns') :
    summary.nodes.map Prod.fst = summary'.nodes.map Prod.fst := by
  refine List.Pairwise.eq_of_mem_iff (r := (· < ·)) (List.pairwise_map.2 h.keys.1)
    (List.pairwise_map.2 h'.keys.1) fun id => ?_
  rw [h.keys.2, h'.keys.2, hids]

end Check

/-- The check of a clean chart records its nodes, and an edge from each node of a line to the next
one. -/
theorem Chart.exists_records_render {c : Chart} (hc : c.IsClean) :
    ∃ summary es, check c.render = .ok summary ∧
      Check.Records ⟨c.direction, [], []⟩ summary c.nodes es ∧
        es.map Edge.ends =
          (c.statements.map fun s => consecutive (Node.ids s.nodes)).flatten := by
  obtain ⟨summary, hsummary⟩ := exists_check_render hc
  refine ⟨summary, _, hsummary, (check_render_eq_ok_iff hc).1 hsummary, ?_⟩
  rw [List.flatMap_map, List.map_flatMap, List.flatMap]
  refine congrArg _ (List.map_congr_left fun s hs => ?_)
  rw [Layout.ends_edges, Layout.nodes_ofStatement (hc.1 s hs)]

/-- A chart that passes the check passes it after repair with the same direction, the same
identifiers and the same edges in the same order, if no line behind the header begins with a bare
identifier for which it is taken for something else. -/
theorem exists_check_repair {s : Text} {summary : Summary} (h : check s = .ok summary)
    (hm : ∀ line ∈ s.contents.tail, Line.isMistakable line = false) :
    ∃ summary', check (repair s) = .ok summary' ∧ summary'.direction = summary.direction ∧
      summary'.nodes.map Prod.fst = summary.nodes.map Prod.fst ∧
        summary'.edges.map Edge.ends = summary.edges.map Edge.ends := by
  obtain ⟨c, hc, hrecords⟩ := check_eq_ok_iff_records.1 h
  -- the statement of each line names the nodes of the line
  have hids : (Statement.settleAll [] (c.lines.map fun p => p.unmarked.layout.statement)).map
      (fun t => Node.ids t.nodes) = c.lines.map fun p => Node.ids p.nodes := by
    rw [Repair.ids_settleAll, List.map_map]
    refine List.map_congr_left fun p _ => ?_
    exact (Layout.ids_statement _).trans p.ids_layout_unmarked
  have hstatements : ∀ t ∈ c.lines.map fun p => p.unmarked.layout.statement, t.IsClean := by
    rw [List.forall_mem_map]
    exact fun p hp => Layout.isClean_statement (StrictChart.isReady_of_mem_lines hc hp)
  obtain ⟨summary', es, hcheck, hrecords', hends⟩ :=
    Chart.exists_records_render (Chart.isClean_settleAll c.direction hstatements)
  refine ⟨summary', ?_, ?_, hrecords'.keys_eq hrecords ?_, ?_⟩
  · rw [StrictChart.repair_eq_render hc hm, hcheck]
  · rw [hrecords'.direction, hrecords.direction]
  · rw [Chart.nodes, StrictChart.nodes, Node.ids_flatMap, Node.ids_flatMap, hids]
  · rw [hrecords'.edges, hrecords.edges, List.nil_append, List.nil_append, hends, StrictChart.edges,
      List.map_flatMap, List.flatMap_congr fun p _ => p.ends_edges]
    have := congrArg (List.flatMap consecutive) hids
    rw [List.flatMap_map, List.flatMap_map] at this
    exact this

/-- A label may become the name of its node or that of another shape, and a label of an edge may
vanish, when the marks go. -/
theorem exists_check_repair_marks :
    let s : Text :=
      "flowchart \t\u00a0LR\n\nA([start])-->|yes  no|\u2003b\x7bok \u201e?\x7d\n".toList ++
        "b\u3000-->|\x60|C[\x60]\nC-->style[\x60/in/\x60] -->A".toList
    let summary : Summary := ⟨.leftRight,
      [("A".toList, ⟨.terminal, "start".toList⟩), ("C".toList, ⟨.process, "\x60".toList⟩),
        ("b".toList, ⟨.decision, "ok \u201e?".toList⟩),
        ("style".toList, ⟨.process, "\x60/in/\x60".toList⟩)],
      [⟨"A".toList, "b".toList, some "yes  no".toList⟩,
        ⟨"b".toList, "C".toList, some "\x60".toList⟩, ⟨"C".toList, "style".toList, none⟩,
        ⟨"style".toList, "A".toList, none⟩]⟩
    check s = .ok summary ∧ (∀ line ∈ s.contents.tail, Line.isMistakable line = false) ∧
      ∃ summary', check (repair s) = .ok summary' ∧ summary'.direction = summary.direction ∧
        summary'.nodes.map Prod.fst = summary.nodes.map Prod.fst ∧
          summary'.edges.map Edge.ends = summary.edges.map Edge.ends := by
  intro s summary
  have h : check s = .ok summary := by decide +kernel
  have hm : ∀ line ∈ s.contents.tail, Line.isMistakable line = false := by decide +kernel
  exact ⟨h, hm, exists_check_repair h hm⟩

end Flowchart
