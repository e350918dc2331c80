import Flowchart.Proofs.StrictLines

/-!
# The grammar of the strict check

A text passes the check exactly when its first line is a header, every further one is a chain of
strict nodes and arrows, and no shape goes against the shape that its node has by then. What the
check reports is then known from the chart alone.
-/

namespace Flowchart

/-! ## Strict charts -/

/-- An arrow with the blanks around it, and the node behind it. -/
structure StrictLink where
  before : Text
  label : Option Text
  after : Text
  target : Node

namespace StrictLink

def text (l : StrictLink) : Text :=
  l.before ++ (renderEdge arrow l.label ++ (l.after ++ l.target.render))

structure IsWell (l : StrictLink) : Prop where
  before : Text.IsBlanks l.before
  label : ∀ t ∈ l.label, Label.IsStrict t
  after : Text.IsBlanks l.after
  target : l.target.IsStrict

end StrictLink

structure StrictLine where
  first : Node
  links : List StrictLink

namespace StrictLine

def text (p : StrictLine) : Text := p.first.render ++ p.links.flatMap StrictLink.text

structure IsWell (p : StrictLine) : Prop where
  first : p.first.IsStrict
  links : ∀ l ∈ p.links, l.IsWell

def nodes (p : StrictLine) : List Node := p.first :: p.links.map StrictLink.target

def linkEdges (source : Text) : List StrictLink → List Edge
  | [] => []
  | l :: links => ⟨source, l.target.id, l.label⟩ :: linkEdges l.target.id links

/-- One edge for each arrow, from left to right. -/
def edges (p : StrictLine) : List Edge := linkEdges p.first.id p.links

end StrictLine

/-- The trimmed lines that are not blank. -/
def Text.contentLines (ls : List Text) : List Text :=
  (ls.map trim).filter (!·.isEmpty)

def Text.contents (s : Text) : List Text := contentLines (lines s)

/-- None of the quotation marks that the check turns down. -/
def Text.IsPlain (line : Text) : Prop := ∀ c ∈ line, c ∉ Check.strictQuotes

/-- Each shape is the one that the node has by then, unless that is what a bare reference stands
for. -/
def Node.IsSettled (ns : List Node) : Prop :=
  ∀ before n after, ns = before ++ .shaped n :: after → ∀ old ∈ Check.known n.id before,
    old.shape = n.shape ∨ old.shape = .process ∧ old.label = n.id

structure StrictChart where
  direction : Direction
  /-- What stands between the keyword and the direction. -/
  gap : Text
  lines : List StrictLine

namespace StrictChart

def header (c : StrictChart) : Text := Chart.rootKeyword ++ (c.gap ++ c.direction.code)

def nodes (c : StrictChart) : List Node := c.lines.flatMap StrictLine.nodes

def edges (c : StrictChart) : List Edge := c.lines.flatMap StrictLine.edges

/-- The text is the chart in its strict form. -/
structure Spells (c : StrictChart) (s : Text) : Prop where
  gap_ne_nil : c.gap ≠ []
  gap : Text.IsBlanks c.gap
  lines : ∀ p ∈ c.lines, p.IsWell
  contents : s.contents = c.header :: c.lines.map StrictLine.text
  plain : ∀ line ∈ s.contents, line.IsPlain
  settled : Node.IsSettled c.nodes

/-- What is to be reported of a chart: every edge, and what is known of every node, in the order
of the identifiers. -/
structure Describes (c : StrictChart) (summary : Summary) : Prop where
  direction : summary.direction = c.direction
  edges : summary.edges = c.edges
  sorted : summary.nodes.Pairwise fun a b => a.1 < b.1
  nodes : ∀ id, summary.nodes.lookup id = Check.known id c.nodes

end StrictChart

/-! ## Tables -/

namespace NodeTable

def IsSorted (table : NodeTable) : Prop := table.Pairwise fun a b => a.1 < b.1

theorem lt_of_not_lt {a b : Text} (h : ¬ a < b) (hne : a ≠ b) : b < a := by
  by_contra h'
  exact hne (List.le_antisymm (List.not_lt.1 h') (List.not_lt.1 h))

theorem mem_set {id : Text} {node : NodeSummary} {table : NodeTable} {entry : Text × NodeSummary}
    (h : entry ∈ table.set id node) : entry.1 = id ∨ entry ∈ table := by
  induction table with
  | nil =>
      rw [set, List.mem_singleton] at h
      exact .inl (h ▸ rfl)
  | cons first table ih =>
      rw [set] at h
      split at h
      · rcases List.mem_cons.1 h with rfl | h
        · exact .inl rfl
        · exact .inr (List.mem_cons_of_mem _ h)
      · split at h
        · rcases List.mem_cons.1 h with rfl | h
          · exact .inl rfl
          · exact .inr h
        · rcases List.mem_cons.1 h with rfl | h
          · exact .inr List.mem_cons_self
          · exact (ih h).imp_right (List.mem_cons_of_mem _)

theorem isSorted_set {table : NodeTable} (h : table.IsSorted) (id : Text) (node : NodeSummary) :
    (table.set id node).IsSorted := by
  induction table with
  | nil => exact List.pairwise_singleton _ _
  | cons first table ih =>
      obtain ⟨hfirst, htable⟩ := List.pairwise_cons.1 h
      rw [set]
      split
      · rename_i heq
        exact List.pairwise_cons.2 ⟨heq ▸ hfirst, htable⟩
      · rename_i hne
        split
        · rename_i hlt
          refine List.pairwise_cons.2 ⟨fun entry hentry => ?_, h⟩
          rcases List.mem_cons.1 hentry with rfl | hentry
          · exact hlt
          · exact List.lt_trans hlt (hfirst entry hentry)
        · rename_i hlt
          refine List.pairwise_cons.2 ⟨fun entry hentry => ?_, ih htable⟩
          rcases mem_set hentry with he | hentry
          · rw [he]
            exact lt_of_not_lt hlt hne
          · exact hfirst entry hentry

theorem lookup_eq_none_of_lt {id : Text} {table : NodeTable} (h : ∀ entry ∈ table, id < entry.1) :
    table.lookup id = none := by
  rw [List.lookup_eq_none_iff]
  intro entry hentry
  rw [bne_iff_ne]
  rintro rfl
  exact List.lt_irrefl _ (h entry hentry)

/-- The first identifier of a sorted table is the least. -/
theorem lookup_cons_eq_none {id key : Text} {node : NodeSummary} {table : NodeTable}
    (h : IsSorted ((key, node) :: table)) (hlt : id < key) :
    List.lookup id ((key, node) :: table) = none := by
  refine lookup_eq_none_of_lt fun entry hentry => ?_
  rcases List.mem_cons.1 hentry with rfl | hentry
  · exact hlt
  · exact List.lt_trans hlt ((List.pairwise_cons.1 h).1 entry hentry)

/-- Sorted tables that tell the same are the same. -/
theorem eq_of_lookup_eq {table table' : NodeTable} (h : table.IsSorted) (h' : table'.IsSorted)
    (hlookup : ∀ id, table.lookup id = table'.lookup id) : table = table' := by
  induction table generalizing table' with
  | nil =>
      cases table' with
      | nil => rfl
      | cons first' table' =>
          obtain ⟨key', node'⟩ := first'
          simpa using hlookup key'
  | cons first table ih =>
      obtain ⟨key, node⟩ := first
      cases table' with
      | nil => simpa using hlookup key
      | cons first' table' =>
          obtain ⟨key', node'⟩ := first'
          have hkey : key = key' := by
            by_contra hne
            by_cases hlt : key < key'
            · simpa [lookup_cons_eq_none h' hlt] using hlookup key
            · simpa [lookup_cons_eq_none h (lt_of_not_lt hlt hne)] using hlookup key'
          subst hkey
          obtain ⟨hfirst, htable⟩ := List.pairwise_cons.1 h
          obtain ⟨hfirst', htable'⟩ := List.pairwise_cons.1 h'
          have hnode : node = node' := by simpa using hlookup key
          rw [hnode, ih htable htable' fun id => ?_]
          by_cases hid : id = key
          · rw [hid, lookup_eq_none_of_lt hfirst, lookup_eq_none_of_lt hfirst']
          · simpa [List.lookup_cons, beq_eq_false_iff_ne.2 hid] using hlookup id

end NodeTable

namespace Check

theorem isSorted_declare {nodes nodes' : NodeTable} {n : Node} (h : nodes.IsSorted)
    (hn : declare nodes n = .ok nodes') : nodes'.IsSorted := by
  cases n with
  | bare id =>
      rw [declare] at hn
      split at hn
      · cases hn
        exact h
      · cases hn
        exact NodeTable.isSorted_set h _ _
  | shaped n =>
      rw [(declare_shaped_eq_ok_iff.1 hn).2]
      exact NodeTable.isSorted_set h _ _

/-- What a run of declarations leaves in the table. -/
theorem foldlM_declare {nodes nodes' : NodeTable} {seen ns : List Node} (hsorted : nodes.IsSorted)
    (h : Tells nodes seen) (hn : ns.foldlM declare nodes = .ok nodes') :
    nodes'.IsSorted ∧ Tells nodes' (seen ++ ns) := by
  induction ns generalizing nodes seen with
  | nil =>
      cases hn
      rw [List.append_nil]
      exact ⟨hsorted, h⟩
  | cons n ns ih =>
      rw [List.foldlM_cons, bind_eq_ok_iff] at hn
      obtain ⟨next, hnext, hrest⟩ := hn
      rw [List.append_cons]
      exact ih (isSorted_declare hsorted hnext) (tells_declare h hnext) hrest

end Check

namespace Node

theorem isSettled_append_iff (ns : List Node) (n : Node) :
    IsSettled (ns ++ [n]) ↔ IsSettled ns ∧ Check.Allows ns n := by
  constructor
  · intro h
    refine ⟨fun before k after he => ?_, fun k hk => ?_⟩
    · exact h before k (after ++ [n]) (by simp [he])
    · subst hk
      exact (Check.forall_known_iff k ns).1 (h ns k [] rfl) k rfl
  · rintro ⟨hns, hn⟩ before k after he
    rcases List.eq_nil_or_concat after with rfl | ⟨after, last, rfl⟩
    · obtain ⟨rfl, hk⟩ := List.append_inj' he rfl
      rw [List.singleton_inj] at hk
      subst hk
      exact (Check.forall_known_iff k ns).2 hn
    · rw [List.concat_eq_append, ← List.cons_append, ← List.append_assoc] at he
      exact hns before k after (List.append_inj' he rfl).1

/-- The shapes are settled exactly when the mentions agree. -/
theorem isSettled_iff (ns : List Node) : IsSettled ns ↔ Agree ns := by
  induction ns using List.reverseRecOn with
  | nil =>
      refine iff_of_true (fun before n after h => ?_) fun id => List.isChain_nil
      simp at h
  | append_singleton ns n ih => rw [isSettled_append_iff, Check.agree_append_iff, ih]

end Node

/-! ## Strict lines as layouts -/

namespace StrictLine

/-- The line as a layout. -/
def layout (p : StrictLine) : Layout :=
  ⟨[], NodeText.ofNode p.first, p.links.map fun l =>
    (EdgeText.ofLabel l.before l.label l.after, NodeText.ofNode l.target), []⟩

theorem linksText_layout (links : List StrictLink) :
    Layout.linksText (links.map fun l => (EdgeText.ofLabel l.before l.label l.after,
      NodeText.ofNode l.target)) [] = links.flatMap StrictLink.text := by
  induction links with
  | nil => rfl
  | cons l links ih =>
      rw [List.map_cons, Layout.linksText, ih, EdgeText.text_ofLabel, NodeText.text_ofNode]
      simp [StrictLink.text]

theorem core_layout (p : StrictLine) : p.layout.core = p.text := by
  rw [Layout.core, layout, linksText_layout, NodeText.text_ofNode]
  rfl

theorem linkEdges_layout (source : Text) (links : List StrictLink) :
    Layout.linkEdges source (links.map fun l => (EdgeText.ofLabel l.before l.label l.after,
      NodeText.ofNode l.target)) = linkEdges source links := by
  induction links generalizing source with
  | nil => rfl
  | cons l links ih =>
      rw [List.map_cons, Layout.linkEdges, Layout.rawLabel_ofLabel, NodeText.id_ofNode, ih]
      rfl

theorem edges_layout (p : StrictLine) : p.layout.edges = p.edges := by
  rw [Layout.edges, layout, NodeText.id_ofNode, linkEdges_layout]
  rfl

variable {p : StrictLine} (hp : p.IsWell)

include hp

theorem isRaw_layout : p.layout.IsRaw where
  lead := .nil
  first := hp.first.isRawNode
  links := by
    intro l hl
    obtain ⟨m, hm, rfl⟩ := List.mem_map.1 hl
    have hm := hp.links m hm
    exact ⟨⟨m.before, m.label, m.after, rfl, hm.before, hm.after,
      fun t ht => (hm.label t ht).2.pipe⟩, hm.target.isRawNode⟩
  trail := .nil

theorem isStrict_layout : p.layout.IsStrict := by
  refine ⟨NodeText.isStrict_ofNode hp.first, fun l hl => ?_⟩
  obtain ⟨m, hm, rfl⟩ := List.mem_map.1 hl
  have hm := hp.links m hm
  rw [Layout.rawLabel_ofLabel]
  exact ⟨hm.label, NodeText.isStrict_ofNode hm.target⟩

theorem nodes_layout : p.layout.nodes = p.nodes := by
  rw [Layout.nodes, layout, nodes, List.map_map]
  dsimp only
  rw [NodeText.node_ofNode_of_isStrict hp.first]
  refine congrArg _ (List.map_congr_left fun l hl => ?_)
  exact NodeText.node_ofNode_of_isStrict (hp.links l hl).target

theorem isTrimmed_text : Text.IsTrimmed p.text :=
  core_layout p ▸ Layout.isTrimmed_core (isRaw_layout hp).isWell

theorem text_ne_nil : p.text ≠ [] :=
  core_layout p ▸ Layout.core_ne_nil (isRaw_layout hp).isWell

end StrictLine

/-! ## Reading a line -/

namespace Check

theorem eq_renderEdge_of_edgeLabel {line s rest : Text} {label : Option Text}
    (h : edgeLabel line s = .ok (label, rest)) :
    arrow ++ s = renderEdge arrow label ++ rest ∧ ∀ t ∈ label, Label.IsStrict t := by
  cases s with
  | nil =>
      cases h
      exact ⟨rfl, nofun⟩
  | cons c s =>
      by_cases hc : c = '|'
      · subst hc
        cases hpipe : Segment.untilPipe? s with
        | none =>
            rw [edgeLabel, hpipe] at h
            cases h
        | some r =>
            obtain ⟨l, behind⟩ := r
            obtain ⟨rfl, hl⟩ := Segment.eq_append_of_untilPipe? hpipe
            obtain ⟨hstrict, hr⟩ := (edgeLabel_some_eq_ok_iff hl).1 h
            cases hr
            exact ⟨by simp [renderEdge], fun t ht => by cases ht; exact hstrict⟩
      · rw [edgeLabel_none (by simpa using hc)] at h
        cases h
        exact ⟨rfl, nofun⟩

/-- An operand that was read is a strict node with blanks around it. -/
theorem eq_append_of_parseNode {s : Text} {n : Node} (h : parseNode (operand s).1 = .ok n) :
    n.IsStrict ∧ ∃ b b', Text.IsBlanks b ∧ Text.IsBlanks b' ∧
      s = b ++ (n.render ++ (b' ++ (operand s).2)) := by
  obtain ⟨htoken, hn⟩ := parseNode_eq_ok_iff.1 h
  obtain ⟨b, b', hb, hb', hoperand⟩ := Text.exists_trim (operand s).1
  refine ⟨hn, b, b', hb, hb', ?_⟩
  calc s = (operand s).1 ++ (operand s).2 := (operandFrom_append none s).symm
    _ = b ++ n.render ++ b' ++ (operand s).2 := by rw [← htoken, ← hoperand]
    _ = b ++ (n.render ++ (b' ++ (operand s).2)) := by simp

/-- Links that were read are strict links, with blanks behind the last one. -/
theorem exists_links_of_readLinks {line source s b : Text} {chart chart' : Summary}
    (hb : Text.IsBlanks b) (h : readLinks line chart source s = .ok chart') :
    ∃ (links : List StrictLink) (trail : Text), (∀ l ∈ links, l.IsWell) ∧ Text.IsBlanks trail ∧
      b ++ s = links.flatMap StrictLink.text ++ trail ∧
      Records chart chart' (links.map StrictLink.target) (StrictLine.linkEdges source links) := by
  fun_induction readLinks line chart source s generalizing b with
  | case1 chart source s hempty =>
      cases h
      exact ⟨[], b, by simp, hb, by simp [List.isEmpty_iff.1 hempty], records_nil_iff.2 rfl⟩
  | case2 => cases h
  | case3 => cases h
  | case4 => cases h
  | case5 chart source s hne harrow label rest hlabel node hnode next hnext ih =>
      obtain ⟨harrowText, hstrict⟩ := eq_renderEdge_of_edgeLabel hlabel
      obtain ⟨hstrictNode, a, a', ha, ha', hrest⟩ := eq_append_of_parseNode hnode
      -- the blanks behind the node stand in front of the links that are left
      obtain ⟨links, trail, hlinks, htrail, htext, hrecords⟩ := ih ha' h
      refine ⟨⟨b, label, a, node⟩ :: links, trail, ?_, htrail, ?_, ?_⟩
      · intro l hl
        rcases List.mem_cons.1 hl with rfl | hl
        · exact ⟨hb, hstrict, ha, hstrictNode⟩
        · exact hlinks l hl
      · have hs : s = arrow ++ s.drop arrow.length := by
          have := List.prefix_iff_eq_append.1 (List.takeWhile_prefix isOperatorChar (l := s))
          rw [harrow] at this
          exact this.symm
        calc b ++ s = b ++ (renderEdge arrow label ++ rest) := by rw [← harrowText, ← hs]
          _ = b ++ (renderEdge arrow label ++ (a ++ (node.render ++
                (links.flatMap StrictLink.text ++ trail)))) := by rw [← htext, ← hrest]
          _ = _ := by simp [StrictLink.text]
      · exact records_link_iff.2 ⟨_, exists_declare_eq_ok_iff.1 ⟨next, hnext, rfl⟩, hrecords⟩
  | case6 => cases h

/-- A trimmed line that was read is a strict line. -/
theorem exists_line_of_readStatement {line : Text} {chart chart' : Summary}
    (hline : Text.IsTrimmed line) (h : readStatement chart line = .ok chart') :
    ∃ p : StrictLine, p.IsWell ∧ line = p.text ∧ Records chart chart' p.nodes p.edges := by
  rw [readStatement, bind_eq_ok_iff] at h
  obtain ⟨node, hnode, h⟩ := h
  rw [bind_eq_ok_iff] at h
  obtain ⟨next, hnext, h⟩ := h
  obtain ⟨hstrict, b, b', hb, hb', htext⟩ := eq_append_of_parseNode hnode
  obtain ⟨links, trail, hlinks, htrail, hbehind, hrecords⟩ := exists_links_of_readLinks hb' h
  let p : StrictLine := ⟨node, links⟩
  have hp : line = b ++ p.text ++ trail := by
    rw [htext, hbehind]
    simp [p, StrictLine.text]
  have hfirst : Records chart next [node] [] :=
    exists_declare_eq_ok_iff.1 ⟨next, hnext, by rw [List.append_nil]⟩
  have hwell : p.IsWell := ⟨hstrict, hlinks⟩
  refine ⟨p, hwell, ?_, records_first_iff.2 ⟨next, hfirst, hrecords⟩⟩
  rw [← Text.trim_eq_self hline, hp]
  exact Text.trim_append_append hb htrail (StrictLine.text_ne_nil hwell)
    (StrictLine.isTrimmed_text hwell)

/-- The trimmed lines that are read are the strict lines. -/
theorem readStatement_eq_ok_iff_of_isTrimmed {line : Text} {chart chart' : Summary}
    (hline : Text.IsTrimmed line) : readStatement chart line = .ok chart' ↔
      ∃ p : StrictLine, p.IsWell ∧ line = p.text ∧ Records chart chart' p.nodes p.edges := by
  refine ⟨exists_line_of_readStatement hline, ?_⟩
  rintro ⟨p, hp, rfl, hrecords⟩
  have hraw := StrictLine.isRaw_layout hp
  have htext : Text.trim p.layout.text = p.text := by
    rw [Layout.trim_text hraw.isWell, StrictLine.core_layout]
  rw [← htext, readStatement_eq_ok_iff hraw, StrictLine.nodes_layout hp, StrictLine.edges_layout]
  exact ⟨StrictLine.isStrict_layout hp, hrecords⟩

end Check

/-! ## Reading a header -/

theorem Text.isBlanks_of_words_eq_nil {s : Text} (h : words s = []) : IsBlanks s := by
  obtain ⟨b, b', hb, hb', hs⟩ := exists_trim s
  by_cases hne : trim s = []
  · rw [hs, hne, List.append_nil]
    exact hb.append hb'
  · obtain ⟨w, r, hw, hword, hr⟩ := exists_word_append hne (isTrimmed_trim s).head
    rw [← words_trim, hw, words_word_append hword hr] at h
    cases h

/-- The first word of a text, and the text behind it. -/
theorem Text.exists_of_words_eq_cons {s w : Text} {ws : List Text} (h : words s = w :: ws) :
    ∃ b r, IsBlanks b ∧ IsWord w ∧ (∀ c ∈ r.head?, isBlank c = true) ∧ s = b ++ (w ++ r) ∧
      words r = ws := by
  have hs := List.takeWhile_append_dropWhile (p := isBlank) (l := s)
  have hb : IsBlanks (s.takeWhile isBlank) := fun c hc => List.mem_takeWhile_imp hc
  rw [← hs, words_append_of_isBlanks _ hb] at h
  have hne : s.dropWhile isBlank ≠ [] := by
    intro he
    rw [he] at h
    cases h
  obtain ⟨v, r, hv, hword, hr⟩ := exists_word_append hne fun _ => eq_false_of_head?_dropWhile
  rw [hv, words_word_append hword hr] at h
  obtain ⟨rfl, hws⟩ := List.cons.inj h
  exact ⟨_, r, hb, hword, hr, by rw [← hv, hs], hws⟩

/-- Two words fill a trimmed text but for the blanks between them. -/
theorem Text.words_eq_pair_iff {s v w : Text} (hs : IsTrimmed s) (hv : IsWord v) (hw : IsWord w) :
    words s = [v, w] ↔ ∃ gap, gap ≠ [] ∧ IsBlanks gap ∧ s = v ++ (gap ++ w) := by
  constructor
  · intro h
    obtain ⟨b, behind, hb, -, hbehind, rfl, hwords⟩ := exists_of_words_eq_cons h
    obtain ⟨gap, b', hgap, -, -, rfl, hnil⟩ := exists_of_words_eq_cons hwords
    have hne : gap ≠ [] := by
      rintro rfl
      obtain ⟨c, w, rfl⟩ := List.exists_cons_of_ne_nil hw.1
      have := hbehind c rfl
      rw [hw.2 c (by simp)] at this
      cases this
    -- nothing blank stands at either end
    have hcore : IsTrimmed (v ++ (gap ++ w)) := by
      obtain ⟨c, v, rfl⟩ := List.exists_cons_of_ne_nil hv.1
      refine ⟨fun d hd => hv.2 d (by simpa using Or.inl hd.symm), fun d hd => ?_⟩
      rw [← List.append_assoc, List.getLast?_append_of_ne_nil _ hw.1] at hd
      exact hw.2 d (List.mem_of_getLast? hd)
    have htrim := trim_append_append hb (isBlanks_of_words_eq_nil hnil) (by simp [hv.1]) hcore
    have hself := trim_eq_self hs
    refine ⟨gap, hne, hgap, ?_⟩
    rw [← hself, ← htrim]
    simp
  · rintro ⟨gap, hne, hgap, rfl⟩
    have hhead : ∀ c ∈ (gap ++ w).head?, isBlank c = true := by
      obtain ⟨c, gap, rfl⟩ := List.exists_cons_of_ne_nil hne
      exact fun d hd => hgap d (by simpa using Or.inl hd.symm)
    rw [words_word_append hv hhead, words_append_of_isBlanks w hgap, words_word hw]

namespace Check

theorem readHeader_eq_ok_iff {number : Nat} {line : Text} {chart : Summary} :
    readHeader number line = .ok chart ↔
      ∃ d : Direction, Text.words line = [Chart.rootKeyword, d.code] ∧ chart = ⟨d, [], []⟩ := by
  constructor
  · intro h
    unfold readHeader at h
    split at h
    · rename_i keyword code more hwords
      split at h
      · rename_i hkeyword
        split at h
        · cases h
        · rename_i d hcode
          split at h
          · rename_i hmore
            cases h
            refine ⟨d, ?_, rfl⟩
            rw [hwords, hkeyword, Direction.ofCode?_eq_some_iff.1 hcode, List.isEmpty_iff.1 hmore]
          · cases h
      · cases h
    · cases h
  · rintro ⟨d, hwords, rfl⟩
    rw [readHeader, hwords]
    simp [Direction.ofCode?_code]

theorem any_strictQuotes_eq_false_iff {line : Text} :
    line.any strictQuotes.contains = false ↔ line.IsPlain := by
  simp [Text.IsPlain]

theorem readLine_none_eq_ok_iff {number : Nat} {line : Text} {chart : Summary}
    (hline : Text.IsTrimmed line) : readLine number line none = .ok chart ↔
      line.IsPlain ∧ ∃ (d : Direction) (gap : Text), gap ≠ [] ∧ Text.IsBlanks gap ∧
        line = Chart.rootKeyword ++ (gap ++ d.code) ∧ chart = ⟨d, [], []⟩ := by
  have hword {w : Text} (hne : w ≠ []) (h : w.all Char.isAlphanum = true) : Text.IsWord w :=
    ⟨hne, fun c hc => Ident.not_isBlank_of_isAlphanum (List.all_eq_true.1 h c hc)⟩
  have hkeyword : Text.IsWord Chart.rootKeyword := hword nofun (by decide)
  have hcode (d : Direction) : Text.IsWord d.code := by
    cases d <;> exact hword nofun (by decide)
  rw [readLine, ← any_strictQuotes_eq_false_iff]
  split
  · rename_i h
    simp [h]
  · rename_i h
    rw [readHeader_eq_ok_iff]
    simp only [Text.words_eq_pair_iff hline hkeyword (hcode _)]
    constructor
    · rintro ⟨d, ⟨gap, hne, hgap, htext⟩, hchart⟩
      exact ⟨by simpa using h, d, gap, hne, hgap, htext, hchart⟩
    · rintro ⟨-, d, gap, hne, hgap, htext, hchart⟩
      exact ⟨d, ⟨gap, hne, hgap, htext⟩, hchart⟩

theorem readLine_some_eq_ok_iff {number : Nat} {line : Text} {chart chart' : Summary}
    (hline : Text.IsTrimmed line) : readLine number line (some chart) = .ok chart' ↔
      line.IsPlain ∧ ∃ p : StrictLine, p.IsWell ∧ line = p.text ∧
        Records chart chart' p.nodes p.edges := by
  rw [readLine, ← any_strictQuotes_eq_false_iff]
  split
  · rename_i h
    simp [h]
  · rename_i h
    rw [mapError_eq_ok_iff, readStatement_eq_ok_iff_of_isTrimmed hline]
    simp [h]

/-! ## Reading a document -/

theorem contentLines_cons_of_isEmpty {line : Text} (h : (Text.trim line).isEmpty = true)
    (ls : List Text) : Text.contentLines (line :: ls) = Text.contentLines ls := by
  simp [Text.contentLines, h]

theorem contentLines_cons {line : Text} (h : (Text.trim line).isEmpty = false) (ls : List Text) :
    Text.contentLines (line :: ls) = Text.trim line :: Text.contentLines ls := by
  simp [Text.contentLines, h]

theorem readLines_cons_of_isEmpty {line : Text} (h : (Text.trim line).isEmpty = true)
    (found : Option Summary) (number : Nat) (ls : List Text) :
    readLines found number (line :: ls) = readLines found (number + 1) ls := by
  rw [readLines, if_pos h]

theorem readLines_cons_eq_ok_iff {line : Text} (h : (Text.trim line).isEmpty = false)
    {found : Option Summary} {number : Nat} {ls : List Text} {chart : Summary} :
    readLines found number (line :: ls) = .ok chart ↔
      ∃ next, readLine number (Text.trim line) found = .ok next ∧
        readLines (some next) (number + 1) ls = .ok chart := by
  rw [readLines, if_neg (by simp [h]), bind_eq_ok_iff]

/-- Behind the header every line is a strict line. -/
theorem readLines_some_eq_ok_iff {ls : List Text} {chart chart' : Summary} (number : Nat) :
    readLines (some chart) number ls = .ok chart' ↔
      (∀ line ∈ Text.contentLines ls, line.IsPlain) ∧
        ∃ ps : List StrictLine, (∀ p ∈ ps, p.IsWell) ∧
          Text.contentLines ls = ps.map StrictLine.text ∧
          Records chart chart' (ps.flatMap StrictLine.nodes) (ps.flatMap StrictLine.edges) := by
  induction ls generalizing chart number with
  | nil =>
      rw [readLines]
      constructor
      · intro h
        cases h
        exact ⟨List.forall_mem_nil _, [], List.forall_mem_nil _, rfl, records_nil_iff.2 rfl⟩
      · rintro ⟨-, ps, -, hlines, hrecords⟩
        obtain rfl := List.map_eq_nil_iff.1 hlines.symm
        rw [records_nil_iff.1 hrecords]
  | cons line ls ih =>
      cases hempty : (Text.trim line).isEmpty with
      | true => rw [readLines_cons_of_isEmpty hempty, contentLines_cons_of_isEmpty hempty, ih]
      | false =>
          rw [readLines_cons_eq_ok_iff hempty, contentLines_cons hempty, List.forall_mem_cons]
          simp only [readLine_some_eq_ok_iff (Text.isTrimmed_trim line), ih]
          constructor
          · rintro ⟨next, ⟨hplain, p, hp, htext, hfirst⟩, hall, ps, hps, hlines, hrest⟩
            refine ⟨⟨hplain, hall⟩, p :: ps, List.forall_mem_cons.2 ⟨hp, hps⟩, ?_, ?_⟩
            · rw [htext, hlines, List.map_cons]
            · exact records_append_iff.2 ⟨next, hfirst, hrest⟩
          · rintro ⟨⟨hplain, hall⟩, ps, hps, hlines, hrecords⟩
            cases ps with
            | nil => cases hlines
            | cons p ps =>
                obtain ⟨htext, hlines⟩ := List.cons.inj hlines
                obtain ⟨hp, hps⟩ := List.forall_mem_cons.1 hps
                obtain ⟨next, hfirst, hrest⟩ := records_append_iff.1 hrecords
                exact ⟨next, ⟨hplain, p, hp, htext, hfirst⟩, hall, ps, hps, hlines, hrest⟩

theorem readLines_none_eq_ok_iff {ls : List Text} {chart : Summary} (number : Nat) :
    readLines none number ls = .ok chart ↔
      (∀ line ∈ Text.contentLines ls, line.IsPlain) ∧
        ∃ c : StrictChart, c.gap ≠ [] ∧ Text.IsBlanks c.gap ∧ (∀ p ∈ c.lines, p.IsWell) ∧
          Text.contentLines ls = c.header :: c.lines.map StrictLine.text ∧
          Records ⟨c.direction, [], []⟩ chart c.nodes c.edges := by
  induction ls generalizing number with
  | nil =>
      rw [readLines]
      constructor
      · intro h
        cases h
      · rintro ⟨-, c, -, -, -, hlines, -⟩
        cases hlines
  | cons line ls ih =>
      cases hempty : (Text.trim line).isEmpty with
      | true => rw [readLines_cons_of_isEmpty hempty, contentLines_cons_of_isEmpty hempty, ih]
      | false =>
          rw [readLines_cons_eq_ok_iff hempty, contentLines_cons hempty, List.forall_mem_cons]
          simp only [readLine_none_eq_ok_iff (Text.isTrimmed_trim line), readLines_some_eq_ok_iff]
          constructor
          · rintro ⟨_, ⟨hplain, d, gap, hne, hgap, htext, rfl⟩, hall, ps, hps, hlines, hrecords⟩
            refine ⟨⟨hplain, hall⟩, ⟨d, gap, ps⟩, hne, hgap, hps, ?_, hrecords⟩
            rw [htext, hlines]
            rfl
          · rintro ⟨⟨hplain, hall⟩, ⟨d, gap, ps⟩, hne, hgap, hps, hlines, hrecords⟩
            obtain ⟨htext, hlines⟩ := List.cons.inj hlines
            exact ⟨_, ⟨hplain, d, gap, hne, hgap, htext, rfl⟩, hall, ps, hps, hlines, hrecords⟩

end Check

/-! ## The check -/

namespace StrictChart

theorem Describes.unique {c : StrictChart} {summary summary' : Summary} (h : c.Describes summary)
    (h' : c.Describes summary') : summary = summary' := by
  obtain ⟨d, nodes, edges⟩ := summary
  obtain ⟨d', nodes', edges'⟩ := summary'
  obtain rfl : d = d' := h.direction.trans h'.direction.symm
  obtain rfl : edges = edges' := h.edges.trans h'.edges.symm
  obtain rfl : nodes = nodes' := NodeTable.eq_of_lookup_eq h.sorted h'.sorted fun id =>
    (h.nodes id).trans (h'.nodes id).symm
  rfl

theorem describes_of_records {c : StrictChart} {summary : Summary}
    (h : Check.Records ⟨c.direction, [], []⟩ summary c.nodes c.edges) : c.Describes summary := by
  have hempty : Check.Tells [] [] := fun _ => rfl
  obtain ⟨hsorted, htells⟩ := Check.foldlM_declare List.Pairwise.nil hempty h.nodes
  exact ⟨h.direction, h.edges, hsorted, htells⟩

end StrictChart

theorem check_eq_ok_iff_records {s : Text} {summary : Summary} :
    check s = .ok summary ↔ ∃ c : StrictChart, c.Spells s ∧
      Check.Records ⟨c.direction, [], []⟩ summary c.nodes c.edges := by
  rw [check, Check.readLines_none_eq_ok_iff]
  constructor
  · rintro ⟨hplain, c, hne, hgap, hlines, hcontents, hrecords⟩
    refine ⟨c, ⟨hne, hgap, hlines, hcontents, hplain, ?_⟩, hrecords⟩
    exact (Node.isSettled_iff _).2 ((Check.exists_records_iff _ _ _).1 ⟨summary, hrecords⟩)
  · rintro ⟨c, h, hrecords⟩
    exact ⟨h.plain, c, h.gap_ne_nil, h.gap, h.lines, h.contents, hrecords⟩

/-- The check accepts exactly the texts of strict charts, and reports what such a chart contains. -/
theorem check_iff_spells (s : Text) :
    ((check s).isOk = true ↔ ∃ c : StrictChart, c.Spells s) ∧
      ∀ c : StrictChart, c.Spells s → ∀ summary, check s = .ok summary ↔ c.Describes summary := by
  have hreport {c : StrictChart} (h : c.Spells s) :
      ∃ summary, check s = .ok summary ∧ c.Describes summary := by
    obtain ⟨summary, hrecords⟩ :=
      (Check.exists_records_iff c.direction c.nodes c.edges).2 ((Node.isSettled_iff _).1 h.settled)
    exact ⟨summary, check_eq_ok_iff_records.2 ⟨c, h, hrecords⟩,
      StrictChart.describes_of_records hrecords⟩
  constructor
  · constructor
    · intro hok
      cases hcheck : check s with
      | error e =>
          rw [hcheck] at hok
          cases hok
      | ok summary =>
          obtain ⟨c, h, -⟩ := check_eq_ok_iff_records.1 hcheck
          exact ⟨c, h⟩
    · rintro ⟨c, h⟩
      obtain ⟨summary, hcheck, -⟩ := hreport h
      rw [hcheck]
      rfl
  · intro c h summary
    obtain ⟨reported, hcheck, hdescribes⟩ := hreport h
    rw [hcheck, Except.ok.injEq]
    constructor
    · rintro rfl
      exact hdescribes
    · exact hdescribes.unique

/-- Blanks around an arrow are free, and a bare reference is reported as a rectangle. -/
theorem check_iff_spells_loose :
    ∃ c : StrictChart, c.Spells "flowchart \tLR\n\n A-->|yes|  B{ok} \nB --> A".toList ∧
      c.Describes ⟨.leftRight,
        [("A".toList, ⟨.process, "A".toList⟩), ("B".toList, ⟨.decision, "ok".toList⟩)],
        [⟨"A".toList, "B".toList, some "yes".toList⟩, ⟨"B".toList, "A".toList, none⟩]⟩ := by
  obtain ⟨haccepts, hreports⟩ :=
    check_iff_spells "flowchart \tLR\n\n A-->|yes|  B{ok} \nB --> A".toList
  obtain ⟨c, hc⟩ := haccepts.1 (by decide +kernel)
  exact ⟨c, hc, (hreports c hc _).1 (by decide +kernel)⟩

end Flowchart
