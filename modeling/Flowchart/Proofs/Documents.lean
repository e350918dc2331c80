import Flowchart.Proofs.Characters
import Flowchart.Proofs.LayoutRules

/-!
# Documents of statement lines

A document is a list of lines, each a root declaration or a statement that is written somehow. The
rules that work line by line leave the canonical line of every statement, unless its line is taken
for a directive or a root declaration, which stays as it is.
-/

namespace Flowchart

/-- No quotation mark is in the text. -/
def Text.IsUnquoted (t : Text) : Prop := Text.All (Label.isQuotationMark · = false) t

theorem isQuotationMark_of_isWritten {c : Char} (h : isWritten c = true) :
    Label.isQuotationMark c = false := by
  by_contra hq
  simp only [Label.isQuotationMark, Label.quotationMarks, List.contains_cons, List.contains_nil,
    Bool.not_eq_false, Bool.or_eq_true, beq_iff_eq, Bool.false_eq_true, or_false] at hq
  rcases hq with rfl | rfl | rfl | rfl | rfl <;> exact absurd h (by decide)

theorem ne_newline_of_isWritten {c : Char} (h : isWritten c = true) : c ≠ '\n' := by
  rintro rfl
  exact absurd h (by decide)

theorem Text.Keeps.isUnquoted {f : Text → Text} (hf : Text.Keeps f) {t : Text}
    (ht : Text.IsUnquoted t) : Text.IsUnquoted (f t) :=
  hf _ (fun _ => isQuotationMark_of_isWritten) t ht

theorem Text.Keeps.newline {f : Text → Text} (hf : Text.Keeps f) {t : Text} (ht : '\n' ∉ t) :
    '\n' ∉ f t := by
  have hall : Text.All (· ≠ '\n') t := fun c hc he => ht (he ▸ hc)
  exact fun h => hf _ (fun _ => ne_newline_of_isWritten) t hall '\n' h rfl

namespace Layout

/-- A layout on a line of its own, without quotation marks. -/
structure IsReady (p : Layout) : Prop where
  well : p.IsWell
  newline : '\n' ∉ p.text
  unquoted : Text.IsUnquoted p.text
  trail : p.trail.getLast? ≠ some '\r'

theorem IsReady.isLine {p : Layout} (hp : p.IsReady) : Text.IsLine p.text := by
  have hcore := core_ne_nil hp.well
  refine ⟨by simp [text_eq_core, hcore], hp.newline, fun h => ?_⟩
  rw [text_eq_core] at h
  by_cases ht : p.trail = []
  · rw [ht, List.append_nil, List.getLast?_append_of_ne_nil _ hcore] at h
    exact absurd ((isTrimmed_core hp.well).getLast _ h) (by decide)
  · rw [List.getLast?_append_of_ne_nil _ ht] at h
    exact hp.trail h

theorem getLast?_space (b : Text) : (EdgeText.space b).getLast? ≠ some '\r' := by
  unfold EdgeText.space
  split <;> simp

theorem IsReady.of_eq {p p' : Layout} {f : Text → Text} (hp : p.IsReady) (hf : Text.Keeps f)
    (htext : f p.text = p'.text) (hwell : p'.IsWell) (htrail : p'.trail.getLast? ≠ some '\r') :
    p'.IsReady :=
  ⟨hwell, htext ▸ hf.newline hp.newline, htext ▸ hf.isUnquoted hp.unquoted, htrail⟩

theorem IsReady.blanked {p : Layout} (hp : p.IsReady) : p.blanked.IsReady :=
  hp.of_eq keeps_normalizeBrackets (normalizeBrackets_text hp.well) (isWell_blanked hp.well)
    hp.trail

theorem IsReady.relabelled {p : Layout} (hp : p.IsReady) : p.relabelled.IsReady :=
  hp.of_eq keeps_sanitizeLabels (sanitizeLabels_text hp.well) (isWell_relabelled hp.well) hp.trail

theorem hasCleanEdges_relabelled {p : Layout} (hp : p.IsWell) : p.relabelled.HasCleanEdges := by
  intro l hl
  obtain ⟨m, hm, rfl⟩ := List.mem_map.1 hl
  exact colon_notMem_cleaned (hp.links m hm).1

theorem IsReady.respaced {p : Layout} (hp : p.IsReady) (hc : p.HasCleanEdges) :
    p.respaced.IsReady :=
  hp.of_eq keeps_sanitizeIdents (sanitizeIdents_text hp.well hc) (isWell_respaced hp.well)
    (getLast?_space _)

theorem IsReady.straightened {p : Layout} (hp : p.IsReady) : p.straightened.IsReady :=
  hp.of_eq keeps_repairEdges (repairEdges_text hp.well) (isWell_straightened hp.well)
    (getLast?_space _)

/-! ## The statement of a line -/

theorem mem_linksText {links : List (EdgeText × NodeText)} (trail : Text)
    {l : EdgeText × NodeText} (hl : l ∈ links) :
    l.1.text ⊆ linksText links trail ∧ l.2.text ⊆ linksText links trail := by
  induction links with
  | nil => cases hl
  | cons m links ih =>
      obtain ⟨e, n⟩ := m
      rw [linksText]
      rcases List.mem_cons.1 hl with rfl | hl
      · exact ⟨fun c hc => by simp [hc], fun c hc => by simp [hc]⟩
      · obtain ⟨he, hn⟩ := ih hl
        exact ⟨fun c hc => by simp [he hc], fun c hc => by simp [hn hc]⟩

theorem isUnquoted_first {p : Layout} (hp : Text.IsUnquoted p.text) :
    Text.IsUnquoted p.first.text :=
  hp.of_subset fun c hc => by simp [text, hc]

theorem isUnquoted_link {p : Layout} (hp : Text.IsUnquoted p.text) {l : EdgeText × NodeText}
    (hl : l ∈ p.links) : Text.IsUnquoted l.1.text ∧ Text.IsUnquoted l.2.text := by
  obtain ⟨he, hn⟩ := mem_linksText p.trail hl
  exact ⟨hp.of_subset fun c hc => by simp [text, he hc],
    hp.of_subset fun c hc => by simp [text, hn hc]⟩

/-- The label of an edge without quotation marks is clean. -/
theorem isClean_label {e : EdgeText} (he : e.IsWell) (hq : Text.IsUnquoted e.text) :
    ∀ l, e.label = some l → Label.IsClean l := by
  intro l hl
  cases e with
  | plain b a b' => cases hl
  | piped b a m k b' =>
      rw [EdgeText.label] at hl
      split at hl
      · cases hl
      · rename_i hne
        cases hl
        exact Label.isClean_clean hne fun c hc => hq c (by simp [EdgeText.text, hc])
  | inline b o g k g' a b' =>
      cases hl
      exact he.2.2.2.2.2.1

/-- The node that a text of a node comes out as. -/
def finalNode (n : NodeText) : Node := mapNode Repair.relabel (NodeText.ofNode n.node).node

theorem isClean_mapNode_relabel {n : NodeText} (hn : n.IsWell) (hq : Text.IsUnquoted n.text) :
    (mapNode Repair.relabel n.node).IsClean := by
  cases n with
  | bare w => exact hn.id
  | shaped id c i =>
      refine isClean_relabel hn.id fun d hd => hq d ?_
      have := Segment.mem_of_mem_classifyInterior hd
      simp [NodeText.text, this]

theorem isUnquoted_ofNode {n : NodeText} (hq : Text.IsUnquoted n.text) :
    Text.IsUnquoted (NodeText.ofNode n.node).text := by
  cases n with
  | bare w => exact hq
  | shaped id c i =>
      rw [NodeText.text_ofNode]
      refine all_render_node (fun _ => isQuotationMark_of_isWritten) ?_ ?_
      · exact hq.of_subset fun d hd => by simp [NodeText.text, hd]
      · exact hq.of_subset fun d hd => by
          have := Segment.mem_of_mem_classifyInterior hd
          simp [NodeText.text, this]

theorem isWell_ofNode_node {n : NodeText} (hn : n.IsWell) : (NodeText.ofNode n.node).IsWell := by
  have := isWell_mapNode keepsShapes_id hn
  cases n <;> exact this

theorem isClean_finalNode {n : NodeText} (hn : n.IsWell) (hq : Text.IsUnquoted n.text) :
    (finalNode n).IsClean :=
  isClean_mapNode_relabel (isWell_ofNode_node hn) (isUnquoted_ofNode hq)

/-- The statement that the line comes out as. -/
def statement (p : Layout) : Statement :=
  ⟨finalNode p.first, p.links.map fun l => ⟨l.1.label, finalNode l.2⟩⟩

theorem isClean_statement {p : Layout} (hp : p.IsReady) : p.statement.IsClean := by
  refine ⟨isClean_finalNode hp.well.first (isUnquoted_first hp.unquoted), fun l hl => ?_⟩
  obtain ⟨m, hm, rfl⟩ := List.mem_map.1 hl
  obtain ⟨he, hn⟩ := hp.well.links m hm
  obtain ⟨hqe, hqn⟩ := isUnquoted_link hp.unquoted hm
  exact ⟨fun k hk => isClean_label he hqe k hk, isClean_finalNode hn hqn⟩

/-- An edge and the node that it leads to, in their canonical form. -/
def ofLink (l : Link) : EdgeText × NodeText :=
  (EdgeText.ofLabel [' '] l.label [' '], NodeText.ofNode l.target)

/-- The canonical layout of a statement. -/
def ofStatement (s : Statement) : Layout :=
  ⟨[], NodeText.ofNode s.first, s.links.map ofLink, []⟩

theorem render_link (l : Link) : l.render = (ofLink l).1.text ++ (ofLink l).2.text := by
  rw [ofLink, EdgeText.text_ofLabel, NodeText.text_ofNode]
  simp [Link.render]

theorem linksText_ofLink (links : List Link) :
    linksText (links.map ofLink) [] = links.flatMap Link.render := by
  induction links with
  | nil => rfl
  | cons l links ih =>
      rw [List.map_cons, linksText, ih, List.flatMap_cons, render_link, List.append_assoc]

theorem text_ofStatement (s : Statement) : (ofStatement s).text = s.render := by
  rw [text, ofStatement, linksText_ofLink, NodeText.text_ofNode]
  rfl

theorem isWell_ofLink {l : Link} (hl : l.IsClean) : (ofLink l).1.IsWell ∧ (ofLink l).2.IsWell := by
  have hspace : Text.IsBlanks [' '] := .space
  exact ⟨EdgeText.isWell_ofLabel hspace (fun k hk => (hl.1 k hk).isLegal.pipe) hspace,
    NodeText.IsClean.isWell_ofNode hl.2⟩

theorem isWell_ofStatement {s : Statement} (hs : s.IsClean) : (ofStatement s).IsWell := by
  refine ⟨.nil, NodeText.IsClean.isWell_ofNode hs.1, fun l hl => ?_, .nil⟩
  obtain ⟨m, hm, rfl⟩ := List.mem_map.1 hl
  exact isWell_ofLink (hs.2 m hm)

/-- What the rules that work line by line make of a layout. -/
def finish (p : Layout) : Layout := p.blanked.relabelled.respaced.straightened.padded

theorem mapNode_id (n : Node) : mapNode id n = n := by
  cases n <;> rfl

theorem mapNode_reidentify {n : Node} (hn : n.IsClean) : mapNode Repair.reidentify n = n := by
  cases n with
  | bare w => rfl
  | shaped m =>
      have : Repair.reidentify m = m := reidentify_eq_self hn.1
      rw [mapNode, this]

/-- A node is not changed any more once it is clean. -/
theorem finish_node {n : NodeText} (hn : n.IsWell) (hq : Text.IsUnquoted n.text) :
    (NodeText.ofNode (mapNode id (NodeText.ofNode (mapNode id (NodeText.ofNode
      (mapNode Repair.reidentify (NodeText.ofNode (mapNode Repair.relabel (NodeText.ofNode
        (mapNode id n.node)).node)).node)).node)).node)) = NodeText.ofNode (finalNode n) := by
  have hclean := isClean_finalNode hn hq
  rw [finalNode] at hclean ⊢
  simp only [mapNode_id]
  rw [NodeText.node_ofNode hclean, mapNode_reidentify hclean, NodeText.node_ofNode hclean,
    NodeText.node_ofNode hclean]

theorem label_straight {e : EdgeText} (h : ∀ l, e.label = some l → Label.IsClean l) :
    e.straight.label = e.label :=
  EdgeText.label_ofLabel h

theorem finish_edge {e : EdgeText} (he : e.IsWell) (hq : Text.IsUnquoted e.text) :
    e.blank.cleaned.spaced.straight.padded = EdgeText.ofLabel [' '] e.label [' '] := by
  have hlabel : e.blank.cleaned.spaced.label = e.label := by
    rw [EdgeText.label_spaced, EdgeText.label_cleaned, EdgeText.label_blank]
  have hclean := isClean_label he hq
  rw [← hlabel] at hclean
  rw [EdgeText.padded, label_straight hclean, hlabel]

/-- The line comes out as the canonical line of its statement, with blanks around. -/
theorem core_finish {p : Layout} (hp : p.IsReady) : p.finish.core = p.statement.render := by
  have hlinks : p.finish.links = (ofStatement p.statement).links := by
    simp only [finish, padded, straightened, respaced, relabelled, blanked, map, List.map_map,
      ofStatement, statement]
    refine List.map_congr_left fun l hl => ?_
    obtain ⟨he, hn⟩ := hp.well.links l hl
    obtain ⟨hqe, hqn⟩ := isUnquoted_link hp.unquoted hl
    exact Prod.ext (finish_edge he hqe) (finish_node hn hqn)
  have hfirst : p.finish.first = NodeText.ofNode p.statement.first :=
    finish_node hp.well.first (isUnquoted_first hp.unquoted)
  rw [← text_ofStatement, core, hlinks, hfirst]
  rfl

/-! ## Lines that stay what they are taken for -/

theorem first_map (p : Layout) (fe : EdgeText → EdgeText) (fn : ShapedNode → ShapedNode)
    (fb : Text → Text) :
    (∃ w, p.first = .bare w ∧ (p.map fe fn fb).first = .bare w) ∨
      (∃ id c i, p.first = .shaped id c i) ∧ ∃ id c i, (p.map fe fn fb).first = .shaped id c i := by
  cases h : p.first with
  | bare w => exact .inl ⟨w, rfl, by rw [map, h]; rfl⟩
  | shaped id c i =>
      refine .inr ⟨⟨id, c, i, rfl⟩, ?_⟩
      rw [map, h]
      exact ⟨_, _, _, rfl⟩

theorem isMistakable_map {fe : EdgeText → EdgeText}
    (hfe : ∀ e, (fe e).before.isEmpty = e.before.isEmpty) (p : Layout)
    (fn : ShapedNode → ShapedNode) (fb : Text → Text) :
    (p.map fe fn fb).isMistakable = p.isMistakable := by
  have hends : (p.map fe fn fb).endsFirst = p.endsFirst := by
    rw [endsFirst, endsFirst, map]
    cases p.links with
    | nil => rfl
    | cons l links => simp [hfe]
  have hempty : (p.map fe fn fb).links.isEmpty = p.links.isEmpty := by
    rw [map]
    cases p.links <;> rfl
  rw [isMistakable, isMistakable, isDirective, isDirective, isRoot, isRoot, hends, hempty]
  rcases first_map p fe fn fb with ⟨w, h, h'⟩ | ⟨⟨_, _, _, h⟩, _, _, _, h'⟩
  · rw [h, h']
  · rw [h, h']

theorem isEmpty_space (b : Text) : (EdgeText.space b).isEmpty = b.isEmpty := by
  unfold EdgeText.space
  split
  · rename_i h
    rw [h]
  · rename_i h
    rw [List.isEmpty_eq_false_iff.2 h]
    rfl

theorem before_ofLabel (b : Text) (label : Option Text) (b' : Text) :
    (EdgeText.ofLabel b label b').before = b := by
  cases label <;> rfl

theorem isMistakable_blanked (p : Layout) : p.blanked.isMistakable = p.isMistakable :=
  isMistakable_map (fun e => by cases e <;> rfl) p _ _

theorem isMistakable_relabelled (p : Layout) : p.relabelled.isMistakable = p.isMistakable := by
  refine isMistakable_map (fun e => ?_) p _ _
  cases e with
  | plain b a b' => rfl
  | piped b a m l b' =>
      rw [EdgeText.cleaned]
      split <;> rfl
  | inline b o g l g' a b' => rfl

theorem isMistakable_respaced (p : Layout) : p.respaced.isMistakable = p.isMistakable := by
  refine isMistakable_map (fun e => ?_) p _ _
  cases e <;> exact isEmpty_space _

theorem isMistakable_straightened (p : Layout) : p.straightened.isMistakable = p.isMistakable :=
  isMistakable_map (fun e => by rw [EdgeText.straight, before_ofLabel, isEmpty_space]) p _ _

theorem isStraight_straightened {p : Layout} (hp : p.IsReady) : p.straightened.IsStraight := by
  intro l hl
  obtain ⟨m, hm, rfl⟩ := List.mem_map.1 hl
  exact ⟨_, _, _, rfl, EdgeText.isBlanks_space _,
    isClean_label (hp.well.links m hm).1 (isUnquoted_link hp.unquoted hm).1,
    EdgeText.isBlanks_space _⟩

theorem IsReady.padded {p : Layout} (hp : p.IsReady) (hs : p.IsStraight) : p.padded.IsReady :=
  hp.of_eq keeps_padArrows (padArrows_text hp.well hs) (isWell_padded hp.well) (getLast?_space _)

theorem IsReady.finish {p : Layout} (hp : p.IsReady) : p.finish.IsReady := by
  have hspaced := hp.blanked.relabelled.respaced (hasCleanEdges_relabelled hp.blanked.well)
  exact hspaced.straightened.padded (isStraight_straightened hspaced)

end Layout

/-! ## Documents -/

/-- A line of a document: a root declaration, or a statement. -/
inductive Entry where
  | root (line : Text)
  | statement (p : Layout)

namespace Entry

def text : Entry → Text
  | root line => line
  | statement p => p.text

def IsReady : Entry → Prop
  | root line => Text.IsLine line ∧ (Line.rootDirection? line).isSome = true
  | statement p => p.IsReady

theorem IsReady.isLine {e : Entry} (he : e.IsReady) : Text.IsLine e.text := by
  cases e with
  | root line => exact he.1
  | statement p => exact Layout.IsReady.isLine he

/-- What becomes of the line where statements are changed. -/
def through (F : Layout → Layout) : Entry → Entry
  | root line => root line
  | statement p => statement (if p.isMistakable then p else F p)

theorem IsReady.through {F : Layout → Layout} {e : Entry} (he : e.IsReady)
    (hF : ∀ p, e = statement p → (F p).IsReady) : (e.through F).IsReady := by
  cases e with
  | root line => exact he
  | statement p =>
      rw [Entry.through]
      split
      · exact he
      · exact hF p rfl

/-- A change of layouts that keeps them ready and what their lines are taken for. -/
def Carries (F : Layout → Layout) : Prop :=
  ∀ p : Layout, p.IsReady → (F p).IsReady ∧ (F p).isMistakable = p.isMistakable

/-- A rule for lines that may hold statements, line by line. -/
theorem mapStatements_through {f : Text → Text} {F R : Layout → Layout} {es : List Entry}
    (hes : ∀ e ∈ es, e.IsReady) (hF : Carries F)
    (hR : ∀ p : Layout, p.IsReady → f (F p).text = (R (F p)).text) :
    Line.mapStatements f (Text.joinLines (es.map fun e => (e.through F).text))
      = Text.joinLines (es.map fun e => (e.through (R ∘ F)).text) := by
  refine Line.mapStatements_joinLines (fun e he => ?_) fun e he => ?_
  · refine ((hes e he).through fun p hp => ?_).isLine
    subst hp
    exact (hF p (hes _ he)).1
  · have hready := hes e he
    cases e with
    | root line =>
        obtain ⟨d, hd⟩ := Option.isSome_iff_exists.1 hready.2
        show (if Line.mayHoldStatement line then f line else line) = line
        rw [Line.mayHoldStatement_of_rootDirection? hd]
        rfl
    | statement p =>
        obtain ⟨hFready, hkind⟩ := hF p hready
        have hmay : Line.mayHoldStatement (if p.isMistakable then p else F p).text
            = !p.isMistakable := by
          cases hm : p.isMistakable with
          | true =>
              rw [if_pos rfl, Layout.mayHoldStatement_text (Layout.IsReady.well hready), hm]
          | false =>
              rw [if_neg (by decide), Layout.mayHoldStatement_text hFready.well, hkind, hm]
        show (if Line.mayHoldStatement (if p.isMistakable then p else F p).text
            then f (if p.isMistakable then p else F p).text
            else (if p.isMistakable then p else F p).text)
          = (if p.isMistakable then p else R (F p)).text
        rw [hmay]
        cases p.isMistakable with
        | true => rfl
        | false => exact hR p hready

/-- The line behind the rules that work line by line. -/
def finalText : Entry → Text
  | root line => Text.trim line
  | statement p => if p.isMistakable then p.core else p.statement.render

theorem trim_ne_nil_of_rootDirection? {line : Text} (h : (Line.rootDirection? line).isSome = true) :
    Text.trim line ≠ [] := by
  intro hnil
  rw [Line.rootDirection?, hnil] at h
  exact absurd h (by decide)

theorem finalText_eq {e : Entry} (he : e.IsReady) :
    Text.trim (e.through Layout.finish).text = e.finalText := by
  cases e with
  | root line => rfl
  | statement p =>
      show Text.trim (if p.isMistakable then p else p.finish).text
        = if p.isMistakable then p.core else p.statement.render
      cases p.isMistakable with
      | true => exact Layout.trim_text (Layout.IsReady.well he)
      | false =>
          show Text.trim p.finish.text = p.statement.render
          rw [Layout.trim_text (Layout.IsReady.finish he).well, Layout.core_finish he]

theorem finalText_ne_nil {e : Entry} (he : e.IsReady) : e.finalText ≠ [] := by
  rw [← finalText_eq he]
  have hthrough : (e.through Layout.finish).IsReady :=
    he.through fun p hp => by
      subst hp
      exact Layout.IsReady.finish he
  cases e with
  | root line => exact trim_ne_nil_of_rootDirection? he.2
  | statement p =>
      rw [Entry.through] at hthrough ⊢
      show Text.trim (Layout.text _) ≠ []
      rw [Layout.trim_text (Layout.IsReady.well hthrough)]
      exact Layout.core_ne_nil (Layout.IsReady.well hthrough)

theorem trimLines_joinLines {es : List Entry} (hes : ∀ e ∈ es, e.IsReady) :
    Repair.trimLines (Text.joinLines (es.map fun e => (e.through Layout.finish).text))
      = Text.joinLines (es.map finalText) := by
  have hlines : ∀ line ∈ es.map fun e => (e.through Layout.finish).text, Text.IsLine line := by
    intro line hline
    obtain ⟨e, he, rfl⟩ := List.mem_map.1 hline
    refine ((hes e he).through fun p hp => ?_).isLine
    subst hp
    exact Layout.IsReady.finish (hes _ he)
  have htrim : (es.map fun e => (e.through Layout.finish).text).map Text.trim
      = es.map finalText := by
    rw [List.map_map]
    exact List.map_congr_left fun e he => finalText_eq (hes e he)
  rw [Repair.trimLines, Text.lines_joinLines hlines, htrim, List.filter_eq_self.2]
  intro line hline
  obtain ⟨e, he, rfl⟩ := List.mem_map.1 hline
  simpa using finalText_ne_nil (hes e he)

theorem carries_id : Carries id := fun _ hp => ⟨hp, rfl⟩

theorem carries_blanked : Carries Layout.blanked :=
  fun p hp => ⟨hp.blanked, Layout.isMistakable_blanked p⟩

theorem carries_relabelled : Carries (Layout.relabelled ∘ Layout.blanked) := fun p hp =>
  ⟨hp.blanked.relabelled,
    (Layout.isMistakable_relabelled _).trans (Layout.isMistakable_blanked p)⟩

theorem carries_respaced : Carries (Layout.respaced ∘ Layout.relabelled ∘ Layout.blanked) :=
  fun p hp =>
    ⟨(carries_relabelled p hp).1.respaced (Layout.hasCleanEdges_relabelled hp.blanked.well),
    (Layout.isMistakable_respaced _).trans (carries_relabelled p hp).2⟩

theorem carries_straightened :
    Carries (Layout.straightened ∘ Layout.respaced ∘ Layout.relabelled ∘ Layout.blanked) :=
  fun p hp => ⟨(carries_respaced p hp).1.straightened,
    (Layout.isMistakable_straightened _).trans (carries_respaced p hp).2⟩

/-- The rules that work line by line, on a document of ready lines. -/
theorem lineRules_joinLines {es : List Entry} (hes : ∀ e ∈ es, e.IsReady) :
    Repair.normalizeSpacing (Repair.repairEdges (Repair.sanitizeIdents (Repair.sanitizeLabels
      (Repair.normalizeBrackets (Text.joinLines (es.map text))))))
      = Text.joinLines (es.map finalText) := by
  have hstart : es.map text = es.map fun e => (e.through id).text :=
    List.map_congr_left fun e _ => by cases e <;> simp [through]
  have hbrackets : Repair.normalizeBrackets (Text.joinLines (es.map fun e => (e.through id).text))
      = _ := mapStatements_through hes carries_id fun p hp => Layout.normalizeBrackets_text hp.well
  have hlabels : Repair.sanitizeLabels (Text.joinLines (es.map fun e =>
      (e.through Layout.blanked).text)) = _ :=
    mapStatements_through hes carries_blanked fun p hp =>
      Layout.sanitizeLabels_text hp.blanked.well
  have hidents : Repair.sanitizeIdents (Text.joinLines (es.map fun e =>
      (e.through (Layout.relabelled ∘ Layout.blanked)).text)) = _ :=
    mapStatements_through hes carries_relabelled fun p hp =>
      Layout.sanitizeIdents_text hp.blanked.relabelled.well
        (Layout.hasCleanEdges_relabelled hp.blanked.well)
  have hedges : Repair.repairEdges (Text.joinLines (es.map fun e =>
      (e.through (Layout.respaced ∘ Layout.relabelled ∘ Layout.blanked)).text)) = _ :=
    mapStatements_through hes carries_respaced fun p hp =>
      Layout.repairEdges_text (carries_respaced p hp).1.well
  have harrows : Line.mapFreeText Repair.padArrows (Text.joinLines (es.map fun e =>
      (e.through (Layout.straightened ∘ Layout.respaced ∘ Layout.relabelled ∘
        Layout.blanked)).text)) = _ :=
    mapStatements_through hes carries_straightened fun p hp =>
      Layout.padArrows_text (carries_straightened p hp).1.well
        (Layout.isStraight_straightened (carries_respaced p hp).1)
  rw [hstart, hbrackets, Function.comp_id, hlabels, hidents, hedges, Repair.normalizeSpacing,
    harrows]
  exact trimLines_joinLines hes

end Entry

end Flowchart
