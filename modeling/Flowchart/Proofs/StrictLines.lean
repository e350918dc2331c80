import Flowchart.Proofs.OutputLines
import Flowchart.Proofs.StrictNodes

/-!
# Lines in their strict form

The strict check takes a line of canonical nodes and arrows apart at its arrows. It passes when the
labels are strict and the declarations go through, and then it has recorded the nodes and the edges
of the line. A document of such lines passes when all of its lines do.
-/

namespace Flowchart

/-! ## Operands -/

namespace Check

/-- A text that lies in one operand, with what comes behind it. -/
def IsOperandPart (t : Text) : Prop :=
  ∀ s, operand (t ++ s) = (t ++ (operand s).1, (operand s).2)

theorem IsOperandPart.append {t u : Text} (ht : IsOperandPart t) (hu : IsOperandPart u) :
    IsOperandPart (t ++ u) := by
  intro s
  rw [List.append_assoc, ht, hu, List.append_assoc]

theorem isOperandPart_of_chars {t : Text}
    (h : ∀ c ∈ t, startsOperator c = false ∧ isOpener c = false) : IsOperandPart t := by
  induction t with
  | nil => exact fun s => rfl
  | cons c t ih =>
      obtain ⟨hstart, hopener⟩ := h c (by simp)
      have ih := ih fun d hd => h d (by simp [hd])
      intro s
      have := ih s
      rw [operand] at this ⊢
      rw [List.cons_append, operandFrom, if_neg (by simp [hstart]), if_neg (by simp [hopener]),
        this]
      rfl

theorem operandFrom_closer {closer : Char} {i : Text} (hi : closer ∉ i) (s : Text) :
    operandFrom (some closer) (i ++ closer :: s)
      = (i ++ closer :: (operand s).1, (operand s).2) := by
  induction i with
  | nil =>
      rw [List.nil_append, operandFrom, if_pos rfl]
      rfl
  | cons c i ih =>
      rw [List.mem_cons, not_or] at hi
      rw [List.cons_append, operandFrom, if_neg (Ne.symm hi.1), ih hi.2]
      rfl

theorem isOperandPart_shape {c : Char} {i : Text} (hc : isOpener c = true)
    (hi : closerOf c ∉ i) : IsOperandPart (c :: i ++ [closerOf c]) := by
  intro s
  have hstart : startsOperator c = false := by
    simp only [isOpener, Bool.or_eq_true, beq_iff_eq] at hc
    rcases hc with (rfl | rfl) | rfl <;> decide
  have hsplit : c :: i ++ [closerOf c] ++ s = c :: (i ++ closerOf c :: s) := by simp
  rw [hsplit, operand, operandFrom, if_neg (by simp [hstart]), if_pos hc, operandFrom_closer hi]
  simp

/-- The characters of operators are those of arrows. -/
theorem isOperatorChar_eq_isArrowChar (c : Char) : isOperatorChar c = Token.isArrowChar c := by
  rw [Bool.eq_iff_iff]
  simp only [isOperatorChar, startsOperator, Token.isArrowChar, Bool.or_eq_true]
  tauto

theorem startsOperator_eq_false {c : Char} (h : Token.isArrowChar c = false) :
    startsOperator c = false := by
  rw [← isOperatorChar_eq_isArrowChar, isOperatorChar, Bool.or_eq_false_iff] at h
  exact h.1

theorem isOperandPart_blanks {b : Text} (hb : Text.IsBlanks b) : IsOperandPart b :=
  isOperandPart_of_chars fun c hc =>
    ⟨startsOperator_eq_false (Token.isArrowChar_eq_false_of_isBlank (hb c hc)),
      Segment.isOpener_eq_false_of_isBlank (hb c hc)⟩

theorem isOperandPart_id {id : Text} (hid : Ident.isValid id = true) : IsOperandPart id := by
  refine isOperandPart_of_chars fun c hc => ?_
  have halnum := (Ident.isValid_iff.1 hid).2.1 c hc
  exact ⟨startsOperator_eq_false (Token.isArrowChar_eq_false_of_isAlphanum halnum),
    (Segment.not_delimiter_of_isAlphanum halnum).1⟩

theorem operand_of_stop {s : Text} (hs : ∀ c ∈ s.head?, startsOperator c = true) :
    operand s = ([], s) := by
  cases s with
  | nil => rfl
  | cons c s => rw [operand, operandFrom, if_pos (hs c rfl)]

end Check

theorem Shape.closerOf_notMem_interior (s : Shape) {l : Text} (hl : Label.IsLegal l) :
    closerOf s.opener ∉ s.interior l := by
  have hnot {c : Char} (hc : Label.isIllegal c = true) : c ∉ l := by
    intro hm
    rw [hl c hm] at hc
    cases hc
  cases s <;> simp [opener, interior, closerOf, hnot (c := ')') (by decide),
    hnot (c := ']') (by decide), hnot (c := '}') (by decide)]

namespace Layout

theorem IsRawNode.isOperandPart {n : NodeText} (hn : IsRawNode n) :
    Check.IsOperandPart n.text := by
  obtain ⟨m, rfl, hm, -⟩ := hn
  obtain ⟨hid, hlabel⟩ := isProperNode_iff.1 hm
  cases m with
  | bare id => exact Check.isOperandPart_id hid
  | shaped k =>
      have := (Check.isOperandPart_id hid).append (Check.isOperandPart_shape
        k.shape.isOpener_opener (k.shape.closerOf_notMem_interior (hlabel k rfl).2))
      simpa [NodeText.ofNode, NodeText.text, Node.id] using this

end Layout

/-! ## Nodes -/

namespace NodeText

theorem takeWhile_text {n : NodeText} (hn : n.IsWell) :
    n.text.takeWhile Char.isAlphanum = n.id := by
  have hid := Layout.isAlphanum_of_isWell hn
  cases n with
  | bare id => exact List.takeWhile_eq_self_iff.2 hid
  | shaped id c i =>
      rw [text, List.append_assoc]
      refine Segment.takeWhile_append_of_stop hid fun d hd => ?_
      cases hd
      exact (Layout.head_opener (hn.shape id c i rfl).1).1

/-- A well written node is known from its text. -/
theorem eq_of_text_eq {m n : NodeText} (hm : m.IsWell) (hn : n.IsWell) (h : m.text = n.text) :
    m = n := by
  have hid : m.id = n.id := by rw [← takeWhile_text hm, ← takeWhile_text hn, h]
  cases m with
  | bare id =>
      cases n with
      | bare id' => rw [show id = id' from hid]
      | shaped id' c i =>
          cases hid
          simp [text] at h
  | shaped id c i =>
      cases n with
      | bare id' =>
          cases hid
          simp [text] at h
      | shaped id' c' i' =>
          cases hid
          simp only [text, List.append_assoc, List.cons_append, List.append_cancel_left_eq,
            List.cons.injEq] at h
          obtain ⟨rfl, h⟩ := h
          rw [List.append_cancel_right h]

/-- The canonical text of a node in its strict form. -/
def IsStrict (n : NodeText) : Prop := n = ofNode n.node ∧ n.node.IsStrict

theorem node_ofNode_of_isStrict {n : Node} (h : n.IsStrict) : (ofNode n).node = n := by
  cases n with
  | bare id => rfl
  | shaped n =>
      obtain ⟨-, -, htrimmed, hlegal, hslants⟩ := h
      have htrim := Text.trim_eq_self htrimmed
      have hread := Segment.classifyInterior_interior n.shape hlegal fun _ c hc => by
        rw [htrim, Option.mem_def] at hc
        simp only [Check.slantsShape, hc, Option.any_some, Bool.or_eq_false_iff] at hslants
        exact hslants.1
      rw [htrim] at hread
      simp [ofNode, node, hread]

theorem isStrict_ofNode {n : Node} (h : n.IsStrict) : (ofNode n).IsStrict := by
  rw [IsStrict, node_ofNode_of_isStrict h]
  exact ⟨rfl, h⟩

end NodeText

theorem Node.IsStrict.isRawNode {n : Node} (h : n.IsStrict) :
    Layout.IsRawNode (NodeText.ofNode n) := by
  refine ⟨n, rfl, Layout.isProperNode_iff.2 ⟨h.id, ?_⟩, ?_⟩
  · rintro k rfl
    exact ⟨h.2.1, h.2.2.2.1⟩
  · rintro k rfl
    exact h.2.2.1

namespace Check

/-- The operand of a canonical node is read as that node, if the node is strict. -/
theorem parseNode_text_eq_ok_iff {n : NodeText} (hn : Layout.IsRawNode n) {b b' : Text}
    (hb : Text.IsBlanks b) (hb' : Text.IsBlanks b') {k : Node} :
    parseNode (b ++ n.text ++ b') = .ok k ↔ k = n.node ∧ n.IsStrict := by
  have htrim : Text.trim (b ++ n.text ++ b') = n.text :=
    Text.trim_append_append hb hb' (Layout.text_ne_nil hn.isWell)
      (Layout.isTrimmed_text hn.isWell)
  rw [parseNode_eq_ok_iff, htrim]
  constructor
  · rintro ⟨htext, hk⟩
    rw [← NodeText.text_ofNode] at htext
    have := NodeText.eq_of_text_eq hn.isWell hk.isRawNode.isWell htext
    have hnode : n.node = k := by rw [this, NodeText.node_ofNode_of_isStrict hk]
    exact ⟨hnode.symm, by rw [NodeText.IsStrict, hnode]; exact ⟨this, hk⟩⟩
  · rintro ⟨rfl, hself, hstrict⟩
    refine ⟨?_, hstrict⟩
    rw [← NodeText.text_ofNode, ← hself]

end Check

/-! ## Edges -/

/-- An edge label in its strict form. -/
def Label.IsStrict (l : Text) : Prop := Text.trim l ≠ [] ∧ IsLegal l

namespace Check

theorem edgeLabel_none {line t : Text} (ht : ∀ c ∈ t.head?, c ≠ '|') :
    edgeLabel line t = .ok (none, t) := by
  unfold edgeLabel
  split
  · exact absurd rfl (ht '|' rfl)
  · rfl

theorem edgeLabel_some_eq_ok_iff {line l t : Text} (hl : '|' ∉ l) {r : Option Text × Text} :
    edgeLabel line ('|' :: (l ++ '|' :: t)) = .ok r ↔ Label.IsStrict l ∧ r = (some l, t) := by
  rw [edgeLabel, Segment.untilPipe?_append hl]
  dsimp only
  split
  · rename_i hempty
    simp [Label.IsStrict, List.isEmpty_iff.1 hempty]
  · rename_i hempty
    have hne : Text.trim l ≠ [] := by simpa using hempty
    cases h : checkLabel l with
    | error fault =>
        have hlegal : ¬ Label.IsLegal l := by
          rw [← checkLabel_eq_ok_iff, h]
          simp
        simp [Except.map, Label.IsStrict, hlegal]
    | ok u => simp [Except.map, Label.IsStrict, hne, checkLabel_eq_ok_iff.1 h, eq_comm]

theorem takeWhile_isOperatorChar_arrow {t : Text} (ht : ∀ c ∈ t.head?, isOperatorChar c = false) :
    (arrow ++ t).takeWhile isOperatorChar = arrow :=
  Segment.takeWhile_append_of_stop
    (List.all_eq_true.1 (by decide : arrow.all isOperatorChar = true)) ht

theorem takeWhile_renderEdge {t : Text} (label : Option Text)
    (ht : ∀ c ∈ t.head?, isOperatorChar c = false) :
    (renderEdge arrow label ++ t).takeWhile isOperatorChar = arrow := by
  cases label with
  | none => exact takeWhile_isOperatorChar_arrow ht
  | some l =>
      rw [renderEdge, List.append_assoc, List.append_assoc]
      refine takeWhile_isOperatorChar_arrow fun c hc => ?_
      cases hc
      decide

/-- What is read behind an arrow. -/
theorem edgeLabel_renderEdge_eq_ok_iff {line t : Text} {label : Option Text}
    (hlabel : ∀ l ∈ label, '|' ∉ l) (ht : ∀ c ∈ t.head?, c ≠ '|') {r : Option Text × Text} :
    edgeLabel line ((renderEdge arrow label ++ t).drop arrow.length) = .ok r ↔
      (∀ l ∈ label, Label.IsStrict l) ∧ r = (label, t) := by
  cases label with
  | none => simp [renderEdge, edgeLabel_none ht, eq_comm]
  | some l =>
      have hsplit : (renderEdge arrow (some l) ++ t).drop arrow.length
          = '|' :: (l ++ '|' :: t) := by
        simp [renderEdge]
      rw [hsplit, edgeLabel_some_eq_ok_iff (hlabel l rfl)]
      simp

/-- An edge and the node behind it. -/
theorem readLinks_link_eq_ok_iff {line source t : Text} {label : Option Text}
    (hlabel : ∀ l ∈ label, '|' ∉ l) (ht : ∀ c ∈ t.head?, isOperatorChar c = false ∧ c ≠ '|')
    {chart chart' : Summary} :
    readLinks line chart source (renderEdge arrow label ++ t) = .ok chart' ↔
      (∀ l ∈ label, Label.IsStrict l) ∧
        ∃ node next, parseNode (operand t).1 = .ok node ∧ Summary.declare chart node = .ok next ∧
          readLinks line { next with edges := next.edges ++ [⟨source, node.id, label⟩] } node.id
            (operand t).2 = .ok chart' := by
  have hne : (renderEdge arrow label ++ t).isEmpty = false := by
    cases label <;> rfl
  have htake := takeWhile_renderEdge label fun c hc => (ht c hc).1
  have hpipe : ∀ c ∈ t.head?, c ≠ '|' := fun c hc => (ht c hc).2
  rw [readLinks, if_neg (by simp [hne]), dif_pos htake]
  split
  · rename_i fault h
    refine iff_of_false (by simp) fun hr => ?_
    rw [(edgeLabel_renderEdge_eq_ok_iff hlabel hpipe).2 ⟨hr.1, rfl⟩] at h
    cases h
  · rename_i label' rest h
    obtain ⟨hstrict, hr⟩ := (edgeLabel_renderEdge_eq_ok_iff hlabel hpipe).1 h
    cases hr
    cases hnode : parseNode (operand t).1 with
    | error fault => simp
    | ok node =>
        dsimp only
        cases hnext : Summary.declare chart node with
        | error fault => simp [hnext]
        | ok next =>
            have hall : ∀ l, label = some l → Label.IsStrict l := hstrict
            simpa [hnext] using fun _ => hall

end Check

/-! ## Lines -/

namespace Layout

/-- The nodes of the line as they are read. -/
def nodes (p : Layout) : List Node := p.first.node :: p.links.map fun l => l.2.node

/-- The edges behind a node, each with its label as it is written. -/
def linkEdges (source : Text) : List (EdgeText × NodeText) → List Edge
  | [] => []
  | (e, n) :: links => ⟨source, n.id, rawLabel e⟩ :: linkEdges n.id links

def edges (p : Layout) : List Edge := linkEdges p.first.id p.links

/-- Every node and every label is strict. -/
structure IsStrict (p : Layout) : Prop where
  first : p.first.IsStrict
  links : ∀ l ∈ p.links, (∀ t ∈ rawLabel l.1, Label.IsStrict t) ∧ l.2.IsStrict

/-- The blanks that end the operand in front of the links. -/
def gap (links : List (EdgeText × NodeText)) (trail : Text) : Text :=
  match links with
  | [] => trail
  | l :: _ => l.1.before

/-- The links from the first arrow on. -/
def fromArrow (links : List (EdgeText × NodeText)) (trail : Text) : Text :=
  (linksText links trail).drop (gap links trail).length

theorem fromArrow_cons {b b' : Text} {label : Option Text} {n : NodeText}
    {links : List (EdgeText × NodeText)} (trail : Text) :
    fromArrow ((EdgeText.ofLabel b label b', n) :: links) trail =
      renderEdge arrow label ++ (b' ++ (n.text ++ linksText links trail)) := by
  rw [fromArrow, gap, linksText, EdgeText.text_ofLabel, before_ofLabel,
    List.append_assoc, List.drop_left, List.append_assoc]

variable {links : List (EdgeText × NodeText)} {trail : Text}

/-- What stands in front of the first arrow is blank. -/
theorem linksText_eq_gap (hlinks : ∀ l ∈ links, IsRawEdge l.1 ∧ IsRawNode l.2)
    (htrail : Text.IsBlanks trail) :
    Text.IsBlanks (gap links trail) ∧
      linksText links trail = gap links trail ++ fromArrow links trail ∧
      ∀ c ∈ (fromArrow links trail).head?, Check.startsOperator c = true := by
  cases links with
  | nil => exact ⟨htrail, by simp [fromArrow, linksText, gap], by simp [fromArrow, linksText, gap]⟩
  | cons l links =>
      obtain ⟨e, n⟩ := l
      obtain ⟨b, label, b', rfl, hb, -⟩ := (hlinks (e, n) (by simp)).1
      rw [fromArrow_cons, gap, linksText, EdgeText.text_ofLabel, before_ofLabel]
      refine ⟨hb, by simp, fun c hc => ?_⟩
      cases label <;> (cases hc; rfl)

/-- The operand of a node ends in front of the next arrow. -/
theorem operand_node {n : NodeText} (hn : IsRawNode n) {b : Text} (hb : Text.IsBlanks b)
    (hlinks : ∀ l ∈ links, IsRawEdge l.1 ∧ IsRawNode l.2) (htrail : Text.IsBlanks trail) :
    Check.operand (b ++ (n.text ++ linksText links trail)) =
      (b ++ n.text ++ gap links trail, fromArrow links trail) := by
  obtain ⟨hgap, htext, hstop⟩ := linksText_eq_gap hlinks htrail
  rw [htext, Check.isOperandPart_blanks hb, hn.isOperandPart, Check.isOperandPart_blanks hgap,
    Check.operand_of_stop hstop]
  simp

end Layout

namespace Check

/-- What is recorded of nodes and edges: the table after their declarations, and every edge. -/
structure Records (chart chart' : Summary) (ns : List Node) (es : List Edge) : Prop where
  direction : chart'.direction = chart.direction
  nodes : ns.foldlM declare chart.nodes = .ok chart'.nodes
  edges : chart'.edges = chart.edges ++ es

theorem records_nil_iff {chart chart' : Summary} :
    Records chart chart' [] [] ↔ chart' = chart := by
  constructor
  · rintro ⟨hd, hn, he⟩
    rw [List.append_nil] at he
    obtain ⟨d, nodes, edges⟩ := chart
    obtain ⟨d', nodes', edges'⟩ := chart'
    cases hd
    cases hn
    cases he
    rfl
  · rintro rfl
    exact ⟨rfl, rfl, (List.append_nil _).symm⟩

theorem records_append_iff {chart chart'' : Summary} {ms ns : List Node} {es fs : List Edge} :
    Records chart chart'' (ms ++ ns) (es ++ fs) ↔
      ∃ chart', Records chart chart' ms es ∧ Records chart' chart'' ns fs := by
  constructor
  · rintro ⟨hd, hn, he⟩
    rw [List.foldlM_append] at hn
    cases hm : ms.foldlM declare chart.nodes with
    | error fault =>
        rw [hm] at hn
        cases hn
    | ok nodes =>
        rw [hm] at hn
        exact ⟨⟨chart.direction, nodes, chart.edges ++ es⟩, ⟨rfl, hm, rfl⟩,
          ⟨hd, hn, by rw [he, List.append_assoc]⟩⟩
  · rintro ⟨chart', ⟨hd, hn, he⟩, ⟨hd', hn', he'⟩⟩
    refine ⟨hd'.trans hd, ?_, by rw [he', he, List.append_assoc]⟩
    rw [List.foldlM_append, hn]
    exact hn'

theorem records_first_iff {chart chart'' : Summary} {n : Node} {ns : List Node} {es : List Edge} :
    Records chart chart'' (n :: ns) es ↔
      ∃ chart', Records chart chart' [n] [] ∧ Records chart' chart'' ns es := by
  rw [← records_append_iff, List.singleton_append, List.nil_append]

theorem records_link_iff {chart chart'' : Summary} {n : Node} {ns : List Node} {e : Edge}
    {es : List Edge} : Records chart chart'' (n :: ns) (e :: es) ↔
      ∃ chart', Records chart chart' [n] [e] ∧ Records chart' chart'' ns es := by
  rw [← records_append_iff, List.singleton_append, List.singleton_append]

/-! ## Reading -/

theorem bind_eq_ok_iff {ε α β : Type} {x : Except ε α} {f : α → Except ε β} {b : β} :
    x >>= f = .ok b ↔ ∃ a, x = .ok a ∧ f a = .ok b := by
  cases x with
  | error e => exact iff_of_false (by rintro h; cases h) (by rintro ⟨_, h, -⟩; cases h)
  | ok a =>
      constructor
      · exact fun h => ⟨a, rfl, h⟩
      · rintro ⟨_, h, hb⟩
        cases h
        exact hb

theorem head_blanks_append {b t : Text} (hb : Text.IsBlanks b) (ht : EdgeText.StartsNode t) :
    ∀ c ∈ (b ++ t).head?, isOperatorChar c = false ∧ c ≠ '|' := by
  intro c hc
  rw [isOperatorChar_eq_isArrowChar]
  cases b with
  | nil =>
      have halnum := ht c hc
      exact ⟨Token.isArrowChar_eq_false_of_isAlphanum halnum,
        (Segment.not_delimiter_of_isAlphanum halnum).2.2⟩
  | cons d b =>
      cases hc
      have hblank := hb c (by simp)
      refine ⟨Token.isArrowChar_eq_false_of_isBlank hblank, ?_⟩
      rintro rfl
      exact absurd hblank (by decide)

theorem exists_declare_eq_ok_iff {chart chart' : Summary} {n : Node} {es : List Edge} :
    (∃ next, Summary.declare chart n = .ok next ∧
      chart' = { next with edges := next.edges ++ es }) ↔ Records chart chart' [n] es := by
  have hfold : [n].foldlM declare chart.nodes = declare chart.nodes n := by
    cases h : declare chart.nodes n <;> simp [h]
  have hdeclare (next : Summary) : Summary.declare chart n = .ok next ↔
      ∃ nodes, declare chart.nodes n = .ok nodes ∧ next = { chart with nodes := nodes } := by
    rw [Summary.declare]
    cases declare chart.nodes n with
    | error fault => exact iff_of_false (by rintro h; cases h) (by rintro ⟨_, h, -⟩; cases h)
    | ok nodes =>
        constructor
        · intro h
          cases h
          exact ⟨nodes, rfl, rfl⟩
        · rintro ⟨_, h, rfl⟩
          cases h
          rfl
  constructor
  · rintro ⟨next, hnext, rfl⟩
    obtain ⟨nodes, hnodes, rfl⟩ := (hdeclare next).1 hnext
    exact ⟨rfl, hfold.trans hnodes, rfl⟩
  · rintro ⟨hd, hn, he⟩
    refine ⟨{ chart with nodes := chart'.nodes }, (hdeclare _).2 ⟨_, hfold.symm.trans hn, rfl⟩, ?_⟩
    rw [← hd, ← he]

/-- The links of a line are read from the first arrow on. -/
theorem readLinks_eq_ok_iff {line : Text} {links : List (EdgeText × NodeText)} {trail : Text}
    (hlinks : ∀ l ∈ links, Layout.IsRawEdge l.1 ∧ Layout.IsRawNode l.2)
    (htrail : Text.IsBlanks trail) {chart chart' : Summary} {source : Text} :
    readLinks line chart source (Layout.fromArrow links trail) = .ok chart' ↔
      (∀ l ∈ links, (∀ t ∈ Layout.rawLabel l.1, Label.IsStrict t) ∧ l.2.IsStrict) ∧
        Records chart chart' (links.map fun l => l.2.node) (Layout.linkEdges source links) := by
  induction links generalizing chart source with
  | nil =>
      have hnil : Layout.fromArrow [] trail = [] := by
        simp [Layout.fromArrow, Layout.linksText, Layout.gap]
      rw [hnil, readLinks, if_pos List.isEmpty_nil, List.map_nil, Layout.linkEdges, records_nil_iff]
      simp [eq_comm]
  | cons l links ih =>
      obtain ⟨e, n⟩ := l
      obtain ⟨⟨b, label, b', rfl, hb, hb', hlabel⟩, hn⟩ := hlinks (e, n) (by simp)
      have hrest : ∀ l ∈ links, Layout.IsRawEdge l.1 ∧ Layout.IsRawNode l.2 :=
        fun l hl => hlinks l (by simp [hl])
      obtain ⟨hgap, -, -⟩ := Layout.linksText_eq_gap hrest htrail
      have hhead := head_blanks_append hb' (Layout.startsNode_text hn.isWell
        (Layout.linksText links trail))
      rw [Layout.fromArrow_cons, readLinks_link_eq_ok_iff hlabel hhead,
        Layout.operand_node hn hb' hrest htrail]
      simp only [parseNode_text_eq_ok_iff hn hb' hgap, ih hrest]
      rw [List.map_cons, Layout.linkEdges, Layout.rawLabel_ofLabel, records_link_iff,
        List.forall_mem_cons, Layout.rawLabel_ofLabel]
      constructor
      · rintro ⟨hstrict, _, next, ⟨rfl, hnode⟩, hnext, hall, hbehind⟩
        rw [NodeText.id_node] at hbehind
        exact ⟨⟨⟨hstrict, hnode⟩, hall⟩, _, exists_declare_eq_ok_iff.1 ⟨next, hnext, rfl⟩, hbehind⟩
      · rintro ⟨⟨⟨hstrict, hnode⟩, hall⟩, _, hfirst, hbehind⟩
        obtain ⟨next, hnext, rfl⟩ := exists_declare_eq_ok_iff.2 hfirst
        refine ⟨hstrict, _, next, ⟨rfl, hnode⟩, hnext, hall, ?_⟩
        rw [NodeText.id_node]
        exact hbehind

/-- A line of canonical nodes and arrows passes exactly when its labels are strict and the
declarations go through. -/
theorem readStatement_eq_ok_iff {p : Layout} (hp : p.IsRaw) {chart chart' : Summary} :
    readStatement chart (Text.trim p.text) = .ok chart' ↔
      p.IsStrict ∧ Records chart chart' p.nodes p.edges := by
  have hlinks := fun l hl => hp.links l hl
  obtain ⟨hgap, -, -⟩ := Layout.linksText_eq_gap hlinks .nil
  have hoperand := Layout.operand_node hp.first .nil hlinks .nil
  have hparse := fun k => parseNode_text_eq_ok_iff (k := k) hp.first .nil hgap
  rw [List.nil_append, List.nil_append] at hoperand
  simp only [List.nil_append] at hparse
  have hread : readStatement chart (Text.trim p.text) = .ok chart' ↔
      ∃ node next, parseNode (p.first.text ++ Layout.gap p.links []) = .ok node ∧
        Summary.declare chart node = .ok next ∧
          readLinks (Text.trim p.text) next node.id (Layout.fromArrow p.links []) = .ok chart' := by
    rw [readStatement, Layout.trim_text hp.isWell, Layout.core, hoperand]
    simp only [bind_eq_ok_iff, exists_and_left]
  rw [hread, Layout.nodes, records_first_iff]
  simp only [hparse, readLinks_eq_ok_iff hlinks .nil]
  constructor
  · rintro ⟨_, next, ⟨rfl, hfirst⟩, hnext, hall, hbehind⟩
    rw [NodeText.id_node] at hbehind
    refine ⟨⟨hfirst, hall⟩, next, exists_declare_eq_ok_iff.1 ⟨next, hnext, ?_⟩, hbehind⟩
    rw [List.append_nil]
  · rintro ⟨⟨hfirst, hall⟩, _, hrecorded, hbehind⟩
    obtain ⟨next, hnext, rfl⟩ := exists_declare_eq_ok_iff.2 hrecorded
    rw [List.append_nil] at hbehind
    refine ⟨_, next, ⟨rfl, hfirst⟩, hnext, hall, ?_⟩
    rw [NodeText.id_node]
    exact hbehind

/-! ## Documents -/

theorem not_strictQuotes {t : Text} (ht : Text.IsUnquoted t) :
    t.any strictQuotes.contains = false := by
  rw [List.any_eq_false]
  intro c hc hq
  have hmem : c ∈ strictQuotes := by simpa using hq
  have := ht c hc
  simp only [strictQuotes, List.mem_cons, List.not_mem_nil, or_false] at hmem
  rcases hmem with rfl | rfl | rfl <;> exact absurd this (by decide)

theorem mapError_eq_ok_iff {ε δ α : Type} {x : Except ε α} {f : ε → δ} {a : α} :
    x.mapError f = .ok a ↔ x = .ok a := by
  cases x <;> simp [Except.mapError]

theorem readLines_eq_ok_iff {ps : List Layout} (hps : ∀ p ∈ ps, p.IsRaw ∧ p.IsSettledLine)
    {chart chart' : Summary} (number : Nat) :
    readLines (some chart) number (ps.map Layout.text) = .ok chart' ↔
      (∀ p ∈ ps, p.IsStrict) ∧
        Records chart chart' (ps.flatMap Layout.nodes) (ps.flatMap Layout.edges) := by
  induction ps generalizing chart number with
  | nil =>
      rw [List.map_nil, readLines, List.flatMap_nil, List.flatMap_nil, records_nil_iff]
      simp [eq_comm]
  | cons p ps ih =>
      obtain ⟨hraw, hline⟩ := hps p (by simp)
      have hrest : ∀ q ∈ ps, q.IsRaw ∧ q.IsSettledLine := fun q hq => hps q (by simp [hq])
      have hne : (Text.trim p.text).isEmpty = false := by
        rw [Layout.trim_text hraw.isWell]
        simpa using Layout.core_ne_nil hraw.isWell
      have hquotes : (Text.trim p.text).any strictQuotes.contains = false :=
        not_strictQuotes fun c hc => hline.unquoted c (Text.trim_subset _ hc)
      rw [List.map_cons, readLines, hne, if_neg (by simp), bind_eq_ok_iff, List.flatMap_cons,
        List.flatMap_cons, records_append_iff, List.forall_mem_cons, readLine, hquotes,
        if_neg (by simp)]
      simp only [mapError_eq_ok_iff, readStatement_eq_ok_iff hraw, ih hrest]
      constructor
      · rintro ⟨next, ⟨hp, hfirst⟩, hall, hbehind⟩
        exact ⟨⟨hp, hall⟩, next, hfirst, hbehind⟩
      · rintro ⟨⟨hp, hall⟩, next, hfirst, hbehind⟩
        exact ⟨next, ⟨hp, hfirst⟩, hall, hbehind⟩

theorem readLine_rootLine (d : Direction) (number : Nat) :
    readLine number (Text.trim (Chart.rootLine d)) none = .ok ⟨d, [], []⟩ := by
  cases d <;> rfl

end Check

/-- A document of a root line and lines of canonical nodes and arrows passes exactly when all of its
labels are strict and the declarations go through. -/
theorem check_joinLines_eq_ok_iff (d : Direction) {ps : List Layout}
    (hps : ∀ p ∈ ps, p.IsRaw ∧ p.IsSettledLine) {chart : Summary} :
    check (Text.joinLines (Chart.rootLine d :: ps.map Layout.text)) = .ok chart ↔
      (∀ p ∈ ps, p.IsStrict) ∧
        Check.Records ⟨d, [], []⟩ chart (ps.flatMap Layout.nodes) (ps.flatMap Layout.edges) := by
  have hlines := Layout.lines_joinLines d fun p hp => (hps p hp).2
  have hne : (Text.trim (Chart.rootLine d)).isEmpty = false := by cases d <;> rfl
  rw [check, hlines, Check.readLines, hne, if_neg (by simp), Check.readLine_rootLine]
  exact Check.readLines_eq_ok_iff hps 2

/-- Declarations into an empty table go through exactly when the mentions agree. -/
theorem Check.exists_records_iff (d : Direction) (ns : List Node) (es : List Edge) :
    (∃ chart, Records ⟨d, [], []⟩ chart ns es) ↔ Node.Agree ns := by
  have hempty : Tells [] [] := fun id => rfl
  rw [← List.nil_append ns, ← exists_foldlM_declare_iff (fun id => List.isChain_nil) hempty ns]
  constructor
  · rintro ⟨chart, hchart⟩
    exact ⟨chart.nodes, hchart.nodes⟩
  · rintro ⟨nodes, hnodes⟩
    exact ⟨⟨d, nodes, es⟩, rfl, hnodes, (List.nil_append es).symm⟩

theorem isOk_check_joinLines_iff (d : Direction) {ps : List Layout}
    (hps : ∀ p ∈ ps, p.IsRaw ∧ p.IsSettledLine) :
    (check (Text.joinLines (Chart.rootLine d :: ps.map Layout.text))).isOk = true ↔
      (∀ p ∈ ps, p.IsStrict) ∧ Node.Agree (ps.flatMap Layout.nodes) := by
  have hok {x : Except CheckError Summary} : x.isOk = true ↔ ∃ chart, x = .ok chart := by
    cases x <;> simp [Except.isOk, Except.toBool]
  simp only [hok, check_joinLines_eq_ok_iff d hps, exists_and_left, Check.exists_records_iff]

end Flowchart
