import Flowchart.Check
import Flowchart.Proofs.NodeTexts

/-!
# Nodes in their strict form

The strict check reads a node only from its canonical text, with a label that is not empty, trimmed
and legal, and without a slash at either end. Mentions of a node agree when each shape is the one
before it, or when the one before it is what a bare reference stands for.
-/

namespace Flowchart

/-- A node whose canonical text passes the check. -/
def Node.IsStrict : Node → Prop
  | .bare id => Ident.isValid id = true
  | .shaped n => Ident.isValid n.id = true ∧ n.label ≠ [] ∧ Text.IsTrimmed n.label ∧
      Label.IsLegal n.label ∧ Check.slantsShape n.label = false

theorem Node.IsStrict.id {n : Node} (h : n.IsStrict) : Ident.isValid n.id = true := by
  cases n with
  | bare id => exact h
  | shaped n => exact h.1

theorem Node.IsClean.isStrict {n : Node} (h : n.IsClean) : n.IsStrict := by
  cases n with
  | bare id => exact h
  | shaped n =>
      obtain ⟨hid, hlabel, hhead, hlast⟩ := h
      refine ⟨hid, hlabel.1, hlabel.isTrimmed, hlabel.isLegal, ?_⟩
      rw [Check.slantsShape, hhead, hlast]
      rfl

/-! ## Mentions -/

/-- A rectangle that has its identifier as label is what a bare reference stands for, and may take
another shape. -/
def ShapedNode.Admits (m n : ShapedNode) : Prop :=
  m.shape = n.shape ∨ m.shape = .process ∧ m.label = m.id

namespace Node

def shaped? : Node → Option ShapedNode
  | bare _ => none
  | shaped n => some n

/-- The mentions of an identifier that give a shape. -/
def mentions (id : Text) (ns : List Node) : List ShapedNode :=
  (ns.filterMap shaped?).filter (·.id = id)

/-- Each shape of an identifier is the one before it, unless that one stood for a bare reference. -/
def Agree (ns : List Node) : Prop := ∀ id, (mentions id ns).IsChain ShapedNode.Admits

theorem mentions_append (id : Text) (ms ns : List Node) :
    mentions id (ms ++ ns) = mentions id ms ++ mentions id ns := by
  rw [mentions, List.filterMap_append, List.filter_append]
  rfl

theorem mentions_append_shaped (id : Text) (ns : List Node) (k : ShapedNode) :
    mentions id (ns ++ [.shaped k]) = mentions id ns ++ if k.id = id then [k] else [] := by
  rw [mentions_append]
  by_cases h : k.id = id <;> simp [mentions, shaped?, h]

theorem mentions_append_bare (id other : Text) (ns : List Node) :
    mentions other (ns ++ [.bare id]) = mentions other ns := by
  rw [mentions_append]
  simp [mentions, shaped?]

theorem Agree.of_append {ms ns : List Node} (h : Agree (ms ++ ns)) : Agree ms := by
  intro id
  have := h id
  rw [mentions_append] at this
  exact (List.isChain_append.1 this).1

theorem id_of_mem_mentions {id : Text} {ns : List Node} {k : ShapedNode} (h : k ∈ mentions id ns) :
    k.id = id := by
  simpa using (List.mem_filter.1 h).2

theorem mem_of_mem_mentions {id : Text} {ns : List Node} {k : ShapedNode} (h : k ∈ mentions id ns) :
    .shaped k ∈ ns := by
  obtain ⟨n, hn, hk⟩ := List.mem_filterMap.1 (List.mem_filter.1 h).1
  cases n with
  | bare id => cases hk
  | shaped l =>
      cases hk
      exact hn

end Node

namespace Check

/-! ## Shapes -/

theorem beforeEnd?_eq_some_iff {closing s l : Text} :
    beforeEnd? closing s = some l ↔ s = l ++ closing := by
  unfold beforeEnd?
  constructor
  · intro h
    split at h
    · rename_i hs
      obtain ⟨t, rfl⟩ := List.isSuffixOf_iff_suffix.1 hs
      simpa using h
    · cases h
  · rintro rfl
    simp

/-- What is matched is what the shape puts around the label. -/
theorem eq_wrap_of_matchShape? {literal label : Text} {shape : Shape}
    (h : matchShape? literal = some (shape, label)) : literal = shape.wrap label := by
  obtain ⟨s, -, hs⟩ := List.exists_of_findSome?_eq_some h
  obtain ⟨body, hbody, hs⟩ := Option.bind_eq_some_iff.1 hs
  obtain ⟨l, hl, hs⟩ := Option.bind_eq_some_iff.1 hs
  cases hs
  rw [Text.after?_eq_some_iff.1 hbody, beforeEnd?_eq_some_iff.1 hl, Shape.wrap]
  simp

/-- No shape that is tried before matches, as the label does not begin like a delimiter. -/
theorem matchShape?_wrap (shape : Shape) {label : Text} (hne : label ≠ [])
    (hlegal : Label.IsLegal label) (hslash : ∀ c ∈ label.head?, Label.isSlash c = false) :
    matchShape? (shape.wrap label) = some (shape, label) := by
  obtain ⟨c, label, rfl⟩ := List.exists_cons_of_ne_nil hne
  have hc := hlegal c (by simp)
  have hs := hslash c rfl
  have hround : '(' ≠ c := by
    rintro rfl
    exact absurd hc (by decide)
  have hforward : '/' ≠ c := by
    rintro rfl
    exact absurd hs (by decide)
  have hback : '\\' ≠ c := by
    rintro rfl
    exact absurd hs (by decide)
  cases shape <;>
    simp [matchShape?, matchOrder, Text.after?, beforeEnd?, Shape.wrap, Shape.opening,
      Shape.closing, List.isSuffixOf_iff_suffix, hround, hforward, hback]

/-! ## Nodes -/

theorem checkLabel_eq_ok_iff {label : Text} : checkLabel label = .ok () ↔ Label.IsLegal label := by
  unfold checkLabel
  cases h : label.find? Label.isIllegal with
  | none =>
      simp only [true_iff]
      exact fun c hc => by simpa using List.find?_eq_none.1 h c hc
  | some c =>
      simp only [reduceCtorEq, false_iff]
      intro hl
      have := hl c (List.mem_of_find?_eq_some h)
      rw [List.find?_some h] at this
      cases this

theorem takeWhile_id_append {id s : Text} (hid : Ident.isValid id = true)
    (hs : ∀ c ∈ s.head?, isOpener c = true) : (id ++ s).takeWhile (!isOpener ·) = id := by
  refine Segment.takeWhile_append_of_stop (fun c hc => ?_) fun c hc => by simp [hs c hc]
  have halnum := (Ident.isValid_iff.1 hid).2.1 c hc
  simp [(Segment.not_delimiter_of_isAlphanum halnum).1]

theorem head?_wrap (shape : Shape) (label : Text) :
    ∀ c ∈ (shape.wrap label).head?, isOpener c = true := by
  intro c hc
  rw [Shape.wrap_eq] at hc
  cases hc
  exact shape.isOpener_opener

theorem parseNode_of_isStrict {token : Text} {n : Node} (htoken : Text.trim token = n.render)
    (hn : n.IsStrict) : parseNode token = .ok n := by
  have hid := hn.id
  have hdefect : Ident.defect? n.id = none := Option.isNone_iff_eq_none.1 hid
  have hempty : n.id.isEmpty = false := by
    simpa using (Ident.isValid_iff.1 hid).1
  unfold parseNode
  cases n with
  | bare id =>
      have htake := takeWhile_id_append (s := []) hid (by simp)
      rw [List.append_nil] at htake
      simp only [Node.render, Node.id] at htoken hdefect hempty htake
      simp only [htoken, hempty, htake, hdefect, List.drop_length]
      rfl
  | shaped n =>
      obtain ⟨-, hne, htrimmed, hlegal, hslants⟩ := hn
      have htake := takeWhile_id_append hid (head?_wrap n.shape n.label)
      have hhead : ∀ c ∈ n.label.head?, Label.isSlash c = false := by
        intro c hc
        rw [slantsShape, Bool.or_eq_false_iff] at hslants
        simpa [Option.mem_def.1 hc] using hslants.1
      have hwrap : (n.shape.wrap n.label).isEmpty = false := by
        rw [Shape.wrap_eq]
        rfl
      have htext : (n.id ++ n.shape.wrap n.label).isEmpty = false := by
        have hne : n.id ≠ [] := (Ident.isValid_iff.1 hid).1
        simp [hne]
      have hlabel : n.label.isEmpty = false := by simpa using hne
      simp only [Node.render, ShapedNode.render, Node.id] at htoken hdefect htake
      simp only [htoken, htext, htake, hdefect, List.drop_left, hwrap,
        matchShape?_wrap n.shape hne hlegal hhead, Text.trim_eq_self htrimmed, hslants, hlabel,
        checkLabel_eq_ok_iff.2 hlegal, bne_self_eq_false, Bool.or_self]
      rfl

/-- The check reads a node from its canonical text only. -/
theorem parseNode_eq_ok_iff {token : Text} {n : Node} :
    parseNode token = .ok n ↔ Text.trim token = n.render ∧ n.IsStrict := by
  refine ⟨fun h => ?_, fun h => parseNode_of_isStrict h.1 h.2⟩
  unfold parseNode at h
  dsimp only at h
  split at h
  · cases h
  · split at h
    · cases h
    · rename_i hdefect
      have hid : Ident.isValid ((Text.trim token).takeWhile (!isOpener ·)) = true :=
        Option.isNone_iff_eq_none.2 (Option.eq_none_iff_forall_ne_some.2 hdefect)
      have htoken := List.prefix_iff_eq_append.1
        (List.takeWhile_prefix (!isOpener ·) (l := Text.trim token))
      split at h
      · rename_i hliteral
        cases h
        rw [List.isEmpty_iff.1 hliteral, List.append_nil] at htoken
        exact ⟨htoken.symm, hid⟩
      · split at h
        · rename_i shape label hshape
          split at h
          · cases h
          · rename_i hform
            split at h
            · cases h
            · rename_i hempty
              cases hlegal : checkLabel label with
              | error fault =>
                  rw [hlegal] at h
                  cases h
              | ok u =>
                  rw [hlegal] at h
                  cases h
                  simp only [Bool.or_eq_true, bne_iff_ne, not_or, ne_eq, Decidable.not_not,
                    Bool.not_eq_true] at hform
                  rw [eq_wrap_of_matchShape? hshape] at htoken
                  refine ⟨htoken.symm, hid, by simpa using hempty, ?_,
                    checkLabel_eq_ok_iff.1 hlegal, hform.2⟩
                  show Text.IsTrimmed label
                  rw [hform.1]
                  exact Text.isTrimmed_trim label
        · cases h

/-! ## Declarations -/

/-- What is known of a node behind its mentions: the last shape and label, or what a bare reference
stands for. -/
def known (id : Text) (ns : List Node) : Option NodeSummary :=
  match (Node.mentions id ns).getLast? with
  | some m => some ⟨m.shape, m.label⟩
  | none => if .bare id ∈ ns then some ⟨.process, id⟩ else none

/-- The table holds what is known of every node. -/
def Tells (nodes : NodeTable) (ns : List Node) : Prop := ∀ id, nodes.lookup id = known id ns

/-- Whether a node may be mentioned that way behind others. -/
def Allows (ns : List Node) (n : Node) : Prop :=
  ∀ k, n = .shaped k → ∀ m ∈ (Node.mentions k.id ns).getLast?, m.Admits k

theorem known_append_shaped (id : Text) (ns : List Node) (k : ShapedNode) :
    known id (ns ++ [.shaped k]) = if id = k.id then some ⟨k.shape, k.label⟩ else known id ns := by
  rw [known, Node.mentions_append_shaped]
  by_cases h : id = k.id
  · rw [if_pos h.symm, if_pos h, List.getLast?_concat]
  · rw [if_neg (Ne.symm h), if_neg h, List.append_nil, known]
    simp

theorem known_append_bare (id other : Text) (ns : List Node) :
    known other (ns ++ [.bare id]) =
      if other = id then (known id ns).or (some ⟨.process, id⟩) else known other ns := by
  rw [known, Node.mentions_append_bare]
  by_cases h : other = id
  · subst h
    rw [if_pos rfl, known]
    cases (Node.mentions other ns).getLast? with
    | none => by_cases hm : .bare other ∈ ns <;> simp [hm]
    | some m => rfl
  · rw [if_neg h, known]
    simp [h]

theorem declare_shaped_eq_ok_iff {nodes nodes' : NodeTable} {n : ShapedNode} :
    declare nodes (.shaped n) = .ok nodes' ↔
      (∀ old ∈ nodes.lookup n.id, old.shape = n.shape ∨ old.shape = .process ∧ old.label = n.id) ∧
        nodes' = nodes.set n.id ⟨n.shape, n.label⟩ := by
  rw [declare]
  cases h : nodes.lookup n.id with
  | none => simp [eq_comm]
  | some old =>
      dsimp only
      split
      · rename_i hdefault
        simp [hdefault, eq_comm]
      · rename_i hdefault
        split
        · rename_i hshape
          simp only [reduceCtorEq, false_iff, not_and_or]
          refine .inl fun hall => ?_
          rcases hall old rfl with hall | hall
          · exact hshape hall
          · exact hdefault ⟨hall.2, hall.1⟩
        · rename_i hshape
          rw [ne_eq, Decidable.not_not] at hshape
          simp [hshape, eq_comm]

/-- The table entry of a node allows what its mentions allow. -/
theorem forall_known_iff (n : ShapedNode) (ns : List Node) :
    (∀ old ∈ known n.id ns, old.shape = n.shape ∨ old.shape = .process ∧ old.label = n.id) ↔
      Allows ns (.shaped n) := by
  have hallows : Allows ns (.shaped n) ↔ ∀ m ∈ (Node.mentions n.id ns).getLast?, m.Admits n :=
    ⟨fun h => h n rfl, fun h k hk => by cases hk; exact h⟩
  rw [hallows, known]
  cases hm : (Node.mentions n.id ns).getLast? with
  | none =>
      refine iff_of_true (fun old hold => .inr ?_) fun m hm => nomatch hm
      dsimp only at hold
      split at hold
      · cases hold
        exact ⟨rfl, rfl⟩
      · cases hold
  | some m =>
      have hid : m.id = n.id := Node.id_of_mem_mentions (List.mem_of_getLast? hm)
      simp [ShapedNode.Admits, hid]

theorem exists_declare_iff {nodes : NodeTable} {ns : List Node} (h : Tells nodes ns) (n : Node) :
    (∃ nodes', declare nodes n = .ok nodes') ↔ Allows ns n := by
  cases n with
  | bare id =>
      refine iff_of_true ?_ fun k hk => nomatch hk
      rw [declare]
      cases nodes.lookup id with
      | none => exact ⟨_, rfl⟩
      | some old => exact ⟨_, rfl⟩
  | shaped n =>
      simp only [declare_shaped_eq_ok_iff, exists_and_left, exists_eq, and_true]
      rw [h n.id, forall_known_iff]

theorem tells_declare {nodes nodes' : NodeTable} {ns : List Node} {n : Node} (h : Tells nodes ns)
    (hn : declare nodes n = .ok nodes') : Tells nodes' (ns ++ [n]) := by
  intro other
  cases n with
  | bare id =>
      have hid := h id
      rw [known_append_bare]
      rw [declare] at hn
      cases hl : nodes.lookup id with
      | none =>
          rw [hl] at hn hid
          cases hn
          rw [NodeTable.lookup_set, ← hid, h other]
          rfl
      | some old =>
          rw [hl] at hn hid
          cases hn
          rw [h other]
          split
          · rename_i ho
            rw [ho, ← hid]
            rfl
          · rfl
  | shaped n =>
      rw [(declare_shaped_eq_ok_iff.1 hn).2, NodeTable.lookup_set, known_append_shaped, h other]

theorem agree_append_iff (ns : List Node) (n : Node) :
    Node.Agree (ns ++ [n]) ↔ Node.Agree ns ∧ Allows ns n := by
  cases n with
  | bare id =>
      have hallows : Allows ns (.bare id) := fun k hk => nomatch hk
      simp only [Node.Agree, Node.mentions_append_bare, hallows, and_true]
  | shaped k =>
      constructor
      · intro h
        refine ⟨fun id => ?_, fun l hl m hm => ?_⟩
        · have := h id
          rw [Node.mentions_append_shaped] at this
          exact (List.isChain_append.1 this).1
        · cases hl
          have := h k.id
          rw [Node.mentions_append_shaped, if_pos rfl] at this
          exact (List.isChain_append.1 this).2.2 m hm k rfl
      · rintro ⟨hns, hk⟩ id
        rw [Node.mentions_append_shaped]
        by_cases hid : k.id = id
        · subst hid
          rw [if_pos rfl]
          refine List.isChain_append.2 ⟨hns k.id, .singleton k, fun m hm l hl => ?_⟩
          cases hl
          exact hk k rfl m hm
        · rw [if_neg hid, List.append_nil]
          exact hns id

/-- A run of declarations passes exactly when the mentions agree. -/
theorem exists_foldlM_declare_iff {nodes : NodeTable} {seen : List Node} (hseen : Node.Agree seen)
    (h : Tells nodes seen) (ns : List Node) :
    (∃ nodes', ns.foldlM declare nodes = .ok nodes') ↔ Node.Agree (seen ++ ns) := by
  induction ns generalizing nodes seen with
  | nil =>
      rw [List.append_nil]
      exact iff_of_true ⟨nodes, rfl⟩ hseen
  | cons n ns ih =>
      rw [List.append_cons, List.foldlM_cons]
      cases hn : declare nodes n with
      | error fault =>
          refine iff_of_false (by rintro ⟨nodes', h'⟩; cases h') fun hall => ?_
          have hnone := (exists_declare_iff h n).2 ((agree_append_iff seen n).1 hall.of_append).2
          rw [hn] at hnone
          obtain ⟨nodes', h'⟩ := hnone
          cases h'
      | ok next =>
          have hallows := (exists_declare_iff h n).1 ⟨next, hn⟩
          exact ih ((agree_append_iff seen n).2 ⟨hseen, hallows⟩) (tells_declare h hn)

end Check

end Flowchart
