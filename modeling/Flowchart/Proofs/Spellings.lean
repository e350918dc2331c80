import Flowchart.Proofs.Unquoting

/-!
# Spellings of a statement

Delimiters can be spelled in several ways, a label may stand in double quotes, an arrow may have any
of its forms, and spaces and tabs may stand around arrows and at the ends of a line. A spelled
statement is a layout once its quotes are gone, and the statement of that layout is the one that was
spelled.
-/

namespace Flowchart

/-! ## Delimiters -/

/-- How the delimiters of a shape are spelled. Besides the canonical ones there are `(l)`, `((l))`,
`[/l\]`, `[/l]`, `[\l/]`, `[\l]`, `[[l]]` and `{{l}}`. -/
inductive Brackets where
  | canonical (shape : Shape)
  | round
  | circle
  | inputMixed
  | inputOpen
  | outputMixed
  | outputOpen
  | subroutine
  | hexagon
  deriving DecidableEq, Repr

namespace Brackets

def shape : Brackets → Shape
  | canonical s => s
  | round => .terminal
  | circle => .terminal
  | inputMixed => .input
  | inputOpen => .input
  | outputMixed => .output
  | outputOpen => .output
  | subroutine => .process
  | hexagon => .decision

def opening : Brackets → Text
  | canonical s => s.opening
  | round => ['(']
  | circle => ['(', '(']
  | inputMixed => ['[', '/']
  | inputOpen => ['[', '/']
  | outputMixed => ['[', '\\']
  | outputOpen => ['[', '\\']
  | subroutine => ['[', '[']
  | hexagon => ['{', '{']

def closing : Brackets → Text
  | canonical s => s.closing
  | round => [')']
  | circle => [')', ')']
  | inputMixed => ['\\', ']']
  | inputOpen => [']']
  | outputMixed => ['/', ']']
  | outputOpen => [']']
  | subroutine => [']', ']']
  | hexagon => ['}', '}']

/-- Quotes are for the canonical delimiters and for single round ones. -/
def mayQuote : Brackets → Bool
  | canonical _ => true
  | round => true
  | _ => false

theorem mem_quotedDelimiters {b : Brackets} (h : b.mayQuote = true) :
    (b.opening, b.closing) ∈ Repair.quotedDelimiters := by
  cases b with
  | canonical s => cases s <;> decide
  | round => decide
  | _ => cases h

def opener (b : Brackets) : Char := b.shape.opener

/-- What stands between the outer delimiters. -/
def interior (b : Brackets) (l : Text) : Text :=
  match b with
  | canonical s => s.interior l
  | round => l
  | circle => '(' :: l ++ [')']
  | inputMixed => '/' :: l ++ ['\\']
  | inputOpen => '/' :: l
  | outputMixed => '\\' :: l ++ ['/']
  | outputOpen => '\\' :: l
  | subroutine => '[' :: l ++ [']']
  | hexagon => '{' :: l ++ ['}']

theorem opening_append (b : Brackets) (l : Text) :
    b.opening ++ l ++ b.closing = b.opener :: b.interior l ++ [closerOf b.opener] := by
  cases b with
  | canonical s => exact s.wrap_eq l
  | _ => simp [opening, closing, opener, shape, Shape.opener, interior, closerOf]

theorem isBalanced_interior (b : Brackets) {l : Text} (hl : Label.IsLegal l) :
    Segment.IsBalanced (b.interior l) := by
  have hone {c : Char} (hc : isOpener c = false ∧ isCloser c = false) : Segment.IsBalanced [c] :=
    Segment.isBalanced_of_chars fun d hd => by
      rw [List.mem_singleton] at hd
      exact hd ▸ hc
  have hbalanced := hl.isBalanced
  cases b with
  | canonical s => exact s.isBalanced_interior hl
  | round => exact hbalanced
  | circle => exact Segment.IsBalanced.enclose (c := '(') rfl hbalanced
  | inputMixed => exact ((hone (by decide)).append hbalanced).append (hone (by decide))
  | inputOpen => exact (hone (by decide)).append hbalanced
  | outputMixed => exact ((hone (by decide)).append hbalanced).append (hone (by decide))
  | outputOpen => exact (hone (by decide)).append hbalanced
  | subroutine => exact Segment.IsBalanced.enclose (c := '[') rfl hbalanced
  | hexagon => exact Segment.IsBalanced.enclose (c := '{') rfl hbalanced

theorem isLevel_interior (b : Brackets) {l : Text} (hl : Repair.IsLevel l) :
    Repair.IsLevel (b.interior l) := by
  have hone {c : Char} (hc : Repair.isPlain c = true) : Repair.IsLevel [c] :=
    Repair.isLevel_of_plain fun d hd => by
      rw [List.mem_singleton] at hd
      exact hd ▸ hc
  cases b with
  | canonical s => exact Repair.isLevel_interior s hl
  | round => exact hl
  | circle => exact Repair.IsLevel.enclose (c := '(') rfl hl
  | inputMixed => exact ((hone (by decide)).append hl).append (hone (by decide))
  | inputOpen => exact (hone (by decide)).append hl
  | outputMixed => exact ((hone (by decide)).append hl).append (hone (by decide))
  | outputOpen => exact (hone (by decide)).append hl
  | subroutine => exact Repair.IsLevel.enclose (c := '[') rfl hl
  | hexagon => exact Repair.IsLevel.enclose (c := '{') rfl hl

/-- Every spelling is read as its shape. -/
theorem classifyInterior_interior (b : Brackets) {l : Text} (hl : Label.IsClean l)
    (hends : Label.HasPlainEnds l) :
    Segment.classifyInterior b.opener (b.interior l) = (b.shape, l) := by
  have htrim : Text.trim l = l := Text.trim_eq_self hl.isTrimmed
  have hpeel {c : Char} {isEnd : Char → Bool} (hc : Label.isIllegal c = true) :
      Segment.peel? c isEnd l = none :=
    Segment.peel?_eq_none (Segment.head?_ne_of_isLegal hl.isLegal hc)
  have hlast : Text.dropLastIf Label.isSlash l = l :=
    Segment.dropLastIf_eq_self hends.getLast
  have hopen {c : Char} (hc : Text.isBlank c = false) : Text.trim (c :: l) = c :: l :=
    Text.trim_cons_eq_self hc hl.1 hl.isTrimmed
  have hinner {c d : Char} (hc : Text.isBlank c = false) (hd : Text.isBlank d = false) :
      Text.trim (c :: l ++ [d]) = c :: l ++ [d] := Segment.trim_enclosed hc hd l
  cases b with
  | canonical s =>
      have := Segment.classifyInterior_interior s hl.isLegal fun _ => by
        rw [htrim]
        exact hends.head
      rwa [htrim] at this
  | round =>
      show Segment.classifyInterior '(' l = _
      rw [Segment.classifyInterior_round, htrim, hpeel (by decide), hpeel (by decide),
        Option.or_none, Option.getD_none, htrim]
      rfl
  | circle =>
      show Segment.classifyInterior '(' ('(' :: l ++ [')']) = _
      rw [Segment.classifyInterior_round, hinner (by decide) (by decide), List.cons_append,
        Segment.peel?_eq_none (by simp), Segment.peel?_cons,
        Segment.dropLastIf_append (by decide), Option.none_or, Option.getD_some, htrim]
      rfl
  | inputMixed =>
      show Segment.classifyInterior '[' ('/' :: l ++ ['\\']) = _
      rw [Segment.classifyInterior_input (l := l ++ ['\\']) (hinner (by decide) (by decide)),
        Segment.dropLastIf_append (by decide), htrim]
      rfl
  | inputOpen =>
      show Segment.classifyInterior '[' ('/' :: l) = _
      rw [Segment.classifyInterior_input (hopen (by decide)), hlast, htrim]
      rfl
  | outputMixed =>
      show Segment.classifyInterior '[' ('\\' :: l ++ ['/']) = _
      rw [Segment.classifyInterior_output (l := l ++ ['/']) (hinner (by decide) (by decide)),
        Segment.dropLastIf_append (by decide), htrim]
      rfl
  | outputOpen =>
      show Segment.classifyInterior '[' ('\\' :: l) = _
      rw [Segment.classifyInterior_output (hopen (by decide)), hlast, htrim]
      rfl
  | subroutine =>
      show Segment.classifyInterior '[' ('[' :: l ++ [']']) = _
      have htrim' := hinner (c := '[') (d := ']') (by decide) (by decide)
      rw [Segment.classifyInterior_process, htrim', List.cons_append, Segment.peel?_cons,
        Segment.dropLastIf_append (by decide), Option.getD_some, htrim]
      · rfl
      · rw [htrim']
        intro c hc
        cases hc
        decide
      · rw [htrim']
        rfl
  | hexagon =>
      show Segment.classifyInterior '{' ('{' :: l ++ ['}']) = _
      rw [Segment.classifyInterior_brace, hinner (by decide) (by decide), List.cons_append,
        Segment.peel?_cons, Segment.dropLastIf_append (by decide), Option.getD_some, htrim]
      rfl

end Brackets

/-! ## Nodes -/

/-- A node as it is spelled, with or without double quotes around the label. -/
inductive SpelledNode where
  | bare (id : Text)
  | shaped (id : Text) (brackets : Brackets) (quoted : Bool) (label : Text)
  deriving DecidableEq, Repr

namespace SpelledNode

def text : SpelledNode → Text
  | bare id => id
  | shaped id b quoted l =>
    id ++ (b.opening ++ (if quoted then '"' :: l ++ ['"'] else l) ++ b.closing)

/-- The node that is meant. -/
def node : SpelledNode → Node
  | bare id => .bare id
  | shaped id b _ l => .shaped ⟨id, b.shape, l⟩

/-- The text without quotes. -/
def nodeText : SpelledNode → NodeText
  | bare id => .bare id
  | shaped id b _ l => .shaped id b.opener (b.interior l)

def MayQuote : SpelledNode → Prop
  | bare _ => True
  | shaped _ b quoted _ => quoted = true → b.mayQuote = true

instance : (n : SpelledNode) → Decidable n.MayQuote
  | bare _ => inferInstanceAs (Decidable True)
  | shaped _ b quoted _ => inferInstanceAs (Decidable (quoted = true → b.mayQuote = true))

def chunk : SpelledNode → Repair.Chunk
  | bare id => .plain id
  | shaped id b quoted l =>
    if quoted then .quoted id (b.opening, b.closing) l
    else .plain (id ++ (b.opening ++ l ++ b.closing))

theorem text_chunk (n : SpelledNode) : n.chunk.text = n.text := by
  cases n with
  | bare id => rfl
  | shaped id b quoted l =>
      cases quoted with
      | false => rfl
      | true => simp [chunk, Repair.Chunk.text, text]

theorem bare_chunk (n : SpelledNode) : n.chunk.bare = n.nodeText.text := by
  cases n with
  | bare id => rfl
  | shaped id b quoted l =>
      have hbare : (chunk (shaped id b quoted l)).bare = id ++ (b.opening ++ l ++ b.closing) := by
        cases quoted <;> rfl
      rw [hbare, Brackets.opening_append, nodeText, NodeText.text, List.append_assoc]

variable {n : SpelledNode} (hn : n.node.IsClean)

include hn

theorem node_nodeText : n.nodeText.node = n.node := by
  cases n with
  | bare id => rfl
  | shaped id b quoted l =>
      have hclean : Label.IsClean l := hn.2.1
      rw [nodeText, NodeText.node,
        b.classifyInterior_interior hclean (Label.hasPlainEnds_iff.2 hn.2.2)]
      rfl

theorem isWell_nodeText : n.nodeText.IsWell := by
  constructor
  · cases n with
    | bare id => exact hn
    | shaped id b quoted l => exact hn.1
  · intro id c i h
    cases n with
    | bare id => cases h
    | shaped id b quoted l =>
        cases h
        have hclean : Label.IsClean l := hn.2.1
        rw [b.classifyInterior_interior hclean (Label.hasPlainEnds_iff.2 hn.2.2)]
        exact ⟨Shape.isOpener_opener _, b.isBalanced_interior hclean.isLegal, hclean.isLegal⟩

theorem isWell_chunk (hq : n.MayQuote) : n.chunk.IsWell := by
  cases n with
  | bare id => exact Repair.quote_notMem_of_isAlphanum (Ident.isValid_iff.1 hn).2.1
  | shaped id b quoted l =>
      have hid : Ident.isValid id = true := hn.1
      cases quoted with
      | true => exact ⟨hid, b.mem_quotedDelimiters (hq rfl), hn.2.1⟩
      | false =>
          have hword := Repair.quote_notMem_of_isAlphanum (Ident.isValid_iff.1 hid).2.1
          have hlabel := Repair.Chunk.quote_notMem_of_isClean hn.2.1
          have hmarks : '"' ∉ b.opening ∧ '"' ∉ b.closing := by
            cases b with
            | canonical s => cases s <;> decide
            | _ => decide
          show '"' ∉ id ++ (b.opening ++ l ++ b.closing)
          simp [hword, hlabel, hmarks.1, hmarks.2]

/-- A spelled node is passed over by the splitter, quotes and all. -/
theorem isLevel_text : Repair.IsLevel n.text := by
  cases n with
  | bare id => exact Repair.isLevel_id hn
  | shaped id b quoted l =>
      have hclean : Label.IsClean l := hn.2.1
      have hlabel := Repair.isLevel_legal hclean.isLegal fun c hc => hclean.not_isQuotationMark hc
      have hinner : Repair.IsLevel (if quoted then '"' :: l ++ ['"'] else l) := by
        cases quoted with
        | false => exact hlabel
        | true => exact Repair.isLevel_quoted (Repair.Chunk.quote_notMem_of_isClean hclean)
      refine (Repair.isLevel_id hn.1).append ?_
      rw [Brackets.opening_append]
      exact (b.isLevel_interior hinner).enclose (Shape.isOpener_opener _)

end SpelledNode

/-! ## Edges -/

namespace EdgeText

/-- Spaces and tabs around the parts of an edge, and the forms that an arrow and an inline label may
have. An arrow without a head is kept apart from the node behind it. -/
def IsSpelling : EdgeText → Prop
  | plain b a b' => Text.IsPadding b ∧ IsFinishing a ∧ Text.IsPadding b' ∧ Closes a b'
  | piped b a m _ b' => Text.IsPadding b ∧ IsFinishing a ∧ Text.IsPadding m ∧ Text.IsPadding b'
  | inline b o g l g' a b' =>
    Text.IsPadding b ∧ Token.opensLabel o = true ∧ Text.IsPadding g ∧ g ≠ [] ∧ Token.IsInline l ∧
      Text.IsPadding g' ∧ g' ≠ [] ∧ IsFinishing a ∧ Text.IsPadding b' ∧ Closes a b'

instance : (e : EdgeText) → Decidable e.IsSpelling
  | plain _ _ _ => inferInstanceAs (Decidable (_ ∧ _ ∧ _ ∧ _))
  | piped _ _ _ _ _ => inferInstanceAs (Decidable (_ ∧ _ ∧ _ ∧ _))
  | inline _ _ _ _ _ _ _ =>
    inferInstanceAs (Decidable (_ ∧ _ ∧ _ ∧ _ ∧ _ ∧ _ ∧ _ ∧ _ ∧ _ ∧ _))

theorem isArrowText_of_opensLabel {o : Text} (h : Token.opensLabel o = true) :
    Token.IsArrowText o := by
  simp only [Token.opensLabel, Bool.or_eq_true, beq_iff_eq] at h
  rcases h with rfl | rfl <;> decide

theorem closes_of_isPadding {a m : Text} (hm : Text.IsPadding m) (hne : m ≠ []) : Closes a m := by
  obtain ⟨c, m, rfl⟩ := List.exists_cons_of_ne_nil hne
  exact .inl ⟨c, rfl, hm c (by simp)⟩

variable {e : EdgeText} (he : e.IsSpelling) (hl : ∀ l ∈ Layout.rawLabel e, Label.IsClean l)

include he hl

theorem IsSpelling.isWell : e.IsWell := by
  cases e with
  | plain b a b' =>
      obtain ⟨hb, ha, hb', hclose⟩ := he
      exact ⟨hb.isBlanks, ha, hb'.isBlanks, hclose⟩
  | piped b a m l b' =>
      obtain ⟨hb, ha, hm, hb'⟩ := he
      have hclean : Label.IsClean l := hl l rfl
      refine ⟨hb.isBlanks, ha, hm.isBlanks, ?_, hclean.isLegal.pipe, hb'.isBlanks, fun h => ?_⟩
      · by_cases hne : m = []
        · exact .inl hne
        · exact .inr (closes_of_isPadding hm hne)
      · rw [Label.clean_of_isClean hclean] at h
        exact absurd h hclean.1
  | inline b o g l g' a b' =>
      obtain ⟨hb, ho, hg, hgne, hin, hg', hgne', ha, hb', hclose⟩ := he
      exact ⟨hb.isBlanks, isArrowText_of_opensLabel ho, ho, hg, hgne, hl l rfl, hin, hg', hgne', ha,
        hb'.isBlanks, hclose⟩

omit he in
theorem label_eq_rawLabel : e.label = Layout.rawLabel e := by
  cases e with
  | plain b a b' => rfl
  | piped b a m l b' =>
      have hclean : Label.IsClean l := hl l rfl
      rw [label, Label.clean_of_isClean hclean, if_neg hclean.1]
      rfl
  | inline b o g l g' a b' => rfl

/-- An edge whose label is legal is passed over by the splitter. -/
theorem IsSpelling.isLevel_text : Repair.IsLevel e.text := by
  have hwell := IsSpelling.isWell he hl
  have hlabel {l : Text} (h : Label.IsClean l) : Repair.IsLevel l :=
    Repair.isLevel_legal h.isLegal fun c hc => h.not_isQuotationMark hc
  cases e with
  | plain b a b' =>
      obtain ⟨hb, ha, hb', -⟩ := hwell
      exact (Repair.isLevel_blanks hb).append
        ((Repair.isLevel_arrow ha.1).append (Repair.isLevel_blanks hb'))
  | piped b a m l b' =>
      obtain ⟨hb, ha, hm, -, -, hb', -⟩ := hwell
      have hsplit : (piped b a m l b').text = b ++ (a ++ (m ++ (('|' :: l ++ ['|']) ++ b'))) := by
        simp [text]
      rw [hsplit]
      exact (Repair.isLevel_blanks hb).append ((Repair.isLevel_arrow ha.1).append
        ((Repair.isLevel_blanks hm).append
          ((Repair.isLevel_label (hlabel (hl l rfl))).append (Repair.isLevel_blanks hb'))))
  | inline b o g l g' a b' =>
      obtain ⟨hb, ho, -, hg, -, hclean, -, hg', -, ha, hb', -⟩ := hwell
      exact (Repair.isLevel_blanks hb).append ((Repair.isLevel_arrow ho).append
        ((Repair.isLevel_blanks hg.isBlanks).append ((hlabel hclean).append
          ((Repair.isLevel_blanks hg'.isBlanks).append ((Repair.isLevel_arrow ha.1).append
            (Repair.isLevel_blanks hb'))))))

end EdgeText

/-! ## Statements -/

/-- A statement as it is spelled on a line. -/
structure SpelledStatement where
  lead : Text
  first : SpelledNode
  links : List (EdgeText × SpelledNode)
  trail : Text

namespace SpelledStatement

def text (s : SpelledStatement) : Text :=
  s.lead ++ (s.first.text ++ ((s.links.flatMap fun l => l.1.text ++ l.2.text) ++ s.trail))

/-- The statement that is meant. -/
def statement (s : SpelledStatement) : Statement :=
  ⟨s.first.node, s.links.map fun l => ⟨Layout.rawLabel l.1, l.2.node⟩⟩

def IsSpelling (s : SpelledStatement) : Prop :=
  Text.IsPadding s.lead ∧ s.first.MayQuote ∧ (∀ l ∈ s.links, l.1.IsSpelling ∧ l.2.MayQuote) ∧
    Text.IsPadding s.trail

instance (s : SpelledStatement) : Decidable s.IsSpelling :=
  inferInstanceAs (Decidable (_ ∧ _ ∧ _ ∧ _))

/-- The line without quotes. -/
def layout (s : SpelledStatement) : Layout :=
  ⟨s.lead, s.first.nodeText, s.links.map fun l => (l.1, l.2.nodeText), s.trail⟩

def chunks (s : SpelledStatement) : List Repair.Chunk :=
  .plain s.lead :: s.first.chunk ::
    ((s.links.flatMap fun l => [.plain l.1.text, l.2.chunk]) ++ [.plain s.trail])

theorem text_chunks (s : SpelledStatement) : s.chunks.flatMap Repair.Chunk.text = s.text := by
  have hlinks : (s.links.flatMap fun l => [Repair.Chunk.plain l.1.text, l.2.chunk]).flatMap
      Repair.Chunk.text = s.links.flatMap fun l => l.1.text ++ l.2.text := by
    rw [List.flatMap_assoc]
    refine List.flatMap_congr fun l _ => ?_
    simp [Repair.Chunk.text, ← SpelledNode.text_chunk]
  rw [chunks, List.flatMap_cons, List.flatMap_cons, List.flatMap_append, hlinks,
    SpelledNode.text_chunk, text]
  simp [Repair.Chunk.text]

theorem linksText_eq (links : List (EdgeText × SpelledNode)) (trail : Text) :
    Layout.linksText (links.map fun l => (l.1, l.2.nodeText)) trail
      = (links.flatMap fun l => l.1.text ++ l.2.nodeText.text) ++ trail := by
  induction links with
  | nil => rfl
  | cons l links ih =>
      rw [List.map_cons, Layout.linksText, ih, List.flatMap_cons]
      simp only [List.append_assoc]

theorem bare_chunks (s : SpelledStatement) :
    s.chunks.flatMap Repair.Chunk.bare = s.layout.text := by
  have hlinks : (s.links.flatMap fun l => [Repair.Chunk.plain l.1.text, l.2.chunk]).flatMap
      Repair.Chunk.bare = s.links.flatMap fun l => l.1.text ++ l.2.nodeText.text := by
    rw [List.flatMap_assoc]
    refine List.flatMap_congr fun l _ => ?_
    simp [Repair.Chunk.bare, ← SpelledNode.bare_chunk]
  rw [chunks, List.flatMap_cons, List.flatMap_cons, List.flatMap_append, hlinks,
    SpelledNode.bare_chunk, Layout.text, layout]
  dsimp only
  rw [linksText_eq]
  simp [Repair.Chunk.bare]

section

variable {s : SpelledStatement} (hs : s.IsSpelling) (hc : s.statement.IsClean)

include hc

theorem isClean_first : s.first.node.IsClean := hc.1

theorem isClean_link {l : EdgeText × SpelledNode} (hl : l ∈ s.links) :
    (∀ k ∈ Layout.rawLabel l.1, Label.IsClean k) ∧ l.2.node.IsClean :=
  hc.2 ⟨Layout.rawLabel l.1, l.2.node⟩ (List.mem_map_of_mem hl)

theorem statement_layout : s.layout.statement = s.statement := by
  have hnode {n : SpelledNode} (hn : n.node.IsClean) : Layout.finalNode n.nodeText = n.node := by
    have := SpelledNode.node_nodeText hn
    rw [Layout.finalNode_eq (this ▸ hn), this]
  rw [Layout.statement, layout, statement, hnode hc.1, List.map_map]
  refine congrArg _ (List.map_congr_left fun l hl => ?_)
  obtain ⟨hlabel, htarget⟩ := isClean_link hc hl
  simp only [Function.comp_apply]
  rw [EdgeText.label_eq_rawLabel hlabel, hnode htarget]

include hs

theorem isWell_layout : s.layout.IsWell := by
  obtain ⟨hlead, -, hlinks, htrail⟩ := hs
  refine ⟨hlead.isBlanks, SpelledNode.isWell_nodeText hc.1, fun l hl => ?_, htrail.isBlanks⟩
  obtain ⟨m, hm, rfl⟩ := List.mem_map.1 hl
  obtain ⟨hlabel, htarget⟩ := isClean_link hc hm
  exact ⟨(hlinks m hm).1.isWell hlabel, SpelledNode.isWell_nodeText htarget⟩

/-- A spelled statement is passed over by the splitter. -/
theorem isLevel_text : Repair.IsLevel s.text := by
  obtain ⟨hlead, -, hlinks, htrail⟩ := hs
  have hrest : Repair.IsLevel (s.links.flatMap fun l => l.1.text ++ l.2.text) :=
    Repair.isLevel_flatMap fun l hl => ((hlinks l hl).1.isLevel_text (isClean_link hc hl).1).append
      (SpelledNode.isLevel_text (isClean_link hc hl).2)
  exact (Repair.isLevel_blanks hlead.isBlanks).append ((SpelledNode.isLevel_text hc.1).append
    (hrest.append (Repair.isLevel_blanks htrail.isBlanks)))

/-! ## Characters -/

variable {q : Char → Prop} (hq : ∀ c, isWritten c = true ∨ c ∈ ['\t', '=', '.', '<'] → q c)
  (hlabel : ∀ l, Label.IsClean l → Text.All q l)

include hq hlabel

omit hs hc hlabel in
theorem all_padding {b : Text} (hb : Text.IsPadding b) : Text.All q b := by
  intro c h
  rcases hb c h with rfl | rfl
  · exact hq _ (.inl (by decide))
  · exact hq _ (.inr (by decide))

omit hs hc hlabel in
theorem all_arrow {a : Text} (ha : Token.IsArrowText a) : Text.All q a := by
  intro c h
  rcases EdgeText.arrowPart_cases (EdgeText.isArrowPart ha h) with
    rfl | rfl | rfl | rfl | rfl | rfl | rfl <;> exact hq _ (by decide)

omit hs hc in
theorem all_node_text {n : SpelledNode} (hn : n.node.IsClean) : Text.All q n.nodeText.text := by
  have hwritten : ∀ c, isWritten c = true → q c := fun c h => hq c (.inl h)
  cases n with
  | bare id => exact all_id hwritten hn
  | shaped id b quoted l =>
      have hopening : b.opening.all isWritten = true ∧ b.closing.all isWritten = true := by
        cases b with
        | canonical s => cases s <;> decide
        | _ => decide
      rw [SpelledNode.nodeText, NodeText.text, List.append_assoc, ← Brackets.opening_append]
      exact (all_id hwritten hn.1).append (((Text.All.written hwritten hopening.1).append
        (hlabel l hn.2.1)).append (Text.All.written hwritten hopening.2))

omit hs hc in
theorem all_edge_text {e : EdgeText} (he : e.IsSpelling)
    (hl : ∀ l ∈ Layout.rawLabel e, Label.IsClean l) : Text.All q e.text := by
  have hpipe : q '|' := hq _ (.inl (by decide))
  cases e with
  | plain b a b' =>
      obtain ⟨hb, ha, hb', -⟩ := he
      exact (all_padding hq hb).append ((all_arrow hq ha.1).append (all_padding hq hb'))
  | piped b a m l b' =>
      obtain ⟨hb, ha, hm, hb'⟩ := he
      exact (all_padding hq hb).append ((all_arrow hq ha.1).append ((all_padding hq hm).append
        (.append (.cons hpipe (hlabel l (hl l rfl))) (.cons hpipe (all_padding hq hb')))))
  | inline b o g l g' a b' =>
      obtain ⟨hb, ho, hg, -, -, hg', -, ha, hb', -⟩ := he
      have ho := EdgeText.isArrowText_of_opensLabel ho
      exact (all_padding hq hb).append ((all_arrow hq ho).append
        ((all_padding hq hg).append ((hlabel l (hl l rfl)).append ((all_padding hq hg').append
          ((all_arrow hq ha.1).append (all_padding hq hb'))))))

theorem all_layout_text : Text.All q s.layout.text := by
  obtain ⟨hlead, -, hlinks, htrail⟩ := hs
  rw [Layout.text, layout]
  dsimp only
  rw [linksText_eq]
  refine (all_padding hq hlead).append ((all_node_text hq hlabel hc.1).append
    (.append (fun c h => ?_) (all_padding hq htrail)))
  obtain ⟨l, hl, h⟩ := List.mem_flatMap.1 h
  obtain ⟨hclean, htarget⟩ := isClean_link hc hl
  exact ((all_edge_text hq hlabel (hlinks l hl).1 hclean).append
    (all_node_text hq hlabel htarget)) c h

end

theorem isUnquoted_padding_chars :
    ∀ c, isWritten c = true ∨ c ∈ ['\t', '=', '.', '<'] → Label.isQuotationMark c = false := by
  rintro c (h | h)
  · exact isQuotationMark_of_isWritten h
  · have hall : ['\t', '=', '.', '<'].all (!Label.isQuotationMark ·) = true := by decide
    simpa using List.all_eq_true.1 hall c h

theorem ne_newline_padding_chars :
    ∀ c, isWritten c = true ∨ c ∈ ['\t', '=', '.', '<'] → c ≠ '\n' := by
  rintro c (h | h)
  · exact ne_newline_of_isWritten h
  · have hall : ['\t', '=', '.', '<'].all (· != '\n') = true := by decide
    simpa using List.all_eq_true.1 hall c h

section

variable {s : SpelledStatement} (hs : s.IsSpelling) (hc : s.statement.IsClean)

include hs hc

theorem isReady_layout : s.layout.IsReady where
  well := isWell_layout hs hc
  newline := by
    have hall := all_layout_text hs hc ne_newline_padding_chars
      fun l hl c hm he => hl.newline (he ▸ hm)
    exact fun h => hall '\n' h rfl
  unquoted :=
    all_layout_text hs hc isUnquoted_padding_chars fun _ hl _ h => hl.not_isQuotationMark h
  trail := by
    intro h
    rcases hs.2.2.2 _ (List.mem_of_getLast? h) with h | h <;> exact absurd h (by decide)

theorem isWell_chunks : ∀ k ∈ s.chunks, k.IsWell := by
  have hpadding {b : Text} (hb : Text.IsPadding b) : '"' ∉ b := hb.isBlanks.quote_notMem
  obtain ⟨hlead, hfirst, hlinks, htrail⟩ := hs
  intro k hk
  simp only [chunks, List.mem_cons, List.mem_append, List.mem_flatMap, List.not_mem_nil,
    or_false] at hk
  rcases hk with rfl | rfl | ⟨l, hl, rfl | rfl⟩ | rfl
  · exact hpadding hlead
  · exact SpelledNode.isWell_chunk hc.1 hfirst
  · exact Repair.quote_notMem (all_edge_text isUnquoted_padding_chars
      (fun _ hl _ h => hl.not_isQuotationMark h) (hlinks l hl).1 (isClean_link hc hl).1)
  · exact SpelledNode.isWell_chunk (isClean_link hc hl).2 (hlinks l hl).2
  · exact hpadding htrail

end

end SpelledStatement

end Flowchart
