import Flowchart.Proofs.Names

/-!
# Strands

A strand is a line of nodes with an edge or a join between each two of them. Its nodes have names
for identifiers. What reads segments one after the other, and free text name by name and gap by
gap, goes over a strand part by part.
-/

namespace Flowchart

/-- What stands between two nodes: an edge with its label, or a join with blanks around. -/
inductive Gap where
  | edge (label : Option Text)
  | join (before after : Text)

/-- A shape in its canonical spelling behind a name. -/
def ShapedNode.IsNamed (n : ShapedNode) : Prop :=
  Ident.IsName n.id ∧ Label.IsClean n.label ∧
    n.label.head?.any Label.isSlash = false ∧ n.label.getLast?.any Label.isSlash = false

instance (n : ShapedNode) : Decidable n.IsNamed :=
  inferInstanceAs (Decidable (_ ∧ _ ∧ _ ∧ _))

def Node.IsNamed : Node → Prop
  | bare id => Ident.IsName id
  | shaped n => n.IsNamed

instance : (n : Node) → Decidable n.IsNamed
  | .bare id => inferInstanceAs (Decidable (Ident.IsName id))
  | .shaped n => inferInstanceAs (Decidable n.IsNamed)

theorem Node.IsNamed.id {n : Node} (hn : n.IsNamed) : Ident.IsName n.id := by
  cases n with
  | bare w => exact hn
  | shaped n => exact hn.1

theorem Node.IsClean.isNamed {n : Node} (hn : n.IsClean) : n.IsNamed := by
  cases n with
  | bare w => exact .of_isValid hn
  | shaped n => exact ⟨.of_isValid hn.1, hn.2⟩

structure Strand where
  first : Node
  links : List (Gap × Node)

/-! ## Gaps -/

namespace Gap

open EdgeText (blankTokens space)

def text : Gap → Text
  | edge label => ' ' :: renderEdge arrow label ++ [' ']
  | join b a => b ++ '&' :: a

def IsWell : Gap → Prop
  | edge label => ∀ l ∈ label, Label.IsClean l
  | join b a => Text.IsPadding b ∧ Text.IsPadding a

def tokens : Gap → List Token
  | edge none => [.space, .arrow arrow, .space]
  | edge (some l) => [.space, .arrow arrow, .label l, .space]
  | join b a => blankTokens b ++ .join :: blankTokens a

/-- With at most one space on each side. -/
def spaced : Gap → Gap
  | edge label => edge label
  | join b a => join (space b) (space a)

/-- With one space on each side. -/
def padded : Gap → Gap
  | edge label => edge label
  | join _ _ => join [' '] [' ']

theorem isWell_spaced {g : Gap} (hg : g.IsWell) : g.spaced.IsWell := by
  cases g with
  | edge label => exact hg
  | join b a => exact ⟨EdgeText.isPadding_space b, EdgeText.isPadding_space a⟩

theorem isWell_padded {g : Gap} (hg : g.IsWell) : g.padded.IsWell := by
  cases g with
  | edge label => exact hg
  | join b a => exact ⟨by simp [Text.IsPadding], by simp [Text.IsPadding]⟩

theorem space_space (b : Text) : space (space b) = space b := by
  by_cases h : b = []
  · rw [h]
    rfl
  · rw [EdgeText.space_of_ne_nil h]
    rfl

theorem spaced_spaced (g : Gap) : g.spaced.spaced = g.spaced := by
  cases g with
  | edge label => rfl
  | join b a => simp only [spaced, space_space]

theorem padded_spaced (g : Gap) : g.spaced.padded = g.padded := by
  cases g <;> rfl

theorem text_ne_nil (g : Gap) : g.text ≠ [] := by
  cases g <;> simp [text]

/-- No name goes on into a gap. -/
theorem endsName_text_append {g : Gap} (hg : g.IsWell) (u : Text) :
    Token.EndsName (g.text ++ u) := by
  intro c hc
  cases g with
  | edge label =>
      cases hc
      exact .inl rfl
  | join b a =>
      cases b with
      | nil =>
          cases hc
          exact .inr rfl
      | cons d b =>
          cases hc
          exact .inl (hg.1.isBlanks _ (by simp))

theorem isFree_text {g : Gap} (hg : g.IsWell) : Segment.IsFree g.text := by
  have hspace : Segment.IsFree [' '] := Segment.isFree_of_all (by decide)
  have harrow : Segment.IsFree arrow := Segment.isFree_of_all (by decide)
  have hjoin : Segment.IsFree ['&'] := Segment.isFree_of_all (by decide)
  cases g with
  | edge label =>
      cases label with
      | none => exact (hspace.append harrow).append hspace
      | some l =>
          have hlabel := Segment.isFree_label (hg l rfl).isLegal.pipe
          have := (hspace.append (harrow.append hlabel)).append hspace
          simpa [text, renderEdge] using this
  | join b a =>
      exact (EdgeText.isFree_blanks hg.1.isBlanks).append
        (hjoin.append (EdgeText.isFree_blanks hg.2.isBlanks))

/-- No identifier reaches back across a gap. -/
theorem stopsGlue_text {g : Gap} (hg : g.IsWell) (back : Text) :
    Segment.StopsGlue (g.text.reverse ++ back) := by
  intro c hc
  cases g with
  | edge label =>
      rw [text, List.reverse_append] at hc
      cases hc
      exact .inl rfl
  | join b a =>
      by_cases ha : a = []
      · rw [text, ha, List.reverse_append] at hc
        cases hc
        exact .inl rfl
      · have hstop : Segment.StopsGlue ((b ++ ['&'] ++ a).reverse ++ back) :=
          EdgeText.stopsGlue_append ha (EdgeText.stopsGlue_blanks hg.2.isBlanks)
        refine hstop c ?_
        simpa [text] using hc

end Gap

/-! ## Free text of a strand -/

/-- Free text behind a node. -/
structure IsRun (t : Text) : Prop where
  ends : Token.EndsName t
  colon : ':' ∉ t

/-- Free text behind a gap: nothing if a shape follows, else a name and what stands behind it. -/
inductive StartsName : Text → Prop where
  | nil : StartsName []
  | name {w t : Text} (hw : Ident.IsName w) (ht : IsRun t) : StartsName (w ++ t)

theorem IsRun.nil : IsRun [] := ⟨nofun, by simp⟩

theorem Gap.colon_notMem_text {g : Gap} (hg : g.IsWell) : ':' ∉ g.text := by
  cases g with
  | edge label =>
      cases label with
      | none => decide
      | some l =>
          have hl := Layout.colon_notMem_legal (hg l rfl).isLegal
          simp [Gap.text, renderEdge, arrow, hl]
  | join b a =>
      have hb := Layout.colon_notMem_blanks hg.1.isBlanks
      have ha := Layout.colon_notMem_blanks hg.2.isBlanks
      simp [Gap.text, hb, ha]

namespace StartsName

variable {u : Text} (hu : StartsName u)

include hu

theorem head : ∀ c ∈ u.head?, Text.isBlank c = false ∧ c ≠ '|' := by
  intro c hc
  cases hu with
  | nil => cases hc
  | name hw ht =>
      rw [List.head?_append_of_ne_nil _ hw.ne_nil] at hc
      have hpart := Ident.isNamePart_iff.1 (hw.parts c (List.mem_of_mem_head? hc))
      exact ⟨hpart.1, hpart.2.2.2.2.1⟩

theorem colon : ':' ∉ u := by
  cases hu with
  | nil => simp
  | name hw ht =>
      have hcolon := hw.notMem (d := ':') (by decide)
      simp [hcolon, ht.colon]

/-- The text is lexed as a word and what stands behind it, or as nothing. -/
theorem lex : Token.lex u = [] ∨ ∃ w ts, Token.lex u = .word w :: ts ∧ Text.IsWord w := by
  cases hu with
  | nil => exact .inl Token.lex_nil
  | name hw ht => exact .inr ⟨_, _, Token.lex_name_append hw ht.ends, hw.isWord⟩

end StartsName

theorem IsRun.gap_append {g : Gap} (hg : g.IsWell) {u : Text} (hu : StartsName u) :
    IsRun (g.text ++ u) := by
  refine ⟨g.endsName_text_append hg u, ?_⟩
  simp [Gap.colon_notMem_text hg, hu.colon]

/-- A gap is lexed apart from the name behind it. -/
theorem Gap.lex_text_append {g : Gap} (hg : g.IsWell) {u : Text} (hu : StartsName u) :
    Token.lex (g.text ++ u) = g.tokens ++ Token.lex u := by
  have hhead : ∀ c ∈ u.head?, Text.isBlank c = false := fun c hc => (hu.head c hc).1
  have hspace {s : Text} (hs : ∀ c ∈ s.head?, Text.isBlank c = false) :
      Token.lex (' ' :: s) = .space :: Token.lex s :=
    Token.lex_blanks_append (b := [' ']) .space (by simp) hs
  have harrow {s : Text} (hs : ∀ c ∈ s.head?, c = ' ' ∨ c = '\t' ∨ c = '|') :
      Token.lex (arrow ++ s) = .arrow arrow :: Token.lex s :=
    Token.lex_arrow_append (by decide) (.inl hs)
  cases g with
  | edge label =>
      cases label with
      | none =>
          show Token.lex (' ' :: (arrow ++ ' ' :: u)) = _
          rw [hspace (by simp [arrow, Text.isBlank]), harrow (by simp), hspace hhead]
          rfl
      | some l =>
          have hlabel := Token.lex_label_append (hg l rfl).isLegal.pipe (' ' :: u)
          have hsplit : (edge (some l)).text ++ u
              = ' ' :: (arrow ++ ('|' :: l ++ '|' :: ' ' :: u)) := by
            simp [text, renderEdge]
          rw [hsplit, hspace (by simp [arrow, Text.isBlank]), harrow (by simp), hlabel,
            hspace hhead]
          rfl
  | join b a =>
      have hsplit : (join b a).text ++ u = b ++ '&' :: (a ++ u) := by simp [text]
      rw [hsplit, EdgeText.lex_blanks_append hg.1.isBlanks (by simp [Text.isBlank]),
        Token.lex_join_append, EdgeText.lex_blanks_append hg.2.isBlanks hhead]
      simp [tokens]

/-! ## Segments -/

theorem ShapedNode.render_eq (n : ShapedNode) : n.render
    = n.id ++ n.shape.opener :: n.shape.interior n.label ++ [closerOf n.shape.opener] := by
  rw [render, Shape.wrap_eq]
  simp

/-- A named shape is read from its canonical text. -/
theorem Segment.scanFrom_render {n : ShapedNode} (hn : n.IsNamed) {back : Text}
    (hback : StopsGlue back) (s : Text) :
    scanFrom back (n.render ++ s) = ofBack back ++ .node n :: scanFrom [] s := by
  obtain ⟨hid, hlabel, hends⟩ := hn
  have hplain : Label.HasPlainEnds n.label := Label.hasPlainEnds_iff.2 hends
  have htrim : Text.trim n.label = n.label := Text.trim_eq_self hlabel.isTrimmed
  have hread := classifyInterior_interior n.shape hlabel.isLegal fun _ => by
    rw [htrim]
    exact hplain.head
  have hsplit : n.render ++ s
      = n.id ++ n.shape.opener :: n.shape.interior n.label ++ closerOf n.shape.opener :: s := by
    simp [ShapedNode.render_eq]
  rw [hsplit, scanFrom_shape hid.isGlued n.shape.isOpener_opener
    (n.shape.isBalanced_interior hlabel.isLegal) hback, hread, htrim]

namespace Strand

open Layout (textSegment part ofBack_eq flatMap_textSegment)

def linksText (links : List (Gap × Node)) : Text :=
  links.flatMap fun l => l.1.text ++ l.2.render

def text (p : Strand) : Text :=
  p.first.render ++ linksText p.links

structure IsWell (p : Strand) : Prop where
  first : p.first.IsNamed
  links : ∀ l ∈ p.links, l.1.IsWell ∧ l.2.IsNamed

variable {β : Type} {F : List Segment → List β} {S : Gap → List β} {W : Text → List β}
  {H : ShapedNode → List β}

/-- A reading of segments, and what it makes of gaps, of names in free text and of shapes. -/
structure Reads (F : List Segment → List β) (S : Gap → List β) (W : Text → List β)
    (H : ShapedNode → List β) : Prop where
  nil : F [] = []
  node (n : ShapedNode) (segments : List Segment) : F (.node n :: segments) = H n ++ F segments
  gap {g : Gap} {u : Text} (hg : g.IsWell) (hu : StartsName u) (segments : List Segment) :
    F (textSegment (g.text ++ u) ++ segments) = S g ++ F (textSegment u ++ segments)
  word {w t : Text} (hw : Ident.IsName w) (ht : IsRun t) (segments : List Segment) :
    F (textSegment (w ++ t) ++ segments) = W w ++ F (textSegment t ++ segments)

/-- What becomes of a node. -/
def readNode (W : Text → List β) (H : ShapedNode → List β) : Node → List β
  | .bare w => W w
  | .shaped n => H n

/-- A reading of segments one by one, which goes over free text part by part. -/
theorem Reads.of_part {G : Text → List β} (hnil : G [] = [])
    (hgap : ∀ {g u}, Gap.IsWell g → StartsName u → G (g.text ++ u) = S g ++ G u)
    (hword : ∀ {w t}, Ident.IsName w → IsRun t → G (w ++ t) = W w ++ G t) :
    Reads (fun segments => segments.flatMap (part G H)) S W H where
  nil := rfl
  node n segments := rfl
  gap hg hu segments := by
    rw [List.flatMap_append, List.flatMap_append, flatMap_textSegment hnil,
      flatMap_textSegment hnil, hgap hg hu, List.append_assoc]
  word hw ht segments := by
    rw [List.flatMap_append, List.flatMap_append, flatMap_textSegment hnil,
      flatMap_textSegment hnil, hword hw ht, List.append_assoc]

/-- The free text up to the first shape behind, and what is read of it and of the segments from
there on. -/
theorem Reads.exists_run (hF : Reads F S W H) {links : List (Gap × Node)}
    (hlinks : ∀ l ∈ links, l.1.IsWell ∧ l.2.IsNamed) :
    ∃ t segments, IsRun t ∧
      (∀ back, Segment.scanFrom back (linksText links)
        = textSegment (back.reverse ++ t) ++ segments) ∧
      F (textSegment t ++ segments) = links.flatMap fun l => S l.1 ++ readNode W H l.2 := by
  induction links with
  | nil =>
      refine ⟨[], [], .nil, fun back => ?_, hF.nil⟩
      rw [linksText, List.flatMap_nil, Segment.scanFrom_nil, ofBack_eq, List.append_nil,
        List.append_nil]
  | cons l links ih =>
      obtain ⟨g, n⟩ := l
      obtain ⟨hg, hn⟩ := hlinks (g, n) (by simp)
      obtain ⟨t, segments, ht, hscan, hread⟩ := ih fun l hl => hlinks l (by simp [hl])
      have htext (back : Text) : Segment.scanFrom back (linksText ((g, n) :: links))
          = Segment.scanFrom (g.text.reverse ++ back) (n.render ++ linksText links) := by
        rw [linksText, List.flatMap_cons, List.append_assoc, Gap.isFree_text hg, ← linksText]
      cases n with
      | bare w =>
          have hw : Ident.IsName w := hn
          have hu : StartsName (w ++ t) := .name hw ht
          refine ⟨g.text ++ (w ++ t), segments, .gap_append hg hu, fun back => ?_, ?_⟩
          · rw [htext, Node.render, hw.isFree, hscan]
            simp
          · rw [hF.gap hg hu, hF.word hw ht, hread, List.flatMap_cons, List.append_assoc]
            rfl
      | shaped n =>
          have hrun := IsRun.gap_append hg .nil
          have hgap := hF.gap hg .nil (.node n :: (textSegment t ++ segments))
          rw [List.append_nil] at hrun hgap
          refine ⟨g.text, .node n :: (textSegment t ++ segments), hrun, fun back => ?_, ?_⟩
          · rw [htext, Node.render, Segment.scanFrom_render hn (Gap.stopsGlue_text hg back),
              hscan, ofBack_eq]
            simp
          · show F _ = S g ++ H n ++ links.flatMap fun l => S l.1 ++ readNode W H l.2
            rw [hgap, List.append_assoc, ← hread, ← hF.node]
            rfl

/-- A reading goes over the parts of a strand. -/
theorem Reads.scan (hF : Reads F S W H) {p : Strand} (hp : p.IsWell) :
    F (Segment.scan p.text)
      = readNode W H p.first ++ p.links.flatMap fun l => S l.1 ++ readNode W H l.2 := by
  obtain ⟨t, segments, ht, hscan, hread⟩ := hF.exists_run hp.links
  have hfirst := hp.first
  rw [Segment.scan, text]
  cases hn : p.first with
  | bare w =>
      rw [hn] at hfirst
      have hw : Ident.IsName w := hfirst
      have hstart := hscan (w.reverse ++ [])
      rw [List.append_nil, List.reverse_reverse] at hstart
      rw [Node.render, hw.isFree, List.append_nil, hstart, hF.word hw ht, hread]
      rfl
  | shaped n =>
      rw [hn] at hfirst
      rw [Node.render, Segment.scanFrom_render hfirst (by simp [Segment.StopsGlue]), hscan]
      show F (.node n :: (textSegment t ++ segments)) = _
      rw [hF.node, hread]
      rfl

end Strand

end Flowchart
