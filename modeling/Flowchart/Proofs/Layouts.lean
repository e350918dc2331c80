import Flowchart.Proofs.EdgeTexts
import Flowchart.Proofs.Lines

/-!
# Layouts of statement lines

A layout is a chain of nodes and edges as they are written on a line, with the blanks around them.
Its segments are known from its parts, so that a map over the segments of the line is a map over
the parts of the layout.
-/

namespace Flowchart

/-- A statement as it is written on a line. -/
structure Layout where
  lead : Text
  first : NodeText
  links : List (EdgeText × NodeText)
  trail : Text

namespace Layout

def linksText : List (EdgeText × NodeText) → Text → Text
  | [], trail => trail
  | (e, n) :: links, trail => e.text ++ (n.text ++ linksText links trail)

def text (p : Layout) : Text := p.lead ++ (p.first.text ++ linksText p.links p.trail)

/-- Every part is well written. -/
structure IsWell (p : Layout) : Prop where
  lead : Text.IsBlanks p.lead
  first : p.first.IsWell
  links : ∀ l ∈ p.links, l.1.IsWell ∧ l.2.IsWell
  trail : Text.IsBlanks p.trail

theorem isAlphanum_of_isWell {n : NodeText} (hn : n.IsWell) : ∀ c ∈ n.id, c.isAlphanum = true :=
  (Ident.isValid_iff.1 hn.id).2.1

theorem startsNode_id {n : NodeText} (hn : n.IsWell) (s : Text) :
    EdgeText.StartsNode (n.id ++ s) := by
  have hne := (Ident.isValid_iff.1 hn.id).1
  intro c hc
  refine isAlphanum_of_isWell hn c ?_
  cases h : n.id with
  | nil => exact absurd h hne
  | cons d id =>
      rw [h] at hc
      cases hc
      simp

theorem text_eq_id_append (n : NodeText) : ∃ s, n.text = n.id ++ s := by
  cases n with
  | bare id => exact ⟨[], (List.append_nil id).symm⟩
  | shaped id c i => exact ⟨c :: i ++ [closerOf c], by simp [NodeText.text, NodeText.id]⟩

theorem startsNode_text {n : NodeText} (hn : n.IsWell) (s : Text) :
    EdgeText.StartsNode (n.text ++ s) := by
  obtain ⟨t, ht⟩ := text_eq_id_append n
  rw [ht, List.append_assoc]
  exact startsNode_id hn _

theorem endsWord_blanks {b : Text} (hb : Text.IsBlanks b) : Token.EndsWord b := by
  cases b with
  | nil => exact Token.endsWord_nil
  | cons c b => exact Token.endsWord_of_head (.inl (hb c (by simp)))

/-! ## The ends of a line -/

/-- The line without the blanks around it. -/
def core (p : Layout) : Text := p.first.text ++ linksText p.links []

theorem linksText_eq (links : List (EdgeText × NodeText)) (trail : Text) :
    linksText links trail = linksText links [] ++ trail := by
  induction links with
  | nil => rfl
  | cons l links ih =>
      obtain ⟨e, n⟩ := l
      rw [linksText, linksText, ih]
      simp

theorem text_eq_core (p : Layout) : p.text = p.lead ++ p.core ++ p.trail := by
  rw [text, linksText_eq, core]
  simp

theorem text_ne_nil {n : NodeText} (hn : n.IsWell) : n.text ≠ [] := by
  obtain ⟨s, hs⟩ := text_eq_id_append n
  have := (Ident.isValid_iff.1 hn.id).1
  simp [hs, this]

theorem getLast?_text {n : NodeText} (hn : n.IsWell) :
    ∀ c ∈ n.text.getLast?, c.isAlphanum = true ∨ isCloser c = true := by
  intro c hc
  cases n with
  | bare id => exact .inl (isAlphanum_of_isWell hn c (List.mem_of_getLast? hc))
  | shaped id o i =>
      rw [NodeText.text, List.getLast?_append] at hc
      cases hc
      exact .inr (isCloser_closerOf o)

theorem getLast?_linksText {n : NodeText} {links : List (EdgeText × NodeText)} (hn : n.IsWell)
    (hlinks : ∀ l ∈ links, l.1.IsWell ∧ l.2.IsWell) :
    ∀ c ∈ (n.text ++ linksText links []).getLast?, c.isAlphanum = true ∨ isCloser c = true := by
  induction links generalizing n with
  | nil =>
      rw [linksText, List.append_nil]
      exact getLast?_text hn
  | cons l links ih =>
      obtain ⟨e, m⟩ := l
      have hm := (hlinks (e, m) (by simp)).2
      intro c hc
      refine ih hm (fun l hl => hlinks l (by simp [hl])) c ?_
      have hne : m.text ++ linksText links [] ≠ [] := by simp [text_ne_nil hm]
      rw [linksText, ← List.append_assoc, List.getLast?_append_of_ne_nil _ hne] at hc
      exact hc

theorem isBlank_eq_false_of_isCloser {c : Char} (h : isCloser c = true) :
    Text.isBlank c = false :=
  Text.eq_false_of_mem (Segment.mem_of_isCloser c h) (by decide)

theorem isTrimmed_text {n : NodeText} (hn : n.IsWell) : Text.IsTrimmed n.text := by
  have hstart := startsNode_text hn []
  rw [List.append_nil] at hstart
  refine ⟨EdgeText.StartsNode.not_isBlank hstart, fun c hc => ?_⟩
  rcases getLast?_text hn c hc with h | h
  · exact Ident.not_isBlank_of_isAlphanum h
  · exact isBlank_eq_false_of_isCloser h

theorem isTrimmed_core {p : Layout} (hp : p.IsWell) : Text.IsTrimmed p.core := by
  constructor
  · exact EdgeText.StartsNode.not_isBlank (startsNode_text hp.first _)
  · intro c hc
    rcases getLast?_linksText hp.first hp.links c hc with h | h
    · exact Ident.not_isBlank_of_isAlphanum h
    · exact isBlank_eq_false_of_isCloser h

theorem core_ne_nil {p : Layout} (hp : p.IsWell) : p.core ≠ [] := by
  simp [core, text_ne_nil hp.first]

theorem trim_text {p : Layout} (hp : p.IsWell) : Text.trim p.text = p.core := by
  rw [text_eq_core, Text.trim_append_append hp.lead hp.trail (core_ne_nil hp) (isTrimmed_core hp)]

theorem getLast?_trim_text {p : Layout} (hp : p.IsWell) :
    ∀ c ∈ (Text.trim p.text).getLast?, c ≠ ';' := by
  rw [trim_text hp]
  intro c hc
  rcases getLast?_linksText hp.first hp.links c hc with h | h <;>
    (rintro rfl; exact absurd h (by decide))

/-! ## Kinds of lines -/

/-- Whether blanks or nothing stand behind the first node. -/
def endsFirst (p : Layout) : Bool :=
  match p.links with
  | [] => true
  | l :: _ => !l.1.before.isEmpty

/-- Whether the line is taken for a directive. -/
def isDirective (p : Layout) : Bool :=
  match p.first with
  | .bare w => p.endsFirst && Line.directiveKeywords.contains w
  | .shaped .. => false

/-- Whether the line is taken for a root declaration. -/
def isRoot (p : Layout) : Bool :=
  match p.first with
  | .bare w => p.links.isEmpty && Line.isRootKeyword w
  | .shaped .. => false

def isMistakable (p : Layout) : Bool := p.isDirective || p.isRoot

/-- Behind its first blanks an edge begins with an arrow. -/
theorem exists_behind_before {e : EdgeText} (he : e.IsWell) (s : Text) :
    ∃ c t, e.text ++ s = e.before ++ c :: t ∧ Token.isArrowChar c = true := by
  have key {b a : Text} (ha : Token.IsArrowText a) (t : Text) :
      ∃ c u, b ++ (a ++ t) = b ++ c :: u ∧ Token.isArrowChar c = true := by
    obtain ⟨c, a, rfl⟩ := List.exists_cons_of_ne_nil ha.ne_nil
    exact ⟨c, a ++ t, rfl, EdgeText.IsArrowText.head ha t c rfl⟩
  cases e with
  | plain b a b' =>
      simp only [EdgeText.text, EdgeText.before, List.append_assoc]
      exact key he.2.1.1 _
  | piped b a m l b' =>
      simp only [EdgeText.text, EdgeText.before, List.append_assoc]
      exact key he.2.1.1 _
  | inline b o g l g' a b' =>
      simp only [EdgeText.text, EdgeText.before, List.append_assoc]
      exact key he.2.1 _

theorem isBlanks_before {e : EdgeText} (he : e.IsWell) : Text.IsBlanks e.before := by
  cases e with
  | plain b a b' => exact he.1
  | piped b a m l b' => exact he.1
  | inline b o g l g' a b' => exact he.1

theorem isAlphanum_eq_false_of_isBlank {c : Char} (h : Text.isBlank c = true) :
    c.isAlphanum = false := by
  by_contra hc
  rw [Ident.not_isBlank_of_isAlphanum (by simpa using hc)] at h
  cases h

theorem isAlphanum_eq_false_of_isArrowChar {c : Char} (h : Token.isArrowChar c = true) :
    c.isAlphanum = false :=
  Text.eq_false_of_mem (Token.mem_of_isArrowChar c h) (by decide)

theorem isBlank_eq_false_of_isArrowChar {c : Char} (h : Token.isArrowChar c = true) :
    Text.isBlank c = false :=
  Text.eq_false_of_mem (Token.mem_of_isArrowChar c h) (by decide)

theorem head_opener {c : Char} (hc : isOpener c = true) :
    c.isAlphanum = false ∧ Text.isBlank c = false ∧ c ≠ ';' := by
  have hmem := Segment.mem_of_isOpener c hc
  refine ⟨Text.eq_false_of_mem hmem (by decide), Text.eq_false_of_mem hmem (by decide), ?_⟩
  rintro rfl
  exact absurd hc (by decide)

/-- What a glued line is read as. -/
theorem kinds_of_glued {p : Layout} (hp : p.IsWell) {r : Text} {c : Char}
    (htext : p.text = p.lead ++ (p.first.id ++ r)) (hc : c ∈ r.head?)
    (halnum : c.isAlphanum = false) (hblank : Text.isBlank c = false) (hsemi : c ≠ ';') :
    Line.isDirective p.text = false ∧ Line.rootDirection? p.text = none := by
  have hid := Ident.isValid_iff.1 hp.first.id
  have hlast := getLast?_trim_text hp
  have hr : ∀ d ∈ r.head?, d.isAlphanum = false := by
    intro d hd
    rw [Option.mem_def.1 hc] at hd
    cases hd
    exact halnum
  rw [htext] at hlast ⊢
  exact ⟨Line.isDirective_glued hp.lead hid.1 hid.2.1 hr hc hblank hsemi,
    Line.rootDirection?_glued hp.lead hid.1 hid.2.1 hr hlast hc hblank⟩

theorem words_behind_blanks {c : Char} {b s : Text} (hb : Text.IsBlanks b) (hne : b ≠ [])
    (hc : Token.isArrowChar c = true) :
    ∃ w ws, Text.words ((b ++ c :: s).dropWhile (!Text.isBlank ·)) = (c :: w) :: ws := by
  obtain ⟨d, b, rfl⟩ := List.exists_cons_of_ne_nil hne
  have hstop : ((d :: b) ++ c :: s).dropWhile (!Text.isBlank ·) = (d :: b) ++ c :: s := by
    simp [hb d (by simp)]
  obtain ⟨w, r, hw, hword, hr⟩ := Text.exists_word_append (s := c :: s) (by simp)
    (by simp [isBlank_eq_false_of_isArrowChar hc])
  obtain ⟨f, w, rfl⟩ := List.exists_cons_of_ne_nil hword.1
  cases hw
  refine ⟨w, Text.words r, ?_⟩
  rw [hstop, Text.words_append_of_isBlanks _ hb]
  exact Text.words_word_append hword hr

/-- What a line that is a word and perhaps blanks behind it is read as. -/
theorem kinds_of_word {p : Layout} (hp : p.IsWell) {w : Text} (hn : p.first = .bare w)
    (hl : p.links = []) :
    Line.isDirective p.text = p.isDirective ∧
      Line.rootDirection? p.text = if p.isRoot = true then some default else none := by
  have hid := Ident.isValid_iff.1 hp.first.id
  have hlast := getLast?_trim_text hp
  have htext : p.text = p.lead ++ (p.first.id ++ p.trail) := by
    rw [text, hn, hl]
    rfl
  have hr : ∀ c ∈ p.trail.head?, Text.isBlank c = true :=
    fun c hc => hp.trail c (List.mem_of_mem_head? hc)
  rw [htext] at hlast ⊢
  rw [Line.isDirective_word hp.lead hid.1 hid.2.1 hr,
    Line.rootDirection?_word hp.lead hid.1 hid.2.1 hlast hp.trail]
  simp [isDirective, isRoot, endsFirst, hn, hl, NodeText.id]

/-- What a line that begins with a word and an arrow is read as. -/
theorem kinds_of_word_link {p : Layout} (hp : p.IsWell) {w : Text} (hn : p.first = .bare w)
    {l : EdgeText × NodeText} {links : List (EdgeText × NodeText)} (hl : p.links = l :: links) :
    Line.isDirective p.text = p.isDirective ∧
      Line.rootDirection? p.text = if p.isRoot = true then some default else none := by
  obtain ⟨e, m⟩ := l
  have hid := Ident.isValid_iff.1 hp.first.id
  have hlast := getLast?_trim_text hp
  have he := (hp.links (e, m) (by simp [hl])).1
  obtain ⟨c, t, hbehind, hc⟩ := exists_behind_before he (m.text ++ linksText links p.trail)
  have htext : p.text = p.lead ++ (p.first.id ++ (e.before ++ c :: t)) := by
    rw [text, hn, hl, linksText, hbehind]
    rfl
  have halnum := isAlphanum_eq_false_of_isArrowChar hc
  by_cases hb : e.before = []
  · -- the arrow is glued to the first word
    have hsemi : c ≠ ';' := by
      rintro rfl
      exact absurd hc (by decide)
    rw [hb, List.nil_append] at htext
    have := kinds_of_glued hp htext (c := c) rfl halnum (isBlank_eq_false_of_isArrowChar hc) hsemi
    simpa [isDirective, isRoot, endsFirst, hn, hl, hb] using this
  · have hbefore := isBlanks_before he
    have hr : ∀ d ∈ (e.before ++ c :: t).head?, Text.isBlank d = true := by
      obtain ⟨d, b, hcons⟩ := List.exists_cons_of_ne_nil hb
      rw [hcons] at hbefore ⊢
      intro f hf
      cases hf
      exact hbefore _ (by simp)
    obtain ⟨w', ws, hw⟩ := words_behind_blanks (s := t) hbefore hb hc
    rw [htext] at hlast ⊢
    rw [Line.isDirective_word hp.lead hid.1 hid.2.1 hr,
      Line.rootDirection?_of_second hp.lead hid.1 hid.2.1 hlast hw (Line.ofText?_eq_none halnum)]
    simp [isDirective, isRoot, endsFirst, hn, hl, hb, NodeText.id]

/-- Both kinds that a line of a layout may be taken for. -/
theorem kinds_text {p : Layout} (hp : p.IsWell) :
    Line.isDirective p.text = p.isDirective ∧
      Line.rootDirection? p.text = if p.isRoot = true then some default else none := by
  cases hn : p.first with
  | shaped id c i =>
      have hc := head_opener (hp.first.shape id c i hn).1
      have htext : p.text =
          p.lead ++ (p.first.id ++ (c :: i ++ [closerOf c] ++ linksText p.links p.trail)) := by
        rw [text, hn, NodeText.text, NodeText.id]
        simp
      have := kinds_of_glued hp htext (c := c) rfl hc.1 hc.2.1 hc.2.2
      simpa [isDirective, isRoot, hn] using this
  | bare w =>
      cases hl : p.links with
      | nil => exact kinds_of_word hp hn hl
      | cons l links => exact kinds_of_word_link hp hn hl

theorem mayHoldStatement_text {p : Layout} (hp : p.IsWell) :
    Line.mayHoldStatement p.text = !p.isMistakable := by
  obtain ⟨hd, hr⟩ := kinds_text hp
  rw [Line.mayHoldStatement, hd, hr, isMistakable]
  cases p.isDirective <;> cases p.isRoot <;> rfl

/-! ## Segments -/

def textSegment (t : Text) : List Segment := if t.isEmpty then [] else [.text t]

theorem ofBack_eq (back : Text) : Segment.ofBack back = textSegment back.reverse := by
  simp [Segment.ofBack, textSegment]

/-- The free text up to the first shape behind, and the segments from that shape on. -/
def tailSegments : List (EdgeText × NodeText) → Text → Text × List Segment
  | [], trail => (trail, [])
  | (e, .bare w) :: links, trail =>
    let rest := tailSegments links trail
    (e.text ++ (w ++ rest.1), rest.2)
  | (e, .shaped id c i) :: links, trail =>
    let rest := tailSegments links trail
    let read := Segment.classifyInterior c i
    (e.text, .node ⟨id, read.1, read.2⟩ :: (textSegment rest.1 ++ rest.2))

def segments (p : Layout) : List Segment :=
  let rest := tailSegments p.links p.trail
  match p.first with
  | .bare w => textSegment (p.lead ++ (w ++ rest.1)) ++ rest.2
  | .shaped id c i =>
    let read := Segment.classifyInterior c i
    textSegment p.lead ++ .node ⟨id, read.1, read.2⟩ :: (textSegment rest.1 ++ rest.2)

theorem isFree_id {w : Text} (hw : Ident.isValid w = true) : Segment.IsFree w :=
  Segment.isFree_word (Ident.isValid_iff.1 hw).2.1

/-- A well written shape is read as its node. -/
theorem scanFrom_shaped {id i back : Text} {c : Char} (h : (NodeText.shaped id c i).IsWell)
    (hback : Segment.StopsGlue back) (s : Text) :
    Segment.scanFrom back ((NodeText.shaped id c i).text ++ s) =
      Segment.ofBack back ++ .node ⟨id, (Segment.classifyInterior c i).1,
        (Segment.classifyInterior c i).2⟩ :: Segment.scanFrom [] s := by
  obtain ⟨hc, hi, -⟩ := h.shape id c i rfl
  have hid := Ident.isValid_iff.1 h.id
  have hsplit : (NodeText.shaped id c i).text ++ s = id ++ c :: i ++ closerOf c :: s := by
    simp [NodeText.text]
  rw [hsplit]
  exact Segment.scanFrom_shape (Segment.isGlued_word hid.1 hid.2.1) hc hi hback s

theorem scanFrom_linksText {links : List (EdgeText × NodeText)} {trail : Text}
    (hlinks : ∀ l ∈ links, l.1.IsWell ∧ l.2.IsWell) (htrail : Text.IsBlanks trail) (back : Text) :
    Segment.scanFrom back (linksText links trail) =
      textSegment (back.reverse ++ (tailSegments links trail).1) ++
        (tailSegments links trail).2 := by
  induction links generalizing back with
  | nil =>
      have := EdgeText.isFree_blanks htrail back []
      rw [List.append_nil] at this
      rw [linksText, this, Segment.scanFrom_nil, ofBack_eq, tailSegments, List.append_nil,
        List.reverse_append, List.reverse_reverse]
  | cons l links ih =>
      obtain ⟨e, n⟩ := l
      obtain ⟨he, hn⟩ := hlinks (e, n) (by simp)
      have hrest : ∀ l ∈ links, l.1.IsWell ∧ l.2.IsWell := fun l hl => hlinks l (by simp [hl])
      rw [linksText, EdgeText.isFree_text he]
      cases n with
      | bare w =>
          have hw : Ident.isValid w = true := hn.id
          rw [NodeText.text, isFree_id hw, ih hrest, tailSegments]
          simp
      | shaped id c i =>
          rw [scanFrom_shaped hn (EdgeText.stopsGlue_text he back), ih hrest, ofBack_eq,
            tailSegments]
          simp

/-- The segments of the line. -/
theorem scan_text {p : Layout} (hp : p.IsWell) : Segment.scan p.text = p.segments := by
  rw [Segment.scan, text, EdgeText.isFree_blanks hp.lead, segments]
  have hfirst := hp.first
  cases hn : p.first with
  | bare w =>
      rw [hn] at hfirst
      have hw : Ident.isValid w = true := hfirst.id
      rw [NodeText.text, isFree_id hw, scanFrom_linksText hp.links hp.trail]
      simp
  | shaped id c i =>
      rw [hn] at hfirst
      have hstop : Segment.StopsGlue (p.lead.reverse ++ []) := by
        rw [List.append_nil]
        exact EdgeText.stopsGlue_blanks hp.lead
      rw [scanFrom_shaped hfirst hstop, scanFrom_linksText hp.links hp.trail, ofBack_eq]
      simp

/-! ## Maps over segments -/

/-- What a segment becomes, by its kind. -/
def part {β : Type} (G : Text → List β) (H : ShapedNode → List β) : Segment → List β
  | .text t => G t
  | .node n => H n

/-- A reading of free text that goes part by part. -/
structure Splits {β : Type} (p : Layout) (G : Text → List β) (S : EdgeText → List β)
    (W B : Text → List β) : Prop where
  nil : G [] = []
  edge : ∀ l ∈ p.links, ∀ u, EdgeText.StartsNode u → G (l.1.text ++ u) = S l.1 ++ G u
  word : ∀ w t, Ident.isValid w = true → Token.EndsWord t → G (w ++ t) = W w ++ G t
  lead : ∀ u, EdgeText.StartsNode u → G (p.lead ++ u) = B p.lead ++ G u
  trail : G p.trail = B p.trail

/-- What becomes of a node. -/
def nodePart {β : Type} (W : Text → List β) (H : ShapedNode → List β) : NodeText → List β
  | .bare w => W w
  | .shaped id c i =>
    H ⟨id, (Segment.classifyInterior c i).1, (Segment.classifyInterior c i).2⟩

section

variable {β : Type} {G : Text → List β} {H : ShapedNode → List β} {S : EdgeText → List β}
  {W B : Text → List β}

theorem nodePart_bare (w : Text) : nodePart W H (.bare w) = W w := rfl

theorem nodePart_shaped (id : Text) (c : Char) (i : Text) :
    nodePart W H (.shaped id c i) = H ⟨id, (Segment.classifyInterior c i).1,
      (Segment.classifyInterior c i).2⟩ := rfl

theorem flatMap_textSegment (hnil : G [] = []) (t : Text) :
    (textSegment t).flatMap (part G H) = G t := by
  cases t with
  | nil => exact hnil.symm
  | cons c t => simp [textSegment, part]

theorem startsNode_word {w : Text} (hw : Ident.isValid w = true) (s : Text) :
    EdgeText.StartsNode (w ++ s) := by
  obtain ⟨hne, hid, -⟩ := Ident.isValid_iff.1 hw
  obtain ⟨d, w, rfl⟩ := List.exists_cons_of_ne_nil hne
  intro c hc
  cases hc
  exact hid _ (by simp)

/-- A word ends before the free text behind it. -/
theorem endsWord_tailSegments {links : List (EdgeText × NodeText)} {trail : Text}
    (hlinks : ∀ l ∈ links, l.1.IsWell ∧ l.2.IsWell) (htrail : Text.IsBlanks trail) :
    Token.EndsWord (tailSegments links trail).1 := by
  cases links with
  | nil => exact endsWord_blanks htrail
  | cons l links =>
      obtain ⟨e, n⟩ := l
      obtain ⟨he, hn⟩ := hlinks (e, n) (by simp)
      cases n with
      | bare w =>
          have hw : Ident.isValid w = true := hn.id
          exact EdgeText.endsWord_text_append he (startsNode_word hw _)
      | shaped id c i =>
          have := EdgeText.endsWord_text_append he (u := []) (by intro c hc; cases hc)
          rwa [List.append_nil] at this

theorem flatMap_tailSegments {links : List (EdgeText × NodeText)} {trail : Text}
    (hlinks : ∀ l ∈ links, l.1.IsWell ∧ l.2.IsWell) (htrail : Text.IsBlanks trail)
    (hnil : G [] = [])
    (hedge : ∀ l ∈ links, ∀ u, EdgeText.StartsNode u → G (l.1.text ++ u) = S l.1 ++ G u)
    (hword : ∀ w t, Ident.isValid w = true → Token.EndsWord t → G (w ++ t) = W w ++ G t) :
    G (tailSegments links trail).1 ++ (tailSegments links trail).2.flatMap (part G H)
      = (links.flatMap fun l => S l.1 ++ nodePart W H l.2) ++ G trail := by
  induction links with
  | nil => simp [tailSegments]
  | cons l links ih =>
      obtain ⟨e, n⟩ := l
      have hrest : ∀ l ∈ links, l.1.IsWell ∧ l.2.IsWell := fun l hl => hlinks l (by simp [hl])
      have ih := ih hrest fun l hl => hedge l (by simp [hl])
      have hn := (hlinks (e, n) (by simp)).2
      cases n with
      | bare w =>
          have hw : Ident.isValid w = true := hn.id
          rw [tailSegments, hedge (e, .bare w) (by simp) _ (startsNode_word hw _),
            hword w _ hw (endsWord_tailSegments hrest htrail), List.flatMap_cons]
          simp only [List.append_assoc, nodePart_bare]
          rw [ih]
      | shaped id c i =>
          have hlast := hedge (e, .shaped id c i) (by simp) [] (by intro c hc; cases hc)
          rw [List.append_nil, hnil, List.append_nil] at hlast
          rw [tailSegments, hlast, List.flatMap_cons, List.flatMap_cons, List.flatMap_append,
            flatMap_textSegment hnil]
          simp only [List.append_assoc, nodePart_shaped, part]
          rw [ih]

/-- A map over the segments of the line goes over the parts of the layout. -/
theorem flatMap_segments {p : Layout} (hp : p.IsWell) (hs : p.Splits G S W B) :
    p.segments.flatMap (part G H) =
      B p.lead ++ (nodePart W H p.first ++
        ((p.links.flatMap fun l => S l.1 ++ nodePart W H l.2) ++ B p.trail)) := by
  have hrest := flatMap_tailSegments (H := H) hp.links hp.trail hs.nil hs.edge hs.word
  have hfirst := hp.first
  rw [segments]
  cases hn : p.first with
  | bare w =>
      rw [hn] at hfirst
      have hw : Ident.isValid w = true := hfirst.id
      rw [List.flatMap_append, flatMap_textSegment hs.nil, hs.lead _ (startsNode_word hw _),
        hs.word w _ hw (endsWord_tailSegments hp.links hp.trail)]
      simp only [List.append_assoc, nodePart_bare]
      rw [hrest, hs.trail]
  | shaped id c i =>
      have hlead := hs.lead [] (by intro c hc; cases hc)
      rw [List.append_nil, hs.nil, List.append_nil] at hlead
      rw [List.flatMap_append, flatMap_textSegment hs.nil, hlead, List.flatMap_cons,
        List.flatMap_append, flatMap_textSegment hs.nil]
      simp only [nodePart_shaped, part]
      rw [hrest, hs.trail]

end

end Layout

end Flowchart
