import Flowchart.Proofs.Contents
import Flowchart.Proofs.StrandRules

/-!
# Documents of strands

A document is a root line and lines that are strands. No line is split or unquoted, and a line is
taken for a directive or a root declaration only where its first node looks like one. Then the
rules that work line by line leave the strand with identifiers for its names.
-/

namespace Flowchart

/-- Nothing is split where no semicolon is, and nothing is stripped where no quotation mark is. -/
theorem Repair.stripQuotes_splitStatements {s : Text} (hsemi : ';' ∉ s) (hquote : Text.IsUnquoted s)
    (hlines : Text.joinLines (Text.lines s) = s) : stripQuotes (splitStatements s) = s := by
  have hcontents : ∀ line ∈ s.contents, ';' ∉ line := by
    intro line hline hmem
    obtain ⟨l, hl, rfl⟩ := List.mem_map.1 (List.mem_filter.1 hline).1
    exact hsemi (Text.mem_of_mem_lines hl (Text.trim_subset l hmem))
  rw [splitStatements_of_notMem hcontents, hlines, stripQuotes_eq_self hquote]

namespace Strand

/-! ## Characters -/

section

variable {q : Char → Prop} (hwritten : ∀ c, isWritten c = true → q c)
  (hname : ∀ c, Ident.isNamePart c = true → q c) (hlabel : ∀ l, Label.IsClean l → Text.All q l)
  (htab : q '\t')

include hwritten hname hlabel

theorem all_node {n : Node} (hn : n.IsNamed) : Text.All q n.render := by
  cases n with
  | bare w =>
      have hw : Ident.IsName w := hn
      exact fun c hc => hname c (hw.parts c hc)
  | shaped n =>
      exact all_render_node hwritten (fun c hc => hname c (hn.1.parts c hc)) (hlabel _ hn.2.1)

include htab

omit hname in
theorem all_gap {g : Gap} (hg : g.IsWell) : Text.All q g.text := by
  have hspace : Text.All q [' '] := .written hwritten (by decide)
  have hpadding {b : Text} (hb : Text.IsPadding b) : Text.All q b := by
    intro c hc
    rcases hb c hc with rfl | rfl
    · exact hspace.head
    · exact htab
  cases g with
  | edge label =>
      have harrow : Text.All q arrow := .written hwritten (by decide)
      have hedge := all_renderEdge hwritten harrow fun l hl => hlabel l (hg l hl)
      exact (hspace.append hedge).append hspace
  | join b a => exact (hpadding hg.1).append (.cons (hwritten '&' (by decide)) (hpadding hg.2))

theorem all_text {p : Strand} (hp : p.IsWell) : Text.All q p.text := by
  refine (all_node hwritten hname hlabel hp.first).append fun c hc => ?_
  obtain ⟨l, hl, hmem⟩ := List.mem_flatMap.1 hc
  have hgap := all_gap hwritten hlabel htab (hp.links l hl).1
  exact (hgap.append (all_node hwritten hname hlabel (hp.links l hl).2)) c hmem

end

/-! ## The ends of a line -/

theorem getLast?_node {n : Node} (hn : n.IsNamed) :
    n.render ≠ [] ∧ ∀ c ∈ n.render.getLast?, Text.isBlank c = false := by
  cases n with
  | bare w =>
      have hw : Ident.IsName w := hn
      exact ⟨hw.ne_nil, fun c hc => hw.isWord.2 c (List.mem_of_getLast? hc)⟩
  | shaped n =>
      refine ⟨by simp [Node.render, n.render_eq], fun c hc => ?_⟩
      rw [Node.render, n.render_eq, List.getLast?_append] at hc
      cases hc
      exact Layout.isBlank_eq_false_of_isCloser (isCloser_closerOf _)

theorem getLast?_linksText {n : Node} (hn : n.IsNamed) {links : List (Gap × Node)}
    (hlinks : ∀ l ∈ links, l.1.IsWell ∧ l.2.IsNamed) :
    ∀ c ∈ (n.render ++ linksText links).getLast?, Text.isBlank c = false := by
  induction links generalizing n with
  | nil =>
      rw [linksText, List.flatMap_nil, List.append_nil]
      exact (getLast?_node hn).2
  | cons l links ih =>
      have hm := (hlinks l (by simp)).2
      have hne : l.2.render ++ linksText links ≠ [] := by simp [(getLast?_node hm).1]
      have hsplit : n.render ++ linksText (l :: links)
          = (n.render ++ l.1.text) ++ (l.2.render ++ linksText links) := by
        simp [linksText]
      rw [hsplit, List.getLast?_append_of_ne_nil _ hne]
      exact ih hm fun k hk => hlinks k (by simp [hk])

theorem exists_text_eq (p : Strand) : ∃ r, p.text = p.first.id ++ r ∧
    match p.first with
    | .bare _ => r = linksText p.links
    | .shaped n => r = n.shape.wrap n.label ++ linksText p.links := by
  cases h : p.first with
  | bare w => exact ⟨linksText p.links, by rw [text, h]; rfl, rfl⟩
  | shaped n =>
      refine ⟨n.shape.wrap n.label ++ linksText p.links, ?_, rfl⟩
      rw [text, h, Node.render, ShapedNode.render, List.append_assoc]
      rfl

/-! ## Words of a line -/

theorem words_name_append {w r : Text} (hw : Ident.IsName w) :
    Text.words (w ++ r) = (w ++ r.takeWhile (!Text.isBlank ·))
      :: Text.words (r.dropWhile (!Text.isBlank ·)) := by
  have hsplit : w ++ r
      = (w ++ r.takeWhile (!Text.isBlank ·)) ++ r.dropWhile (!Text.isBlank ·) := by
    rw [List.append_assoc, List.takeWhile_append_dropWhile]
  have hword : Text.IsWord (w ++ r.takeWhile (!Text.isBlank ·)) := by
    refine ⟨by simp [hw.ne_nil], fun c hc => ?_⟩
    rcases List.mem_append.1 hc with h | h
    · exact hw.isWord.2 c h
    · simpa using List.mem_takeWhile_imp h
  have hrest : ∀ c ∈ (r.dropWhile (!Text.isBlank ·)).head?, Text.isBlank c = true :=
    fun c hc => by simpa using Text.eq_false_of_head?_dropWhile hc
  conv_lhs => rw [hsplit]
  exact Text.words_word_append hword hrest

/-- Behind its blanks a gap begins with an arrow or a join. -/
theorem exists_words_gap_append {g : Gap} (hg : g.IsWell) {s : Text}
    (hs : ∃ c ∈ (g.text ++ s).head?, Text.isBlank c = true) :
    ∃ c w ws, Text.words (g.text ++ s) = (c :: w) :: ws ∧ c.isAlphanum = false := by
  have key {b r : Text} {c : Char} (hb : Text.IsBlanks b) (hc : Text.isBlank c = false)
      (halnum : c.isAlphanum = false) :
      ∃ d w ws, Text.words (b ++ c :: r) = (d :: w) :: ws ∧ d.isAlphanum = false := by
    obtain ⟨w, t, hw, hword, ht⟩ := Text.exists_word_append (s := c :: r) (by simp) (by simp [hc])
    obtain ⟨d, w, rfl⟩ := List.exists_cons_of_ne_nil hword.1
    have hd : c = d := (List.cons.inj hw).1
    subst hd
    refine ⟨c, w, Text.words t, ?_, halnum⟩
    rw [Text.words_append_of_isBlanks _ hb, hw]
    exact Text.words_word_append hword ht
  cases g with
  | edge label =>
      obtain ⟨t, ht⟩ : ∃ t, (Gap.edge label).text ++ s = [' '] ++ '-' :: t := by
        cases label <;> exact ⟨_, rfl⟩
      rw [ht]
      exact key .space (by decide) (by decide)
  | join b a =>
      have htext : (Gap.join b a).text ++ s = b ++ '&' :: (a ++ s) := by simp [Gap.text]
      rw [htext]
      exact key hg.1.isBlanks (by decide) (by decide)

/-- A keyword is made of letters. -/
theorem not_keyword {v : Text} {c : Char} (hc : c ∈ v) (halnum : c.isAlphanum = false) :
    v ∉ Line.directiveKeywords ∧ Line.isRootKeyword v = false := by
  constructor
  · intro h
    rw [Line.isAlphanum_of_mem_directiveKeywords h c hc] at halnum
    cases halnum
  · by_contra h
    rw [Line.isAlphanum_of_isRootKeyword (by simpa using h) c hc] at halnum
    cases halnum

/-- What stands right behind the name of the first node. -/
theorem head?_rest {p : Strand} (hp : p.IsWell) {r : Text} (htext : p.text = p.first.id ++ r) :
    (∃ c ∈ r.head?, Text.isBlank c = false ∧ c.isAlphanum = false) ∨
      (∃ w, p.first = .bare w) ∧ r = linksText p.links ∧ ∀ c ∈ r.head?, Text.isBlank c = true := by
  obtain ⟨r', htext', hrest⟩ := exists_text_eq p
  obtain rfl : r = r' := List.append_cancel_left (htext.symm.trans htext')
  cases hfirst : p.first with
  | shaped n =>
      rw [hfirst] at hrest
      have hopener := Layout.head_opener n.shape.isOpener_opener
      rw [hrest, Shape.wrap_eq]
      exact .inl ⟨_, rfl, hopener.2.1, hopener.1⟩
  | bare w =>
      rw [hfirst] at hrest
      cases hlinks : p.links with
      | nil =>
          rw [hlinks] at hrest
          exact .inr ⟨⟨w, rfl⟩, hrest, by simp [hrest, linksText]⟩
      | cons l links =>
          have hends := Gap.endsName_text_append (hp.links l (by simp [hlinks])).1
            (l.2.render ++ linksText links)
          have hr : r = l.1.text ++ (l.2.render ++ linksText links) := by
            rw [hrest, hlinks]
            simp [linksText]
          by_cases hjoin : r.head? = some '&'
          · exact .inl ⟨'&', hjoin, by decide, by decide⟩
          · refine .inr ⟨⟨w, rfl⟩, by rw [hrest, hlinks], fun c hc => ?_⟩
            rw [← hr] at hends
            refine (hends c hc).resolve_right fun he => hjoin ?_
            rw [← he]
            exact hc

/-! ## Kinds of lines -/

/-- Whether the line looks like a comment, a directive or a root declaration. -/
def isMistakable (p : Strand) : Bool :=
  ['%', '%'].isPrefixOf p.first.id ||
    match p.first with
    | .bare w =>
      Line.directiveKeywords.contains w || (p.links.isEmpty && Line.isRootKeyword w)
    | .shaped _ => false

section

variable {p : Strand} (hp : p.IsWell)

include hp

theorem isUnquoted_text : Text.IsUnquoted p.text :=
  all_text (fun _ => isQuotationMark_of_isWritten)
    (fun _ hc => (Ident.isNamePart_iff.1 hc).2.2.2.1)
    (fun _ hl _ hc => hl.not_isQuotationMark hc) (by decide) hp

theorem newline_notMem_text : '\n' ∉ p.text := by
  have hall : Text.All (· ≠ '\n') p.text := by
    refine all_text (fun _ => ne_newline_of_isWritten) (fun c hc he => ?_)
      (fun l hl c hc he => hl.newline (he ▸ hc)) (by decide) hp
    subst he
    exact absurd hc (by decide)
  exact fun h => hall _ h rfl

theorem semicolon_notMem_text : ';' ∉ p.text := by
  have hall : Text.All (· ≠ ';') p.text := by
    refine all_text (fun c hc he => ?_) (fun c hc => (Ident.isNamePart_iff.1 hc).2.2.2.2.2.2.1)
      (fun l hl c hc he => ?_) (by decide) hp
    · subst he
      exact absurd hc (by decide)
    · subst he
      exact absurd (hl.not_isIllegal hc) (by decide)
  exact fun h => hall _ h rfl

theorem isTrimmed_text : Text.IsTrimmed p.text := by
  constructor
  · obtain ⟨r, htext, -⟩ := exists_text_eq p
    have hw := hp.first.id
    intro c hc
    rw [htext, List.head?_append_of_ne_nil _ hw.ne_nil] at hc
    exact hw.isWord.2 c (List.mem_of_mem_head? hc)
  · exact getLast?_linksText hp.first hp.links

theorem text_ne_nil : p.text ≠ [] := by
  have := (getLast?_node hp.first).1
  simp [text, this]

theorem isLine_text : Text.IsLine p.text :=
  (isTrimmed_text hp).isLine (text_ne_nil hp) (newline_notMem_text hp)

theorem isComment_text : Line.isComment p.text = ['%', '%'].isPrefixOf p.first.id := by
  obtain ⟨r, htext, -⟩ := exists_text_eq p
  have hw := hp.first.id
  rw [Line.isComment, Text.trim_eq_self (isTrimmed_text hp), htext]
  cases h : p.first.id with
  | nil => exact absurd h hw.ne_nil
  | cons c w =>
      cases w with
      | nil =>
          -- a name of one character is a letter or a digit
          obtain ⟨d, hd, halnum⟩ := hw.alphanum
          rw [h, List.mem_singleton] at hd
          subst hd
          have hne : ('%' == d) = false := by
            refine beq_eq_false_iff_ne.2 fun he => ?_
            rw [← he] at halnum
            exact absurd halnum (by decide)
          simp [List.isPrefixOf, hne]
      | cons d w => rfl

theorem kinds_eq : Line.isDirective p.text = (['%', '%'].isPrefixOf p.first.id ||
      (Text.words p.text).head?.any fun w => Line.directiveKeywords.contains w) ∧
    Line.rootDirection? p.text = match Text.words p.text with
      | [keyword] => if Line.isRootKeyword keyword then some default else none
      | [keyword, code] => if Line.isRootKeyword keyword then Direction.ofText? code else none
      | _ => none := by
  have hsemi {t : Text} (ht : t ⊆ p.text) : Text.trimEndBy (· == ';') t = t :=
    Text.trimEndBy_eq_self fun c hc => beq_eq_false_iff_ne.2 fun he =>
      semicolon_notMem_text hp (ht (he ▸ List.mem_of_getLast? hc))
  constructor
  · rw [Line.isDirective, isComment_text hp]
    cases hwords : Text.words p.text with
    | nil => rfl
    | cons w ws =>
        have hw : w ⊆ p.text := fun c hc => Text.mem_of_mem_words (by rw [hwords]; simp) hc
        simp [hsemi hw]
  · have htrim : p.text = Text.trimEndBy (· == ';') (Text.trim p.text) := by
      rw [Text.trim_eq_self (isTrimmed_text hp), hsemi (List.Subset.refl _)]
    unfold Line.rootDirection?
    generalize Text.trimEndBy (· == ';') (Text.trim p.text) = t at htrim
    subst htrim
    rfl

/-- No comment, no directive, and behind a root keyword something that is no direction. -/
theorem mayHoldStatement_of_words (hmark : ['%', '%'].isPrefixOf p.first.id = false) {w : Text}
    {ws : List Text} (hwords : Text.words p.text = w :: ws)
    (hkeyword : w ∉ Line.directiveKeywords)
    (hrest : Line.isRootKeyword w = false ∨ ∃ v vs, ws = v :: vs ∧ Direction.ofText? v = none) :
    Line.mayHoldStatement p.text = true := by
  obtain ⟨hdirective, hroot⟩ := kinds_eq hp
  rw [hmark, hwords] at hdirective
  rw [hwords] at hroot
  rw [Line.mayHoldStatement, hdirective, hroot]
  rcases hrest with hlone | ⟨v, vs, rfl, hcode⟩
  · rcases ws with _ | ⟨v, _ | ⟨u, us⟩⟩ <;> simp [hkeyword, hlone]
  · cases vs <;> simp [hkeyword, hcode]

/-- Behind a name that stands alone as the first word, an arrow or a join begins the second. -/
theorem exists_words_linksText {l : Gap × Node} {links : List (Gap × Node)}
    (hlinks : p.links = l :: links)
    (hblank : ∀ c ∈ (linksText p.links).head?, Text.isBlank c = true) :
    ∃ v vs, Text.words (linksText p.links) = v :: vs ∧ Direction.ofText? v = none := by
  have hsplit : linksText p.links = l.1.text ++ (l.2.render ++ linksText links) := by
    rw [hlinks]
    simp [linksText]
  have hne : linksText p.links ≠ [] := by
    rw [hsplit]
    exact List.append_ne_nil_of_left_ne_nil (Gap.text_ne_nil l.1) _
  have hhead : ∃ c ∈ (linksText p.links).head?, Text.isBlank c = true := by
    obtain ⟨c, s, hcons⟩ := List.exists_cons_of_ne_nil hne
    exact ⟨c, by simp [hcons], hblank c (by simp [hcons])⟩
  rw [hsplit] at hhead ⊢
  obtain ⟨c, v, vs, hwords, halnum⟩ :=
    exists_words_gap_append (hp.links l (by simp [hlinks])).1 hhead
  exact ⟨c :: v, vs, hwords, Line.ofText?_eq_none halnum⟩

theorem mayHoldStatement_text (hm : p.isMistakable = false) :
    Line.mayHoldStatement p.text = true := by
  obtain ⟨r, htext, -⟩ := exists_text_eq p
  have hwords := words_name_append (r := r) hp.first.id
  rw [← htext] at hwords
  rw [isMistakable, Bool.or_eq_false_iff] at hm
  rcases head?_rest hp htext with ⟨c, hc, hblank, halnum⟩ | ⟨⟨w, hw⟩, rfl, hblank⟩
  · -- the first word goes on behind the name
    have hmem : c ∈ p.first.id ++ r.takeWhile (!Text.isBlank ·) := by
      cases r with
      | nil => cases hc
      | cons d r =>
          cases hc
          simp [hblank]
    obtain ⟨hkeyword, hroot⟩ := not_keyword hmem halnum
    exact mayHoldStatement_of_words hp hm.1 hwords hkeyword (.inl hroot)
  · have hstop : (linksText p.links).takeWhile (!Text.isBlank ·) = [] ∧
        (linksText p.links).dropWhile (!Text.isBlank ·) = linksText p.links := by
      cases h : linksText p.links with
      | nil => exact ⟨rfl, rfl⟩
      | cons d r => simp [hblank d (by simp [h])]
    rw [hstop.1, hstop.2, hw, Node.id, List.append_nil] at hwords
    have hkind := hm.2
    rw [hw] at hkind
    obtain ⟨hcontains, hroot⟩ := Bool.or_eq_false_iff.1 hkind
    refine mayHoldStatement_of_words hp hm.1 hwords (by simpa using hcontains) ?_
    cases hlinks : p.links with
    | nil =>
        rw [hlinks] at hroot
        exact .inl hroot
    | cons l links => exact .inr (hlinks ▸ exists_words_linksText hp hlinks hblank)

end

/-! ## Documents -/

/-- A strand whose line is read as a statement. -/
structure IsPlain (p : Strand) : Prop extends p.IsWell where
  notMistakable : p.isMistakable = false

/-- The root line, and a line for each strand. -/
def document (d : Direction) (ps : List Strand) : Text :=
  Text.joinLines (Chart.rootLine d :: ps.map text)

theorem isMistakable_map (p : Strand) (fg : Gap → Gap) (fn : Node → Node) :
    (p.map fg fn).isMistakable = (p.map id fn).isMistakable := by
  simp [isMistakable, map]

theorem IsWell.map {p : Strand} (hp : p.IsWell) {fg : Gap → Gap} {fn : Node → Node}
    (hg : ∀ g : Gap, g.IsWell → (fg g).IsWell) (hn : ∀ n : Node, n.IsNamed → (fn n).IsNamed) :
    (p.map fg fn).IsWell := by
  refine ⟨hn _ hp.first, fun l hl => ?_⟩
  obtain ⟨k, hk, rfl⟩ := List.mem_map.1 hl
  exact ⟨hg _ (hp.links k hk).1, hn _ (hp.links k hk).2⟩

theorem map_map (p : Strand) (fg fg' : Gap → Gap) (fn fn' : Node → Node) :
    (p.map fg fn).map fg' fn' = p.map (fg' ∘ fg) (fn' ∘ fn) := by
  simp [map]

section

variable {ps : List Strand} (hps : ∀ p ∈ ps, p.IsPlain)

include hps

theorem lines_document (d : Direction) :
    Text.lines (document d ps) = Chart.rootLine d :: ps.map text := by
  refine Text.lines_joinLines fun line hline => ?_
  rcases List.mem_cons.1 hline with rfl | hline
  · exact Text.isLine_rootLine d
  · obtain ⟨p, hp, rfl⟩ := List.mem_map.1 hline
    exact isLine_text (hps p hp).toIsWell

theorem mapStatements_document (d : Direction) {f : Text → Text} {F : Strand → Strand}
    (hf : ∀ p ∈ ps, f p.text = (F p).text) :
    Line.mapStatements f (document d ps) = document d (ps.map F) := by
  have hroot := Line.mayHoldStatement_of_rootDirection? (Line.rootDirection?_rootLine d)
  rw [Line.mapStatements, lines_document hps, document, List.map_cons, hroot, List.map_map,
    List.map_map]
  refine congrArg (fun ls => Text.joinLines (_ :: ls)) (List.map_congr_left fun p hp => ?_)
  have hmay := mayHoldStatement_text (hps p hp).toIsWell (hps p hp).notMistakable
  show (if Line.mayHoldStatement p.text = true then f p.text else p.text) = (F p).text
  rw [hmay, if_pos rfl, hf p hp]

theorem stripQuotes_document (d : Direction) :
    Repair.stripQuotes (Repair.splitStatements (document d ps)) = document d ps := by
  have hroot : ';' ∉ Chart.rootLine d := by
    cases d <;> decide
  have hline : ∀ l ∈ Chart.rootLine d :: ps.map text,
      Text.All (fun c => c ≠ ';' ∧ Label.isQuotationMark c = false) l := by
    intro l hl
    rcases List.mem_cons.1 hl with rfl | hl
    · exact fun c hc => ⟨fun he => hroot (he ▸ hc), Text.isUnquoted_rootLine d c hc⟩
    · obtain ⟨p, hp, rfl⟩ := List.mem_map.1 hl
      have hwell := (hps p hp).toIsWell
      exact fun c hc => ⟨fun he => semicolon_notMem_text hwell (he ▸ hc),
        isUnquoted_text hwell c hc⟩
  have hall : Text.All (fun c => c ≠ ';' ∧ Label.isQuotationMark c = false) (document d ps) :=
    all_joinWith (by decide) hline
  refine Repair.stripQuotes_splitStatements (fun h => (hall _ h).1 rfl)
    (fun c hc => (hall c hc).2) ?_
  rw [lines_document hps]
  rfl

/-- Neither blanks around a line nor blank lines are there to go. -/
theorem trimmedLines_document (d : Direction) :
    ((Text.lines (document d ps)).map Text.trim).filter (!·.isEmpty)
      = Chart.rootLine d :: ps.map text := by
  have hself : ∀ l ∈ Chart.rootLine d :: ps.map text, Text.trim l = l ∧ l ≠ [] := by
    intro l hl
    rcases List.mem_cons.1 hl with rfl | hl
    · cases d <;> exact ⟨by decide, by decide⟩
    · obtain ⟨p, hp, rfl⟩ := List.mem_map.1 hl
      have hwell := (hps p hp).toIsWell
      exact ⟨Text.trim_eq_self (isTrimmed_text hwell), text_ne_nil hwell⟩
  rw [lines_document hps, List.map_congr_left fun l hl => (hself l hl).1, List.map_id',
    List.filter_eq_self]
  intro l hl
  simpa using (hself l hl).2

end

/-- The last rule on a document of strands reads the joins of each of them. -/
theorem shapeDocument_document (d : Direction) {ps : List Strand} (hps : ∀ p ∈ ps, p.IsPlain) :
    Repair.shapeDocument (document d ps) = Text.joinLines (Chart.rootLine d ::
      Repair.settleLines []
        ((ps.flatMap fun p => Repair.expandJoins p.text).filter Repair.isStatement)) := by
  have hkinds : ∀ l ∈ ps.map text, Line.rootDirection? l = none ∧ Line.isDirective l = false := by
    intro l hl
    obtain ⟨p, hp, rfl⟩ := List.mem_map.1 hl
    have := mayHoldStatement_text (hps p hp).toIsWell (hps p hp).notMistakable
    simpa [Line.mayHoldStatement] using this
  have htake : (ps.map text).takeWhile (fun l => (Line.rootDirection? l).isNone) = ps.map text := by
    rw [List.takeWhile_eq_self_iff]
    intro l hl
    rw [(hkinds l hl).1]
    rfl
  have hkept : (ps.map text).filter (!Line.isDirective ·) = ps.map text := by
    rw [List.filter_eq_self]
    intro l hl
    rw [(hkinds l hl).2]
    rfl
  have hbody : Repair.body (Chart.rootLine d :: ps.map text) = (d, ps.map text) := by
    rw [Repair.body, Repair.splitAtRoot?, Line.rootDirection?_rootLine]
    dsimp only
    rw [htake]
  rw [Repair.shapeDocument, trimmedLines_document hps, hbody]
  dsimp only
  rw [Repair.statementLines, hkept, List.flatMap_map]

/-- The strand behind the rules that work line by line. -/
def tidied (p : Strand) : Strand :=
  p.map Gap.padded (Node.rename Ident.sanitize)

section

variable {ps : List Strand} (hps : ∀ p ∈ ps, p.IsPlain)
  (hrenamed : ∀ p ∈ ps, (p.map id (Node.rename Ident.sanitize)).isMistakable = false)

include hps hrenamed

theorem isPlain_map {fg : Gap → Gap} (hg : ∀ g : Gap, g.IsWell → (fg g).IsWell) :
    ∀ q ∈ ps.map fun p => p.map fg (Node.rename Ident.sanitize), q.IsPlain := by
  intro q hq
  obtain ⟨p, hp, rfl⟩ := List.mem_map.1 hq
  refine ⟨(hps p hp).toIsWell.map hg fun n hn => hn.isClean_rename.isNamed, ?_⟩
  rw [isMistakable_map]
  exact hrenamed p hp

theorem isPlain_tidied : ∀ q ∈ ps.map tidied, q.IsPlain :=
  isPlain_map hps hrenamed fun g => g.isWell_padded

/-- The rules that work line by line leave identifiers for names, and joins between spaces. -/
theorem lineRules_document (d : Direction) :
    Repair.normalizeSpacing (Repair.repairEdges (Repair.sanitizeIdents (Repair.sanitizeLabels
        (Repair.normalizeBrackets (document d ps))))) = document d (ps.map tidied) := by
  have hspaced := isPlain_map hps hrenamed fun g => g.isWell_spaced
  have hbrackets : Repair.normalizeBrackets (document d ps) = document d (ps.map id) :=
    mapStatements_document hps d fun p hp => normalizeBrackets_text (hps p hp).toIsWell
  have hlabels : Repair.sanitizeLabels (document d ps) = document d (ps.map id) :=
    mapStatements_document hps d fun p hp => sanitizeLabels_text (hps p hp).toIsWell
  have hidents : Repair.sanitizeIdents (document d ps)
      = document d (ps.map fun p => p.map Gap.spaced (Node.rename Ident.sanitize)) :=
    mapStatements_document hps d fun p hp => sanitizeIdents_text (hps p hp).toIsWell
  have hedges : Repair.repairEdges
      (document d (ps.map fun p => p.map Gap.spaced (Node.rename Ident.sanitize)))
      = document d (ps.map fun p => p.map Gap.spaced (Node.rename Ident.sanitize)) := by
    refine (mapStatements_document hspaced d fun q hq =>
      repairEdges_text (hspaced q hq).toIsWell).trans ?_
    simp only [List.map_map, Function.comp_def, map_map, Gap.spaced_spaced, id]
  have harrows : Line.mapFreeText Repair.padArrows
      (document d (ps.map fun p => p.map Gap.spaced (Node.rename Ident.sanitize)))
      = document d (ps.map tidied) := by
    refine (mapStatements_document hspaced d fun q hq =>
      padArrows_text (hspaced q hq).toIsWell).trans ?_
    simp only [List.map_map, Function.comp_def, map_map, Gap.padded_spaced, id]
    rfl
  rw [List.map_id] at hbrackets hlabels
  rw [hbrackets, hlabels, hidents, hedges, Repair.normalizeSpacing, harrows, Repair.trimLines,
    trimmedLines_document (isPlain_tidied hps hrenamed)]
  rfl

/-- What repair makes of a document of strands. -/
theorem repair_document (d : Direction) :
    repair (document d ps) = Text.joinLines (Chart.rootLine d :: Repair.settleLines []
      ((ps.flatMap fun p => Repair.expandJoins p.tidied.text).filter Repair.isStatement)) := by
  rw [repair_eq, stripQuotes_document hps, lineRules_document hps hrenamed,
    shapeDocument_document d (isPlain_tidied hps hrenamed), List.flatMap_map]

end

end Strand

end Flowchart
