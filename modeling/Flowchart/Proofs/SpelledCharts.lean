import Flowchart.Proofs.Spellings

/-!
# Spellings of a chart

A chart is spelled with a root declaration in any case and its statements on lines or behind
semicolons. The splitter finds the pieces between the semicolons, the quotes go, and what is left is
a document of ready lines. So repair makes the same text of every spelling of a chart.
-/

namespace Flowchart

/-- A root declaration as it is spelled. -/
structure SpelledHeader where
  lead : Text
  keyword : Text
  gap : Text
  code : Text
  trail : Text

/-- Statements on one line, and the blanks behind a last semicolon if there is one. -/
structure SpelledLine where
  statements : List SpelledStatement
  ending : Option Text

/-- A chart as it is spelled. The first line begins with the root declaration. -/
structure SpelledChart where
  header : SpelledHeader
  direction : Direction
  rest : SpelledLine
  lines : List SpelledLine

namespace SpelledHeader

def text (h : SpelledHeader) : Text :=
  h.lead ++ (h.keyword ++ (h.gap ++ (h.code ++ h.trail)))

def IsSpelling (h : SpelledHeader) (d : Direction) : Prop :=
  Text.IsPadding h.lead ∧ Line.isRootKeyword h.keyword = true ∧ Text.IsPadding h.gap ∧
    h.gap ≠ [] ∧ Direction.ofText? h.code = some d ∧ Text.IsPadding h.trail

instance (h : SpelledHeader) (d : Direction) : Decidable (h.IsSpelling d) :=
  inferInstanceAs (Decidable (_ ∧ _ ∧ _ ∧ _ ∧ _ ∧ _))

end SpelledHeader

/-- Pieces with semicolons between them, and perhaps one behind them. -/
def pieceLine (pieces : List Text) (ending : Option Text) : Text :=
  Text.joinWith ';' (pieces ++ ending.toList)

namespace SpelledLine

def text (l : SpelledLine) : Text :=
  pieceLine (l.statements.map SpelledStatement.text) l.ending

end SpelledLine

namespace SpelledChart

def statements (z : SpelledChart) : List SpelledStatement :=
  z.rest.statements ++ z.lines.flatMap SpelledLine.statements

def text (z : SpelledChart) : Text :=
  Text.joinLines (pieceLine (z.header.text :: z.rest.statements.map SpelledStatement.text)
    z.rest.ending :: z.lines.map SpelledLine.text)

/-- The chart that is meant. -/
def chart (z : SpelledChart) : Chart :=
  ⟨z.direction, z.statements.map SpelledStatement.statement⟩

def IsSpelling (z : SpelledChart) : Prop :=
  z.header.IsSpelling z.direction ∧ (∀ s ∈ z.statements, s.IsSpelling) ∧
    (∀ b ∈ z.rest.ending, Text.IsPadding b) ∧
      ∀ l ∈ z.lines, l.statements ≠ [] ∧ ∀ b ∈ l.ending, Text.IsPadding b

instance (z : SpelledChart) : Decidable z.IsSpelling :=
  inferInstanceAs (Decidable (_ ∧ _ ∧ _ ∧ ∀ l ∈ z.lines, _ ∧ ∀ b ∈ l.ending, Text.IsPadding b))

end SpelledChart

/-! ## Pieces -/

namespace Repair

theorem splitFrom_joinWith {pieces : List Text} (h : ∀ p ∈ pieces, IsLevel p) (hne : pieces ≠ []) :
    splitFrom 0 false false (Text.joinWith ';' pieces) = pieces := by
  induction pieces with
  | nil => exact absurd rfl hne
  | cons p pieces ih =>
      have hp := h p (by simp)
      by_cases hnil : pieces = []
      · subst hnil
        have := hp 0 false []
        rw [List.append_nil] at this
        rw [Text.joinWith, this]
        simp [splitFrom, prefixFirst]
      · have hrest := ih (fun q hq => h q (by simp [hq])) hnil
        have hcut : splitFrom 0 false false (';' :: Text.joinWith ';' pieces) = [] :: pieces := by
          rw [splitFrom, if_neg (by decide), if_neg (by simp), if_neg (by decide),
            if_neg (by decide), if_neg (by simp), if_pos (by simp), hrest]
        rw [Text.joinWith_cons hnil, hp, hcut]
        simp [prefixFirst]

/-- A line is split into its pieces. -/
theorem splitLine_pieceLine {pieces : List Text} {ending : Option Text} (hne : pieces ≠ [])
    (hpieces : ∀ p ∈ pieces, IsLevel p ∧ Text.trim p ≠ [])
    (hending : ∀ b ∈ ending, Text.IsPadding b)
    (hline : Line.isDirective (pieceLine pieces ending) = false) :
    splitLine (pieceLine pieces ending) = pieces := by
  have hlevel : ∀ p ∈ pieces ++ ending.toList, IsLevel p := by
    intro p hp
    rcases List.mem_append.1 hp with hp | hp
    · exact (hpieces p hp).1
    · exact isLevel_blanks (hending p (by simpa using hp)).isBlanks
  have hsplit : splitFrom 0 false false (pieceLine pieces ending) = pieces ++ ending.toList :=
    splitFrom_joinWith hlevel (by simp [hne])
  have hkeep : pieces.filter (fun p => !(Text.trim p).isEmpty) = pieces := by
    rw [List.filter_eq_self]
    intro p hp
    simpa using (hpieces p hp).2
  have hdrop : ending.toList.filter (fun p => !(Text.trim p).isEmpty) = [] := by
    rw [List.filter_eq_nil_iff]
    intro b hb
    have := Text.trim_of_isBlanks (hending b (by simpa using hb)).isBlanks
    simp [this]
  rw [splitLine, hline, hsplit]
  simp only [Bool.false_eq_true, if_false]
  split
  · rename_i p hone
    cases ending with
    | none =>
        rw [Option.toList_none, List.append_nil] at hone
        rw [hone]
        rfl
    | some b =>
        exact absurd (by simpa using congrArg List.length hone) hne
  · rw [List.filter_append, hkeep, hdrop, List.append_nil]

end Repair

theorem exists_pieceLine_cons (p : Text) (pieces : List Text) (ending : Option Text) :
    ∃ r, pieceLine (p :: pieces) ending = p ++ r ∧ ∀ c ∈ r.head?, c = ';' := by
  unfold pieceLine
  rw [List.cons_append]
  by_cases h : pieces ++ ending.toList = []
  · rw [h]
    exact ⟨[], (List.append_nil p).symm, by simp⟩
  · rw [Text.joinWith_cons h]
    exact ⟨_, rfl, by simp⟩

theorem Text.trim_ne_nil {t : Text} {c : Char} (hc : c ∈ t) (hb : isBlank c = false) :
    trim t ≠ [] := by
  intro h
  obtain ⟨b, b', hbl, hbl', ht⟩ := exists_trim t
  rw [h, List.append_nil] at ht
  rw [ht] at hc
  rw [(hbl.append hbl') c hc] at hb
  cases hb

/-! ## Lines that begin with a statement -/

namespace SpelledStatement

variable {s : SpelledStatement} (hs : s.IsSpelling) (hc : s.statement.IsClean)

include hs hc

omit hs hc in
theorem not_isAlphanum_blanks_append {b t : Text} (hb : Text.IsBlanks b)
    (ht : ∀ c ∈ t.head?, c.isAlphanum = false) : ∀ c ∈ (b ++ t).head?, c.isAlphanum = false := by
  intro c hc
  cases b with
  | nil => exact ht c hc
  | cons d b =>
      cases hc
      exact Layout.isAlphanum_eq_false_of_isBlank (hb c (by simp))

/-- An identifier ends in front of links. -/
theorem not_isAlphanum_links_append {r : Text} (hr : ∀ c ∈ r.head?, c = ';') :
    ∀ c ∈ (((s.links.flatMap fun l => l.1.text ++ l.2.text) ++ s.trail) ++ r).head?,
      c.isAlphanum = false := by
  obtain ⟨-, -, hlinks, htrail⟩ := hs
  cases hl : s.links with
  | nil =>
      refine not_isAlphanum_blanks_append htrail.isBlanks fun c hc => ?_
      rw [hr c hc]
      rfl
  | cons l links =>
      have hmem : l ∈ s.links := by simp [hl]
      have hwell := (hlinks l hmem).1.isWell (isClean_link hc hmem).1
      obtain ⟨d, t, hbehind, hd⟩ := Layout.exists_behind_before hwell
        (l.2.text ++ ((links.flatMap fun l => l.1.text ++ l.2.text) ++ (s.trail ++ r)))
      rw [List.flatMap_cons]
      simp only [List.append_assoc]
      rw [hbehind]
      refine not_isAlphanum_blanks_append (Layout.isBlanks_before hwell) fun c hc => ?_
      cases hc
      exact Layout.isAlphanum_eq_false_of_isArrowChar hd

/-- What stands behind the first identifier. -/
theorem exists_behind_id {r : Text} (hr : ∀ c ∈ r.head?, c = ';') :
    ∃ t, s.text ++ r = s.lead ++ (s.first.node.id ++ t) ∧
      (∀ c ∈ t.head?, c.isAlphanum = false) ∧
      ∀ n, s.first.node = .shaped n → ∃ c ∈ t.head?, Text.isBlank c = false ∧ c ≠ ';' := by
  have hrest := not_isAlphanum_links_append hs hc hr
  cases hfirst : s.first with
  | bare id =>
      refine ⟨_, ?_, hrest, fun n h => by cases h⟩
      rw [text, hfirst]
      simp only [SpelledNode.text, SpelledNode.node, Node.id, List.append_assoc]
  | shaped id b quoted l =>
      have hopen : ∃ t, b.opening = b.opener :: t := by
        cases b with
        | canonical s => cases s <;> exact ⟨_, rfl⟩
        | _ => exact ⟨_, rfl⟩
      obtain ⟨o, ho⟩ := hopen
      obtain ⟨halnum, hblank, hsemi⟩ := Layout.head_opener (Shape.isOpener_opener b.shape)
      refine ⟨b.opener :: (o ++ ((if quoted then '"' :: l ++ ['"'] else l) ++ (b.closing ++
        (((s.links.flatMap fun l => l.1.text ++ l.2.text) ++ s.trail) ++ r)))), ?_, ?_, ?_⟩
      · rw [text, hfirst]
        simp only [SpelledNode.text, SpelledNode.node, Node.id, List.append_assoc, ho,
          List.cons_append]
      · intro c hc
        cases hc
        exact halnum
      · exact fun _ _ => ⟨b.opener, rfl, hblank, hsemi⟩

theorem not_isDirective_append (hm : s.statement.isMistakable = false) {r : Text}
    (hr : ∀ c ∈ r.head?, c = ';') : Line.isDirective (s.text ++ r) = false := by
  obtain ⟨t, htext, halnum, hshaped⟩ := exists_behind_id hs hc hr
  have hlead := hs.1.isBlanks
  obtain ⟨hne, hword, -⟩ := Ident.isValid_iff.1 (Node.IsClean.id (isClean_first hc))
  rw [htext]
  cases hn : s.first.node with
  | shaped n =>
      obtain ⟨c, hhead, hblank, hsemi⟩ := hshaped n hn
      rw [← hn]
      exact Line.isDirective_glued hlead hne hword halnum hhead hblank hsemi
  | bare id =>
      rw [hn] at hne hword
      have hkeyword : Line.directiveKeywords.contains id = false := by
        rw [Statement.isMistakable, statement, hn, Bool.or_eq_false_iff] at hm
        exact hm.1
      by_contra h
      have := (Line.eq_nil_of_isDirective hlead hne hword halnum (by simpa using h)).2
      rw [← List.contains_iff_mem, Node.id, hkeyword] at this
      cases this

omit hs in
theorem trim_text_ne_nil : Text.trim s.text ≠ [] := by
  obtain ⟨hne, hword, -⟩ := Ident.isValid_iff.1 (Node.IsClean.id (isClean_first hc))
  obtain ⟨c, hmem⟩ := List.exists_mem_of_ne_nil _ hne
  have hid : s.first.node.id ⊆ s.first.text := by
    cases s.first with
    | bare id => exact fun _ h => h
    | shaped id b quoted l => exact fun _ h => List.mem_append_left _ h
  refine Text.trim_ne_nil (c := c) ?_ (Ident.not_isBlank_of_isAlphanum (hword c hmem))
  simp [text, hid hmem]

omit hs hc in
theorem mem_layout_of_mem_text {c : Char} (h : c ∈ s.text) : c = '"' ∨ c ∈ s.layout.text := by
  rw [← text_chunks] at h
  obtain ⟨k, hk, h⟩ := List.mem_flatMap.1 h
  rw [← bare_chunks]
  exact (Repair.Chunk.mem_bare_of_mem_text h).imp_right fun h => List.mem_flatMap.2 ⟨k, hk, h⟩

/-- Nothing in a spelled statement ends a line. -/
theorem all_text : Text.All (fun c => c ≠ '\n' ∧ c ≠ '\r') s.text := by
  have hlayout := all_layout_text (q := fun c => c ≠ '\n' ∧ c ≠ '\r') hs hc (fun c h => by
    constructor <;> rintro rfl <;> exact absurd h (by decide)) fun l hl c hmem => by
      constructor <;> rintro rfl <;>
        exact absurd (hl.isSpaced.eq_space hmem (by decide)) (by decide)
  intro c h
  rcases mem_layout_of_mem_text h with rfl | h
  · decide
  · exact hlayout c h

end SpelledStatement

/-! ## Root declarations -/

namespace SpelledHeader

variable {h : SpelledHeader} {d : Direction} (hh : h.IsSpelling d)

include hh

theorem isWord_keyword : Text.IsWord h.keyword ∧ ∀ c ∈ h.keyword, c.isAlphanum = true := by
  have hword := Line.isAlphanum_of_isRootKeyword hh.2.1
  refine ⟨⟨?_, fun c hc => Ident.not_isBlank_of_isAlphanum (hword c hc)⟩, hword⟩
  intro hnil
  have := hh.2.1
  rw [hnil] at this
  exact absurd this (by decide)

theorem isWord_code : Text.IsWord h.code ∧ ∀ c ∈ h.code, c.isAlphanum = true := by
  have hword := Line.isAlphanum_of_ofText? hh.2.2.2.2.1
  refine ⟨⟨?_, fun c hc => Ident.not_isBlank_of_isAlphanum (hword c hc)⟩, hword⟩
  intro hnil
  have := hh.2.2.2.2.1
  rw [hnil] at this
  cases this

theorem all_text {q : Char → Prop}
    (hq : ∀ c, isWritten c = true ∨ c ∈ ['\t', '=', '.', '<'] → q c) : Text.All q h.text := by
  have hword {w : Text} (hw : ∀ c ∈ w, c.isAlphanum = true) : Text.All q w :=
    fun c hc => hq c (.inl (by simp [isWritten, hw c hc]))
  exact (SpelledStatement.all_padding hq hh.1).append ((hword (isWord_keyword hh).2).append
    ((SpelledStatement.all_padding hq hh.2.2.1).append ((hword (isWord_code hh).2).append
      (SpelledStatement.all_padding hq hh.2.2.2.2.2))))

/-- The text without the blanks around it. -/
theorem trim_text : Text.trim h.text = h.keyword ++ (h.gap ++ h.code) := by
  obtain ⟨hkeyword, hk⟩ := isWord_keyword hh
  obtain ⟨hcode, hc⟩ := isWord_code hh
  have htrimmed : Text.IsTrimmed (h.keyword ++ (h.gap ++ h.code)) := by
    constructor
    · intro c hmem
      obtain ⟨d, w, hw⟩ := List.exists_cons_of_ne_nil hkeyword.1
      rw [hw] at hmem
      cases hmem
      exact hkeyword.2 _ (by simp [hw])
    · intro c hmem
      rw [← List.append_assoc, List.getLast?_append_of_ne_nil _ hcode.1] at hmem
      exact hcode.2 c (List.mem_of_getLast? hmem)
  have hsplit : h.text = h.lead ++ (h.keyword ++ (h.gap ++ h.code)) ++ h.trail := by
    simp [text]
  rw [hsplit, Text.trim_append_append hh.1.isBlanks hh.2.2.2.2.2.isBlanks (by simp [hkeyword.1])
    htrimmed]

/-- The declaration is read in whatever case it is spelled. -/
theorem rootDirection?_text : Line.rootDirection? h.text = some d := by
  obtain ⟨hkeyword, hk⟩ := isWord_keyword hh
  obtain ⟨hcode, hc⟩ := isWord_code hh
  have htrim := trim_text hh
  obtain ⟨-, hroot, hgap, hne, hdir, -⟩ := hh
  have hlast : ∀ c ∈ (h.keyword ++ (h.gap ++ h.code)).getLast?, (c == ';') = false := by
    intro c hmem
    rw [← List.append_assoc, List.getLast?_append_of_ne_nil _ hcode.1] at hmem
    have := hc c (List.mem_of_getLast? hmem)
    exact beq_eq_false_iff_ne.2 fun he => absurd (he ▸ this) (by decide)
  have hhead : ∀ c ∈ (h.gap ++ h.code).head?, Text.isBlank c = true := by
    obtain ⟨e, g, hg⟩ := List.exists_cons_of_ne_nil hne
    intro c hmem
    rw [hg] at hmem
    cases hmem
    exact hgap.isBlanks _ (by simp [hg])
  rw [Line.rootDirection?, htrim, Text.trimEndBy_eq_self hlast,
    Text.words_word_append hkeyword hhead, Text.words_append_of_isBlanks _ hgap.isBlanks,
    Text.words_word hcode]
  simp only [hroot, if_true, hdir]

theorem not_isDirective_append (r : Text) : Line.isDirective (h.text ++ r) = false := by
  obtain ⟨hkeyword, hk⟩ := isWord_keyword hh
  obtain ⟨hlead, hroot, hgap, hne, -⟩ := hh
  have hsplit : h.text ++ r = h.lead ++ (h.keyword ++ (h.gap ++ (h.code ++ (h.trail ++ r)))) := by
    simp [text]
  have hhead : ∀ c ∈ (h.gap ++ (h.code ++ (h.trail ++ r))).head?, Text.isBlank c = true := by
    obtain ⟨e, g, hg⟩ := List.exists_cons_of_ne_nil hne
    intro c hmem
    rw [hg] at hmem
    cases hmem
    exact hgap.isBlanks _ (by simp [hg])
  rw [hsplit, Line.isDirective_word hlead.isBlanks hkeyword.1 hk hhead]
  by_contra hmem
  have hnot := (by decide : ∀ k ∈ Line.directiveKeywords, Line.isRootKeyword k = false) h.keyword
    (by simpa using hmem)
  rw [hroot] at hnot
  cases hnot

end SpelledHeader

/-! ## The first two rules -/

/-- A piece that the splitter finds on a line of its own text. -/
structure IsPiece (p : Text) : Prop where
  level : Repair.IsLevel p
  trim : Text.trim p ≠ []
  chars : Text.All (fun c => c ≠ '\n' ∧ c ≠ '\r') p

theorem IsPiece.ne_nil {p : Text} (hp : IsPiece p) : p ≠ [] := by
  rintro rfl
  exact hp.trim rfl

theorem isLine_pieceLine {pieces : List Text} {ending : Option Text} (hne : pieces ≠ [])
    (hpieces : ∀ p ∈ pieces, IsPiece p) (hending : ∀ b ∈ ending, Text.IsPadding b) :
    Text.IsLine (pieceLine pieces ending) := by
  have hall : Text.All (fun c => c ≠ '\n' ∧ c ≠ '\r') (pieceLine pieces ending) := by
    refine all_joinWith (by decide) fun p hp => ?_
    rcases List.mem_append.1 hp with hp | hp
    · exact (hpieces p hp).chars
    · intro c hmem
      rcases hending p (by simpa using hp) c hmem with rfl | rfl <;> decide
  refine ⟨?_, fun h => (hall _ h).1 rfl, fun h => (hall _ (List.mem_of_getLast? h)).2 rfl⟩
  obtain ⟨p, ps, rfl⟩ := List.exists_cons_of_ne_nil hne
  obtain ⟨r, hr, -⟩ := exists_pieceLine_cons p ps ending
  rw [hr]
  simp [(hpieces p (by simp)).ne_nil]

theorem SpelledStatement.isPiece_text {s : SpelledStatement} (hs : s.IsSpelling)
    (hc : s.statement.IsClean) : IsPiece s.text :=
  ⟨isLevel_text hs hc, trim_text_ne_nil hc, all_text hs hc⟩

theorem SpelledHeader.isPiece_text {h : SpelledHeader} {d : Direction} (hh : h.IsSpelling d) :
    IsPiece h.text where
  level := by
    have hblanks {b : Text} (hb : Text.IsPadding b) : Repair.IsLevel b :=
      Repair.isLevel_blanks hb.isBlanks
    have hword {w : Text} (hw : ∀ c ∈ w, c.isAlphanum = true) : Repair.IsLevel w :=
      Repair.isLevel_of_plain fun c hc => Repair.isPlain_of_isAlphanum (hw c hc)
    exact (hblanks hh.1).append ((hword (isWord_keyword hh).2).append ((hblanks hh.2.2.1).append
      ((hword (isWord_code hh).2).append (hblanks hh.2.2.2.2.2))))
  trim := by
    rw [trim_text hh]
    simp [(isWord_keyword hh).1.1]
  chars := all_text hh fun c h => by
    constructor <;> rintro rfl <;> exact absurd h (by decide)

theorem SpelledHeader.isUnquoted_text {h : SpelledHeader} {d : Direction} (hh : h.IsSpelling d) :
    Text.IsUnquoted h.text :=
  all_text hh SpelledStatement.isUnquoted_padding_chars

namespace SpelledChart

section

variable {z : SpelledChart} (hz : z.IsSpelling) (hc : ∀ s ∈ z.chart.statements, s.IsClean)
  (hm : ∀ s ∈ z.chart.statements, s.isMistakable = false)

include hz hc

theorem isSpelling_statement {s : SpelledStatement} (hs : s ∈ z.statements) :
    s.IsSpelling ∧ s.statement.IsClean :=
  ⟨hz.2.1 s hs, hc _ (List.mem_map_of_mem hs)⟩

theorem isPiece_of_mem {ss : List SpelledStatement} (hss : ∀ s ∈ ss, s ∈ z.statements) :
    ∀ p ∈ ss.map SpelledStatement.text, IsPiece p := by
  intro p hp
  obtain ⟨s, hs, rfl⟩ := List.mem_map.1 hp
  obtain ⟨hspelling, hclean⟩ := isSpelling_statement hz hc (hss s hs)
  exact SpelledStatement.isPiece_text hspelling hclean

omit hz hc in
theorem mem_statements_of_line {l : SpelledLine} (hl : l ∈ z.lines) :
    ∀ s ∈ l.statements, s ∈ z.statements :=
  fun _ hs => List.mem_append_right _ (List.mem_flatMap.2 ⟨l, hl, hs⟩)

theorem isPiece_first : ∀ p ∈ z.header.text :: z.rest.statements.map SpelledStatement.text,
    IsPiece p := by
  intro p hp
  rcases List.mem_cons.1 hp with rfl | hp
  · exact SpelledHeader.isPiece_text hz.1
  · exact isPiece_of_mem hz hc (fun _ hs => List.mem_append_left _ hs) p hp

/-- The first line is split behind the root declaration and behind every statement. -/
theorem splitLine_first :
    Repair.splitLine (pieceLine (z.header.text :: z.rest.statements.map SpelledStatement.text)
      z.rest.ending) = z.header.text :: z.rest.statements.map SpelledStatement.text := by
  have hpieces := isPiece_first hz hc
  refine Repair.splitLine_pieceLine (by simp)
    (fun p hp => ⟨(hpieces p hp).level, (hpieces p hp).trim⟩)
    hz.2.2.1 ?_
  obtain ⟨r, hr, -⟩ := exists_pieceLine_cons z.header.text
    (z.rest.statements.map SpelledStatement.text) z.rest.ending
  rw [hr]
  exact SpelledHeader.not_isDirective_append hz.1 r

include hm in
theorem splitLine_text {l : SpelledLine} (hl : l ∈ z.lines) :
    Repair.splitLine l.text = l.statements.map SpelledStatement.text := by
  obtain ⟨hne, hending⟩ := hz.2.2.2 l hl
  have hmem := mem_statements_of_line hl
  have hpieces := isPiece_of_mem hz hc hmem
  refine Repair.splitLine_pieceLine (by simpa using hne)
    (fun p hp => ⟨(hpieces p hp).level, (hpieces p hp).trim⟩) hending ?_
  obtain ⟨s, ss, hss⟩ := List.exists_cons_of_ne_nil hne
  have hs : s ∈ z.statements := hmem s (by simp [hss])
  obtain ⟨hspelling, hclean⟩ := isSpelling_statement hz hc hs
  rw [hss, List.map_cons]
  obtain ⟨r, hr, hhead⟩ := exists_pieceLine_cons s.text (ss.map SpelledStatement.text) l.ending
  rw [hr]
  exact SpelledStatement.not_isDirective_append hspelling hclean
    (hm _ (List.mem_map_of_mem hs)) hhead

include hm in
/-- Every statement stands on a line of its own behind the first rule. -/
theorem splitStatements_text : Repair.splitStatements z.text
    = Text.joinLines (z.header.text :: z.statements.map SpelledStatement.text) := by
  have hlines : ∀ line ∈ pieceLine (z.header.text :: z.rest.statements.map SpelledStatement.text)
      z.rest.ending :: z.lines.map SpelledLine.text, Text.IsLine line := by
    intro line hline
    rcases List.mem_cons.1 hline with rfl | hline
    · exact isLine_pieceLine (by simp) (isPiece_first hz hc) hz.2.2.1
    · obtain ⟨l, hl, rfl⟩ := List.mem_map.1 hline
      obtain ⟨hne, hending⟩ := hz.2.2.2 l hl
      exact isLine_pieceLine (by simpa using hne)
        (isPiece_of_mem hz hc (mem_statements_of_line hl)) hending
  have hrest : (z.lines.map SpelledLine.text).flatMap Repair.splitLine
      = (z.lines.flatMap SpelledLine.statements).map SpelledStatement.text := by
    rw [List.flatMap_map, List.map_flatMap]
    exact List.flatMap_congr fun l hl => splitLine_text hz hc hm hl
  rw [Repair.splitStatements, text, Text.lines_joinLines hlines, List.flatMap_cons,
    splitLine_first hz hc, hrest, statements, List.map_append]
  rfl

omit hz hc in
theorem joinLines_cons (first : Text) (ss : List SpelledStatement) (f : SpelledStatement → Text) :
    Text.joinLines (first :: ss.map f) = first ++ ss.flatMap fun s => '\n' :: f s := by
  induction ss generalizing first with
  | nil => simp [Text.joinLines, Text.joinWith]
  | cons s ss ih =>
      rw [Text.joinLines, List.map_cons, Text.joinWith_cons (by simp), ← Text.joinLines, ih,
        List.flatMap_cons]
      rfl

/-- The second rule leaves the lines without their quotes. -/
theorem stripQuotes_text :
    Repair.stripQuotes (Text.joinLines (z.header.text :: z.statements.map SpelledStatement.text))
      = Text.joinLines (z.header.text :: z.statements.map fun s => s.layout.text) := by
  let ks : List Repair.Chunk :=
    .plain z.header.text :: z.statements.flatMap fun s => .plain ['\n'] :: s.chunks
  have htext : ks.flatMap Repair.Chunk.text
      = Text.joinLines (z.header.text :: z.statements.map SpelledStatement.text) := by
    rw [joinLines_cons, List.flatMap_cons, List.flatMap_assoc]
    refine congrArg _ (List.flatMap_congr fun s _ => ?_)
    rw [List.flatMap_cons, SpelledStatement.text_chunks]
    rfl
  have hbare : ks.flatMap Repair.Chunk.bare
      = Text.joinLines (z.header.text :: z.statements.map fun s => s.layout.text) := by
    rw [joinLines_cons, List.flatMap_cons, List.flatMap_assoc]
    refine congrArg _ (List.flatMap_congr fun s _ => ?_)
    rw [List.flatMap_cons, SpelledStatement.bare_chunks]
    rfl
  have hheader := SpelledHeader.isUnquoted_text hz.1
  have hwell : ∀ k ∈ ks, k.IsWell := by
    intro k hk
    rcases List.mem_cons.1 hk with rfl | hk
    · exact Repair.quote_notMem hheader
    · obtain ⟨s, hs, hk⟩ := List.mem_flatMap.1 hk
      obtain ⟨hspelling, hclean⟩ := isSpelling_statement hz hc hs
      rcases List.mem_cons.1 hk with rfl | hk
      · exact (by decide : '"' ∉ ['\n'])
      · exact SpelledStatement.isWell_chunks hspelling hclean k hk
  rw [← htext, ← hbare]
  refine Repair.Chunk.stripQuotes_flatMap hwell ?_
  rw [hbare]
  refine all_joinWith (by decide) fun line hline => ?_
  rcases List.mem_cons.1 hline with rfl | hline
  · exact hheader
  · obtain ⟨s, hs, rfl⟩ := List.mem_map.1 hline
    obtain ⟨hspelling, hclean⟩ := isSpelling_statement hz hc hs
    exact (SpelledStatement.isReady_layout hspelling hclean).unquoted

end

theorem repair_text_eq_render (z : SpelledChart) (hz : z.IsSpelling)
    (hc : ∀ s ∈ z.chart.statements, s.IsClean)
    (hm : ∀ s ∈ z.chart.statements, s.isMistakable = false) :
    repair z.text = Chart.render ⟨z.direction, Statement.settleAll [] z.chart.statements⟩ := by
  have hspelling {s : SpelledStatement} (hs : s ∈ z.statements) := isSpelling_statement hz hc hs
  have hline : Text.IsLine z.header.text := by
    have hpiece : ∀ p ∈ [z.header.text], IsPiece p :=
      fun p hp => List.mem_singleton.1 hp ▸ SpelledHeader.isPiece_text hz.1
    have : Text.IsLine (pieceLine [z.header.text] none) :=
      isLine_pieceLine (by simp) hpiece (by simp)
    exact this
  have hready : ∀ p ∈ z.statements.map SpelledStatement.layout, p.IsReady := by
    intro p hp
    obtain ⟨s, hs, rfl⟩ := List.mem_map.1 hp
    exact SpelledStatement.isReady_layout (hspelling hs).1 (hspelling hs).2
  have htexts : z.statements.map (fun s => s.layout.text)
      = (z.statements.map SpelledStatement.layout).map Layout.text := by
    rw [List.map_map]
    rfl
  have hstatements : (z.statements.map SpelledStatement.layout).map Layout.statement
      = z.chart.statements := by
    rw [List.map_map]
    exact List.map_congr_left fun s hs => SpelledStatement.statement_layout (hspelling hs).2
  have hmistakable : ∀ p ∈ z.statements.map SpelledStatement.layout,
      p.statement.isMistakable = false :=
    fun p hp => hm _ (hstatements ▸ List.mem_map_of_mem hp)
  have hkept := kept_of_not_isMistakable hmistakable
  rw [repair_eq, splitStatements_text hz hc hm, stripQuotes_text hz hc, htexts,
    Repair.shapeDocument_joinLines hline (SpelledHeader.rootDirection?_text hz.1) hready, hkept,
    hstatements]

theorem repair_text_eq_render_chart {z : SpelledChart} (hz : z.IsSpelling) (hc : z.chart.IsClean)
    (hm : ∀ s ∈ z.chart.statements, s.isMistakable = false) : repair z.text = z.chart.render := by
  rw [repair_text_eq_render z hz hc.1 hm, Chart.settleAll_statements hc.2]
  rfl

/-- However a chart is spelled, repair makes the same text of it as of its canonical text. That is
the chart with its shapes settled, so it is the canonical text itself if no identifier has two. -/
theorem repair_text (z : SpelledChart) (hz : z.IsSpelling)
    (hc : ∀ s ∈ z.chart.statements, s.IsClean)
    (hm : ∀ s ∈ z.chart.statements, s.isMistakable = false) :
    repair z.text = repair z.chart.render ∧
      repair z.text = Chart.render ⟨z.direction, Statement.settleAll [] z.chart.statements⟩ ∧
        (z.chart.IsConsistent → repair z.text = z.chart.render) := by
  have hrepair := repair_text_eq_render z hz hc hm
  refine ⟨?_, hrepair, fun h => repair_text_eq_render_chart hz ⟨hc, h⟩ hm⟩
  rw [hrepair, repair_render_of_not_isMistakable z.chart hc hm]
  rfl

/-- Every place of a chart may be spelled in its own way. -/
theorem repair_text_mixed :
    let z : SpelledChart := ⟨⟨[' '], "GRAPH".toList, [' ', '\t'], "lr".toList, []⟩, .leftRight,
      ⟨[], some [' ']⟩,
      [⟨[⟨['\t'], .shaped "A".toList .round true "Start".toList,
            [(.inline [' '] "--".toList [' '] "go on".toList [' '] "-->".toList [' '],
              .shaped "B".toList .hexagon false "a --> b".toList)], []⟩,
          ⟨[' '], .bare "B".toList,
            [(.piped [] "-.->".toList [' '] "yes".toList [],
              .shaped "C".toList .inputMixed false "rows & %% all".toList),
              (.plain [' '] "===".toList ['\t'], .bare "o".toList)], [' ']⟩], some []⟩,
        ⟨[⟨[], .shaped "D".toList (.canonical .storage) true "a < b".toList, [], []⟩], none⟩]⟩
    z.IsSpelling ∧ (∀ s ∈ z.chart.statements, s.IsClean) ∧
      (∀ s ∈ z.chart.statements, s.isMistakable = false) ∧ z.chart.IsConsistent ∧
        repair z.text = repair z.chart.render ∧ repair z.text = z.chart.render := by
  intro z
  have hz : z.IsSpelling := by decide +kernel
  have hc : ∀ s ∈ z.chart.statements, s.IsClean := by decide +kernel
  have hm : ∀ s ∈ z.chart.statements, s.isMistakable = false := by decide +kernel
  have hconsistent : z.chart.IsConsistent := by decide +kernel
  obtain ⟨hsame, -, hrender⟩ := repair_text z hz hc hm
  exact ⟨hz, hc, hm, hconsistent, hsame, hrender hconsistent⟩

end SpelledChart

end Flowchart
