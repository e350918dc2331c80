import Flowchart.Proofs.StrictGrammar

/-!
# Documents up to blanks

The content of a document is its lines without the blanks around them and without the blank lines.
The rules for lines change the content of a document line by line, however its lines are spaced,
and the last rule reads nothing but the content.
-/

namespace Flowchart

namespace Text

/-! ## Content lines -/

/-- A carriage return at the end of a line is one of the blanks around it. -/
theorem trim_dropReturn (line : Text) : trim (dropLastIf (· == '\r') line) = trim line := by
  unfold dropLastIf
  split
  · rename_i h
    cases hlast : line.getLast? with
    | none => simp [hlast] at h
    | some c =>
        obtain ⟨s, rfl⟩ := List.getLast?_eq_some_iff.1 hlast
        have hc : c = '\r' := by simpa using h
        have hblank : IsBlanks [c] := by
          intro d hd
          rw [List.mem_singleton.1 hd, hc]
          decide
        have := trim_append_isBlanks .nil hblank s
        rw [List.dropLast_concat]
        exact this.symm
  · rfl

theorem contentLines_append (ls ms : List Text) :
    contentLines (ls ++ ms) = contentLines ls ++ contentLines ms := by
  rw [contentLines, List.map_append, List.filter_append]
  rfl

theorem contentLines_congr {line line' : Text} (h : trim line = trim line') (ls : List Text) :
    contentLines (line :: ls) = contentLines (line' :: ls) := by
  rw [contentLines, contentLines, List.map_cons, List.map_cons, h]

theorem contents_append_newline {line : Text} (h : '\n' ∉ line) (rest : Text) :
    contents (line ++ '\n' :: rest) = contentLines [line] ++ contents rest := by
  rw [contents, lines_append_newline h, contentLines_congr (trim_dropReturn line),
    ← List.singleton_append, contentLines_append]
  rfl

theorem contents_of_notMem {line : Text} (h : '\n' ∉ line) :
    contents line = contentLines [line] := by
  by_cases hne : line = []
  · rw [hne]
    rfl
  · rw [contents, lines_of_notMem h hne]

/-- Joined lines have the content of the lines. -/
theorem contents_joinLines {ls : List Text} (h : ∀ line ∈ ls, '\n' ∉ line) :
    contents (joinLines ls) = contentLines ls := by
  induction ls with
  | nil => rfl
  | cons line ls ih =>
      obtain ⟨hline, hls⟩ := List.forall_mem_cons.1 h
      by_cases hne : ls = []
      · rw [hne]
        exact contents_of_notMem hline
      · rw [joinLines, joinWith_cons hne, contents_append_newline hline, ← joinLines, ih hls,
          ← contentLines_append, List.singleton_append]

theorem newline_notMem_of_mem_contents {s line : Text} (h : line ∈ contents s) : '\n' ∉ line := by
  obtain ⟨l, hl, rfl⟩ := List.mem_map.1 (List.mem_filter.1 h).1
  exact fun hn => newline_notMem_of_mem_lines hl (trim_subset l hn)

theorem contentLines_eq_self {ls : List Text} (h : ∀ line ∈ ls, IsTrimmed line ∧ line ≠ []) :
    contentLines ls = ls := by
  have hmap : ls.map trim = ls :=
    (List.map_congr_left fun l hl => trim_eq_self (h l hl).1).trans (List.map_id ls)
  rw [contentLines, hmap, List.filter_eq_self]
  intro l hl
  simpa using (h l hl).2

theorem isTrimmed_of_mem_contents {s line : Text} (h : line ∈ contents s) :
    IsTrimmed line ∧ line ≠ [] := by
  obtain ⟨hmem, hne⟩ := List.mem_filter.1 h
  obtain ⟨l, -, rfl⟩ := List.mem_map.1 hmem
  exact ⟨isTrimmed_trim l, by simpa using hne⟩

/-- A change of lines that goes for the content whatever blanks are around it. -/
theorem contentLines_map {α : Type} {ls : List Text} {as : List α} {a a' : α → Text}
    {g : Text → Text} (h : contentLines ls = as.map a)
    (hblank : ∀ b, IsBlanks b → IsBlanks (g b))
    (hg : ∀ x ∈ as, a' x ≠ [] ∧ ∀ line ∈ ls, trim line = a x → trim (g line) = a' x) :
    contentLines (ls.map g) = as.map a' := by
  induction ls generalizing as with
  | nil =>
      obtain rfl := List.map_eq_nil_iff.1 h.symm
      rfl
  | cons line ls ih =>
      rw [List.map_cons]
      by_cases hempty : trim line = []
      · have hline := trim_of_isBlanks (hblank line (isBlanks_of_trim_eq_nil hempty))
        rw [Check.contentLines_cons_of_isEmpty (by rw [hempty]; rfl)] at h
        rw [Check.contentLines_cons_of_isEmpty (by rw [hline]; rfl)]
        exact ih h fun x hx => ⟨(hg x hx).1, fun l hl => (hg x hx).2 l (List.mem_cons_of_mem _ hl)⟩
      · rw [Check.contentLines_cons (by simpa using hempty)] at h
        cases as with
        | nil => cases h
        | cons x as =>
            obtain ⟨hx, has⟩ := List.forall_mem_cons.1 hg
            obtain ⟨hfirst, hrest⟩ := List.cons.inj h
            have hline := hx.2 line List.mem_cons_self hfirst
            rw [Check.contentLines_cons (by rw [hline]; simpa using hx.1), hline, List.map_cons,
              ih hrest fun y hy => ⟨(has y hy).1, fun l hl => (has y hy).2 l
                (List.mem_cons_of_mem _ hl)⟩]

end Text

/-! ## The first two rules -/

/-- The text without the quotation marks in it. -/
def Text.unmarked (t : Text) : Text := t.filter (!Label.isQuotationMark ·)

namespace Text

theorem unmarked_append (s t : Text) : unmarked (s ++ t) = unmarked s ++ unmarked t :=
  List.filter_append _ _

theorem unmarked_eq_self {t : Text} (h : IsUnquoted t) : unmarked t = t := by
  rw [unmarked, List.filter_eq_self]
  intro c hc
  rw [h c hc]
  rfl

theorem isUnquoted_unmarked (t : Text) : IsUnquoted (unmarked t) := by
  intro c hc
  simpa using (List.mem_filter.1 hc).2

theorem unmarked_subset (t : Text) : unmarked t ⊆ t := List.filter_sublist.subset

theorem isUnquoted_of_isBlanks {b : Text} (hb : IsBlanks b) : IsUnquoted b := by
  intro c hc
  by_contra hq
  have hblank := hb c hc
  simp only [Label.isQuotationMark, Label.quotationMarks, List.contains_cons, List.contains_nil,
    Bool.not_eq_false, Bool.or_eq_true, beq_iff_eq, Bool.false_eq_true, or_false] at hq
  rcases hq with rfl | rfl | rfl | rfl | rfl <;> exact absurd hblank (by decide)

theorem unmarked_joinLines (ls : List Text) :
    unmarked (joinLines ls) = joinLines (ls.map unmarked) := by
  induction ls with
  | nil => rfl
  | cons line ls ih =>
      by_cases hne : ls = []
      · rw [hne]
        rfl
      · have hnewline (t : Text) : unmarked ('\n' :: t) = '\n' :: unmarked t := rfl
        have hne' : ls.map unmarked ≠ [] := by simpa using hne
        rw [List.map_cons, joinLines, joinLines, joinWith_cons hne, joinWith_cons hne',
          unmarked_append, hnewline, ← joinLines, ih, joinLines]

theorem notMem_of_mem_lines {s : Text} {c : Char} (hc : isBlank c = false)
    (h : ∀ line ∈ s.contents, c ∉ line) : ∀ line ∈ lines s, c ∉ line := by
  intro line hline hmem
  obtain ⟨b, b', hb, hb', htrim⟩ := exists_trim line
  have hinner : c ∈ trim line := by
    rw [htrim, List.mem_append, List.mem_append] at hmem
    rcases hmem with (hmem | hmem) | hmem
    · rw [hb c hmem] at hc
      cases hc
    · exact hmem
    · rw [hb' c hmem] at hc
      cases hc
  refine h (trim line) (List.mem_filter.2 ⟨List.mem_map_of_mem hline, ?_⟩) hinner
  cases ht : trim line with
  | nil =>
      rw [ht] at hinner
      cases hinner
  | cons => rfl

end Text

namespace Repair

theorem exists_splitFrom_eq {s : Text} (hs : ';' ∉ s) (depth : Nat) (quoted piped : Bool) :
    ∃ piece, splitFrom depth quoted piped s = [piece] := by
  induction s generalizing depth quoted piped with
  | nil => exact ⟨[], rfl⟩
  | cons c s ih =>
      have hextend (depth : Nat) (quoted piped : Bool) :
          ∃ piece, Text.extendFirst c (splitFrom depth quoted piped s) = [piece] := by
        obtain ⟨piece, hpiece⟩ := ih (fun h => hs (List.mem_cons_of_mem c h)) depth quoted piped
        exact ⟨c :: piece, by rw [hpiece]; rfl⟩
      have hne : c ≠ ';' := by
        rintro rfl
        exact hs List.mem_cons_self
      unfold splitFrom
      split
      · exact hextend _ _ _
      · split
        · exact hextend _ _ _
        · split
          · exact hextend _ _ _
          · split
            · exact hextend _ _ _
            · split
              · exact hextend _ _ _
              · rw [if_neg fun h => hne h.1]
                exact hextend _ _ _

/-- Without semicolons there is nothing to split. -/
theorem splitStatements_of_notMem {s : Text} (h : ∀ line ∈ s.contents, ';' ∉ line) :
    splitStatements s = Text.joinLines (Text.lines s) := by
  have hline : ∀ line ∈ Text.lines s, splitLine line = [line] := by
    intro line hline
    unfold splitLine
    split
    · rfl
    · obtain ⟨piece, hpiece⟩ := exists_splitFrom_eq
        (Text.notMem_of_mem_lines (by decide) h line hline) 0 false false
      rw [hpiece]
  rw [splitStatements, List.flatMap_congr hline, List.flatMap_singleton']

/-- Only the marks go where no quotation is. -/
theorem stripQuotes_of_notMem {t : Text} (ht : '"' ∉ t) : stripQuotes t = t.unmarked := by
  rw [stripQuotes, unwrapQuotes_eq_self ht, dropEscapedQuotes_eq_self ht]
  rfl

/-- The first two rules only take the marks out of a document without semicolons and quotations. -/
theorem contents_stripQuotes {s : Text} (hsemi : ∀ line ∈ s.contents, ';' ∉ line)
    (hquote : ∀ line ∈ s.contents, '"' ∉ line)
    (hends : ∀ line ∈ s.contents, Text.IsTrimmed line.unmarked ∧ line.unmarked ≠ []) :
    (stripQuotes (splitStatements s)).contents = s.contents.map Text.unmarked := by
  have hnone : '"' ∉ Text.joinLines (Text.lines s) := by
    intro h
    rcases Text.mem_joinWith h with h | ⟨line, hline, h⟩
    · cases h
    · exact Text.notMem_of_mem_lines (by decide) hquote line hline h
  rw [splitStatements_of_notMem hsemi, stripQuotes_of_notMem hnone, Text.unmarked_joinLines,
    Text.contents_joinLines]
  · have hself : Text.contentLines (Text.lines s) = s.contents.map id := (List.map_id _).symm
    refine Text.contentLines_map hself (fun b hb => ?_)
      fun line hline => ⟨(hends line hline).2, fun l _ hl => ?_⟩
    · rw [Text.unmarked_eq_self (Text.isUnquoted_of_isBlanks hb)]
      exact hb
    · obtain ⟨b, b', hb, hb', htrim⟩ := Text.exists_trim l
      rw [htrim, hl, Text.unmarked_append, Text.unmarked_append,
        Text.unmarked_eq_self (Text.isUnquoted_of_isBlanks hb),
        Text.unmarked_eq_self (Text.isUnquoted_of_isBlanks hb')]
      exact Text.trim_append_append hb hb' (hends line hline).2 (hends line hline).1
  · intro line hline
    obtain ⟨l, hl, rfl⟩ := List.mem_map.1 hline
    exact fun h => Text.newline_notMem_of_mem_lines hl (Text.unmarked_subset l h)

end Repair

/-! ## Lines with blanks around them -/

namespace Layout

/-- The line with other blanks around it. -/
def pad (p : Layout) (b b' : Text) : Layout := { p with lead := b, trail := b' }

section

variable {p : Layout} {b b' : Text}

theorem IsWell.pad (hp : p.IsWell) (hb : Text.IsBlanks b) (hb' : Text.IsBlanks b') :
    (p.pad b b').IsWell :=
  { hp with lead := hb, trail := hb' }

theorem exists_pad_of_trim {line : Text} (h : Text.trim line = p.core) :
    ∃ b b', Text.IsBlanks b ∧ Text.IsBlanks b' ∧ line = (p.pad b b').text := by
  obtain ⟨b, b', hb, hb', hline⟩ := Text.exists_trim line
  exact ⟨b, b', hb, hb', by rw [text_eq_core, hline, h]; rfl⟩

/-! ## Blank lines -/

theorem scan_blanks (hb : Text.IsBlanks b) : Segment.scan b = textSegment b := by
  have := EdgeText.isFree_blanks hb [] []
  rw [List.append_nil, Segment.scanFrom_nil, ofBack_eq, List.append_nil,
    List.reverse_reverse] at this
  exact this

theorem isBlanks_mapSegments {φ : Segment → Segment} {g : Text → Text}
    (htext : ∀ t, φ (.text t) = .text (g t)) (hb : Text.IsBlanks b) (hg : Text.IsBlanks (g b)) :
    Text.IsBlanks (Line.mapSegments φ b) := by
  rw [Line.mapSegments, scan_blanks hb]
  unfold textSegment
  split
  · exact .nil
  · rw [List.map_singleton, htext, Segment.renderAll]
    simpa [Segment.render] using hg

theorem isWell_bare (hb : Text.IsBlanks b) : IsWell ⟨[], .bare ['A'], [], b⟩ := by
  refine ⟨.nil, ⟨?_, nofun⟩, nofun, hb⟩
  exact (by decide : Ident.isValid ['A'] = true)

end

/-! ## Rules for lines -/

/-- On a well written line the rule is a change of the layout, whatever blanks are around it. -/
structure Rewrites (f : Text → Text) (R : Layout → Layout) (Q : Layout → Prop) : Prop where
  keeps : Text.Keeps f
  blanks : ∀ b, Text.IsBlanks b → Text.IsBlanks (f b)
  text : ∀ p : Layout, p.IsWell → Q p → f p.text = (R p).text ∧ (R p).IsWell
  core_pad : ∀ (p : Layout) (b b' : Text), (R (p.pad b b')).core = (R p).core
  pad : ∀ (p : Layout) (b b' : Text), Q p → Q (p.pad b b')

theorem Rewrites.trim_eq {f : Text → Text} {R : Layout → Layout} {Q : Layout → Prop}
    (hf : Rewrites f R Q) {p : Layout} (hp : p.IsWell) (hq : Q p) {l : Text}
    (hl : Text.trim l = Text.trim p.text) : Text.trim (f l) = (R p).core := by
  rw [trim_text hp] at hl
  obtain ⟨b, b', hb, hb', rfl⟩ := exists_pad_of_trim hl
  obtain ⟨htext, hwell⟩ := hf.text (p.pad b b') (hp.pad hb hb') (hf.pad p b b' hq)
  rw [htext, trim_text hwell, hf.core_pad]

/-- A rule for the lines that may hold statements. -/
def IsLineRule (rule : Text → Text) (R : Layout → Layout) (Q : Layout → Prop) : Prop :=
  ∃ f, rule = Line.mapStatements f ∧ Rewrites f R Q

theorem isLineRule_blanked : IsLineRule Repair.normalizeBrackets blanked fun _ => True := by
  refine ⟨_, rfl, keeps_normalizeBrackets, fun b hb => ?_,
    fun p hp _ => ⟨normalizeBrackets_text hp, isWell_blanked hp⟩, fun _ _ _ => rfl,
    fun _ _ _ => id⟩
  refine isBlanks_mapSegments (fun _ => rfl) hb ?_
  rw [EdgeText.blankDelimiters_blanks hb]
  exact hb

theorem isLineRule_relabelled : IsLineRule Repair.sanitizeLabels relabelled fun _ => True := by
  refine ⟨_, rfl, keeps_sanitizeLabels, fun b hb => ?_,
    fun p hp _ => ⟨sanitizeLabels_text hp, isWell_relabelled hp⟩, fun _ _ _ => rfl,
    fun _ _ _ => id⟩
  refine isBlanks_mapSegments (fun _ => rfl) hb ?_
  rw [(labels_splits (isWell_bare hb)).trail]
  exact hb

theorem isLineRule_respaced : IsLineRule Repair.sanitizeIdents respaced HasCleanEdges := by
  refine ⟨_, rfl, keeps_sanitizeIdents, fun b hb => ?_,
    fun p hp hc => ⟨sanitizeIdents_text hp hc, isWell_respaced hp⟩, fun _ _ _ => rfl,
    fun _ _ _ => id⟩
  have hsettled : ∀ t, Segment.text t ∈ textSegment b → IsSettledText t := by
    intro t ht
    refine forall_textSegment (P := IsSettledText) ⟨colon_notMem_blanks hb, ?_⟩ ht
    rw [lex_blanks hb]
    exact EdgeText.settled_blankTokens b
  rw [scan_blanks hb, sanitizeSegments_eq hsettled, ← scan_blanks hb]
  refine isBlanks_mapSegments (g := fun t => Token.renderAll (Token.lex t)) (fun _ => rfl) hb ?_
  rw [(tokens_splits (isWell_bare hb)).trail]
  exact EdgeText.isBlanks_space b

theorem isLineRule_straightened : IsLineRule Repair.repairEdges straightened fun _ => True := by
  refine ⟨_, rfl, keeps_repairEdges, fun b hb => ?_,
    fun p hp _ => ⟨repairEdges_text hp, isWell_straightened hp⟩, fun _ _ _ => rfl,
    fun _ _ _ => id⟩
  refine isBlanks_mapSegments (fun _ => rfl) hb ?_
  rw [(edges_splits (isWell_bare hb)).trail]
  exact EdgeText.isBlanks_space b

theorem isLineRule_padded :
    IsLineRule (Line.mapFreeText Repair.padArrows) padded IsStraight := by
  refine ⟨_, rfl, keeps_padArrows, fun b hb => ?_,
    fun p hp hs => ⟨padArrows_text hp hs, isWell_padded hp⟩, fun _ _ _ => rfl, fun _ _ _ => id⟩
  refine isBlanks_mapSegments (fun _ => rfl) hb ?_
  rw [(arrows_splits (isWell_bare hb) nofun).trail]
  exact EdgeText.isBlanks_space b

end Layout

namespace Repair

/-- Trimmed lines have the content that the lines had. -/
theorem contents_normalizeSpacing (t : Text) :
    (normalizeSpacing t).contents = (Line.mapFreeText padArrows t).contents := by
  have htrim : normalizeSpacing t = Text.joinLines (Line.mapFreeText padArrows t).contents := rfl
  rw [htrim, Text.contents_joinLines fun _ h => Text.newline_notMem_of_mem_contents h]
  exact Text.contentLines_eq_self fun _ h => Text.isTrimmed_of_mem_contents h

/-- The last rule reads the content of a document only. -/
theorem shapeDocument_congr {t u : Text} (h : t.contents = u.contents) :
    shapeDocument t = shapeDocument u := by
  have hfound (s : Text) : shapeDocument s = Text.joinLines (Chart.rootLine (body s.contents).1 ::
      settleLines [] (statementLines (body s.contents).2)) := rfl
  rw [hfound, hfound, h]

end Repair

namespace Entry

/-- The line is read like the entry whose content it has. -/
theorem mayHoldStatement_of_trim {line line' : Text} (h : Text.trim line = Text.trim line') :
    Line.mayHoldStatement line = Line.mayHoldStatement line' := by
  unfold Line.mayHoldStatement
  rw [← Line.rootDirection?_trim line, ← Line.isDirective_trim line, h, Line.rootDirection?_trim,
    Line.isDirective_trim]

/-- What a rule for lines makes of a line whose content is that of the entry. -/
theorem trim_lineRule {f : Text → Text} {R F : Layout → Layout} {Q : Layout → Prop}
    (hf : Layout.Rewrites f R Q) (hF : Carries F) (hQ : ∀ p : Layout, p.IsReady → Q (F p))
    {e : Entry} (he : e.IsReady) :
    Text.trim (e.through (R ∘ F)).text ≠ [] ∧
      ∀ l, Text.trim l = Text.trim (e.through F).text →
        Text.trim (if Line.mayHoldStatement l then f l else l) =
          Text.trim (e.through (R ∘ F)).text := by
  cases e with
  | root line =>
      refine ⟨trim_ne_nil_of_rootDirection? he.2, fun l hl => ?_⟩
      obtain ⟨d, hd⟩ := Option.isSome_iff_exists.1 he.2
      have hmay : Line.mayHoldStatement l = false := by
        rw [mayHoldStatement_of_trim hl]
        exact Line.mayHoldStatement_of_rootDirection? hd
      rw [hmay]
      exact hl
  | statement p =>
      have hp : p.IsReady := he
      obtain ⟨hFready, hkind⟩ := hF p hp
      have hmay : Line.mayHoldStatement p.text = !p.isMistakable :=
        Layout.mayHoldStatement_text hp.well
      have hFmay : Line.mayHoldStatement (F p).text = !p.isMistakable := by
        rw [Layout.mayHoldStatement_text hFready.well, hkind]
      rw [through, through]
      cases hm : p.isMistakable with
      | true =>
          simp only [if_true]
          refine ⟨?_, fun l hl => ?_⟩
          · rw [text, Layout.trim_text hp.well]
            exact Layout.core_ne_nil hp.well
          · rw [mayHoldStatement_of_trim hl, text, hmay, hm]
            exact hl
      | false =>
          simp only [Bool.false_eq_true, if_false, text, Function.comp_apply]
          have hwell := (hf.text (F p) hFready.well (hQ p hp)).2
          rw [Layout.trim_text hwell]
          refine ⟨Layout.core_ne_nil hwell, fun l hl => ?_⟩
          rw [mayHoldStatement_of_trim hl, hFmay, hm, Bool.not_false, if_pos rfl,
            hf.trim_eq hFready.well (hQ p hp) hl]

/-- A rule for lines changes the content of a document line by line. -/
theorem contents_lineRule {rule : Text → Text} {R F : Layout → Layout} {Q : Layout → Prop}
    (hrule : Layout.IsLineRule rule R Q) {es : List Entry} (hes : ∀ e ∈ es, e.IsReady)
    (hF : Carries F) (hQ : ∀ p : Layout, p.IsReady → Q (F p)) {t : Text}
    (ht : t.contents = es.map fun e => Text.trim (e.through F).text) :
    (rule t).contents = es.map fun e => Text.trim (e.through (R ∘ F)).text := by
  obtain ⟨f, rfl, hf⟩ := hrule
  rw [Line.mapStatements, Text.contents_joinLines]
  · refine Text.contentLines_map ht (fun b hb => ?_) fun e he => ?_
    · split
      · exact hf.blanks b hb
      · exact hb
    · obtain ⟨hne, htrim⟩ := trim_lineRule hf hF hQ (hes e he)
      exact ⟨hne, fun l _ hl => htrim l hl⟩
  · intro line hline
    obtain ⟨l, hl, rfl⟩ := List.mem_map.1 hline
    have hnewline := Text.newline_notMem_of_mem_lines hl
    split
    · exact hf.keeps.newline hnewline
    · exact hnewline

/-- The rules that work line by line, on a document whose content is that of ready lines. -/
theorem contents_lineRules {es : List Entry} (hes : ∀ e ∈ es, e.IsReady) {t : Text}
    (ht : t.contents = es.map fun e => Text.trim e.text) :
    (Repair.normalizeSpacing (Repair.repairEdges (Repair.sanitizeIdents (Repair.sanitizeLabels
      (Repair.normalizeBrackets t))))).contents = es.map finalText := by
  have hstart : t.contents = es.map fun e => Text.trim (e.through id).text := by
    rw [ht]
    exact List.map_congr_left fun e _ => by cases e <;> simp [through]
  have hbrackets := contents_lineRule Layout.isLineRule_blanked hes carries_id
    (fun _ _ => trivial) hstart
  have hlabels := contents_lineRule Layout.isLineRule_relabelled hes carries_blanked
    (fun _ _ => trivial) hbrackets
  have hidents := contents_lineRule Layout.isLineRule_respaced hes carries_relabelled
    (fun p hp => Layout.hasCleanEdges_relabelled hp.blanked.well) hlabels
  have hedges := contents_lineRule Layout.isLineRule_straightened hes carries_respaced
    (fun _ _ => trivial) hidents
  have harrows := contents_lineRule Layout.isLineRule_padded hes carries_straightened
    (fun p hp => Layout.isStraight_straightened (carries_respaced p hp).1) hedges
  rw [Repair.contents_normalizeSpacing, harrows]
  exact List.map_congr_left fun e he => finalText_eq (hes e he)

end Entry

/-- The rules behind the first two, on a document whose content is a root line and ready lines. -/
theorem Repair.shapeDocument_of_contents {t line : Text} {d : Direction} {ps : List Layout}
    (hline : Text.IsLine line) (hroot : Line.rootDirection? line = some d)
    (hps : ∀ p ∈ ps, p.IsReady) (ht : t.contents = Text.trim line :: ps.map Layout.core) :
    shapeDocument (normalizeSpacing (repairEdges (sanitizeIdents (sanitizeLabels
        (normalizeBrackets t))))) =
      Chart.render ⟨d, Statement.settleAll []
        ((ps.takeWhile (!·.isRoot)).filterMap Layout.kept)⟩ := by
  have hready := Entry.isReady_of_mem hline (by rw [hroot]; rfl) hps
  have hentries : t.contents =
      (Entry.root line :: ps.map Entry.statement).map fun e => Text.trim e.text := by
    rw [ht, List.map_cons, List.map_map]
    refine congrArg _ (List.map_congr_left fun p hp => ?_)
    exact (Layout.trim_text (hps p hp).well).symm
  rw [← shapeDocument_finalText hline hroot hps]
  refine shapeDocument_congr ?_
  rw [Entry.contents_lineRules hready hentries]
  exact (Entry.lines_finalText hready).symm

end Flowchart
