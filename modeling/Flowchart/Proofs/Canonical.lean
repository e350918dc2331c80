import Flowchart.Proofs.Settling

/-!
# Canonical charts are fixed points

A document of a root declaration and statement lines is repaired to a clean chart. Statements whose
lines are taken for something else are lost, and the others come out settled. A clean chart in
which no line is taken for anything else is repaired to itself.
-/

namespace Flowchart

namespace Layout

/-- The statement that is kept of a line, if its line is not taken for anything else. -/
def kept (p : Layout) : Option Statement :=
  if p.isMistakable || p.statement.isMistakable then none else some p.statement

theorem of_kept_eq_some {p : Layout} {s : Statement} (h : p.kept = some s) :
    p.isMistakable = false ∧ s = p.statement := by
  rw [kept] at h
  split at h
  · cases h
  · rename_i hm
    simp only [Bool.or_eq_true, not_or, Bool.not_eq_true] at hm
    cases h
    exact ⟨hm.1, rfl⟩

theorem isClean_of_mem_kept {ps : List Layout} (hps : ∀ p ∈ ps, p.IsReady) :
    ∀ s ∈ (ps.takeWhile (!·.isRoot)).filterMap kept, s.IsClean := by
  intro s hs
  obtain ⟨p, hp, hk⟩ := List.mem_filterMap.1 hs
  rw [(of_kept_eq_some hk).2]
  exact isClean_statement (hps p ((List.takeWhile_prefix _).subset hp))

theorem isMistakable_ofStatement (s : Statement) :
    (ofStatement s).isMistakable = s.isMistakable := by
  obtain ⟨first, links⟩ := s
  cases first with
  | shaped n => rfl
  | bare w =>
      have hends : (ofStatement ⟨.bare w, links⟩).endsFirst = true := by
        cases links with
        | nil => rfl
        | cons l links =>
            show (!(EdgeText.ofLabel [' '] l.label [' ']).before.isEmpty) = true
            rw [before_ofLabel]
            rfl
      have hempty : (ofStatement ⟨.bare w, links⟩).links.isEmpty = links.isEmpty := by
        cases links <;> rfl
      show ((ofStatement ⟨.bare w, links⟩).endsFirst && Line.directiveKeywords.contains w ||
        (ofStatement ⟨.bare w, links⟩).links.isEmpty && Line.isRootKeyword w) = _
      rw [hends, hempty]
      rfl

theorem isRoot_statement (p : Layout) : (ofStatement p.statement).isRoot = p.isRoot := by
  obtain ⟨lead, first, links, trail⟩ := p
  have hempty : (ofStatement (statement ⟨lead, first, links, trail⟩)).links.isEmpty
      = links.isEmpty := by
    cases links <;> rfl
  cases first with
  | shaped id c i => rfl
  | bare w =>
      show ((ofStatement (statement ⟨lead, .bare w, links, trail⟩)).links.isEmpty
        && Line.isRootKeyword w) = (links.isEmpty && Line.isRootKeyword w)
      rw [hempty]

end Layout

namespace Entry

theorem isLine_finalText {e : Entry} (he : e.IsReady) :
    Text.IsLine e.finalText ∧ Text.trim e.finalText = e.finalText := by
  have hthrough : (e.through Layout.finish).IsReady := he.through fun p hp => by
    subst hp
    exact Layout.IsReady.finish he
  have hne := finalText_ne_nil he
  rw [← finalText_eq he] at hne ⊢
  have htrimmed := Text.isTrimmed_trim (e.through Layout.finish).text
  refine ⟨htrimmed.isLine hne fun h => ?_, Text.trim_trim _⟩
  exact hthrough.isLine.newline (Text.trim_subset _ h)

theorem isReady_of_mem {line : Text} (hline : Text.IsLine line)
    (hroot : (Line.rootDirection? line).isSome = true) {ps : List Layout}
    (hps : ∀ p ∈ ps, p.IsReady) : ∀ e ∈ root line :: ps.map statement, e.IsReady := by
  intro e he
  rcases List.mem_cons.1 he with rfl | he
  · exact ⟨hline, hroot⟩
  · obtain ⟨p, hp, rfl⟩ := List.mem_map.1 he
    exact hps p hp

/-- No final line is lost when the text is read line by line again. -/
theorem lines_finalText {es : List Entry} (hes : ∀ e ∈ es, e.IsReady) :
    ((Text.lines (Text.joinLines (es.map finalText))).map Text.trim).filter (!·.isEmpty)
      = es.map finalText := by
  have hlines : ∀ l ∈ es.map finalText, Text.IsLine l ∧ Text.trim l = l := by
    intro l hl
    obtain ⟨e, he, rfl⟩ := List.mem_map.1 hl
    exact isLine_finalText (hes e he)
  rw [Text.lines_joinLines fun l hl => (hlines l hl).1,
    List.map_congr_left fun l hl => (hlines l hl).2, List.map_id', List.filter_eq_self]
  intro l hl
  simpa using (hlines l hl).1.ne_nil

/-- The kinds that a final line is taken for. -/
theorem kinds_finalText {p : Layout} (hp : p.IsReady) :
    (Line.rootDirection? (statement p).finalText = if p.isRoot = true then some default else none) ∧
      (p.isRoot = false → Line.isDirective (statement p).finalText = p.kept.isNone) := by
  obtain ⟨hd, hr⟩ := Layout.kinds_text hp.well
  have hclean := Layout.isClean_statement hp
  obtain ⟨hsd, hsr⟩ := Layout.kinds_text (Layout.isWell_ofStatement hclean)
  rw [Layout.text_ofStatement] at hsd hsr
  rw [Layout.isRoot_statement] at hsr
  have hs := Layout.isMistakable_ofStatement p.statement
  rw [Layout.isMistakable, Layout.isRoot_statement] at hs
  cases hm : p.isMistakable with
  | true =>
      have hfinal : (statement p).finalText = Text.trim p.text := by
        rw [finalText, hm, Layout.trim_text hp.well]
        rfl
      rw [hfinal, Line.rootDirection?_trim, Line.isDirective_trim, hr, hd, Layout.kept, hm]
      refine ⟨rfl, fun hroot => ?_⟩
      rw [Layout.isMistakable, hroot, Bool.or_false] at hm
      rw [hm]
      rfl
  | false =>
      have hfinal : (statement p).finalText = p.statement.render := by
        rw [finalText, hm]
        rfl
      rw [hfinal, hsr, hsd, Layout.kept, hm]
      refine ⟨rfl, fun hroot => ?_⟩
      rw [hroot, Bool.or_false] at hs
      rw [hs]
      cases p.statement.isMistakable <;> rfl

end Entry

namespace Repair

theorem statementLines_cons (line : Text) (ls : List Text) :
    statementLines (line :: ls) =
      (if Line.isDirective line then [] else (expandJoins line).filter isStatement)
        ++ statementLines ls := by
  unfold statementLines
  cases h : Line.isDirective line <;> simp [h]

/-- The statement lines up to the next root declaration are those of the statements kept. -/
theorem statementLines_finalText {ps : List Layout} (hps : ∀ p ∈ ps, p.IsReady) :
    statementLines ((ps.map fun p => (Entry.statement p).finalText).takeWhile
        fun line => (Line.rootDirection? line).isNone)
      = ((ps.takeWhile (!·.isRoot)).filterMap Layout.kept).map Statement.render := by
  induction ps with
  | nil => rfl
  | cons p ps ih =>
      have hp := hps p (by simp)
      obtain ⟨hroot, hdirective⟩ := Entry.kinds_finalText hp
      rw [List.map_cons, List.takeWhile_cons, List.takeWhile_cons, hroot]
      cases hr : p.isRoot with
      | true => rfl
      | false =>
          have ih := ih fun q hq => hps q (by simp [hq])
          have hnone : (if false = true then some (default : Direction) else none).isNone = true :=
            rfl
          rw [if_pos hnone, if_pos (by rfl), statementLines_cons, ih, hdirective hr,
            List.filterMap_cons]
          cases hk : p.kept with
          | none => rfl
          | some s =>
              have hs := Layout.of_kept_eq_some hk
              have hline : (Entry.statement p).finalText = s.render := by
                rw [Entry.finalText, hs.1, hs.2]
                rfl
              have hclean : s.IsClean := hs.2 ▸ Layout.isClean_statement hp
              have hexpand := Layout.expandJoins_text (Layout.isWell_ofStatement hclean)
                (Layout.hasCanonicalArrows_ofStatement s)
              rw [Layout.text_ofStatement] at hexpand
              rw [hline, hexpand]
              simp [Statement.isStatement_render hclean]

/-- The last rule on a document whose lines came out of the rules before it. -/
theorem shapeDocument_finalText {line : Text} {d : Direction} {ps : List Layout}
    (hline : Text.IsLine line) (hroot : Line.rootDirection? line = some d)
    (hps : ∀ p ∈ ps, p.IsReady) :
    shapeDocument (Text.joinLines
        ((Entry.root line :: ps.map Entry.statement).map Entry.finalText)) =
      Chart.render ⟨d, Statement.settleAll []
        ((ps.takeWhile (!·.isRoot)).filterMap Layout.kept)⟩ := by
  have hready := Entry.isReady_of_mem hline (by rw [hroot]; rfl) hps
  have hfound : ((Text.lines (Text.joinLines ((Entry.root line :: ps.map Entry.statement).map
      Entry.finalText))).map Text.trim).filter (!·.isEmpty)
      = Text.trim line :: ps.map fun p => (Entry.statement p).finalText := by
    rw [Entry.lines_finalText hready, List.map_cons, List.map_map]
    rfl
  have hbody : body (Text.trim line :: ps.map fun p => (Entry.statement p).finalText)
      = (d, (ps.map fun p => (Entry.statement p).finalText).takeWhile
          fun line => (Line.rootDirection? line).isNone) := by
    rw [body, splitAtRoot?, Line.rootDirection?_trim, hroot]
  unfold shapeDocument
  rw [hfound, hbody]
  dsimp only
  rw [statementLines_finalText hps, Layout.settleLines_render (Layout.isClean_of_mem_kept hps)]
  rfl

theorem shapeDocument_joinLines {line : Text} {d : Direction} {ps : List Layout}
    (hline : Text.IsLine line) (hroot : Line.rootDirection? line = some d)
    (hps : ∀ p ∈ ps, p.IsReady) :
    shapeDocument (normalizeSpacing (repairEdges (sanitizeIdents (sanitizeLabels
        (normalizeBrackets (Text.joinLines (line :: ps.map Layout.text))))))) =
      Chart.render ⟨d, Statement.settleAll []
        ((ps.takeWhile (!·.isRoot)).filterMap Layout.kept)⟩ := by
  have hentries : line :: ps.map Layout.text
      = (Entry.root line :: ps.map Entry.statement).map Entry.text := by
    rw [List.map_cons, List.map_map]
    rfl
  have hready := Entry.isReady_of_mem hline (by rw [hroot]; rfl) hps
  rw [hentries, Entry.lineRules_joinLines hready, shapeDocument_finalText hline hroot hps]

end Repair

end Flowchart
