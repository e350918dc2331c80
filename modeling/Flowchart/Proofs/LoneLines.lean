import Flowchart.Proofs.Renaming

/-!
# Texts of one line

Without a root line every line counts, and the direction is the default one. On a single line the
rules work as they do on that line alone.
-/

namespace Flowchart

theorem Text.isTrimmed_word_append {w r : Text} (hne : w ≠ []) (hw : ∀ c ∈ w, c.isAlphanum = true)
    (hr : r ≠ []) (hlast : ∀ c ∈ r.getLast?, isBlank c = false) : IsTrimmed (w ++ r) := by
  constructor
  · intro c hc
    rw [List.head?_append_of_ne_nil _ hne] at hc
    exact Ident.not_isBlank_of_isAlphanum (hw c (List.mem_of_mem_head? hc))
  · intro c hc
    rw [List.getLast?_append_of_ne_nil _ hr] at hc
    exact hlast c hc

namespace Line

theorem mapStatements_line {x : Text} (hx : Text.IsLine x) (hm : mayHoldStatement x = true)
    (f : Text → Text) : mapStatements f x = f x := by
  rw [mapStatements, Text.lines_of_notMem hx.newline hx.ne_nil, List.map_singleton, if_pos hm]
  rfl

theorem ends_of_isCloser {c : Char} (h : isCloser c = true) : Text.isBlank c = false ∧ c ≠ ';' := by
  refine ⟨Layout.isBlank_eq_false_of_isCloser h, ?_⟩
  rintro rfl
  exact absurd h (by decide)

section

variable {w r : Text} {c : Char} (hne : w ≠ []) (hw : ∀ c ∈ w, c.isAlphanum = true)
  (hc : c ∈ r.head?) (halnum : c.isAlphanum = false) (hblank : Text.isBlank c = false)
  (hsemi : c ≠ ';') (hlast : ∀ d ∈ r.getLast?, Text.isBlank d = false ∧ d ≠ ';')

include hne hw hc halnum hblank hsemi hlast

/-- A word is no keyword where something is glued to it. -/
theorem kinds_glued : isDirective (w ++ r) = false ∧ rootDirection? (w ++ r) = none := by
  have hhead : ∀ d ∈ r.head?, d.isAlphanum = false := by
    intro d hd
    cases hc.symm.trans hd
    exact halnum
  have hnil : Text.IsBlanks [] := nofun
  have hrne : r ≠ [] := by
    rintro rfl
    cases hc
  have htrim : Text.trim (w ++ r) = w ++ r :=
    Text.trim_eq_self (Text.isTrimmed_word_append hne hw hrne fun d hd => (hlast d hd).1)
  have hends : ∀ d ∈ (Text.trim (w ++ r)).getLast?, d ≠ ';' := by
    rw [htrim, List.getLast?_append_of_ne_nil _ hrne]
    exact fun d hd => (hlast d hd).2
  exact ⟨isDirective_glued hnil hne hw hhead hc hblank hsemi,
    rootDirection?_glued (b := []) hnil hne hw hhead hends hc hblank⟩

theorem mapStatements_glued (hn : '\n' ∉ w ++ r) (f : Text → Text) :
    mapStatements f (w ++ r) = f (w ++ r) := by
  have hrne : r ≠ [] := by
    rintro rfl
    cases hc
  have hline : Text.IsLine (w ++ r) := by
    refine ⟨by simp [hne], hn, fun h => ?_⟩
    rw [List.getLast?_append_of_ne_nil _ hrne] at h
    exact absurd (hlast _ h).1 (by decide)
  obtain ⟨hdirective, hroot⟩ := kinds_glued hne hw hc halnum hblank hsemi hlast
  refine mapStatements_line hline ?_ f
  rw [mayHoldStatement, hdirective, hroot]
  rfl

end

end Line

/-- The canonical line of a statement is final. -/
theorem Entry.finalText_ofStatement {s : Statement} (hs : s.IsClean) :
    (statement (Layout.ofStatement s)).finalText = s.render := by
  have hcore := Layout.text_eq_core (Layout.ofStatement s)
  rw [finalText, Layout.statement_ofStatement hs, ← Layout.text_ofStatement, hcore]
  split <;> simp [Layout.ofStatement]

theorem Statement.isLine_render {s : Statement} (hs : s.IsClean) :
    Text.IsLine s.render ∧ Text.IsTrimmed s.render := by
  have hready := (Layout.isSettledLine_ofStatement hs).toIsReady
  obtain ⟨hline, htrim⟩ := Entry.isLine_finalText (e := .statement (Layout.ofStatement s)) hready
  rw [Entry.finalText_ofStatement hs] at hline htrim
  exact ⟨hline, htrim ▸ Text.isTrimmed_trim _⟩

namespace Repair

/-- The first two rules on a single line. -/
theorem stripQuotes_line {x : Text} (hne : x ≠ []) (hn : '\n' ∉ x) (hsemi : ';' ∉ x)
    (hquote : Text.IsUnquoted x) : stripQuotes (splitStatements x) = x := by
  refine stripQuotes_splitStatements hsemi hquote ?_
  rw [Text.lines_of_notMem hn hne]
  rfl

theorem trimLines_line {x : Text} (hx : Text.IsLine x) (htrim : Text.IsTrimmed x) :
    trimLines x = x := by
  have := hx.ne_nil
  simp [trimLines, Text.lines_of_notMem hx.newline hx.ne_nil, Text.trim_eq_self htrim, this,
    Text.joinLines, Text.joinWith]

theorem expandJoins_of_notMem {x : Text} (h : .join ∉ Item.ofLine x) : expandJoins x = [x] := by
  rw [expandJoins]
  split
  · rw [if_neg (by simpa using h)]
  · rfl

/-- The last rule on a single line. -/
theorem shapeDocument_line {x : Text} (hx : Text.IsLine x) (htrim : Text.IsTrimmed x)
    (hroot : Line.rootDirection? x = none) : shapeDocument x
      = Text.joinLines (Chart.rootLine default :: settleLines []
        (if Line.isDirective x = true then [] else (expandJoins x).filter isStatement)) := by
  have hfound : ((Text.lines x).map Text.trim).filter (!·.isEmpty) = [x] := by
    have := hx.ne_nil
    simp [Text.lines_of_notMem hx.newline hx.ne_nil, Text.trim_eq_self htrim, this]
  have hbody : body [x] = (default, [x]) := by
    rw [body, splitAtRoot?, hroot]
    rfl
  rw [shapeDocument, hfound, hbody]
  dsimp only
  rw [statementLines_cons, statementLines, List.filter_nil, List.flatMap_nil, List.filter_nil,
    List.append_nil]

theorem shapeDocument_finalText_lone {p : Layout} (hp : p.IsReady) (hroot : p.isRoot = false) :
    shapeDocument (Entry.statement p).finalText
      = Chart.render ⟨default, Statement.settleAll [] p.kept.toList⟩ := by
  obtain ⟨hline, htrim⟩ := Entry.isLine_finalText (e := .statement p) hp
  obtain ⟨hnone, hdirective⟩ := Entry.kinds_finalText hp
  have htrimmed : Text.IsTrimmed (Entry.statement p).finalText :=
    htrim ▸ Text.isTrimmed_trim _
  rw [hroot, if_neg Bool.false_ne_true] at hnone
  have hkept : (if Line.isDirective (Entry.statement p).finalText = true then []
      else (expandJoins (Entry.statement p).finalText).filter isStatement)
        = p.kept.toList.map Statement.render := by
    rw [hdirective hroot]
    cases hk : p.kept with
    | none => rfl
    | some s =>
        obtain ⟨hm, rfl⟩ := Layout.of_kept_eq_some hk
        have hfinal : (Entry.statement p).finalText = p.statement.render := by
          rw [Entry.finalText, hm]
          rfl
        rw [hfinal]
        exact filter_expandJoins_render (Layout.isClean_statement hp)
  have hclean : ∀ s ∈ p.kept.toList, s.IsClean := by
    intro s hs
    rw [(Layout.of_kept_eq_some (Option.mem_toList.1 hs)).2]
    exact Layout.isClean_statement hp
  rw [shapeDocument_line hline htrimmed hnone, hkept, Layout.settleLines_render hclean]
  rfl

theorem shapeDocument_render {s : Statement} (hs : s.IsClean)
    (hroot : (Layout.ofStatement s).isRoot = false) : shapeDocument s.render
      = Chart.render ⟨default, Statement.settleAll [] (if s.isMistakable then [] else [s])⟩ := by
  have hready := (Layout.isSettledLine_ofStatement hs).toIsReady
  have hdocument := shapeDocument_finalText_lone hready hroot
  rw [Entry.finalText_ofStatement hs, Layout.kept, Layout.statement_ofStatement hs,
    Layout.isMistakable_ofStatement, Bool.or_self] at hdocument
  rw [hdocument]
  cases s.isMistakable <;> rfl

end Repair

/-- What repair makes of a single line. -/
theorem Layout.repair_lone {p : Layout} (hp : p.IsReady) (hroot : p.isRoot = false)
    (hsemi : ';' ∉ p.text) :
    repair p.text = Chart.render ⟨default, Statement.settleAll [] p.kept.toList⟩ := by
  have hready : ∀ e ∈ [Entry.statement p], e.IsReady := by
    intro e he
    rw [List.mem_singleton.1 he]
    exact hp
  have hrules := Entry.lineRules_joinLines hready
  rw [repair_eq, Repair.stripQuotes_line hp.isLine.ne_nil hp.newline hsemi hp.unquoted]
  refine Eq.trans (congrArg Repair.shapeDocument hrules) ?_
  exact Repair.shapeDocument_finalText_lone hp hroot

end Flowchart
