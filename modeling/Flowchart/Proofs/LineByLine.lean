import Flowchart.Proofs.RuleEnds
import Flowchart.Proofs.Semicolons

/-!
# The rules take a document line by line

No rule but the last one carries anything from a line to the next, once no quotation runs over the
end of a line. Each line has its own part in the content of what comes out, and documents that are
put below each other come out below each other.
-/

namespace Flowchart

namespace Text

/-! ## Content put together -/

/-- Documents below each other have the content of all of them. -/
theorem contents_append (s t : Text) : contents (s ++ '\n' :: t) = contents s ++ contents t := by
  have hpieces (u : Text) : ∃ ps, ps ≠ [] ∧ (∀ p ∈ ps, '\n' ∉ p) ∧ u = joinLines ps :=
    ⟨splitBy (· == '\n') u, splitBy_ne_nil _ u, fun _ => mem_splitBy_newline,
      (joinWith_splitBy '\n' u).symm⟩
  obtain ⟨ps, hps, hp, rfl⟩ := hpieces s
  obtain ⟨qs, hqs, hq, rfl⟩ := hpieces t
  -- the last piece of one document and the first one of the other are lines of their own
  have hboth : ∀ p ∈ ps ++ qs, '\n' ∉ p := by
    intro p hmem
    rcases List.mem_append.1 hmem with h | h
    · exact hp p h
    · exact hq p h
  rw [contents_joinLines hp, contents_joinLines hq, ← contentLines_append,
    ← contents_joinLines hboth]
  exact congrArg contents (joinWith_append hps hqs).symm

theorem contents_joinLines_eq (ts : List Text) : contents (joinLines ts) = ts.flatMap contents := by
  induction ts with
  | nil => rfl
  | cons t ts ih =>
      by_cases hne : ts = []
      · rw [hne, List.flatMap_singleton]
        rfl
      · rw [joinLines, joinWith_cons hne, contents_append, ← joinLines, ih, List.flatMap_cons]

/-- Blank lines may go before they are looked at. -/
theorem contentLines_filter (ls : List Text) :
    contentLines (ls.filter fun line => !(trim line).isEmpty) = contentLines ls := by
  induction ls with
  | nil => rfl
  | cons line ls ih =>
      cases h : (trim line).isEmpty with
      | true => rw [List.filter_cons_of_neg (by simp [h]), ih, Check.contentLines_cons_of_isEmpty h]
      | false =>
          rw [List.filter_cons_of_pos (by simp [h]), Check.contentLines_cons h, ih,
            Check.contentLines_cons h]

theorem contentLines_flatMap {F : Text → List Text} (hnil : contentLines (F []) = [])
    (hF : ∀ line, contentLines (F line) = contentLines (F (trim line))) (ls : List Text) :
    contentLines (ls.flatMap F) = (contentLines ls).flatMap (contentLines ∘ F) := by
  induction ls with
  | nil => rfl
  | cons line ls ih =>
      rw [List.flatMap_cons, contentLines_append, ih, hF]
      by_cases hempty : trim line = []
      · rw [Check.contentLines_cons_of_isEmpty (by rw [hempty]; rfl), hempty, hnil,
          List.nil_append]
      · rw [Check.contentLines_cons (by simpa using hempty), List.flatMap_cons,
          Function.comp_apply]

/-! ## Rules that work line by line -/

/-- Each line has its own part in the content of the text that comes out. -/
def IsLineWise (R : Text → Text) : Prop :=
  ∃ F : Text → List Text, ∀ t, contents (R t) = (contents t).flatMap F

theorem IsLineWise.comp {R S : Text → Text} (hS : IsLineWise S) (hR : IsLineWise R) :
    IsLineWise (S ∘ R) := by
  obtain ⟨F, hF⟩ := hR
  obtain ⟨G, hG⟩ := hS
  refine ⟨fun line => (F line).flatMap G, fun t => ?_⟩
  rw [Function.comp_apply, hG, hF, List.flatMap_assoc]

/-- Such a rule may be applied to the parts of a document. -/
theorem IsLineWise.contents_joinLines {R : Text → Text} (hR : IsLineWise R) (ts : List Text) :
    contents (R (joinLines ts)) = ts.flatMap fun t => contents (R t) := by
  obtain ⟨F, hF⟩ := hR
  rw [hF, contents_joinLines_eq, List.flatMap_assoc]
  exact List.flatMap_congr fun t _ => (hF t).symm

/-- A rule that replaces each line, whatever blanks are around it. -/
theorem isLineWise_flatMap {F : Text → List Text} (hnil : contentLines (F []) = [])
    (hF : ∀ line, contentLines (F line) = contentLines (F (trim line)))
    (hnewline : ∀ line, '\n' ∉ line → ∀ l ∈ F line, '\n' ∉ l) :
    IsLineWise fun t => joinLines ((lines t).flatMap F) := by
  refine ⟨contentLines ∘ F, fun t => ?_⟩
  rw [Text.contents_joinLines, contentLines_flatMap hnil hF, contents]
  intro l hl
  obtain ⟨line, hline, hl⟩ := List.mem_flatMap.1 hl
  exact hnewline line (newline_notMem_of_mem_lines hline) l hl

/-- A change of the lines that may hold statements. -/
theorem isLineWise_mapStatements {f : Text → Text} (hkeeps : Keeps f) (hends : KeepsEnds f) :
    IsLineWise (Line.mapStatements f) := by
  let F : Text → List Text := fun line => [if Line.mayHoldStatement line then f line else line]
  have hlines : Line.mapStatements f = fun t => joinLines ((lines t).flatMap F) := by
    funext t
    rw [Line.mapStatements, List.map_eq_flatMap]
  rw [hlines]
  refine isLineWise_flatMap ?_ (fun line => contentLines_congr ?_ []) fun line hline l hl => ?_
  · have hnil : F [] = [[]] := by simp [F, hends.nil]
    rw [hnil]
    rfl
  · rw [Entry.mayHoldStatement_of_trim (trim_trim line)]
    split
    · exact hends.trim_eq line
    · exact (trim_trim line).symm
  · rw [List.mem_singleton.1 hl]
    split
    · exact hkeeps.newline hline
    · exact hline

theorem isLineWise_unmarked : IsLineWise unmarked := by
  refine ⟨fun line => contentLines [unmarked line], fun t => ?_⟩
  have hpieces : ∀ p ∈ splitBy (· == '\n') t, '\n' ∉ p := fun _ => mem_splitBy_newline
  have hmap : ∀ p ∈ (splitBy (· == '\n') t).map unmarked, '\n' ∉ p := by
    intro p hp
    obtain ⟨q, hq, rfl⟩ := List.mem_map.1 hp
    exact fun h => hpieces q hq (unmarked_subset q h)
  conv_lhs => rw [← joinWith_splitBy '\n' t]
  conv_rhs => rw [← joinWith_splitBy '\n' t]
  rw [← joinLines, unmarked_joinLines, contents_joinLines hmap, contents_joinLines hpieces,
    List.map_eq_flatMap]
  exact contentLines_flatMap rfl
    (fun line => contentLines_congr (Repair.keepsEnds_unmarked.trim_eq line) []) _

end Text

namespace Repair

/-! ## Statements split -/

section

variable {c : Char} (hc : Text.isBlank c = true)

include hc

theorem contentLines_splitFrom_lead (s : Text) :
    Text.contentLines (splitFrom 0 false false (c :: s))
      = Text.contentLines (splitFrom 0 false false s) := by
  rw [splitFrom_cons_plain (isPlain_of_isBlank hc)]
  obtain ⟨piece, pieces, h⟩ := List.exists_cons_of_ne_nil (splitFrom_ne_nil 0 false false s)
  have htrim : Text.trim (c :: piece) = Text.trim piece := by
    simpa using Text.trim_append_isBlanks (.singleton hc) .nil piece
  rw [h]
  exact Text.contentLines_congr htrim pieces

/-- A blank behind a line stands behind the last piece. -/
theorem exists_splitFrom_trail (depth : Nat) (quoted piped : Bool) (s : Text) :
    ∃ front last, splitFrom depth quoted piped s = front ++ [last] ∧
      splitFrom depth quoted piped (s ++ [c]) = front ++ [last ++ [c]] := by
  have hextend {d : Char} {s u : List Text}
      (h : ∃ front last, s = front ++ [last] ∧ u = front ++ [last ++ [c]]) :
      ∃ front last, Text.extendFirst d s = front ++ [last] ∧
        Text.extendFirst d u = front ++ [last ++ [c]] := by
    obtain ⟨front, last, rfl, rfl⟩ := h
    cases front with
    | nil => exact ⟨[], d :: last, rfl, rfl⟩
    | cons piece front => exact ⟨(d :: piece) :: front, last, rfl, rfl⟩
  induction s generalizing depth quoted piped with
  | nil =>
      refine ⟨[], [], rfl, ?_⟩
      cases quoted with
      | false =>
          rw [List.nil_append, splitFrom_cons_plain (isPlain_of_isBlank hc)]
          rfl
      | true =>
          rw [List.nil_append, splitFrom, if_neg (Text.ne_of_isBlank hc rfl), if_pos rfl]
          rfl
  | cons d s ih =>
      rw [List.cons_append, splitFrom, splitFrom]
      split_ifs
      all_goals first | exact hextend (ih _ _ _) | skip
      obtain ⟨front, last, h, h'⟩ := ih depth quoted piped
      exact ⟨[] :: front, last, by rw [h]; rfl, by rw [h']; rfl⟩

theorem contentLines_splitFrom_trail (s : Text) :
    Text.contentLines (splitFrom 0 false false (s ++ [c]))
      = Text.contentLines (splitFrom 0 false false s) := by
  obtain ⟨front, last, h, h'⟩ := exists_splitFrom_trail hc 0 false false s
  have htrim : Text.trim (last ++ [c]) = Text.trim last :=
    Text.trim_append_isBlanks .nil (.singleton hc) last
  rw [h, h', Text.contentLines_append, Text.contentLines_append, Text.contentLines_congr htrim]

end

theorem contentLines_splitFrom_trim (line : Text) :
    Text.contentLines (splitFrom 0 false false line)
      = Text.contentLines (splitFrom 0 false false (Text.trim line)) := by
  obtain ⟨b, b', hb, hb', hline⟩ := Text.exists_trim line
  have hlead {b : Text} (hb : Text.IsBlanks b) (s : Text) :
      Text.contentLines (splitFrom 0 false false (b ++ s))
        = Text.contentLines (splitFrom 0 false false s) := by
    induction b with
    | nil => rfl
    | cons c b ih =>
        rw [List.cons_append, contentLines_splitFrom_lead (hb c (by simp)), ih hb.tail]
  have htrail {b : Text} (hb : Text.IsBlanks b) (s : Text) :
      Text.contentLines (splitFrom 0 false false (s ++ b))
        = Text.contentLines (splitFrom 0 false false s) := by
    induction b generalizing s with
    | nil => rw [List.append_nil]
    | cons c b ih =>
        rw [List.append_cons, ih hb.tail, contentLines_splitFrom_trail (hb c (by simp))]
  conv_lhs => rw [hline, htrail hb', hlead hb]

/-- A line has the content of its pieces, whether it is cut or not. -/
theorem contentLines_splitLine (line : Text) : Text.contentLines (splitLine line)
    = if Line.isDirective line then Text.contentLines [line]
      else Text.contentLines (splitFrom 0 false false line) := by
  unfold splitLine
  split
  · rfl
  · have hjoin := joinWith_splitFrom 0 false false line
    split
    · rename_i piece h
      rw [h] at hjoin ⊢
      rw [show piece = line from hjoin]
    · exact Text.contentLines_filter _

theorem subset_of_mem_splitLine {line piece : Text} (h : piece ∈ splitLine line) :
    piece ⊆ line := by
  have hpieces {piece : Text} (h : piece ∈ splitFrom 0 false false line) : piece ⊆ line := by
    intro c hc
    rw [← joinWith_splitFrom 0 false false line]
    exact Text.mem_joinWith_of_mem h hc
  unfold splitLine at h
  split at h
  · rw [List.mem_singleton.1 h]
    exact List.Subset.refl line
  · split at h
    · rw [List.mem_singleton.1 h]
      exact List.Subset.refl line
    · exact hpieces (List.mem_filter.1 h).1

theorem isLineWise_splitStatements : Text.IsLineWise splitStatements := by
  refine Text.isLineWise_flatMap rfl (fun line => ?_) fun line hline l hl hmem =>
    hline (subset_of_mem_splitLine hl hmem)
  rw [contentLines_splitLine, contentLines_splitLine, Line.isDirective_trim,
    ← contentLines_splitFrom_trim, Text.contentLines_congr (Text.trim_trim line)]

theorem quote_notMem_splitStatements {t : Text} (ht : '"' ∉ t) : '"' ∉ splitStatements t := by
  intro h
  rcases Text.mem_joinWith h with h | ⟨piece, hpiece, h⟩
  · cases h
  · obtain ⟨line, hline, hpiece⟩ := List.mem_flatMap.1 hpiece
    exact ht (Text.mem_of_mem_lines hline (subset_of_mem_splitLine hpiece h))

/-! ## The rules together -/

theorem isLineWise_normalizeBrackets : Text.IsLineWise normalizeBrackets :=
  Text.isLineWise_mapStatements keeps_normalizeBrackets
    (keepsEnds_mapSegments (fun _ => rfl) keepsEnds_blankDelimiters)

theorem isLineWise_sanitizeLabels : Text.IsLineWise sanitizeLabels :=
  Text.isLineWise_mapStatements keeps_sanitizeLabels
    (keepsEnds_mapSegments (fun _ => rfl) ignoresBlanks_pipeLabel.keepsEnds)

theorem isLineWise_sanitizeIdents : Text.IsLineWise sanitizeIdents :=
  Text.isLineWise_mapStatements keeps_sanitizeIdents keepsEnds_sanitizeSegments

theorem isLineWise_repairEdges : Text.IsLineWise repairEdges :=
  Text.isLineWise_mapStatements keeps_repairEdges
    (keepsEnds_mapSegments (fun _ => rfl) keepsEnds_repairEdgeText)

theorem isLineWise_normalizeSpacing : Text.IsLineWise normalizeSpacing := by
  obtain ⟨F, hF⟩ := Text.isLineWise_mapStatements keeps_padArrows
    (keepsEnds_mapSegments (fun _ => rfl) keepsEnds_padArrows)
  exact ⟨F, fun t => (contents_normalizeSpacing t).trans (hF t)⟩

/-- The text that the last rule is given. -/
def lineRules (t : Text) : Text :=
  normalizeSpacing (repairEdges (sanitizeIdents (sanitizeLabels (normalizeBrackets
    (stripQuotes (splitStatements t))))))

/-- Without quotations the second rule only takes marks out. -/
theorem lineRules_of_notMem {t : Text} (ht : '"' ∉ t) : lineRules t = normalizeSpacing
    (repairEdges (sanitizeIdents (sanitizeLabels (normalizeBrackets
      (splitStatements t).unmarked)))) := by
  rw [lineRules, stripQuotes_of_notMem (quote_notMem_splitStatements ht)]

/-- The rules may be applied to the parts of a document, unless a quotation is in it. -/
theorem contents_lineRules_joinLines {ts : List Text} (hts : ∀ t ∈ ts, '"' ∉ t) :
    (lineRules (Text.joinLines ts)).contents = ts.flatMap fun t => (lineRules t).contents := by
  have hrules := isLineWise_normalizeSpacing.comp (isLineWise_repairEdges.comp
    (isLineWise_sanitizeIdents.comp (isLineWise_sanitizeLabels.comp
      (isLineWise_normalizeBrackets.comp
        (Text.isLineWise_unmarked.comp isLineWise_splitStatements)))))
  simp only [Function.comp_def] at hrules
  have hjoined : '"' ∉ Text.joinLines ts := by
    intro h
    rcases Text.mem_joinWith h with h | ⟨t, ht, h⟩
    · cases h
    · exact hts t ht h
  rw [lineRules_of_notMem hjoined, hrules.contents_joinLines]
  exact List.flatMap_congr fun t ht => by rw [lineRules_of_notMem (hts t ht)]

end Repair

end Flowchart
