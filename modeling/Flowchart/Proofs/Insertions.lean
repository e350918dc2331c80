import Flowchart.Proofs.LineByLine
import Mathlib.Tactic.TFAE

/-!
# Lines that yield nothing

Lines may be put into a document or taken out of it when nothing is left of them. Two lines around
them show what is left, unless a root declaration is among them: it takes the place of all that
stands before it, so that lines may seem to leave nothing between two lines and yet cut a document.
-/

namespace Flowchart

namespace Repair

/-! ## Lines without statements -/

theorem statementLines_append (ls ms : List Text) :
    statementLines (ls ++ ms) = statementLines ls ++ statementLines ms := by
  rw [statementLines, List.filter_append, List.flatMap_append, List.filter_append]
  rfl

theorem length_settleLines (known : Shapes) (ls : List Text) :
    (settleLines known ls).length = ls.length := by
  induction ls generalizing known with
  | nil => rfl
  | cons line ls ih => rw [settleLines, List.length_cons, List.length_cons, ih]

/-- No line declares the root of a chart. -/
def IsRootless (ls : List Text) : Prop := ∀ line ∈ ls, Line.rootDirection? line = none

instance (ls : List Text) : Decidable (IsRootless ls) :=
  inferInstanceAs (Decidable (∀ line ∈ ls, _))

theorem splitAtRoot?_append (ls ms : List Text) : splitAtRoot? (ls ++ ms)
    = ((splitAtRoot? ls).map fun r => (r.1, r.2 ++ ms)).or (splitAtRoot? ms) := by
  induction ls with
  | nil => rfl
  | cons line ls ih =>
      rw [List.cons_append, splitAtRoot?, splitAtRoot?]
      cases Line.rootDirection? line with
      | some d => rfl
      | none => exact ih

theorem splitAtRoot?_eq_none_iff {ls : List Text} :
    splitAtRoot? ls = none ↔ IsRootless ls := by
  induction ls with
  | nil => simp [splitAtRoot?, IsRootless]
  | cons line ls ih =>
      rw [splitAtRoot?, IsRootless, List.forall_mem_cons, ← IsRootless]
      cases h : Line.rootDirection? line with
      | some d => simp
      | none => simpa using ih

/-- Where nothing is left of the lines between, the statements and the direction are those without
them. -/
theorem body_insert {ms : List Text} (hroot : IsRootless ms) (hnone : statementLines ms = [])
    (ls ns : List Text) :
    (body (ls ++ (ms ++ ns))).1 = (body (ls ++ ns)).1 ∧
      statementLines (body (ls ++ (ms ++ ns))).2 = statementLines (body (ls ++ ns)).2 := by
  have hsplit : splitAtRoot? (ms ++ ns) = splitAtRoot? ns := by
    rw [splitAtRoot?_append, splitAtRoot?_eq_none_iff.2 hroot]
    rfl
  rw [body, body, splitAtRoot?_append ls (ms ++ ns), splitAtRoot?_append ls ns, hsplit]
  cases hls : splitAtRoot? ls with
  | some r =>
      -- the lines stand behind the first root, or behind the second one too
      obtain ⟨d, rest⟩ := r
      refine ⟨rfl, ?_⟩
      have hmiddle : (ms ++ ns).takeWhile (fun line => (Line.rootDirection? line).isNone)
          = ms ++ ns.takeWhile fun line => (Line.rootDirection? line).isNone :=
        List.takeWhile_append_of_pos fun line hline => by rw [hroot line hline]; rfl
      simp only [Option.map_some, Option.some_or, List.takeWhile_append, hmiddle]
      split
      · rw [statementLines_append, statementLines_append, hnone, List.nil_append,
          statementLines_append]
      · rfl
  | none =>
      cases hns : splitAtRoot? ns with
      | some r => exact ⟨rfl, rfl⟩
      | none =>
          refine ⟨rfl, ?_⟩
          show statementLines (ls ++ (ms ++ ns)) = statementLines (ls ++ ns)
          rw [statementLines_append, statementLines_append, hnone, List.nil_append,
            statementLines_append]

/-- A root declaration takes the place of what stands before it. -/
theorem body_of_root {ms : List Text} (hroot : ¬ IsRootless ms) {ls ls' : List Text}
    (hls : IsRootless ls) (hls' : IsRootless ls') (ns : List Text) :
    body (ls ++ (ms ++ ns)) = body (ls' ++ (ms ++ ns)) := by
  rw [body, body, splitAtRoot?_append ls, splitAtRoot?_append ls',
    splitAtRoot?_eq_none_iff.2 hls, splitAtRoot?_eq_none_iff.2 hls']
  cases h : splitAtRoot? (ms ++ ns) with
  | some r => rfl
  | none =>
      rw [splitAtRoot?_eq_none_iff] at h
      exact absurd (fun line hline => h line (List.mem_append_left _ hline)) hroot

/-! ## Documents of three parts -/

/-- The chart of a document with this content. -/
def chartText (ls : List Text) : Text :=
  Text.joinLines (Chart.rootLine (body ls).1 :: settleLines [] (statementLines (body ls).2))

theorem chartText_insert {ms : List Text} (hroot : IsRootless ms) (hnone : statementLines ms = [])
    (ls ns : List Text) : chartText (ls ++ (ms ++ ns)) = chartText (ls ++ ns) := by
  obtain ⟨hdirection, hlines⟩ := body_insert hroot hnone ls ns
  rw [chartText, chartText, hdirection, hlines]

theorem chartText_of_isRootless {ls : List Text} (h : IsRootless ls) :
    chartText ls
      = Text.joinLines (Chart.rootLine default :: settleLines [] (statementLines ls)) := by
  rw [chartText, body, splitAtRoot?_eq_none_iff.2 h]

theorem length_le_count_joinLines (line : Text) (ls : List Text) :
    ls.length ≤ (Text.joinLines (line :: ls)).count '\n' := by
  induction ls generalizing line with
  | nil => exact Nat.zero_le _
  | cons next ls ih =>
      have hrest := ih next
      rw [Text.joinLines, Text.joinWith_cons (by simp), ← Text.joinLines, List.count_append,
        List.count_cons_self, List.length_cons]
      omega

/-- The chart is made of what the rules for lines make of each part. -/
theorem repair_parts {ts : List Text} (hts : ∀ t ∈ ts, '"' ∉ t) :
    repair (Text.joinLines ts) = chartText (ts.flatMap fun t => (lineRules t).contents) := by
  have hlast : repair (Text.joinLines ts) = chartText (lineRules (Text.joinLines ts)).contents :=
    repair_eq _
  rw [hlast, contents_lineRules_joinLines hts]

/-! ## Lines between two nodes -/

/-- Between two nodes on lines of their own nothing is left of the text. -/
def IsNeutral (g : Text) : Prop :=
  repair (Text.joinLines ["Z1".toList, g, "Z2".toList]) = "flowchart TD\nZ1\nZ2".toList

instance (g : Text) : Decidable (IsNeutral g) :=
  inferInstanceAs (Decidable (_ = _))

theorem contents_lineRules_probe : (lineRules "Z1".toList).contents = ["Z1".toList] ∧
    (lineRules "Z2".toList).contents = ["Z2".toList] ∧
      (lineRules "Z3".toList).contents = ["Z3".toList] := by
  decide +kernel

section

variable {g : Text} (hquote : '"' ∉ g)

include hquote

theorem repair_probe {n : Text} (hn : '"' ∉ n) (hself : (lineRules n).contents = [n]) :
    repair (Text.joinLines [n, g, "Z2".toList])
      = chartText ([n] ++ ((lineRules g).contents ++ ["Z2".toList])) := by
  have hparts : ∀ t ∈ [n, g, "Z2".toList], '"' ∉ t := by simp [hn, hquote]
  rw [repair_parts hparts]
  simp only [List.flatMap_cons, List.flatMap_nil, List.append_nil, hself,
    contents_lineRules_probe.2.1]

theorem IsNeutral.statementLines_eq_nil (hneutral : IsNeutral g)
    (hroot : IsRootless (lineRules g).contents) :
    statementLines (lineRules g).contents = [] := by
  have hprobe := repair_probe hquote (by decide) contents_lineRules_probe.1
  rw [IsNeutral, hprobe, chartText_of_isRootless] at hneutral
  · -- two line feeds leave room for the two nodes only
    have hcount := length_le_count_joinLines (Chart.rootLine default) (settleLines []
      (statementLines (["Z1".toList] ++ ((lineRules g).contents ++ ["Z2".toList]))))
    have hnodes : (statementLines ["Z1".toList]).length = 1 ∧
        (statementLines ["Z2".toList]).length = 1 := by
      decide +kernel
    have htwo : ("flowchart TD\nZ1\nZ2".toList).count '\n' = 2 := by decide
    rw [hneutral, htwo, length_settleLines, statementLines_append, statementLines_append,
      List.length_append, List.length_append, hnodes.1, hnodes.2] at hcount
    exact List.length_eq_zero_iff.1 (by omega)
  · intro line hline
    rcases List.mem_append.1 hline with h | h
    · rw [List.mem_singleton.1 h]
      decide
    · rcases List.mem_append.1 h with h | h
      · exact hroot line h
      · rw [List.mem_singleton.1 h]
        decide

end

end Repair

open Repair

/-- Neutral lines may be put anywhere into a document exactly if none of them comes out of the
rules for lines as a root declaration, and another node in front of them shows whether one does. -/
theorem repair_insert_tfae {g : Text} (hquote : '"' ∉ g) (hneutral : IsNeutral g) :
    [∀ a b : Text, '"' ∉ a → '"' ∉ b →
        repair (Text.joinLines [a, g, b]) = repair (Text.joinLines [a, b]),
      ∀ line ∈ (lineRules g).contents, Line.rootDirection? line = none,
      repair (Text.joinLines ["Z3".toList, g, "Z2".toList])
        = "flowchart TD\nZ3\nZ2".toList].TFAE := by
  tfae_have 1 → 3 := fun h => by
    rw [h _ _ (by decide) (by decide)]
    decide +kernel
  tfae_have 3 → 2 := fun h => by
    by_contra hroot
    have hfirst := repair_probe hquote (by decide) contents_lineRules_probe.1
    have hthird := repair_probe hquote (by decide) contents_lineRules_probe.2.2
    have hbody := body_of_root hroot (by decide : IsRootless ["Z1".toList])
      (by decide : IsRootless ["Z3".toList]) ["Z2".toList]
    have hsame : "flowchart TD\nZ1\nZ2".toList = "flowchart TD\nZ3\nZ2".toList := by
      rw [← h, ← (hneutral : repair _ = _), hfirst, hthird, chartText, hbody, chartText]
    exact absurd hsame (by decide)
  tfae_have 2 → 1 := fun hroot a b ha hb => by
    have hwith : ∀ t ∈ [a, g, b], '"' ∉ t := by simp [ha, hquote, hb]
    have hwithout : ∀ t ∈ [a, b], '"' ∉ t := by simp [ha, hb]
    rw [repair_parts hwith, repair_parts hwithout]
    simp only [List.flatMap_cons, List.flatMap_nil, List.append_nil]
    exact chartText_insert hroot (hneutral.statementLines_eq_nil hquote hroot) _ _
  tfae_finish

/-- Prose, a comment, a shape and an edge that are left open. -/
theorem repair_insert_prose :
    '"' ∉ "so it goes:\n%% A --> B\nA[x --> \nC -->| ;".toList ∧
      IsNeutral "so it goes:\n%% A --> B\nA[x --> \nC -->| ;".toList ∧
      repair (Text.joinLines ["graph LR\nA{x}".toList,
          "so it goes:\n%% A --> B\nA[x --> \nC -->| ;".toList, "A(y) --> B".toList])
        = repair (Text.joinLines ["graph LR\nA{x}".toList, "A(y) --> B".toList]) := by
  have hquote : '"' ∉ "so it goes:\n%% A --> B\nA[x --> \nC -->| ;".toList := by decide
  have hneutral : IsNeutral "so it goes:\n%% A --> B\nA[x --> \nC -->| ;".toList := by
    decide +kernel
  have hroot : ∀ line ∈ (lineRules "so it goes:\n%% A --> B\nA[x --> \nC -->| ;".toList).contents,
      Line.rootDirection? line = none := by
    decide +kernel
  have hinsert := ((repair_insert_tfae hquote hneutral).out 0 1).2 hroot
  exact ⟨hquote, hneutral, hinsert _ _ (by decide) (by decide)⟩

/-- Between two nodes the root declaration takes the first one and gives it back. -/
theorem repair_insert_root :
    '"' ∉ "graph TD\nZ1".toList ∧ IsNeutral "graph TD\nZ1".toList ∧
      repair (Text.joinLines ["A".toList, "graph TD\nZ1".toList, "B".toList])
        = "flowchart TD\nZ1\nB".toList ∧
      repair (Text.joinLines ["A".toList, "B".toList]) = "flowchart TD\nA\nB".toList ∧
      repair (Text.joinLines ["A".toList, "graph TD\nZ1".toList, "B".toList])
        ≠ repair (Text.joinLines ["A".toList, "B".toList]) := by
  decide +kernel

end Flowchart
