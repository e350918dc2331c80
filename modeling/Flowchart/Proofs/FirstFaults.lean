import Flowchart.Proofs.Contents

/-!
# The first fault

The check takes the lines in order and stops at the first one that is out of form. What comes
behind that line does not matter, and what stands before it passes. Each line that passes leaves
what was found so far and may add nodes and edges to it.
-/

namespace Flowchart

/-! ## What a longer chart keeps -/

/-- The other chart has the same direction, all of these nodes, and these edges before others. -/
structure Summary.IsWithin (chart chart' : Summary) : Prop where
  direction : chart'.direction = chart.direction
  ids : chart.nodes.map Prod.fst ⊆ chart'.nodes.map Prod.fst
  edges : chart.edges <+: chart'.edges

theorem Summary.IsWithin.refl (chart : Summary) : chart.IsWithin chart :=
  ⟨rfl, List.Subset.refl _, List.prefix_refl _⟩

theorem Summary.IsWithin.trans {a b c : Summary} (hab : a.IsWithin b) (hbc : b.IsWithin c) :
    a.IsWithin c :=
  ⟨hbc.direction.trans hab.direction, List.Subset.trans hab.ids hbc.ids,
    hab.edges.trans hbc.edges⟩

theorem NodeTable.ids_subset_set (id : Text) (node : NodeSummary) (table : NodeTable) :
    table.map Prod.fst ⊆ (table.set id node).map Prod.fst := by
  induction table with
  | nil => exact List.nil_subset _
  | cons entry table ih =>
      rw [set]
      split
      · rename_i hid
        rw [List.map_cons, List.map_cons, hid]
        exact List.Subset.refl _
      · split
        · exact List.subset_cons_self _ _
        · rw [List.map_cons, List.map_cons]
          exact List.cons_subset_cons _ ih

namespace Check

theorem ids_subset_declare {nodes nodes' : NodeTable} {n : Node}
    (h : declare nodes n = .ok nodes') : nodes.map Prod.fst ⊆ nodes'.map Prod.fst := by
  cases n with
  | bare id =>
      rw [declare] at h
      split at h
      · cases h
        exact List.Subset.refl _
      · cases h
        exact NodeTable.ids_subset_set _ _ _
  | shaped n =>
      rw [(declare_shaped_eq_ok_iff.1 h).2]
      exact NodeTable.ids_subset_set _ _ _

theorem ids_subset_foldlM_declare {nodes nodes' : NodeTable} {ns : List Node}
    (h : ns.foldlM declare nodes = .ok nodes') : nodes.map Prod.fst ⊆ nodes'.map Prod.fst := by
  induction ns generalizing nodes with
  | nil =>
      cases h
      exact List.Subset.refl _
  | cons n ns ih =>
      rw [List.foldlM_cons, bind_eq_ok_iff] at h
      obtain ⟨next, hnext, hrest⟩ := h
      exact List.Subset.trans (ids_subset_declare hnext) (ih hrest)

theorem Records.isWithin {chart chart' : Summary} {ns : List Node} {es : List Edge}
    (h : Records chart chart' ns es) : chart.IsWithin chart' :=
  ⟨h.direction, ids_subset_foldlM_declare h.nodes, ⟨es, h.edges.symm⟩⟩

/-! ## Reading on from a line -/

/-- Reads lines and tells what is found by then. -/
def readAhead (found : Option Summary) (number : Nat) :
    List Text → Except CheckError (Option Summary)
  | [] => .ok found
  | line :: rest =>
    if (Text.trim line).isEmpty then readAhead found (number + 1) rest
    else do
      let chart ← readLine number (Text.trim line) found
      readAhead (some chart) (number + 1) rest

/-- At the end of a document there has to be a chart. -/
def conclude : Option Summary → Except CheckError Summary
  | none => .error .missingHeader
  | some chart => .ok chart

theorem readLines_eq (found : Option Summary) (number : Nat) (ls : List Text) :
    readLines found number ls = readAhead found number ls >>= conclude := by
  induction ls generalizing found number with
  | nil => cases found <;> rfl
  | cons line ls ih =>
      rw [readLines, readAhead]
      split
      · exact ih found (number + 1)
      · simp only [ih, bind_assoc]

theorem readAhead_append (found : Option Summary) (number : Nat) (ls ms : List Text) :
    readAhead found number (ls ++ ms) =
      readAhead found number ls >>= fun next => readAhead next (number + ls.length) ms := by
  induction ls generalizing found number with
  | nil => rfl
  | cons line ls ih =>
      have hlength : number + (line :: ls).length = number + 1 + ls.length := by
        rw [List.length_cons]
        omega
      rw [List.cons_append, readAhead, readAhead, hlength]
      split
      · exact ih found (number + 1)
      · simp only [ih, bind_assoc]

/-- Blanks at the ends of lines do not matter. -/
theorem readAhead_map_trim (found : Option Summary) (number : Nat) (ls : List Text) :
    readAhead found number (ls.map Text.trim) = readAhead found number ls := by
  induction ls generalizing found number with
  | nil => rfl
  | cons line ls ih => simp only [List.map_cons, readAhead, Text.trim_trim, ih]

/-- What has been found stays, and lines that pass add to it. -/
theorem exists_of_readAhead_some {chart : Summary} {number : Nat} {ls : List Text}
    {next : Option Summary} (h : readAhead (some chart) number ls = .ok next) :
    ∃ chart', next = some chart' ∧ chart.IsWithin chart' := by
  induction ls generalizing chart number with
  | nil =>
      cases h
      exact ⟨chart, rfl, .refl chart⟩
  | cons line ls ih =>
      rw [readAhead] at h
      split at h
      · exact ih h
      · obtain ⟨middle, hline, hrest⟩ := bind_eq_ok_iff.1 h
        obtain ⟨-, p, -, -, hrecords⟩ :=
          (readLine_some_eq_ok_iff (Text.isTrimmed_trim line)).1 hline
        obtain ⟨chart', hnext, hwithin⟩ := ih hrest
        exact ⟨chart', hnext, hrecords.isWithin.trans hwithin⟩

/-- Lines that pass and are not all blank begin with a header. -/
theorem exists_of_readAhead {found : Option Summary} {number : Nat} {ls : List Text}
    {next : Option Summary} (h : readAhead found number ls = .ok next)
    (hne : Text.contentLines ls ≠ []) : ∃ chart, next = some chart := by
  induction ls generalizing found number with
  | nil => exact absurd rfl hne
  | cons line ls ih =>
      rw [readAhead] at h
      split at h
      · rename_i hempty
        exact ih h (contentLines_cons_of_isEmpty hempty ls ▸ hne)
      · obtain ⟨middle, -, hrest⟩ := bind_eq_ok_iff.1 h
        obtain ⟨chart, hnext, -⟩ := exists_of_readAhead_some hrest
        exact ⟨chart, hnext⟩

/-! ## Where reading stops -/

theorem readHeader_eq_error {number n : Nat} {line : Text} {fault : Fault}
    (h : readHeader number line = .error (.onLine n fault)) : n = number := by
  unfold readHeader at h
  split at h
  · split at h
    · split at h
      · cases h
        rfl
      · split at h
        · cases h
        · cases h
          rfl
    · cases h
  · cases h

/-- A fault is reported on its own line. -/
theorem readLine_eq_error {number n : Nat} {line : Text} {found : Option Summary} {fault : Fault}
    (h : readLine number line found = .error (.onLine n fault)) : n = number := by
  unfold readLine at h
  split at h
  · cases h
    rfl
  · cases found with
    | none => exact readHeader_eq_error h
    | some chart =>
        dsimp only at h
        cases hread : readStatement chart line with
        | error e =>
            rw [hread] at h
            cases h
            rfl
        | ok chart' =>
            rw [hread] at h
            cases h

/-- An error comes from the first line that does not pass. -/
theorem exists_of_readAhead_error {found : Option Summary} {number n : Nat} {ls : List Text}
    {fault : Fault} (h : readAhead found number ls = .error (.onLine n fault)) :
    ∃ before line after next, ls = before ++ line :: after ∧ n = number + before.length ∧
      readAhead found number before = .ok next ∧
      readAhead found number (before ++ [line]) = .error (.onLine n fault) := by
  induction ls generalizing found number with
  | nil => cases h
  | cons line ls ih =>
      -- Reading goes on behind a line that is blank or passes.
      have behind {found' : Option Summary}
          (hline : ∀ ms, readAhead found number (line :: ms) = readAhead found' (number + 1) ms) :
          ∃ before bad after next, line :: ls = before ++ bad :: after ∧
            n = number + before.length ∧ readAhead found number before = .ok next ∧
            readAhead found number (before ++ [bad]) = .error (.onLine n fault) := by
        obtain ⟨before, bad, after, next, rfl, rfl, hbefore, hbad⟩ := ih (hline ls ▸ h)
        refine ⟨line :: before, bad, after, next, rfl, ?_, ?_, ?_⟩
        · rw [List.length_cons]
          omega
        · rw [hline, hbefore]
        · rw [List.cons_append, hline, hbad]
      cases hempty : (Text.trim line).isEmpty with
      | true => exact behind fun ms => by rw [readAhead, if_pos hempty]
      | false =>
          have hread (ms : List Text) : readAhead found number (line :: ms) =
              readLine number (Text.trim line) found >>= fun chart =>
                readAhead (some chart) (number + 1) ms := by
            rw [readAhead, if_neg (by simp [hempty])]
          cases hline : readLine number (Text.trim line) found with
          | ok chart =>
              have hnext (ms : List Text) : readAhead found number (line :: ms) =
                  readAhead (some chart) (number + 1) ms := by
                rw [hread, hline]
                rfl
              exact behind hnext
          | error e =>
              rw [hread, hline] at h
              cases h
              refine ⟨[], line, ls, found, rfl, readLine_eq_error hline, rfl, ?_⟩
              rw [List.nil_append, hread, hline]
              rfl

/-- Which texts pass does not hang on blank lines and on blanks at the ends of lines. -/
theorem readLines_none_congr {ls ms : List Text} (h : Text.contentLines ls = Text.contentLines ms)
    {chart : Summary} (number : Nat) :
    readLines none number ls = .ok chart ↔ readLines none number ms = .ok chart := by
  rw [readLines_none_eq_ok_iff, readLines_none_eq_ok_iff, h]

end Check

/-! ## Texts of the first lines -/

/-- A text of these lines: it is read as them, or they are put together. -/
def Text.HasLines (s : Text) (ls : List Text) : Prop := lines s = ls ∨ s = joinLines ls

theorem Text.HasLines.contents {s : Text} {ls : List Text} (h : s.HasLines ls)
    (hls : ∀ line ∈ ls, '\n' ∉ line) : s.contents = contentLines ls := by
  rcases h with h | rfl
  · rw [Text.contents, h]
  · exact contents_joinLines hls

theorem check_eq_readAhead (s : Text) :
    check s = Check.readAhead none 1 (Text.lines s) >>= Check.conclude :=
  Check.readLines_eq none 1 (Text.lines s)

section

variable {s : Text}

/-- A text of the first lines passes if they have passed in the whole text. -/
theorem check_eq_of_readAhead {chart : Summary} {k : Nat}
    (h : Check.readAhead none 1 ((Text.lines s).take k) = .ok (some chart)) {t : Text}
    (ht : t.HasLines ((Text.lines s).take k)) : check t = .ok chart := by
  have hlines : ∀ line ∈ (Text.lines s).take k, '\n' ∉ line :=
    fun line hline => Text.newline_notMem_of_mem_lines (List.mem_of_mem_take hline)
  rw [check, Check.readLines_none_congr (ht.contents hlines), Check.readLines_eq, h]
  rfl

theorem readAhead_of_check_error {n : Nat} {fault : Fault}
    (h : check s = .error (.onLine n fault)) :
    Check.readAhead none 1 (Text.lines s) = .error (.onLine n fault) := by
  rw [check_eq_readAhead] at h
  cases hread : Check.readAhead none 1 (Text.lines s) with
  | error e =>
      rw [hread] at h
      cases h
      rfl
  | ok next =>
      rw [hread] at h
      cases next <;> cases h

theorem readAhead_of_check_ok {chart : Summary} (h : check s = .ok chart) :
    Check.readAhead none 1 (Text.lines s) = .ok (some chart) := by
  rw [check_eq_readAhead] at h
  obtain ⟨next, hread, hnext⟩ := Check.bind_eq_ok_iff.1 h
  cases next with
  | none => cases hnext
  | some chart' =>
      cases hnext
      exact hread

end

/-- What the check says of a text rests on its lines up to the first fault. -/
structure StopsAtFirst (s : Text) : Prop where
  /-- The lines before the line of an error pass, unless all of them are blank. -/
  accepts_before : ∀ n fault, check s = .error (.onLine n fault) →
    Text.contentLines ((Text.lines s).take (n - 1)) ≠ [] →
      ∀ t : Text, t.HasLines ((Text.lines s).take (n - 1)) → (check t).isOk = true
  /-- An error comes back whatever follows its line. -/
  same_error : ∀ n fault, check s = .error (.onLine n fault) →
    1 ≤ n ∧ n ≤ (Text.lines s).length ∧
      ∀ t : Text, ((Text.lines t).take n).map Text.trim = ((Text.lines s).take n).map Text.trim →
        check t = .error (.onLine n fault)
  /-- The first lines of a text that passes do so themselves from the header on. -/
  accepts_first : ∀ chart, check s = .ok chart → ∀ k,
    Text.contentLines ((Text.lines s).take k) ≠ [] →
      ∀ t : Text, t.HasLines ((Text.lines s).take k) →
        ∃ chart', check t = .ok chart' ∧ chart'.IsWithin chart

theorem stopsAtFirst (s : Text) : StopsAtFirst s := by
  constructor
  case accepts_before =>
    intro n fault hcheck hne t ht
    obtain ⟨before, line, after, next, hlines, rfl, hbefore, -⟩ :=
      Check.exists_of_readAhead_error (readAhead_of_check_error hcheck)
    have htake : (Text.lines s).take (1 + before.length - 1) = before := by
      rw [hlines, Nat.add_sub_cancel_left, List.take_left]
    obtain ⟨chart, rfl⟩ := Check.exists_of_readAhead hbefore (htake ▸ hne)
    rw [check_eq_of_readAhead (htake.symm ▸ hbefore) ht]
    rfl
  case same_error =>
    intro n fault hcheck
    obtain ⟨before, line, after, next, hlines, rfl, -, hbad⟩ :=
      Check.exists_of_readAhead_error (readAhead_of_check_error hcheck)
    have htake : (Text.lines s).take (1 + before.length) = before ++ [line] := by
      have hlength : 1 + before.length = (before ++ [line]).length := by
        rw [List.length_append, List.length_singleton, Nat.add_comm]
      rw [hlines, List.append_cons, hlength, List.take_left]
    refine ⟨Nat.le_add_right 1 _, ?_, fun t ht => ?_⟩
    · rw [hlines, List.length_append, List.length_cons]
      omega
    · rw [check_eq_readAhead, ← List.take_append_drop (1 + before.length) (Text.lines t),
        Check.readAhead_append, ← Check.readAhead_map_trim none 1, ht, htake,
        Check.readAhead_map_trim, hbad]
      rfl
  case accepts_first =>
    intro chart hcheck k hne t ht
    have hread := readAhead_of_check_ok hcheck
    rw [← List.take_append_drop k (Text.lines s), Check.readAhead_append] at hread
    obtain ⟨next, hfirst, hrest⟩ := Check.bind_eq_ok_iff.1 hread
    obtain ⟨chart', rfl⟩ := Check.exists_of_readAhead hfirst hne
    obtain ⟨_, hsome, hwithin⟩ := Check.exists_of_readAhead_some hrest
    cases hsome
    exact ⟨chart', check_eq_of_readAhead hfirst ht, hwithin⟩

end Flowchart
