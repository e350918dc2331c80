import Flowchart.Text.Blank

/-!
# Lines

A line feed ends a line, together with one carriage return right before it. Nothing follows the
last line feed when the text ends there.
-/

namespace Flowchart.Text

private def closeLines : List Text → List Text
  | [] => []
  | [last] => if last.isEmpty then [] else [last]
  | line :: rest => dropLastIf (· == '\r') line :: closeLines rest

def lines (s : Text) : List Text :=
  closeLines (splitBy (· == '\n') s)

def joinLines (ls : List Text) : Text :=
  joinWith '\n' ls

theorem lines_nil : lines [] = [] := rfl

/-- A line without a line feed is the only one, unless it is empty. -/
theorem lines_of_notMem {line : Text} (h : '\n' ∉ line) (hne : line ≠ []) :
    lines line = [line] := by
  have hsplit := splitBy_append_of_none (p := (· == '\n')) (w := line) (s := [])
    fun c hc => beq_eq_false_iff_ne.2 fun he => h (he ▸ hc)
  simp only [List.append_nil, splitBy] at hsplit
  rw [lines, hsplit, closeLines, if_neg (by simpa using hne)]

theorem lines_append_newline {line : Text} (h : '\n' ∉ line) (rest : Text) :
    lines (line ++ '\n' :: rest) = dropLastIf (· == '\r') line :: lines rest := by
  have hsplit := splitBy_append_of_none (p := (· == '\n')) (w := line) (s := '\n' :: rest)
    fun c hc => beq_eq_false_iff_ne.2 fun he => h (he ▸ hc)
  simp only [splitBy, beq_self_eq_true, if_true, List.append_nil] at hsplit
  rw [lines, hsplit, closeLines, lines]
  exact splitBy_ne_nil _ rest

theorem mem_splitBy_newline {s line : Text} (h : line ∈ splitBy (· == '\n') s) :
    '\n' ∉ line := by
  induction s generalizing line with
  | nil => simp_all [splitBy]
  | cons c s ih =>
    unfold splitBy at h
    split at h
    · simp only [List.mem_cons] at h
      rcases h with h | h
      · simp [h]
      · exact ih h
    · rename_i hc
      simp only [beq_iff_eq] at hc
      cases hs : splitBy (· == '\n') s with
      | nil => exact absurd hs (splitBy_ne_nil _ s)
      | cons piece pieces =>
        simp only [hs, extendFirst, List.mem_cons] at h ih
        rcases h with h | h
        · simp [h, ih (.inl rfl), Ne.symm hc]
        · exact ih (.inr h)

private theorem newline_notMem_closeLines {ps : List Text} (h : ∀ p ∈ ps, '\n' ∉ p) :
    ∀ line ∈ closeLines ps, '\n' ∉ line := by
  induction ps with
  | nil => simp [closeLines]
  | cons p ps ih =>
    cases ps with
    | nil =>
      intro line hline
      unfold closeLines at hline
      split at hline
      · simp at hline
      · simp only [List.mem_singleton] at hline
        exact hline ▸ h p (by simp)
    | cons q qs =>
      intro line hline
      simp only [closeLines, List.mem_cons] at hline
      rcases hline with hline | hline
      · subst hline
        intro hmem
        refine h p (by simp) ?_
        unfold dropLastIf at hmem
        split at hmem
        · exact List.dropLast_subset p hmem
        · exact hmem
      · exact ih (fun r hr => h r (by simp [hr])) line hline

/-- No line holds a line feed. -/
theorem newline_notMem_of_mem_lines {s line : Text} (h : line ∈ lines s) : '\n' ∉ line :=
  newline_notMem_closeLines (fun _ hp => mem_splitBy_newline hp) line h

end Flowchart.Text
