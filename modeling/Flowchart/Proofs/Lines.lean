import Flowchart.Proofs.Words

/-!
# Documents line by line

Joined lines are read back as they were, and the kind of a line is told by its first two words.
-/

namespace Flowchart

namespace Text

/-- A line that is read back from a text as it is. -/
structure IsLine (line : Text) : Prop where
  ne_nil : line ≠ []
  newline : '\n' ∉ line
  carriageReturn : line.getLast? ≠ some '\r'

theorem IsLine.dropReturn {line : Text} (h : IsLine line) : dropLastIf (· == '\r') line = line := by
  have : line.getLast?.any (· == '\r') = false := by
    cases hl : line.getLast? with
    | none => rfl
    | some c =>
        have := h.carriageReturn
        rw [hl] at this
        simpa using this
  rw [dropLastIf, if_neg (by simp [this])]

theorem lines_joinLines {ls : List Text} (h : ∀ line ∈ ls, IsLine line) :
    lines (joinLines ls) = ls := by
  induction ls with
  | nil => rfl
  | cons line ls ih =>
      have hline := h line (by simp)
      have hls : ∀ l ∈ ls, IsLine l := fun l hl => h l (by simp [hl])
      by_cases hne : ls = []
      · subst hne
        exact lines_of_notMem hline.newline hline.ne_nil
      · rw [joinLines, joinWith_cons hne, lines_append_newline hline.newline, hline.dropReturn]
        exact congrArg _ (ih hls)

theorem IsTrimmed.isLine {line : Text} (h : IsTrimmed line) (hne : line ≠ []) (hn : '\n' ∉ line) :
    IsLine line :=
  ⟨hne, hn, fun hr => absurd (h.getLast '\r' hr) (by decide)⟩

/-- No line of a text holds more than the text does. -/
theorem mem_of_mem_lines {s line : Text} (h : line ∈ lines s) {c : Char} (hc : c ∈ line) :
    c ∈ s := by
  induction hn : s.length using Nat.strong_induction_on generalizing s with
  | _ n ih =>
      by_cases hmem : '\n' ∈ s
      · obtain ⟨a, b, rfl, ha⟩ := List.eq_append_cons_of_mem hmem
        rw [lines_append_newline ha] at h
        rcases List.mem_cons.1 h with rfl | h
        · refine List.mem_append_left _ ?_
          unfold dropLastIf at hc
          split at hc
          · exact List.dropLast_subset a hc
          · exact hc
        · have hlen : b.length < n := by
            rw [← hn, List.length_append, List.length_cons]
            omega
          exact List.mem_append_right _ (List.mem_cons_of_mem _ (ih b.length hlen h rfl))
      · by_cases hs : s = []
        · subst hs
          simp [lines_nil] at h
        · rw [lines_of_notMem hmem hs, List.mem_singleton] at h
          exact h ▸ hc

end Text

/-! ## The first word -/

namespace Line

theorem isAlphanum_of_mem_directiveKeywords {k : Text} (hk : k ∈ directiveKeywords) :
    ∀ c ∈ k, c.isAlphanum = true :=
  List.all_eq_true.1 ((by decide : ∀ k ∈ directiveKeywords, k.all Char.isAlphanum = true) k hk)

theorem isAlphanum_of_isAlphanum_toLower {c : Char} (h : c.toLower.isAlphanum = true) :
    c.isAlphanum = true := by
  by_cases hu : c.isUpper = true
  · show ((c.isUpper || c.isLower) || c.isDigit) = true
    rw [hu, Bool.true_or, Bool.true_or]
  · have : c.toLower = c := by
      unfold Char.toLower
      exact dif_neg fun hc => hu (decide_eq_true hc)
    rwa [this] at h

theorem isAlphanum_of_isRootKeyword {w : Text} (hw : isRootKeyword w = true) :
    ∀ c ∈ w, c.isAlphanum = true := by
  intro c hc
  have hmem : w.map Char.toLower ∈ rootKeywords := by simpa [isRootKeyword] using hw
  exact isAlphanum_of_isAlphanum_toLower
    (List.all_eq_true.1 ((by decide : ∀ k ∈ rootKeywords, k.all Char.isAlphanum = true) _ hmem) _
      (List.mem_map_of_mem hc))

section Head

/-! A line that begins, blanks apart, with letters and digits. -/

variable {b id r : Text} (hb : Text.IsBlanks b) (hne : id ≠ [])
  (hid : ∀ c ∈ id, c.isAlphanum = true) (hr : ∀ c ∈ r.head?, c.isAlphanum = false)

include hne hid in
theorem isWord_id_append : Text.IsWord (id ++ r.takeWhile (!Text.isBlank ·)) := by
  refine ⟨by simp [hne], fun c hc => ?_⟩
  rcases List.mem_append.1 hc with h | h
  · exact Ident.not_isBlank_of_isAlphanum (hid c h)
  · simpa using List.mem_takeWhile_imp h

include hb hne hid in
theorem words_id_append : Text.words (b ++ (id ++ r))
    = (id ++ r.takeWhile (!Text.isBlank ·)) :: Text.words (r.dropWhile (!Text.isBlank ·)) := by
  have hsplit : id ++ r
      = (id ++ r.takeWhile (!Text.isBlank ·)) ++ r.dropWhile (!Text.isBlank ·) := by
    rw [List.append_assoc, List.takeWhile_append_dropWhile]
  have hrest : ∀ c ∈ (r.dropWhile (!Text.isBlank ·)).head?, Text.isBlank c = true :=
    fun c hc => by simpa using Text.eq_false_of_head?_dropWhile hc
  rw [Text.words_append_of_isBlanks _ hb, hsplit,
    Text.words_word_append (isWord_id_append hne hid) hrest]

include hb hne hid in
theorem not_isComment_id_append : isComment (b ++ (id ++ r)) = false := by
  obtain ⟨c, id, rfl⟩ := List.exists_cons_of_ne_nil hne
  have hc : c.isAlphanum = true := hid c (by simp)
  have hhead : (Text.trim (b ++ (c :: id ++ r))).head? = some c := by
    rw [Text.trim, Text.trimBy, List.dropWhile_append_of_pos hb, ← Text.trimBy, List.cons_append]
    exact Text.head?_trimBy_cons (Ident.not_isBlank_of_isAlphanum hc) _
  unfold isComment
  cases ht : Text.trim (b ++ (c :: id ++ r)) with
  | nil => rfl
  | cons d t =>
      rw [ht] at hhead
      cases hhead
      have : ('%' == c) = false := by
        refine beq_eq_false_iff_ne.2 fun he => ?_
        subst he
        exact absurd hc (by decide)
      simp [List.isPrefixOf, this]

include hb hne hid in
theorem isDirective_id_append : isDirective (b ++ (id ++ r))
    = directiveKeywords.contains
        (id ++ Text.trimEndBy (· == ';') (r.takeWhile (!Text.isBlank ·))) := by
  have hlast : ∀ c ∈ id.getLast?, (c == ';') = false := by
    intro c hc
    refine beq_eq_false_iff_ne.2 fun he => ?_
    subst he
    exact absurd (hid _ (List.mem_of_getLast? hc)) (by decide)
  rw [isDirective, not_isComment_id_append hb hne hid, words_id_append hb hne hid, Bool.false_or]
  simp only [List.head?_cons, Option.any_some]
  rw [Text.trimEndBy_append_right hlast]

include hb hne hid hr in
theorem eq_nil_of_isDirective (h : isDirective (b ++ (id ++ r)) = true) :
    Text.trimEndBy (· == ';') (r.takeWhile (!Text.isBlank ·)) = [] ∧ id ∈ directiveKeywords := by
  rw [isDirective_id_append hb hne hid, List.contains_iff_mem] at h
  have hnil : Text.trimEndBy (· == ';') (r.takeWhile (!Text.isBlank ·)) = [] := by
    cases hy : Text.trimEndBy (· == ';') (r.takeWhile (!Text.isBlank ·)) with
    | nil => rfl
    | cons c y =>
        rw [hy] at h
        have hprefix := (Text.trimEndBy_isPrefix (· == ';') (r.takeWhile (!Text.isBlank ·))).trans
          (List.takeWhile_prefix _)
        rw [hy] at hprefix
        obtain ⟨t, ht⟩ := hprefix
        have hhead : c.isAlphanum = false := hr c (by rw [← ht]; rfl)
        have hmem : c.isAlphanum = true :=
          isAlphanum_of_mem_directiveKeywords h c (by simp)
        rw [hhead] at hmem
        cases hmem
  rw [hnil, List.append_nil] at h
  exact ⟨hnil, h⟩

include hb hne hid in
/-- A word by itself is a directive exactly when it is one of the keywords. -/
theorem isDirective_word (hr : ∀ c ∈ r.head?, Text.isBlank c = true) :
    isDirective (b ++ (id ++ r)) = directiveKeywords.contains id := by
  have : r.takeWhile (!Text.isBlank ·) = [] := by
    cases r with
    | nil => rfl
    | cons c r => simp [hr c rfl]
  rw [isDirective_id_append hb hne hid, this]
  exact congrArg _ (List.append_nil id)

include hb hne hid hr in
theorem isDirective_glued {c : Char} (hc : c ∈ r.head?) (hblank : Text.isBlank c = false)
    (hsemi : c ≠ ';') : isDirective (b ++ (id ++ r)) = false := by
  by_contra h
  have hnil := (eq_nil_of_isDirective hb hne hid hr (by simpa using h)).1
  cases r with
  | nil => cases hc
  | cons d r =>
      cases hc
      rw [List.takeWhile_cons, if_pos (by simp [hblank]), Text.trimEndBy,
        List.reverse_eq_nil_iff, List.dropWhile_eq_nil_iff] at hnil
      exact hsemi (by simpa using hnil c (by simp))

include hb hne hid in
theorem rootWords_id_append
    (hlast : ∀ c ∈ (Text.trim (b ++ (id ++ r))).getLast?, c ≠ ';') :
    Text.words (Text.trimEndBy (· == ';') (Text.trim (b ++ (id ++ r))))
      = (id ++ r.takeWhile (!Text.isBlank ·)) :: Text.words (r.dropWhile (!Text.isBlank ·)) := by
  rw [Text.trimEndBy_eq_self fun c hc => beq_eq_false_iff_ne.2 (hlast c hc), Text.words_trim,
    words_id_append hb hne hid]

include hb hne hid in
/-- A word by itself is a root declaration exactly when it is a root keyword. -/
theorem rootDirection?_word
    (hlast : ∀ c ∈ (Text.trim (b ++ (id ++ r))).getLast?, c ≠ ';') (hr : Text.IsBlanks r) :
    rootDirection? (b ++ (id ++ r)) = if isRootKeyword id = true then some default else none := by
  have htake : r.takeWhile (!Text.isBlank ·) = [] := by
    cases r with
    | nil => rfl
    | cons c r => simp [hr c (by simp)]
  have hdrop : r.dropWhile (!Text.isBlank ·) = r := by
    cases r with
    | nil => rfl
    | cons c r => simp [hr c (by simp)]
  rw [rootDirection?, rootWords_id_append hb hne hid hlast, htake, hdrop, List.append_nil,
    Text.words_of_isBlanks hr]

include hb hne hid hr in
theorem rootDirection?_glued
    (hlast : ∀ c ∈ (Text.trim (b ++ (id ++ r))).getLast?, c ≠ ';') {c : Char}
    (hc : c ∈ r.head?) (hblank : Text.isBlank c = false) :
    rootDirection? (b ++ (id ++ r)) = none := by
  have hroot : isRootKeyword (id ++ r.takeWhile (!Text.isBlank ·)) = false := by
    by_contra h
    have hmem : c ∈ id ++ r.takeWhile (!Text.isBlank ·) := by
      refine List.mem_append_right _ ?_
      cases r with
      | nil => cases hc
      | cons d r =>
          cases hc
          simp [hblank]
    have := isAlphanum_of_isRootKeyword (by simpa using h) c hmem
    rw [hr c hc] at this
    cases this
  rw [rootDirection?, rootWords_id_append hb hne hid hlast]
  cases Text.words (r.dropWhile (!Text.isBlank ·)) with
  | nil => simp [hroot]
  | cons v vs =>
      cases vs with
      | nil => simp [hroot]
      | cons u us => rfl

include hb hne hid in
theorem rootDirection?_of_second
    (hlast : ∀ c ∈ (Text.trim (b ++ (id ++ r))).getLast?, c ≠ ';') {w : Text} {ws : List Text}
    (hw : Text.words (r.dropWhile (!Text.isBlank ·)) = w :: ws)
    (hcode : Direction.ofText? w = none) : rootDirection? (b ++ (id ++ r)) = none := by
  rw [rootDirection?, rootWords_id_append hb hne hid hlast, hw]
  cases ws with
  | nil => simp [hcode]
  | cons v ws => rfl

end Head

/-! ## Roots -/

theorem isAlphanum_of_isAlphanum_toUpper {c : Char} (h : c.toUpper.isAlphanum = true) :
    c.isAlphanum = true := by
  by_cases hl : c.isLower = true
  · show ((c.isUpper || c.isLower) || c.isDigit) = true
    rw [hl, Bool.or_true, Bool.true_or]
  · have : c.toUpper = c := by
      unfold Char.toUpper
      exact dif_neg fun hc =>
        hl (Bool.and_eq_true_iff.2 ⟨decide_eq_true hc.1, decide_eq_true hc.2⟩)
    rwa [this] at h

/-- The code of a direction is made of letters. -/
theorem isAlphanum_of_ofText? {w : Text} {d : Direction} (h : Direction.ofText? w = some d) :
    ∀ c ∈ w, c.isAlphanum = true := by
  intro c hc
  have hcode : w.map Char.toUpper = d.code := Direction.ofCode?_eq_some_iff.1 h
  have hupper : c.toUpper ∈ d.code := hcode ▸ List.mem_map_of_mem hc
  exact isAlphanum_of_isAlphanum_toUpper
    (List.all_eq_true.1 (by cases d <;> decide : d.code.all Char.isAlphanum = true) _ hupper)

theorem ofText?_eq_none {c : Char} {w : Text} (hc : c.isAlphanum = false) :
    Direction.ofText? (c :: w) = none := by
  cases h : Direction.ofText? (c :: w) with
  | none => rfl
  | some d =>
      rw [isAlphanum_of_ofText? h c (by simp)] at hc
      cases hc

theorem rootDirection?_rootLine (d : Direction) :
    rootDirection? (Chart.rootLine d) = some d := by
  cases d <;> decide

theorem mayHoldStatement_of_rootDirection? {line : Text} {d : Direction}
    (h : rootDirection? line = some d) : mayHoldStatement line = false := by
  simp [mayHoldStatement, h]

theorem rootDirection?_trim (line : Text) :
    rootDirection? (Text.trim line) = rootDirection? line := by
  rw [rootDirection?, Text.trim_trim, rootDirection?]

theorem isDirective_trim (line : Text) : isDirective (Text.trim line) = isDirective line := by
  rw [isDirective, isComment, Text.trim_trim, Text.words_trim, isDirective, isComment]

/-! ## Statements mapped -/

/-- A map over the lines that may hold statements, line by line. -/
theorem mapStatements_joinLines {α : Type} {f : Text → Text} {ls : List α} {g g' : α → Text}
    (hline : ∀ a ∈ ls, Text.IsLine (g a))
    (hmap : ∀ a ∈ ls, (if mayHoldStatement (g a) then f (g a) else g a) = g' a) :
    mapStatements f (Text.joinLines (ls.map g)) = Text.joinLines (ls.map g') := by
  have hlines : Text.lines (Text.joinLines (ls.map g)) = ls.map g := by
    refine Text.lines_joinLines fun line hl => ?_
    obtain ⟨a, ha, rfl⟩ := List.mem_map.1 hl
    exact hline a ha
  rw [mapStatements, hlines, List.map_map]
  exact congrArg _ (List.map_congr_left hmap)

end Line

end Flowchart
