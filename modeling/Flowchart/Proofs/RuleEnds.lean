import Flowchart.Proofs.BlankEnds

/-!
# Rules at the ends of a line

Each rule for lines leaves blanks of the blanks at the ends of a line, whatever the line is, and
makes of the rest what it makes of it alone. No flag of a rule (an open label, a word, a
shape that is never closed) depends on them.
-/

namespace Flowchart

/-! ## Rules for tokens -/

/-- Spaces at the ends of the tokens stay there, as blanks or none. -/
structure Token.KeepsEnds (h : List Token → Text) : Prop where
  nil : h [] = []
  lead : ∀ ts, ∃ b, Text.IsBlanks b ∧ h (.space :: ts) = b ++ h ts
  trail : ∀ ts, ∃ b, Text.IsBlanks b ∧ h (ts ++ [.space]) = h ts ++ b

theorem Token.KeepsEnds.lex {h : List Token → Text} (hh : Token.KeepsEnds h) :
    Text.KeepsEnds (h ∘ Token.lex) where
  nil := by rw [Function.comp_apply, Token.lex_nil, hh.nil]
  lead c t hc := by
    rw [Function.comp_apply, Function.comp_apply]
    rcases Token.lex_lead hc t with h | h
    · exact ⟨[], .nil, by rw [h]; rfl⟩
    · rw [h]
      exact hh.lead _
  trail c t hc := by
    rw [Function.comp_apply, Function.comp_apply]
    rcases Token.lex_trail hc t with h | h
    · exact ⟨[], .nil, by rw [h]; simp⟩
    · rw [h]
      exact hh.trail _

namespace Repair

theorem dropSpaces_append (ts : List Token) :
    dropSpaces (ts ++ [.space]) = dropSpaces ts ++ [.space] ∨
      dropSpaces ts = [] ∧ dropSpaces (ts ++ [.space]) = [] := by
  rw [dropSpaces, List.dropWhile_append, dropSpaces]
  cases h : ts.dropWhile (· == Token.space) with
  | nil => exact .inr ⟨rfl, rfl⟩
  | cons d u => exact .inl rfl

theorem attachedLabel?_append (ts : List Token) : attachedLabel? (ts ++ [.space])
    = (attachedLabel? ts).map fun r => (r.1, r.2 ++ [.space]) := by
  rw [attachedLabel?, attachedLabel?]
  rcases dropSpaces_append ts with h | ⟨hnil, h⟩
  · rw [h]
    cases dropSpaces ts with
    | nil => rfl
    | cons k us => cases k <;> rfl
  · rw [h, hnil]
    rfl

theorem inlineWords?_append (ts : List Token) : inlineWords? (ts ++ [.space])
    = (inlineWords? ts).map fun r => (r.1, r.2 ++ [.space]) := by
  induction ts with
  | nil => rfl
  | cons k ts ih =>
      cases k with
      | space => exact ih
      | word w =>
          rw [List.cons_append, inlineWords?, inlineWords?, ih]
          cases inlineWords? ts <;> rfl
      | join =>
          rw [List.cons_append, inlineWords?, inlineWords?, ih]
          cases inlineWords? ts <;> rfl
      | arrow a =>
          rw [List.cons_append, inlineWords?, inlineWords?]
          split <;> rfl
      | label l => rfl

theorem inlineLabel?_append (ts : List Token) : inlineLabel? (ts ++ [.space])
    = (inlineLabel? ts).map fun r => (r.1, r.2 ++ [.space]) := by
  rw [inlineLabel?, inlineLabel?, inlineWords?_append]
  cases inlineWords? ts with
  | none => rfl
  | some r =>
      obtain ⟨ws, rest⟩ := r
      cases ws <;> rfl

theorem repairTokens_append (ts : List Token) :
    repairTokens (ts ++ [.space]) = repairTokens ts ++ [' '] := by
  have hspace : repairTokens [.space] = [' '] := by
    rw [repairTokens_cons (by simp), repairTokens_nil]
    rfl
  fun_induction repairTokens ts with
  | case1 => exact hspace
  | case2 a ts label rest h ih =>
      have happ : (if Token.opensLabel a then inlineLabel? (ts ++ [.space])
          else attachedLabel? (ts ++ [.space])) = some (label, rest ++ [.space]) := by
        rw [inlineLabel?_append, attachedLabel?_append]
        split at h <;> simp_all
      rw [List.cons_append, repairTokens_labelled happ, ih, List.append_assoc]
  | case3 a ts h ih =>
      have happ : (if Token.opensLabel a then inlineLabel? (ts ++ [.space])
          else attachedLabel? (ts ++ [.space])) = none := by
        rw [inlineLabel?_append, attachedLabel?_append]
        split at h <;> simp_all
      rw [List.cons_append, repairTokens_arrow happ, ih, List.append_assoc]
  | case4 k ts hk ih =>
      rw [List.cons_append, repairTokens_cons hk, ih, List.append_assoc]

theorem padTokens_append (ts : List Token) :
    padTokens (ts ++ [.space]) = padTokens ts ++ [' '] := by
  have hspace : padTokens [.space] = [' '] := rfl
  fun_induction padTokens ts with
  | case1 => exact hspace
  | case2 a l ts ih =>
      rw [List.cons_append, List.cons_append, padTokens, ih]
      simp
  | case3 a ts hlabel ih =>
      have hnot : ∀ l us, ts ++ [.space] = .label l :: us → False := by
        intro l us h
        cases ts with
        | nil => cases h
        | cons k ts =>
            cases h
            exact hlabel l ts rfl
      rw [List.cons_append, padTokens, ih]
      · simp
      · exact hnot
  | case4 ts ih =>
      rw [List.cons_append, padTokens, ih]
      simp
  | case5 k ts h₁ h₂ h₃ ih =>
      rw [List.cons_append, padTokens, ih, List.append_assoc]
      all_goals simp_all

theorem sanitizeWords_append (inLabel : Bool) (ts : List Token) :
    sanitizeWords inLabel (ts ++ [.space])
      = ((sanitizeWords inLabel ts).1 ++ [.space], (sanitizeWords inLabel ts).2) := by
  induction ts generalizing inLabel with
  | nil => rfl
  | cons k ts ih => cases k <;> simp [sanitizeWords, ih]

theorem keepsEnds_repairTokens : Token.KeepsEnds repairTokens where
  nil := repairTokens_nil
  lead ts := ⟨[' '], .space, repairTokens_cons (by simp) ts⟩
  trail ts := ⟨[' '], .space, repairTokens_append ts⟩

theorem keepsEnds_padTokens : Token.KeepsEnds padTokens where
  nil := rfl
  lead ts := ⟨[' '], .space, by rw [padTokens] <;> simp [Token.render]⟩
  trail ts := ⟨[' '], .space, padTokens_append ts⟩

theorem keepsEnds_collapseSpaces : Text.KeepsEnds collapseSpaces where
  nil := rfl
  lead c t hc := by
    cases t with
    | nil => exact ⟨[c], .singleton hc, rfl⟩
    | cons d t =>
        rw [collapseSpaces]
        split
        · exact ⟨[], .nil, rfl⟩
        · exact ⟨[c], .singleton hc, rfl⟩
  trail c t hc := by
    fun_induction collapseSpaces t with
    | case1 => exact ⟨[c], .singleton hc, rfl⟩
    | case2 d =>
        rw [List.singleton_append, collapseSpaces]
        split
        · rename_i h
          exact ⟨[], .nil, by rw [h.1, h.2]; rfl⟩
        · exact ⟨[c], .singleton hc, rfl⟩
    | case3 d e s h ih =>
        rw [List.cons_append] at ih
        rw [List.cons_append, List.cons_append, collapseSpaces, if_pos h]
        exact ih
    | case4 d e s h ih =>
        obtain ⟨b, hb, ih⟩ := ih
        rw [List.cons_append] at ih
        rw [List.cons_append, List.cons_append, collapseSpaces, if_neg h, ih]
        exact ⟨b, hb, rfl⟩

theorem keepsEnds_repairEdgeText : Text.KeepsEnds repairEdgeText := keepsEnds_repairTokens.lex

theorem keepsEnds_padArrows : Text.KeepsEnds padArrows :=
  keepsEnds_padTokens.lex.comp keepsEnds_collapseSpaces

end Repair

/-! ## Rules for free text -/

namespace Text

/-- A pattern that does not match at a blank and does not look at a blank behind the text. -/
structure Pattern.IgnoresBlanks (p : Pattern) : Prop where
  lead : ∀ c t, isBlank c = true → p (c :: t) = none
  trail : ∀ c t, isBlank c = true → t ≠ [] → p (t ++ [c]) = p t
  length : ∀ t r n, p t = some (r, n) → 1 ≤ n ∧ n ≤ t.length

namespace Pattern.IgnoresBlanks

variable {p : Pattern} (hp : p.IgnoresBlanks) {c : Char} (hc : isBlank c = true)

include hp hc

theorem replaceMatches_lead (t : Text) :
    replaceMatches p (c :: t) = c :: replaceMatches p t := by
  rw [replaceMatches, hp.lead c t hc]

theorem replaceMatches_trail (t : Text) :
    replaceMatches p (t ++ [c]) = replaceMatches p t ++ [c] := by
  fun_induction replaceMatches p t with
  | case1 => simp [replaceMatches, hp.lead c [] hc]
  | case2 d s r n h ih =>
      have happ : p (d :: (s ++ [c])) = some (r, n) := by
        rw [← List.cons_append, hp.trail c _ hc (by simp), h]
      have hle : n - 1 ≤ s.length := by
        have := (hp.length _ _ _ h).2
        rw [List.length_cons] at this
        omega
      rw [List.cons_append, replaceMatches, happ]
      dsimp only
      rw [List.drop_append_of_le_length hle, ih, List.append_assoc]
  | case3 d s h ih =>
      have happ : p (d :: (s ++ [c])) = none := by
        rw [← List.cons_append, hp.trail c _ hc (by simp), h]
      rw [List.cons_append, replaceMatches, happ]
      dsimp only
      rw [ih, List.cons_append]

end Pattern.IgnoresBlanks

theorem Pattern.IgnoresBlanks.keepsEnds {p : Pattern} (hp : p.IgnoresBlanks) :
    KeepsEnds (replaceMatches p) where
  nil := by rw [replaceMatches]
  lead c t hc := ⟨[c], .singleton hc, hp.replaceMatches_lead hc t⟩
  trail c t hc := ⟨[c], .singleton hc, hp.replaceMatches_trail hc t⟩

end Text

namespace Repair

theorem ignoresBlanks_pipeLabel : Text.Pattern.IgnoresBlanks pipeLabel where
  lead c t hc := by simp [pipeLabel, Text.ne_of_isBlank hc (d := '|') rfl]
  trail c t hc hne := by
    obtain ⟨d, s, rfl⟩ := List.exists_cons_of_ne_nil hne
    rw [List.cons_append, pipeLabel, pipeLabel, Segment.untilPipe?_append_blank hc]
    split
    · cases Segment.untilPipe? s <;> rfl
    · rfl
  length t r n h := by
    cases t with
    | nil => cases h
    | cons d s =>
        rw [pipeLabel] at h
        split at h
        · obtain ⟨⟨label, rest⟩, hread, he⟩ := Option.map_eq_some_iff.1 h
          cases he
          have := (Segment.eq_append_of_untilPipe? hread).1
          rw [this]
          simp
        · cases h

/-- No character of the name of a class is a blank. -/
theorem isWordChar_blank {c : Char} (h : Text.isBlank c = true) :
    (Text.isWordChar c || c == '-') = false := by
  have hall : (Text.blankChars.all fun d => !(Text.isWordChar d || d == '-')) = true := by
    decide +kernel
  simpa using List.all_eq_true.1 hall c (Text.mem_blankChars h)

theorem ignoresBlanks_classSuffix : Text.Pattern.IgnoresBlanks classSuffix where
  lead c t hc := by
    have hafter : Text.after? [':', ':', ':'] (c :: t) = none := by
      simp [Text.after?, (Text.ne_of_isBlank hc (d := ':') rfl).symm]
    simp [classSuffix, hafter]
  trail c t hc hne := by
    have hcolon : ':' ≠ c := (Text.ne_of_isBlank hc rfl).symm
    have hname (u : Text) : (u ++ [c]).takeWhile (fun d => Text.isWordChar d || d == '-')
        = u.takeWhile fun d => Text.isWordChar d || d == '-' :=
      Text.takeWhile_append_of_head? (by simpa using isWordChar_blank hc) u
    have hafter : Text.after? [':', ':', ':'] (t ++ [c])
        = (Text.after? [':', ':', ':'] t).map (· ++ [c]) := by
      rcases t with _ | ⟨d, _ | ⟨e, _ | ⟨f, u⟩⟩⟩
      · simp [Text.after?, hcolon]
      · simp [Text.after?, hcolon]
      · simp [Text.after?, hcolon]
      · simp only [Text.after?, List.cons_append, List.isPrefixOf, List.length_cons,
          List.length_nil, List.drop_succ_cons, List.drop_zero]
        split <;> rfl
    rw [classSuffix, classSuffix, hafter]
    cases Text.after? [':', ':', ':'] t with
    | none => rfl
    | some u =>
        simp only [Option.map_some, Option.bind_eq_bind, Option.bind_some, hname]
  length t r n h := by
    cases hafter : Text.after? [':', ':', ':'] t with
    | none => simp [classSuffix, hafter] at h
    | some u =>
        have hlen := (List.takeWhile_prefix (l := u)
          (fun d => Text.isWordChar d || d == '-')).length_le
        rw [Text.after?_eq_some_iff] at hafter
        simp only [classSuffix, hafter, Text.after?_eq_some_iff.2 rfl, Option.bind_eq_bind,
          Option.bind_some] at h
        split at h
        · cases h
        · cases h
          rw [hafter]
          simp
          omega

theorem keepsEnds_blankDelimiters : Text.KeepsEnds blankDelimiters where
  nil := rfl
  lead c t hc := by
    refine ⟨[c], .singleton hc, ?_⟩
    simp [blankDelimiters, Segment.isOpener_eq_false_of_isBlank hc,
      Segment.isCloser_eq_false_of_isBlank hc]
  trail c t hc := by
    refine ⟨[c], .singleton hc, ?_⟩
    simp [blankDelimiters, Segment.isOpener_eq_false_of_isBlank hc,
      Segment.isCloser_eq_false_of_isBlank hc]

theorem keepsEnds_unmarked : Text.KeepsEnds Text.unmarked where
  nil := rfl
  lead c t hc := by
    have hself := Text.unmarked_eq_self (Text.isUnquoted_of_isBlanks (.singleton hc))
    exact ⟨[c], .singleton hc, by rw [← List.singleton_append, Text.unmarked_append, hself]⟩
  trail c t hc := by
    have hself := Text.unmarked_eq_self (Text.isUnquoted_of_isBlanks (.singleton hc))
    exact ⟨[c], .singleton hc, by rw [Text.unmarked_append, hself]⟩

/-! ## Rules for lines -/

/-- A rule that puts a line together from its segments again. -/
theorem keepsEnds_scan {F : List Segment → Text} (hnil : F [] = [])
    (hlead : ∀ c segments, Text.isBlank c = true →
      ∃ b, Text.IsBlanks b ∧ F (Segment.leadWith c segments) = b ++ F segments)
    (htrail : ∀ c segments, Text.isBlank c = true →
      ∃ b, Text.IsBlanks b ∧ F (Segment.trailWith c segments) = F segments ++ b) :
    Text.KeepsEnds fun line => F (Segment.scan line) where
  nil := by
    rw [Segment.scan, Segment.scanFrom_nil]
    exact hnil
  lead c t hc := by
    rw [Segment.scan_lead hc]
    exact hlead c _ hc
  trail c t hc := by
    rcases Segment.scanFrom_trail hc [] t with h | h
    · rw [Segment.scan, h]
      exact htrail c _ hc
    · rw [Segment.scan, h]
      exact ⟨[], .nil, (List.append_nil _).symm⟩

/-- A rule that changes segments one by one. -/
theorem keepsEnds_mapSegments {φ : Segment → Segment} {g : Text → Text}
    (htext : ∀ t, φ (.text t) = .text (g t)) (hg : Text.KeepsEnds g) :
    Text.KeepsEnds (Line.mapSegments φ) := by
  have hlone {c : Char} (hc : Text.isBlank c = true) : Text.IsBlanks (g [c]) := by
    obtain ⟨b, hb, h⟩ := hg.lead c [] hc
    rwa [h, hg.nil, List.append_nil]
  refine keepsEnds_scan (F := fun segments => Segment.renderAll (segments.map φ)) rfl
    (fun c segments hc => ?_) fun c segments hc => ?_
  · rcases segments with _ | ⟨t | n, segments⟩
    · exact ⟨g [c], hlone hc, by
        simp [Segment.leadWith, Segment.renderAll, Segment.render, htext]⟩
    · obtain ⟨b, hb, h⟩ := hg.lead c t hc
      exact ⟨b, hb, by simp [Segment.leadWith, Segment.renderAll, Segment.render, htext, h]⟩
    · exact ⟨g [c], hlone hc, by
        simp [Segment.leadWith, Segment.renderAll, Segment.render, htext]⟩
  · fun_induction Segment.trailWith c segments with
    | case1 => exact ⟨g [c], hlone hc, by simp [Segment.renderAll, Segment.render, htext]⟩
    | case2 t =>
        obtain ⟨b, hb, h⟩ := hg.trail c t hc
        exact ⟨b, hb, by simp [Segment.renderAll, Segment.render, htext, h]⟩
    | case3 segment segments h ih =>
        obtain ⟨b, hb, ih⟩ := ih
        refine ⟨b, hb, ?_⟩
        simp only [Segment.renderAll, List.map_cons, List.flatMap_cons] at ih ⊢
        rw [ih, List.append_assoc]

/-- The words of free text sanitized, given whether a label inside an edge is open. -/
def sanitizedFreeText (inLabel : Bool) (t : Text) : List Token × Bool :=
  sanitizeWords inLabel (Token.lex (Text.replaceMatches classSuffix t))

section

variable {c : Char} (hc : Text.isBlank c = true)

include hc

/-- A blank in front leaves open what was open behind the text. -/
theorem sanitizedFreeText_lead (inLabel : Bool) (t : Text) :
    ∃ b, Text.IsBlanks b ∧
      (sanitizedFreeText inLabel (c :: t)).2 = (sanitizedFreeText inLabel t).2 ∧
      Token.renderAll (sanitizedFreeText inLabel (c :: t)).1
        = b ++ Token.renderAll (sanitizedFreeText inLabel t).1 := by
  rw [sanitizedFreeText, ignoresBlanks_classSuffix.replaceMatches_lead hc, sanitizedFreeText]
  rcases Token.lex_lead hc (Text.replaceMatches classSuffix t) with h | h
  · exact ⟨[], .nil, by rw [h], by rw [h]; rfl⟩
  · exact ⟨[' '], .space, by rw [h]; rfl, by rw [h]; rfl⟩

theorem sanitizedFreeText_trail (inLabel : Bool) (t : Text) :
    ∃ b, Text.IsBlanks b ∧ Token.renderAll (sanitizedFreeText inLabel (t ++ [c])).1
        = Token.renderAll (sanitizedFreeText inLabel t).1 ++ b := by
  rw [sanitizedFreeText, ignoresBlanks_classSuffix.replaceMatches_trail hc, sanitizedFreeText]
  rcases Token.lex_trail hc (Text.replaceMatches classSuffix t) with h | h
  · exact ⟨[], .nil, by rw [h, List.append_nil]⟩
  · exact ⟨[' '], .space, by rw [h, sanitizeWords_append]; simp [Token.renderAll, Token.render]⟩

end

theorem sanitizeSegments_text (inLabel : Bool) (t : Text) (segments : List Segment) :
    sanitizeSegments inLabel (.text t :: segments)
      = .text (Token.renderAll (sanitizedFreeText inLabel t).1)
        :: sanitizeSegments (sanitizedFreeText inLabel t).2 segments := rfl

theorem sanitizedFreeText_nil (inLabel : Bool) : sanitizedFreeText inLabel [] = ([], inLabel) := by
  rw [sanitizedFreeText, Text.replaceMatches, Token.lex_nil, sanitizeWords]

section

variable {c : Char} (hc : Text.isBlank c = true)

include hc

/-- A blank of its own is written as blanks, and what stands behind it is read as at the front. -/
theorem exists_renderAll_sanitizeSegments_blank (segments : List Segment) :
    ∃ b, Text.IsBlanks b ∧ Segment.renderAll (sanitizeSegments false (.text [c] :: segments))
      = b ++ Segment.renderAll (sanitizeSegments false segments) := by
  obtain ⟨b, hb, hopen, h⟩ := sanitizedFreeText_lead hc false []
  rw [sanitizedFreeText_nil] at hopen h
  refine ⟨b, hb, ?_⟩
  rw [sanitizeSegments_text, hopen, h]
  simp [Segment.renderAll, Segment.render, Token.renderAll]

theorem exists_renderAll_sanitizeSegments_lead (segments : List Segment) :
    ∃ b, Text.IsBlanks b ∧
      Segment.renderAll (sanitizeSegments false (Segment.leadWith c segments))
        = b ++ Segment.renderAll (sanitizeSegments false segments) := by
  rcases segments with _ | ⟨t | n, segments⟩
  · exact exists_renderAll_sanitizeSegments_blank hc []
  · obtain ⟨b, hb, hopen, h⟩ := sanitizedFreeText_lead hc false t
    refine ⟨b, hb, ?_⟩
    rw [Segment.leadWith, sanitizeSegments_text, sanitizeSegments_text, hopen, h]
    simp [Segment.renderAll, Segment.render]
  · exact exists_renderAll_sanitizeSegments_blank hc (.node n :: segments)

theorem exists_renderAll_sanitizeSegments_trail (inLabel : Bool) (segments : List Segment) :
    ∃ b, Text.IsBlanks b ∧
      Segment.renderAll (sanitizeSegments inLabel (Segment.trailWith c segments))
        = Segment.renderAll (sanitizeSegments inLabel segments) ++ b := by
  fun_induction Segment.trailWith c segments generalizing inLabel with
  | case1 =>
      obtain ⟨b, hb, h⟩ := sanitizedFreeText_trail hc inLabel []
      rw [sanitizedFreeText_nil, List.nil_append] at h
      refine ⟨b, hb, ?_⟩
      rw [sanitizeSegments_text, h]
      simp [sanitizeSegments, Segment.renderAll, Segment.render, Token.renderAll]
  | case2 t =>
      obtain ⟨b, hb, h⟩ := sanitizedFreeText_trail hc inLabel t
      refine ⟨b, hb, ?_⟩
      rw [sanitizeSegments_text, sanitizeSegments_text, h]
      simp [sanitizeSegments, Segment.renderAll, Segment.render]
  | case3 segment segments h ih =>
      cases segment with
      | node n =>
          obtain ⟨b, hb, ih⟩ := ih false
          refine ⟨b, hb, ?_⟩
          simp only [sanitizeSegments, Segment.renderAll, List.flatMap_cons] at ih ⊢
          rw [ih, List.append_assoc]
      | text t =>
          obtain ⟨b, hb, ih⟩ := ih (sanitizedFreeText inLabel t).2
          refine ⟨b, hb, ?_⟩
          simp only [sanitizeSegments_text, Segment.renderAll, List.flatMap_cons] at ih ⊢
          rw [ih, List.append_assoc]

end

theorem keepsEnds_sanitizeSegments :
    Text.KeepsEnds fun line => Segment.renderAll (sanitizeSegments false (Segment.scan line)) :=
  keepsEnds_scan (F := fun segments => Segment.renderAll (sanitizeSegments false segments)) rfl
    (fun _ segments hc => exists_renderAll_sanitizeSegments_lead hc segments)
    fun _ segments hc => exists_renderAll_sanitizeSegments_trail hc false segments

end Repair

end Flowchart
