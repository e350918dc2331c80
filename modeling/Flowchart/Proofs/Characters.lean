import Flowchart.Proofs.NodeTexts
import Flowchart.Proofs.Lines
import Flowchart.Repair.Rules

/-!
# Characters that a rule can write

What a rule leaves of a text was in the text, or is one of the few characters that rules write: a
space, a letter, a delimiter, a slash, a pipe, or a part of an arrow. A class that holds these
holds the repaired text if it holds the text.
-/

namespace Flowchart

/-- The characters that rules write. -/
def isWritten (c : Char) : Bool :=
  c.isAlphanum || isOpener c || isCloser c || Label.isSlash c ||
    [' ', '-', '>', '|', '&'].contains c

variable {q : Char → Prop}

/-- All characters of the text are in the class. -/
def Text.All (q : Char → Prop) (t : Text) : Prop := ∀ c ∈ t, q c

namespace Text.All

theorem nil : Text.All q [] := fun _ h => nomatch h

theorem append {s t : Text} (hs : Text.All q s) (ht : Text.All q t) : Text.All q (s ++ t) := by
  intro c hc
  rcases List.mem_append.1 hc with h | h
  · exact hs c h
  · exact ht c h

theorem cons {c : Char} {t : Text} (hc : q c) (ht : Text.All q t) : Text.All q (c :: t) := by
  intro d hd
  rcases List.mem_cons.1 hd with rfl | h
  · exact hc
  · exact ht d h

theorem left {s t : Text} (h : Text.All q (s ++ t)) : Text.All q s :=
  fun c hc => h c (List.mem_append_left _ hc)

theorem right {s t : Text} (h : Text.All q (s ++ t)) : Text.All q t :=
  fun c hc => h c (List.mem_append_right _ hc)

theorem of_subset {s t : Text} (ht : Text.All q t) (h : s ⊆ t) : Text.All q s :=
  fun c hc => ht c (h hc)

theorem head {c : Char} {t : Text} (h : Text.All q (c :: t)) : q c := h c (by simp)

theorem tail {c : Char} {t : Text} (h : Text.All q (c :: t)) : Text.All q t :=
  fun d hd => h d (by simp [hd])

theorem written (hq : ∀ c, isWritten c = true → q c) {t : Text} (h : t.all isWritten = true) :
    Text.All q t :=
  fun c hc => hq c (List.all_eq_true.1 h c hc)

end Text.All

/-! ## Segments and tokens -/

/-- What a segment holds of its line. -/
def Segment.Holds (q : Char → Prop) : Segment → Prop
  | .text t => Text.All q t
  | .node n => Text.All q n.id ∧ Text.All q n.label

/-- The interior ends at a closer, and the rest is behind it. -/
theorem eq_append_of_closedInterior? {closers : List Char} {s interior rest : Text}
    (h : Segment.closedInterior? closers s = some (interior, rest)) :
    ∃ d, s = interior ++ d :: rest := by
  induction s generalizing closers interior with
  | nil => simp [Segment.closedInterior?] at h
  | cons c s ih =>
      have step {closers' : List Char}
          (h : (Segment.closedInterior? closers' s).map (fun r => (c :: r.1, r.2))
            = some (interior, rest)) : ∃ d, c :: s = interior ++ d :: rest := by
        obtain ⟨⟨i, r⟩, hr, he⟩ := Option.map_eq_some_iff.1 h
        cases he
        obtain ⟨d, rfl⟩ := ih hr
        exact ⟨d, rfl⟩
      unfold Segment.closedInterior? at h
      split at h
      · exact step h
      · split at h
        · split at h
          · exact step h
          · cases h
            exact ⟨c, rfl⟩
          · exact step h
        · exact step h

/-- Between the interior and the rest stands the closing delimiter, if there is one. -/
theorem exists_shapeInterior_append (opener : Char) (s : Text) : ∃ closer : Text,
    (Segment.shapeInterior opener s).1 ++ (closer ++ (Segment.shapeInterior opener s).2) = s := by
  unfold Segment.shapeInterior
  split
  · rename_i r h
    obtain ⟨d, hs⟩ := eq_append_of_closedInterior? (h : _ = some (r.1, r.2))
    exact ⟨[d], hs.symm⟩
  · exact ⟨[], Segment.untilArrow_append s⟩

theorem shapeInterior_suffix (opener : Char) (s : Text) :
    (Segment.shapeInterior opener s).2 <:+ s := by
  obtain ⟨closer, h⟩ := exists_shapeInterior_append opener s
  exact ⟨_, (List.append_assoc _ _ _).trans h⟩

theorem shapeInterior_isPrefix (opener : Char) (s : Text) :
    (Segment.shapeInterior opener s).1 <+: s := by
  obtain ⟨closer, h⟩ := exists_shapeInterior_append opener s
  exact ⟨_, h⟩

theorem untilDouble_subset (c : Char) (s : Text) : Segment.untilDouble c s ⊆ s := by
  fun_induction Segment.untilDouble c s with
  | case1 => simp
  | case2 => simp
  | case3 => simp
  | case4 a b s h ih => exact List.cons_subset_cons a ih

theorem gluedId_subset (back : Text) : Segment.gluedId back ⊆ back := fun _ hc =>
  (List.takeWhile_prefix _).subset ((List.takeWhile_prefix _).subset
    (untilDouble_subset _ _ (untilDouble_subset _ _ hc)))

theorem holds_ofBack {back : Text} (h : Text.All q back) :
    ∀ s ∈ Segment.ofBack back, s.Holds q := by
  unfold Segment.ofBack
  intro s hs
  split at hs
  · cases hs
  · rw [List.mem_singleton] at hs
    subst hs
    exact fun c hc => h c (List.mem_reverse.1 hc)

theorem holds_scanFrom {back s : Text} (hback : Text.All q back) (hs : Text.All q s) :
    ∀ seg ∈ Segment.scanFrom back s, seg.Holds q := by
  fun_induction Segment.scanFrom back s with
  | case1 back => exact holds_ofBack hback
  | case2 back s l rest h ih =>
      obtain ⟨rfl, -⟩ := Segment.eq_append_of_untilPipe? h
      have hlabel : Text.All q l.reverse :=
        fun c hc => hs.tail c (List.mem_append_left _ (List.mem_reverse.1 hc))
      exact ih (.cons hs.head (hlabel.append (.cons hs.head hback))) hs.tail.right.tail
  | case3 back s h ih => exact ih (.cons hs.head hback) hs.tail
  | case4 back c s hc h id body read ih =>
      have hinterior : body.1 ⊆ s := (shapeInterior_isPrefix c s).subset
      have hrest : body.2 ⊆ s := (shapeInterior_suffix c s).subset
      have hid : Text.All q id.reverse :=
        fun d hd => hback d (gluedId_subset back (List.mem_reverse.1 hd))
      intro seg hseg
      rcases List.mem_append.1 hseg with hseg | hseg
      · exact holds_ofBack (hback.of_subset (List.drop_subset _ _)) seg hseg
      · rcases List.mem_cons.1 hseg with rfl | hseg
        · exact ⟨hid, fun d hd => hs.tail d (hinterior (Segment.mem_of_mem_classifyInterior hd))⟩
        · exact ih .nil (hs.tail.of_subset hrest) seg hseg
  | case5 back c s hc h ih => exact ih (.cons hs.head hback) hs.tail

/-- The segments of a line hold nothing else. -/
theorem holds_scan {line : Text} (h : Text.All q line) : ∀ s ∈ Segment.scan line, s.Holds q :=
  holds_scanFrom .nil h

section

variable (hq : ∀ c, isWritten c = true → q c)

include hq

theorem all_render_node {n : ShapedNode} (hid : Text.All q n.id) (hl : Text.All q n.label) :
    Text.All q n.render := by
  have hopen : Text.All q n.shape.opening := by
    cases n.shape <;> exact .written hq (by decide)
  have hclose : Text.All q n.shape.closing := by
    cases n.shape <;> exact .written hq (by decide)
  exact hid.append ((hopen.append hl).append hclose)

theorem all_renderAll {segments : List Segment} (h : ∀ s ∈ segments, s.Holds q) :
    Text.All q (Segment.renderAll segments) := by
  intro c hc
  obtain ⟨s, hs, hcs⟩ := List.mem_flatMap.1 hc
  have hholds := h s hs
  cases s with
  | text t => exact hholds c hcs
  | node n => exact all_render_node hq hholds.1 hholds.2 c hcs

end

/-- What a token holds of its text. -/
def Token.Holds (q : Char → Prop) : Token → Prop
  | .word w => Text.All q w
  | .arrow a => Text.All q a
  | .label l => Text.All q l
  | _ => True

theorem holds_of_spells {ts : List Token} {s : Text} (h : Token.Spells ts s) (hs : Text.All q s) :
    ∀ t ∈ ts, t.Holds q := by
  induction h with
  | nil => simp
  | space hb h ih =>
      intro t ht
      rcases List.mem_cons.1 ht with rfl | ht
      · trivial
      · exact ih hs.right t ht
  | word h ih =>
      intro t ht
      rcases List.mem_cons.1 ht with rfl | ht
      · exact hs.left
      · exact ih hs.right t ht
  | arrow h ih =>
      intro t ht
      rcases List.mem_cons.1 ht with rfl | ht
      · exact hs.left
      · exact ih hs.right t ht
  | join h ih =>
      intro t ht
      rcases List.mem_cons.1 ht with rfl | ht
      · trivial
      · exact ih hs.tail t ht
  | label hl h ih =>
      intro t ht
      rcases List.mem_cons.1 ht with rfl | ht
      · exact hs.left.tail
      · exact ih hs.right.tail t ht

theorem holds_lex {t : Text} (h : Text.All q t) : ∀ u ∈ Token.lex t, u.Holds q :=
  holds_of_spells (Token.spells_lex t) h

section

variable (hq : ∀ c, isWritten c = true → q c)

include hq

theorem all_render_token {t : Token} (h : t.Holds q) : Text.All q t.render := by
  cases t with
  | space => exact .written hq (by decide)
  | word w => exact h
  | arrow a => exact h
  | join => exact .written hq (by decide)
  | label l =>
      have hpipe : Text.All q ['|'] := .written hq (by decide)
      exact .cons hpipe.head (Text.All.append h hpipe)

theorem all_clean {l : Text} (h : Text.All q l) : Text.All q (Label.clean l) := by
  intro c hc
  rcases Label.mem_clean hc with rfl | ⟨hc, -⟩
  · exact hq ' ' (by decide)
  · exact h c hc

theorem all_cleanShapeLabel {l : Text} (h : Text.All q l) :
    Text.All q (Repair.cleanShapeLabel l) :=
  fun c hc => all_clean hq h c (Label.mem_of_mem_trimSlashes hc)

/-! ## Rules on lines -/

theorem all_blankDelimiters {t : Text} (h : Text.All q t) :
    Text.All q (Repair.blankDelimiters t) := by
  intro c hc
  obtain ⟨d, hd, rfl⟩ := List.mem_map.1 hc
  split
  · exact hq ' ' (by decide)
  · exact h d hd

omit hq in
theorem all_replaceMatches {pattern : Text.Pattern} {t : Text}
    (hp : ∀ s r n, Text.All q s → pattern s = some (r, n) → Text.All q r) (h : Text.All q t) :
    Text.All q (Text.replaceMatches pattern t) := by
  fun_induction Text.replaceMatches pattern t with
  | case1 => exact .nil
  | case2 c s r n hpat ih =>
      exact (hp _ r n h hpat).append (ih (h.tail.of_subset (List.drop_subset _ _)))
  | case3 c s hpat ih => exact .cons h.head (ih h.tail)

theorem all_pipeLabel {s r : Text} {n : Nat} (hs : Text.All q s)
    (h : Repair.pipeLabel s = some (r, n)) : Text.All q r := by
  cases s with
  | nil => cases h
  | cons c s =>
      rw [Repair.pipeLabel] at h
      split at h
      · obtain ⟨⟨l, rest⟩, hl, he⟩ := Option.map_eq_some_iff.1 h
        cases he
        obtain ⟨rfl, -⟩ := Segment.eq_append_of_untilPipe? hl
        have hpipe : Text.All q ['|'] := .written hq (by decide)
        split
        · exact .nil
        · exact .cons hpipe.head ((all_clean hq hs.tail.left).append hpipe)
      · cases h

theorem holds_relabel {n : ShapedNode} (hid : Text.All q n.id) (hl : Text.All q n.label) :
    Text.All q (Repair.relabel n).label := by
  unfold Repair.relabel
  dsimp only
  have hname : Text.All q Repair.defaultName := .written hq (by decide)
  split
  · split
    · exact hname
    · exact all_cleanShapeLabel hq hid
  · exact all_cleanShapeLabel hq hl

theorem all_sanitize (s : Text) : Text.All q (Ident.sanitize s) := by
  intro c hc
  have : c.isAlphanum = true := by
    unfold Ident.sanitize at hc
    dsimp only at hc
    split at hc
    · exact List.all_eq_true.1 (by decide) c hc
    · exact (List.mem_filter.1 hc).2
  exact hq c (by simp [isWritten, this])

theorem holds_reidentify (n : ShapedNode) : Text.All q (Repair.reidentify n).id := by
  have horElse {a b : Text} (ha : Text.All q a) (hb : Text.All q b) :
      Text.All q (Repair.orElseText a b) := by
    unfold Repair.orElseText
    split
    · exact hb
    · exact ha
  exact horElse (horElse (all_sanitize hq _) (all_sanitize hq _)) (.written hq (by decide))

theorem holds_sanitizeWords {ts : List Token} (h : ∀ t ∈ ts, t.Holds q) (inLabel : Bool) :
    ∀ t ∈ (Repair.sanitizeWords inLabel ts).1, t.Holds q := by
  induction ts generalizing inLabel with
  | nil => simp [Repair.sanitizeWords]
  | cons u ts ih =>
      have hrest := ih fun t ht => h t (by simp [ht])
      have hu := h u (by simp)
      cases u with
      | space => simpa [Repair.sanitizeWords, Token.Holds] using hrest inLabel
      | word w =>
          simp only [Repair.sanitizeWords, List.mem_cons, forall_eq_or_imp]
          refine ⟨?_, hrest inLabel⟩
          split
          · exact hu
          · exact all_sanitize hq w
      | arrow a =>
          simp only [Repair.sanitizeWords, List.mem_cons, forall_eq_or_imp]
          exact ⟨hu, hrest _⟩
      | join => simpa [Repair.sanitizeWords, Token.Holds] using hrest inLabel
      | label l =>
          simp only [Repair.sanitizeWords, List.mem_cons, forall_eq_or_imp]
          exact ⟨hu, hrest _⟩

theorem all_renderAll_tokens {ts : List Token} (h : ∀ t ∈ ts, t.Holds q) :
    Text.All q (Token.renderAll ts) := by
  intro c hc
  obtain ⟨t, ht, hct⟩ := List.mem_flatMap.1 hc
  exact all_render_token hq (h t ht) c hct

omit hq in
theorem all_classSuffix {s r : Text} {n : Nat} (h : Repair.classSuffix s = some (r, n)) :
    Text.All q r := by
  unfold Repair.classSuffix at h
  obtain ⟨body, -, h⟩ := Option.bind_eq_some_iff.1 h
  dsimp only at h
  split at h
  · cases h
  · cases h
    exact .nil

theorem holds_sanitizeSegments {segments : List Segment} (h : ∀ s ∈ segments, s.Holds q)
    (inLabel : Bool) : ∀ s ∈ Repair.sanitizeSegments inLabel segments, s.Holds q := by
  induction segments generalizing inLabel with
  | nil => simp [Repair.sanitizeSegments]
  | cons u segments ih =>
      have hrest := ih fun t ht => h t (by simp [ht])
      have hu := h u (by simp)
      cases u with
      | node n =>
          simp only [Repair.sanitizeSegments, List.mem_cons, forall_eq_or_imp]
          exact ⟨⟨holds_reidentify hq n, hu.2⟩, hrest false⟩
      | text t =>
          simp only [Repair.sanitizeSegments, List.mem_cons, forall_eq_or_imp]
          refine ⟨all_renderAll_tokens hq (holds_sanitizeWords hq (holds_lex ?_) _), hrest _⟩
          exact all_replaceMatches (fun s r n _ => all_classSuffix) hu

theorem all_renderEdge {a : Text} {label : Option Text} (ha : Text.All q a)
    (hl : ∀ l, label = some l → Text.All q l) : Text.All q (renderEdge a label) := by
  have hpipe : Text.All q ['|'] := .written hq (by decide)
  cases label with
  | none => exact ha
  | some l => exact (ha.append (.cons hpipe.head (hl l rfl))).append hpipe

theorem all_edgeText {l : Text} (hl : Text.All q l) : Text.All q (Repair.edgeText l) := by
  refine all_renderEdge hq (.written hq (by decide)) fun k hk => ?_
  split at hk
  · cases hk
  · cases hk
    exact hl

omit hq in
theorem all_joinWith {sep : Char} {ws : List Text} (hsep : q sep)
    (h : ∀ w ∈ ws, Text.All q w) : Text.All q (Text.joinWith sep ws) := by
  intro c hc
  rcases Text.mem_joinWith hc with rfl | ⟨w, hw, hc⟩
  · exact hsep
  · exact h w hw c hc

theorem holds_inlineWords? {ts rest : List Token} {ws : List Text}
    (h : Repair.inlineWords? ts = some (ws, rest)) (hts : ∀ t ∈ ts, t.Holds q) :
    (∀ w ∈ ws, Text.All q w) ∧ ∀ t ∈ rest, t.Holds q := by
  induction ts generalizing ws with
  | nil => cases h
  | cons t ts ih =>
      have hrest : ∀ t ∈ ts, t.Holds q := fun t ht => hts t (by simp [ht])
      have step {w : Text} (hw : Text.All q w)
          (h : (Repair.inlineWords? ts).map (fun r => (w :: r.1, r.2)) = some (ws, rest)) :
          (∀ w ∈ ws, Text.All q w) ∧ ∀ t ∈ rest, t.Holds q := by
        obtain ⟨⟨ws', r⟩, hr, he⟩ := Option.map_eq_some_iff.1 h
        cases he
        obtain ⟨hws, hts⟩ := ih hr hrest
        refine ⟨fun v hv => ?_, hts⟩
        rcases List.mem_cons.1 hv with rfl | hv
        · exact hw
        · exact hws v hv
      cases t with
      | space => exact ih h hrest
      | word w => exact step (hts (.word w) (by simp)) h
      | join => exact step (.written hq (by decide)) h
      | arrow a =>
          rw [Repair.inlineWords?] at h
          split at h
          · cases h
          · cases h
            exact ⟨by simp, hrest⟩
      | label l => cases h

theorem holds_inlineLabel? {ts rest : List Token} {l : Text}
    (h : Repair.inlineLabel? ts = some (l, rest)) (hts : ∀ t ∈ ts, t.Holds q) :
    Text.All q l ∧ ∀ t ∈ rest, t.Holds q := by
  unfold Repair.inlineLabel? at h
  split at h
  · rename_i w ws rest' hw
    cases h
    obtain ⟨hws, hrest⟩ := holds_inlineWords? hq hw hts
    exact ⟨all_clean hq (all_joinWith (hq ' ' (by decide)) hws), hrest⟩
  · cases h

theorem holds_attachedLabel? {ts rest : List Token} {l : Text}
    (h : Repair.attachedLabel? ts = some (l, rest)) (hts : ∀ t ∈ ts, t.Holds q) :
    Text.All q l ∧ ∀ t ∈ rest, t.Holds q := by
  unfold Repair.attachedLabel? at h
  split at h
  · rename_i k rest' hd
    cases h
    have hmem : ∀ t ∈ Token.label k :: rest, t.Holds q := by
      intro t ht
      rw [← hd] at ht
      exact hts t ((List.dropWhile_suffix _).subset ht)
    exact ⟨all_clean hq (hmem (.label k) (by simp)), fun t ht => hmem t (by simp [ht])⟩
  · cases h

theorem all_repairTokens {ts : List Token} (hts : ∀ t ∈ ts, t.Holds q) :
    Text.All q (Repair.repairTokens ts) := by
  have harrow : Text.All q arrow := .written hq (by decide)
  fun_induction Repair.repairTokens ts with
  | case1 => exact .nil
  | case2 a ts l rest h ih =>
      have hrest : ∀ t ∈ ts, t.Holds q := fun t ht => hts t (by simp [ht])
      have hlabel : Text.All q l ∧ ∀ t ∈ rest, t.Holds q := by
        split at h
        · exact holds_inlineLabel? hq h hrest
        · exact holds_attachedLabel? hq h hrest
      exact (all_edgeText hq hlabel.1).append (ih hlabel.2)
  | case3 a ts h ih =>
      have ha : Text.All q a := hts (.arrow a) (by simp)
      refine Text.All.append ?_ (ih fun t ht => hts t (by simp [ht]))
      split
      · exact ha
      · exact harrow
  | case4 t ts hne ih =>
      exact (all_render_token hq (hts t (by simp))).append (ih fun u hu => hts u (by simp [hu]))

theorem all_padTokens {ts : List Token} (hts : ∀ t ∈ ts, t.Holds q) :
    Text.All q (Repair.padTokens ts) := by
  have hspace : q ' ' := hq ' ' (by decide)
  fun_induction Repair.padTokens ts with
  | case1 => exact .nil
  | case2 a l ts ih =>
      have hlabel : ∀ k ∈ some l, Text.All q k := fun k hk => by
        cases hk
        exact hts (.label l) (by simp)
      have hedge := all_renderEdge hq (hts (.arrow a) (by simp)) hlabel
      exact (Text.All.cons hspace hedge).append (.cons hspace (ih fun u hu => hts u (by simp [hu])))
  | case3 a ts h ih =>
      have ha : Text.All q a := hts (.arrow a) (by simp)
      exact (Text.All.cons hspace ha).append (.cons hspace (ih fun u hu => hts u (by simp [hu])))
  | case4 ts ih =>
      have hjoin : q '&' := hq '&' (by decide)
      exact .cons hspace (.cons hjoin (.cons hspace (ih fun u hu => hts u (by simp [hu]))))
  | case5 t ts h₁ h₂ h₃ ih =>
      exact (all_render_token hq (hts t (by simp))).append (ih fun u hu => hts u (by simp [hu]))

omit hq in
theorem collapseSpaces_subset (t : Text) : Repair.collapseSpaces t ⊆ t := by
  fun_induction Repair.collapseSpaces t with
  | case1 => simp
  | case2 => simp
  | case3 c d s h ih => exact fun e he => List.mem_cons_of_mem c (ih he)
  | case4 c d s h ih => exact List.cons_subset_cons c ih

end

/-- A function of lines that writes nothing but what it finds and what rules write. -/
def Text.Keeps (f : Text → Text) : Prop :=
  ∀ q : Char → Prop, (∀ c, isWritten c = true → q c) → ∀ t, Text.All q t → Text.All q (f t)

theorem keeps_mapSegments {φ : Segment → Segment}
    (hφ : ∀ q : Char → Prop, (∀ c, isWritten c = true → q c) → ∀ s : Segment, s.Holds q →
      (φ s).Holds q) : Text.Keeps (Line.mapSegments φ) := by
  intro q hq t ht
  refine all_renderAll hq fun s hs => ?_
  obtain ⟨u, hu, rfl⟩ := List.mem_map.1 hs
  exact hφ q hq u (holds_scan ht u hu)

theorem keeps_mapFreeText {f : Text → Text} (hf : Text.Keeps f) :
    Text.Keeps (Line.mapSegments fun segment =>
      match segment with
      | .text t => .text (f t)
      | .node n => .node n) := by
  refine keeps_mapSegments fun q hq s hs => ?_
  cases s with
  | text t => exact hf q hq t hs
  | node n => exact hs

theorem keeps_normalizeBrackets : Text.Keeps (Line.mapSegments fun segment =>
    match segment with
    | .text t => .text (Repair.blankDelimiters t)
    | .node n => .node n) :=
  keeps_mapFreeText fun _ hq _ ht => all_blankDelimiters hq ht

theorem keeps_sanitizeLabels : Text.Keeps (Line.mapSegments fun segment =>
    match segment with
    | .text t => .text (Text.replaceMatches Repair.pipeLabel t)
    | .node n => .node (Repair.relabel n)) := by
  refine keeps_mapSegments fun q hq s hs => ?_
  cases s with
  | text t => exact all_replaceMatches (fun s r n hs => all_pipeLabel hq hs) hs
  | node n => exact ⟨hs.1, holds_relabel hq hs.1 hs.2⟩

theorem keeps_sanitizeIdents : Text.Keeps fun line =>
    Segment.renderAll (Repair.sanitizeSegments false (Segment.scan line)) :=
  fun _ hq _ ht => all_renderAll hq (holds_sanitizeSegments hq (holds_scan ht) false)

theorem keeps_repairEdges : Text.Keeps (Line.mapSegments fun segment =>
    match segment with
    | .text t => .text (Repair.repairEdgeText t)
    | .node n => .node n) :=
  keeps_mapFreeText fun _ hq _ ht => all_repairTokens hq (holds_lex ht)

theorem keeps_padArrows : Text.Keeps (Line.mapSegments fun segment =>
    match segment with
    | .text t => .text (Repair.padArrows t)
    | .node n => .node n) :=
  keeps_mapFreeText fun _ hq _ ht =>
    (all_padTokens hq (holds_lex ht)).of_subset (collapseSpaces_subset _)

end Flowchart
