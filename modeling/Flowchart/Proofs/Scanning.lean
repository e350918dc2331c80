import Flowchart.Proofs.Lexing

/-!
# Segments of a text put together

Free text without delimiters is passed over up to a shape, a shape with balanced delimiters is
read up to the one that closes it, and what stands inside a canonical shape is its label.
-/

namespace Flowchart

/-- The node that an identifier and a shape are read as. -/
def ShapedNode.ofInterior (id : Text) (c : Char) (i : Text) : ShapedNode :=
  ⟨id, (Segment.classifyInterior c i).1, (Segment.classifyInterior c i).2⟩

namespace Segment

/-! ## One character -/

theorem scanFrom_nil (back : Text) : scanFrom back [] = ofBack back := by
  rw [scanFrom]

theorem ne_pipe_of_isOpener {c : Char} (hc : isOpener c = true) : c ≠ '|' := by
  rintro rfl
  exact absurd hc (by decide)

/-- A label stays in the free text. -/
theorem scanFrom_label {back s label rest : Text} (h : untilPipe? s = some (label, rest)) :
    scanFrom back ('|' :: s) = scanFrom ('|' :: label.reverse ++ '|' :: back) rest := by
  rw [scanFrom, if_pos rfl]
  split
  · rename_i h'
    cases h.symm.trans h'
    rfl
  · rename_i h'
    cases h.symm.trans h'

/-- An opener behind an identifier begins a shape. -/
theorem scanFrom_opener {back : Text} {c : Char} (h : isOpener c = true ∧ gluedId back ≠ [])
    (s : Text) :
    scanFrom back (c :: s) = ofBack (back.drop (gluedId back).length) ++
      .node (.ofInterior (gluedId back).reverse c (shapeInterior c s).1) ::
        scanFrom [] (shapeInterior c s).2 := by
  rw [scanFrom, if_neg (ne_pipe_of_isOpener h.1), if_pos h]
  rfl

/-- Any other character stays in the free text. -/
theorem scanFrom_cons {back s : Text} {c : Char} (hpipe : c = '|' → untilPipe? s = none)
    (hopener : ¬ (isOpener c = true ∧ gluedId back ≠ [])) :
    scanFrom back (c :: s) = scanFrom (c :: back) s := by
  rw [scanFrom, if_neg hopener]
  split
  · rename_i hc
    split
    · rename_i hlabel
      cases (hpipe hc).symm.trans hlabel
    · rfl
  · rfl

/-- A pipe that opens no label stays in the free text. -/
theorem scanFrom_pipe {back s : Text} (h : untilPipe? s = none) :
    scanFrom back ('|' :: s) = scanFrom ('|' :: back) s :=
  scanFrom_cons (fun _ => h) fun hopen => absurd rfl (ne_pipe_of_isOpener hopen.1)

theorem node_notMem_ofBack (n : ShapedNode) (back : Text) : .node n ∉ ofBack back := by
  unfold ofBack
  split <;> simp

/-- Every node is read where an opener stands behind an identifier. -/
theorem exists_of_mem_scanFrom {back s : Text} {n : ShapedNode} (h : .node n ∈ scanFrom back s) :
    ∃ back' c i, isOpener c = true ∧ gluedId back' ≠ [] ∧
      n = .ofInterior (gluedId back').reverse c i := by
  fun_induction scanFrom back s with
  | case1 back => exact absurd h (node_notMem_ofBack n back)
  | case2 back s label rest hp ih => exact ih h
  | case3 back s hp ih => exact ih h
  | case4 back c s hc ho id body read ih =>
      rcases List.mem_append.1 h with h | h
      · exact absurd h (node_notMem_ofBack n _)
      · rcases List.mem_cons.1 h with h | h
        · cases h
          exact ⟨back, c, body.1, ho.1, ho.2, rfl⟩
        · exact ih h
  | case5 back c s hc ho ih => exact ih h

/-! ## Free text -/

/-- Free text in which no shape opens. -/
def IsFree (t : Text) : Prop :=
  ∀ back s, scanFrom back (t ++ s) = scanFrom (t.reverse ++ back) s

theorem IsFree.nil : IsFree [] := fun _ _ => rfl

theorem IsFree.append {t u : Text} (ht : IsFree t) (hu : IsFree u) : IsFree (t ++ u) := by
  intro back s
  rw [List.append_assoc, ht, hu, List.reverse_append, List.append_assoc]

theorem isFree_of_chars {t : Text} (h : ∀ c ∈ t, isOpener c = false ∧ c ≠ '|') : IsFree t := by
  induction t with
  | nil => exact .nil
  | cons c t ih =>
      obtain ⟨ho, hp⟩ := h c (by simp)
      intro back s
      rw [List.cons_append, scanFrom_cons (absurd · hp) (by simp [ho]),
        ih fun d hd => h d (by simp [hd])]
      simp

theorem isFree_of_all {t : Text} (h : t.all (fun c => !isOpener c && c != '|') = true) :
    IsFree t :=
  isFree_of_chars fun c hc => by simpa using List.all_eq_true.1 h c hc

theorem isFree_label {l : Text} (hl : '|' ∉ l) : IsFree ('|' :: l ++ ['|']) := by
  intro back s
  have hsplit : '|' :: l ++ ['|'] ++ s = '|' :: (l ++ '|' :: s) := by simp
  rw [hsplit, scanFrom_label (untilPipe?_append hl s)]
  simp

/-! ## Shapes -/

/-- Delimiters match inside the text, whatever stands around it. -/
def IsBalanced (i : Text) : Prop :=
  ∀ closers s, closers ≠ [] →
    closedInterior? closers (i ++ s) = (closedInterior? closers s).map fun r => (i ++ r.1, r.2)

theorem isBalanced_of_chars {i : Text} (h : ∀ c ∈ i, isOpener c = false ∧ isCloser c = false) :
    IsBalanced i := by
  induction i with
  | nil =>
      intro closers s _
      simp
  | cons c i ih =>
      obtain ⟨ho, hc⟩ := h c (by simp)
      intro closers s hne
      rw [List.cons_append, closedInterior?, if_neg (by simp [ho]), if_neg (by simp [hc]),
        ih (fun d hd => h d (by simp [hd])) closers s hne, Option.map_map]
      rfl

theorem IsBalanced.append {i j : Text} (hi : IsBalanced i) (hj : IsBalanced j) :
    IsBalanced (i ++ j) := by
  intro closers s hne
  rw [List.append_assoc, hi closers _ hne, hj closers s hne, Option.map_map]
  simp [Function.comp_def]

theorem isOpener_closerOf (c : Char) : isOpener (closerOf c) = false := by
  unfold closerOf
  split
  · rfl
  · split <;> rfl

theorem IsBalanced.enclose {c : Char} {i : Text} (hc : isOpener c = true) (hi : IsBalanced i) :
    IsBalanced (c :: i ++ [closerOf c]) := by
  intro closers s hne
  obtain ⟨closer, outer, rfl⟩ := List.exists_cons_of_ne_nil hne
  have hsplit : c :: i ++ [closerOf c] ++ s = c :: (i ++ closerOf c :: s) := by simp
  have hclose : closedInterior? (closerOf c :: closer :: outer) (closerOf c :: s)
      = (closedInterior? (closer :: outer) s).map fun r => (closerOf c :: r.1, r.2) := by
    rw [closedInterior?, if_neg (by simp [isOpener_closerOf]), if_pos (isCloser_closerOf c)]
    simp [closeWith]
  rw [hsplit, closedInterior?, if_pos hc, hi _ _ (by simp), hclose, Option.map_map, Option.map_map]
  simp [Function.comp_def]

theorem closedInterior?_closer (c : Char) (s : Text) :
    closedInterior? [closerOf c] (closerOf c :: s) = some ([], s) := by
  rw [closedInterior?, if_neg (by simp [isOpener_closerOf]), if_pos (isCloser_closerOf c)]
  simp [closeWith]

theorem shapeInterior_of_isBalanced {c : Char} {i : Text} (hi : IsBalanced i) (s : Text) :
    shapeInterior c (i ++ closerOf c :: s) = (i, s) := by
  rw [shapeInterior, hi _ _ (by simp), closedInterior?_closer]
  simp

/-! ## Glued identifiers -/

/-- No identifier reaches back into the text, which is given backwards. -/
def StopsGlue (back : Text) : Prop := ∀ c ∈ back.head?, stopsId c = true ∨ c = '>'

theorem untilDouble_eq_self {c : Char} {s : Text} (h : ¬ [c, c] <:+: s) : untilDouble c s = s := by
  fun_induction untilDouble c s with
  | case1 => rfl
  | case2 => rfl
  | case3 a b s hc =>
      obtain ⟨rfl, rfl⟩ := hc
      exact absurd (List.IsPrefix.isInfix ⟨s, rfl⟩) h
  | case4 a b s hc ih =>
      rw [ih fun hs => h (hs.trans (List.suffix_cons a _).isInfix)]

theorem takeWhile_append_of_stop {p : Char → Bool} {s t : Text} (hs : ∀ c ∈ s, p c = true)
    (ht : ∀ c ∈ t.head?, p c = false) : (s ++ t).takeWhile p = s := by
  rw [Text.takeWhile_append_of_head? ht, List.takeWhile_eq_self_iff.2 hs]

theorem not_stopsId_of_isAlphanum {c : Char} (h : c.isAlphanum = true) : stopsId c = false := by
  have hne {d : Char} (hd : d.isAlphanum = false) : c ≠ d := by
    rintro rfl
    rw [h] at hd
    cases hd
  simp [stopsId, Ident.not_isBlank_of_isAlphanum h, isOpener, isCloser, hne]

theorem not_delimiter_of_isAlphanum {c : Char} (h : c.isAlphanum = true) :
    isOpener c = false ∧ isCloser c = false ∧ c ≠ '|' := by
  have := not_stopsId_of_isAlphanum h
  simp only [stopsId, Bool.or_eq_false_iff, beq_eq_false_iff_ne] at this
  exact ⟨this.1.1.1.2, this.1.1.2, this.1.2⟩

theorem mem_of_isOpener (c : Char) (h : isOpener c = true) : c ∈ ['[', '(', '{'] := by
  simpa [isOpener, or_assoc] using h

theorem mem_of_isCloser (c : Char) (h : isCloser c = true) : c ∈ [']', ')', '}'] := by
  simpa [isCloser, or_assoc] using h

theorem isOpener_eq_false_of_isBlank {c : Char} (h : Text.isBlank c = true) :
    isOpener c = false :=
  Text.eq_false_of_all mem_of_isOpener (by decide) h

theorem isCloser_eq_false_of_isBlank {c : Char} (h : Text.isBlank c = true) :
    isCloser c = false :=
  Text.eq_false_of_all mem_of_isCloser (by decide) h

/-- An identifier is read back whole if nothing in it stops the reading and no stroke is doubled. -/
theorem gluedId_append {id back : Text} (hid : ∀ c ∈ id, stopsId c = false ∧ c ≠ '>')
    (hdash : ¬ ['-', '-'] <:+: id) (hbar : ¬ ['=', '='] <:+: id) (hback : StopsGlue back) :
    gluedId (id ++ back) = id := by
  have htake : ((id ++ back).takeWhile (!stopsId ·)).takeWhile (· != '>') = id := by
    rw [List.takeWhile_append_of_pos fun c hc => by simp [(hid c hc).1]]
    refine takeWhile_append_of_stop (fun c hc => by simp [(hid c hc).2]) fun c hc => ?_
    cases back with
    | nil => cases hc
    | cons d back =>
        rcases hback d rfl with hd | rfl
        · rw [List.takeWhile_cons, if_neg (by simp [hd])] at hc
          cases hc
        · rw [List.takeWhile_cons] at hc
          split at hc <;> cases hc
          rfl
  rw [gluedId, htake, untilDouble_eq_self hdash, untilDouble_eq_self hbar]

/-- A shape glued to the text has the whole text for its identifier. -/
structure IsGlued (id : Text) : Prop where
  ne_nil : id ≠ []
  free : IsFree id
  glued : ∀ back, StopsGlue back → gluedId (id.reverse ++ back) = id.reverse

theorem isFree_word {w : Text} (hw : ∀ c ∈ w, c.isAlphanum = true) : IsFree w := by
  refine isFree_of_chars fun c hc => ?_
  obtain ⟨ho, -, hp⟩ := not_delimiter_of_isAlphanum (hw c hc)
  exact ⟨ho, hp⟩

theorem isGlued_word {w : Text} (hne : w ≠ []) (hw : ∀ c ∈ w, c.isAlphanum = true) :
    IsGlued w := by
  have hrev : ∀ c ∈ w.reverse, c.isAlphanum = true := by simpa using hw
  have hdouble {c : Char} (hc : c.isAlphanum = false) : ¬ [c, c] <:+: w.reverse := by
    intro h
    rw [hrev c (h.subset (by simp))] at hc
    cases hc
  refine ⟨hne, isFree_word hw, fun back hback => ?_⟩
  refine gluedId_append (fun c hc => ⟨not_stopsId_of_isAlphanum (hrev c hc), ?_⟩)
    (hdouble (by decide)) (hdouble (by decide)) hback
  rintro rfl
  exact absurd (hrev _ hc) (by decide)

/-- A shape and the identifier that it is glued to. -/
theorem scanFrom_glued {id i back : Text} {c : Char} (hne : id ≠ []) (hfree : IsFree id)
    (hglued : gluedId (id.reverse ++ back) = id.reverse) (hc : isOpener c = true)
    (hi : IsBalanced i) (s : Text) :
    scanFrom back (id ++ c :: i ++ closerOf c :: s)
      = ofBack back ++
        .node ⟨id, (classifyInterior c i).1, (classifyInterior c i).2⟩ :: scanFrom [] s := by
  have hopen : isOpener c = true ∧ gluedId (id.reverse ++ back) ≠ [] := by
    rw [hglued]
    exact ⟨hc, by simpa using hne⟩
  rw [List.append_assoc, hfree, List.cons_append, scanFrom_opener hopen, hglued,
    shapeInterior_of_isBalanced hi, List.drop_left, List.reverse_reverse, ShapedNode.ofInterior]

/-- A shape that is glued to the whole of a text. -/
theorem scanFrom_shape {id i back : Text} {c : Char} (hid : IsGlued id) (hc : isOpener c = true)
    (hi : IsBalanced i) (hback : StopsGlue back) (s : Text) :
    scanFrom back (id ++ c :: i ++ closerOf c :: s)
      = ofBack back ++
        .node ⟨id, (classifyInterior c i).1, (classifyInterior c i).2⟩ :: scanFrom [] s :=
  scanFrom_glued hid.ne_nil hid.free (hid.glued back hback) hc hi s

end Segment

end Flowchart
