import Flowchart.Proofs.NodeTexts

/-!
# Parentheses in a rectangle

A rectangle whose interior stands in parentheses is a cylinder. The scanner matches delimiters to
find where the rectangle ends, but of the interior it only sees the first and the last character.
So an interior that begins with one pair of parentheses and ends with another is taken for a
cylinder too.
-/

namespace Flowchart

namespace Segment

/-! ## Nested delimiters -/

/-- Every delimiter is closed by its own closer, and no two pairs cross. -/
inductive IsPaired : Text → Prop where
  | nil : IsPaired []
  | char {c : Char} {t : Text} (hc : isOpener c = false ∧ isCloser c = false) (ht : IsPaired t) :
      IsPaired (c :: t)
  | pair {c : Char} {i t : Text} (hc : isOpener c = true) (hi : IsPaired i) (ht : IsPaired t) :
      IsPaired (c :: i ++ closerOf c :: t)

theorem isPaired_of_all {t : Text} (h : t.all (fun c => !isOpener c && !isCloser c) = true) :
    IsPaired t := by
  induction t with
  | nil => exact .nil
  | cons c t ih =>
      rw [List.all_cons, Bool.and_eq_true] at h
      exact .char (by simpa using h.1) (ih h.2)

theorem IsPaired.append {s t : Text} (hs : IsPaired s) (ht : IsPaired t) : IsPaired (s ++ t) := by
  induction hs with
  | nil => exact ht
  | char hc _ ih => exact .char hc ih
  | pair hc hi _ _ ih =>
      rw [List.append_assoc]
      exact .pair hc hi ih

theorem IsPaired.isBalanced {t : Text} (h : IsPaired t) : IsBalanced t := by
  induction h with
  | nil => exact isBalanced_of_chars nofun
  | @char c t hc _ ih =>
      have hone : IsBalanced [c] :=
        isBalanced_of_chars fun d hd => by rwa [List.mem_singleton.1 hd]
      exact hone.append ih
  | @pair c i t hc _ _ hi ht =>
      have hpair : IsBalanced (c :: i ++ [closerOf c]) := hi.enclose hc
      have hsplit : c :: i ++ closerOf c :: t = c :: i ++ [closerOf c] ++ t := by simp
      rw [hsplit]
      exact hpair.append ht

theorem IsPaired.exists_partner {c : Char} {s : Text} (hc : isOpener c = true)
    (h : IsPaired (c :: s)) : ∃ i r, s = i ++ closerOf c :: r ∧ IsPaired i := by
  cases h with
  | char hplain _ =>
      rw [hplain.1] at hc
      cases hc
  | pair _ hi _ => exact ⟨_, _, rfl, hi⟩

/-! ## Identifiers of shapes -/

/-- A text that a shape takes whole for its identifier: no blanks, delimiters, pipes, joins or
heads, and no stroke that is doubled. -/
structure IsId (id : Text) : Prop where
  ne_nil : id ≠ []
  chars : ∀ c ∈ id, stopsId c = false ∧ c ≠ '>'
  dashes : ¬ ['-', '-'] <:+: id
  bars : ¬ ['=', '='] <:+: id

theorem isId_of_isValid {id : Text} (h : Ident.isValid id = true) : IsId id := by
  obtain ⟨hne, halnum, -⟩ := Ident.isValid_iff.1 h
  have hother {c : Char} (hc : c.isAlphanum = false) : c ∉ id := by
    intro hmem
    rw [halnum c hmem] at hc
    cases hc
  have hhead : ∀ c ∈ id, c ≠ '>' := by
    rintro c hc rfl
    exact hother (by decide) hc
  refine ⟨hne, fun c hc => ⟨not_stopsId_of_isAlphanum (halnum c hc), hhead c hc⟩, fun h => ?_,
    fun h => ?_⟩
  · exact hother (by decide) (h.subset (by simp : '-' ∈ ['-', '-']))
  · exact hother (by decide) (h.subset (by simp : '=' ∈ ['=', '=']))

theorem IsId.isGlued {id : Text} (h : IsId id) : IsGlued id := by
  have hdouble {c : Char} (hc : ¬ [c, c] <:+: id) : ¬ [c, c] <:+: id.reverse :=
    fun hrev => hc (List.reverse_infix.1 hrev)
  refine ⟨h.ne_nil, isFree_of_chars fun c hc => ?_, fun back hback => ?_⟩
  · have hstop := (h.chars c hc).1
    simp only [stopsId, Bool.or_eq_false_iff, beq_eq_false_iff_ne] at hstop
    exact ⟨hstop.1.1.1.2, hstop.1.2⟩
  · exact gluedId_append (fun c hc => h.chars c (List.mem_reverse.1 hc)) (hdouble h.dashes)
      (hdouble h.bars) hback

/-! ## Rectangles -/

/-- What an interior is read as that begins with a parenthesis. -/
def parenthesized (t : Text) : Shape × Text :=
  if (Text.trim t).getLast? = some ')' then
    (.storage, Text.trim (Text.trim t).tail.dropLast)
  else (.process, Text.trim t)

theorem classifyInterior_parenthesis {t : Text} (hopen : t.head? = some '(') :
    classifyInterior '[' t = parenthesized t := by
  obtain ⟨s, rfl⟩ := List.head?_eq_some_iff.1 hopen
  obtain ⟨l, htrim⟩ : ∃ l, Text.trim ('(' :: s) = '(' :: l :=
    List.head?_eq_some_iff.1 (Text.head?_trimBy_cons (by decide) s)
  rw [parenthesized]
  -- only the last character is looked at, not the parenthesis that belongs to the first one
  split
  · rename_i hlast
    obtain ⟨m, hm⟩ := List.getLast?_eq_some_iff.1 hlast
    cases m with
    | nil =>
        rw [hm] at htrim
        cases htrim
    | cons c m =>
        rw [hm] at htrim
        obtain ⟨rfl, -⟩ := List.cons.inj htrim
        rw [classifyInterior_storage hm, hm, List.cons_append, List.tail_cons, List.dropLast_concat]
  · rename_i hlast
    rw [classifyInterior_process, peel?_eq_none, Option.getD_none, Text.trim_trim]
    · rw [htrim]
      rintro c ⟨⟩
      decide
    · rw [htrim]
      rintro c ⟨⟩
      rfl
    · rw [htrim, between?, if_neg]
      rintro ⟨-, hend⟩
      refine hlast ?_
      rw [htrim, List.getLast?_cons, hend]
      rfl

theorem scan_parenthesized {id t : Text} (hid : IsId id) (ht : IsPaired t)
    (hopen : t.head? = some '(') : scan (id ++ '[' :: t ++ [']'])
      = [.node ⟨id, (parenthesized t).1, (parenthesized t).2⟩] := by
  have hshape := scanFrom_shape hid.isGlued (by decide : isOpener '[' = true) ht.isBalanced
    (nofun : StopsGlue []) []
  rw [classifyInterior_parenthesis hopen, scanFrom_nil] at hshape
  exact hshape

/-- The interior ends with a parenthesis where the partner of the first one does, or where another
one stands at the end. -/
theorem getLast?_trim_partner (i r : Text) :
    (Text.trim ('(' :: i ++ ')' :: r)).getLast? = some ')' ↔
      Text.IsBlanks r ∨ (Text.trim r).getLast? = some ')' := by
  obtain ⟨b, b', hb, hb', hr⟩ := Text.exists_trim r
  have hfirst : Text.IsTrimmed ('(' :: i ++ [')']) := by
    rw [← trim_enclosed (by decide) (by decide)]
    exact Text.isTrimmed_trim _
  by_cases hempty : Text.trim r = []
  · have hblanks : Text.IsBlanks r := by
      rw [hr, hempty, List.append_nil]
      exact hb.append hb'
    have htrim := Text.trim_append_append .nil hblanks (by simp) hfirst
    rw [List.nil_append, List.append_assoc, List.singleton_append] at htrim
    rw [htrim, List.getLast?_concat]
    simp [hblanks]
  · have hlast : Text.IsTrimmed ('(' :: i ++ [')'] ++ b ++ Text.trim r) := by
      refine ⟨fun c hc => ?_, fun c hc => ?_⟩
      · cases hc
        decide
      · rw [List.getLast?_append_of_ne_nil _ hempty] at hc
        exact (Text.isTrimmed_trim r).getLast c hc
    have htrim := Text.trim_append_append .nil hb' (by simp) hlast
    have hsplit : '(' :: i ++ ')' :: r
        = [] ++ ('(' :: i ++ [')'] ++ b ++ Text.trim r) ++ b' := by
      conv_lhs => rw [hr]
      simp
    have hblanks : ¬ Text.IsBlanks r := fun h => hempty (Text.trim_of_isBlanks h)
    rw [hsplit, htrim, List.getLast?_append_of_ne_nil _ hempty]
    simp [hblanks]

/-- A rectangle whose interior begins with a parenthesis is a cylinder where the interior ends with
one. That is the partner of the first one exactly if no other one stands at the end. -/
theorem isStorage_scan_iff {id t : Text} (hid : IsId id) (ht : IsPaired t)
    (hopen : t.head? = some '(') :
    (∃ i r, t = '(' :: i ++ ')' :: r ∧ IsPaired i) ∧
      ∀ i r, t = '(' :: i ++ ')' :: r → IsPaired i →
        ∃ n : ShapedNode, scan (id ++ '[' :: t ++ [']']) = [.node n] ∧ n.id = id ∧
          (n.shape = .storage ∨ n.shape = .process) ∧
          (n.shape = .storage ↔ Text.IsBlanks r ∨ (Text.trim r).getLast? = some ')') ∧
          ((n.shape = .storage ↔ Text.IsBlanks r) ↔ (Text.trim r).getLast? ≠ some ')') := by
  obtain ⟨s, rfl⟩ := List.head?_eq_some_iff.1 hopen
  constructor
  · obtain ⟨i, r, rfl, hi⟩ := ht.exists_partner (by decide)
    exact ⟨i, r, rfl, hi⟩
  · intro i r hsplit _
    have hlast := getLast?_trim_partner i r
    rw [← hsplit] at hlast
    have hnone : Text.IsBlanks r → (Text.trim r).getLast? ≠ some ')' := by
      intro hr
      rw [Text.trim_of_isBlanks hr]
      exact nofun
    refine ⟨_, scan_parenthesized hid ht hopen, ?_⟩
    rw [parenthesized]
    split
    · rename_i h
      have hends := hlast.1 h
      refine ⟨rfl, .inl rfl, iff_of_true rfl hends, ?_⟩
      rw [eq_self, true_iff]
      exact ⟨hnone, hends.resolve_right⟩
    · rename_i h
      have hends := mt hlast.2 h
      have hshape : ¬ Shape.process = .storage := by decide
      refine ⟨rfl, .inr rfl, iff_of_false hshape hends, ?_⟩
      exact iff_of_true (iff_of_false hshape (mt .inl hends)) (mt .inr hends)

/-- The last parenthesis stands in braces, and the partner of the first one is not the last. -/
theorem isStorage_scan_braces :
    let id : Text := "A1".toList
    let i : Text := "(x) | [y]".toList
    let r : Text := " or {(z)} ".toList
    let t : Text := '(' :: i ++ ')' :: r
    IsId id ∧ IsPaired t ∧ t.head? = some '(' ∧ IsPaired i ∧
      ∃ n : ShapedNode, scan (id ++ '[' :: t ++ [']']) = [.node n] ∧ n.id = id ∧
        n.shape = .process := by
  intro id i r t
  have hid : IsId id := isId_of_isValid (by decide)
  have hx : IsPaired "(x)".toList := .pair (c := '(') rfl (isPaired_of_all (t := ['x']) rfl) .nil
  have hy : IsPaired "[y]".toList := .pair (c := '[') rfl (isPaired_of_all (t := ['y']) rfl) .nil
  have hz : IsPaired "(z)".toList := .pair (c := '(') rfl (isPaired_of_all (t := ['z']) rfl) .nil
  have hi : IsPaired i := hx.append ((isPaired_of_all (t := " | ".toList) rfl).append hy)
  have hr : IsPaired r := (isPaired_of_all (t := " or ".toList) rfl).append
    (.pair (c := '{') rfl hz (isPaired_of_all (t := [' ']) rfl))
  have ht : IsPaired t := .pair (c := '(') rfl hi hr
  obtain ⟨n, hscan, hn, hshape, hstorage, -⟩ := (isStorage_scan_iff hid ht rfl).2 i r rfl hi
  have hblanks : ¬ Text.IsBlanks r := by
    intro h
    exact absurd (h 'o' (by decide)) (by decide)
  have hlast : (Text.trim r).getLast? ≠ some ')' := by decide
  exact ⟨hid, ht, rfl, hi, n, hscan, hn, hshape.resolve_left fun h =>
    (hstorage.1 h).elim hblanks hlast⟩

/-- The first parenthesis is closed long before the end, and the rectangle is taken for a cylinder
all the same. -/
theorem scan_storage_of_pairs :
    let i : Text := "x".toList
    let r : Text := " or (y)".toList
    IsId "A".toList ∧ IsPaired ('(' :: i ++ ')' :: r) ∧ IsPaired i ∧ ¬ Text.IsBlanks r ∧
      scan ("A".toList ++ '[' :: ('(' :: i ++ ')' :: r) ++ [']'])
        = [.node ⟨"A".toList, .storage, "x) or (y".toList⟩] := by
  intro i r
  have hi : IsPaired i := isPaired_of_all rfl
  have hy : IsPaired "(y)".toList := .pair (c := '(') rfl (isPaired_of_all (t := ['y']) rfl) .nil
  have hr : IsPaired r := (isPaired_of_all (t := " or ".toList) rfl).append hy
  refine ⟨isId_of_isValid (by decide), .pair (c := '(') rfl hi hr, hi, fun h => ?_,
    by decide +kernel⟩
  exact absurd (h 'o' (by decide)) (by decide)

end Segment

end Flowchart
