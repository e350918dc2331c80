import Flowchart.Proofs.Scanning
import Flowchart.Chart.Clean

/-!
# Texts of nodes

A node is written as an identifier, or as an identifier with delimiters around an interior. The
interior tells the shape and the label. A canonical text is read as the node that it was written
for, unless the label of a rectangle has a slash in front.
-/

namespace Flowchart

/-! ## Canonical interiors -/

namespace Label

/-- Characters that a label can hold. -/
def IsLegal (l : Text) : Prop := ∀ c ∈ l, isIllegal c = false

theorem IsClean.isLegal {l : Text} (h : IsClean l) : IsLegal l := fun _ hc => h.not_isIllegal hc

theorem isLegal_clean (l : Text) : IsLegal (clean l) := fun _ hc => not_isIllegal_of_mem_clean hc

theorem not_delimiter_of_not_isIllegal {c : Char} (h : isIllegal c = false) :
    isOpener c = false ∧ isCloser c = false ∧ c ≠ '|' := by
  have hlegal : (!isIllegal c) = true := by simpa using h
  have hnone {isDelimiter : Char → Bool} {l : List Char}
      (hmem : ∀ d, isDelimiter d = true → d ∈ l) (hl : l.all (!!isIllegal ·) = true) :
      isDelimiter c = false :=
    Text.eq_false_of_all hmem hl hlegal
  refine ⟨hnone Segment.mem_of_isOpener (by decide), hnone Segment.mem_of_isCloser (by decide), ?_⟩
  rintro rfl
  exact absurd h (by decide)

theorem IsLegal.isBalanced {l : Text} (h : IsLegal l) : Segment.IsBalanced l :=
  Segment.isBalanced_of_chars fun c hc =>
    ⟨(not_delimiter_of_not_isIllegal (h c hc)).1, (not_delimiter_of_not_isIllegal (h c hc)).2.1⟩

theorem IsLegal.pipe {l : Text} (h : IsLegal l) : '|' ∉ l :=
  fun hm => (not_delimiter_of_not_isIllegal (h _ hm)).2.2 rfl

end Label

namespace Shape

/-- The outer delimiter of the shape. -/
def opener : Shape → Char
  | terminal => '('
  | input => '['
  | output => '['
  | process => '['
  | decision => '{'
  | storage => '['

/-- The label with the inner delimiters of the shape. -/
def interior (s : Shape) (l : Text) : Text :=
  match s with
  | terminal => '[' :: l ++ [']']
  | input => '/' :: l ++ ['/']
  | output => '\\' :: l ++ ['\\']
  | process => l
  | decision => l
  | storage => '(' :: l ++ [')']

theorem isOpener_opener (s : Shape) : isOpener s.opener = true := by
  cases s <;> rfl

/-- Nothing at the ends of the label is read as a delimiter. -/
def KeepsLabel (s : Shape) (l : Text) : Prop :=
  match s with
  | process =>
    (∀ c ∈ l.head?, Label.isSlash c = false ∧ c ≠ '[') ∧ Segment.between? '(' ')' l = none
  | decision => ∀ c ∈ l.head?, c ≠ '{'
  | _ => True

theorem wrap_eq (s : Shape) (l : Text) :
    s.wrap l = s.opener :: s.interior l ++ [closerOf s.opener] := by
  cases s <;> simp [wrap, opener, interior, opening, closing, closerOf]

theorem isBalanced_interior (s : Shape) {l : Text} (hl : Label.IsLegal l) :
    Segment.IsBalanced (s.interior l) := by
  have slashed {c : Char} (hc : isOpener c = false ∧ isCloser c = false) :
      Segment.IsBalanced (c :: l ++ [c]) := by
    have hone : Segment.IsBalanced [c] :=
      Segment.isBalanced_of_chars fun d hd => by
        rw [List.mem_singleton] at hd
        exact hd ▸ hc
    exact (hone.append hl.isBalanced).append hone
  cases s with
  | terminal => exact Segment.IsBalanced.enclose (c := '[') rfl hl.isBalanced
  | input => exact slashed (by decide)
  | output => exact slashed (by decide)
  | process => exact hl.isBalanced
  | decision => exact hl.isBalanced
  | storage => exact Segment.IsBalanced.enclose (c := '(') rfl hl.isBalanced

end Shape

/-! ## Classified interiors -/

namespace Segment

theorem peel?_cons (c : Char) (isEnd : Char → Bool) (l : Text) :
    peel? c isEnd (c :: l) = some (Text.dropLastIf isEnd l) := by
  simp [peel?]

theorem peel?_eq_none {c : Char} {isEnd : Char → Bool} {l : Text} (h : ∀ d ∈ l.head?, d ≠ c) :
    peel? c isEnd l = none := by
  cases l with
  | nil => rfl
  | cons d l => rw [peel?, if_neg (h d rfl)]

theorem between?_eq_none {o c : Char} {l : Text} (h : ∀ d ∈ l.head?, d ≠ o) :
    between? o c l = none := by
  cases l with
  | nil => rfl
  | cons d l => rw [between?, if_neg fun hd => h d rfl hd.1]

theorem between?_cons (o c : Char) (l : Text) : between? o c (o :: l ++ [c]) = some l := by
  simp [between?]

theorem dropLastIf_append {isEnd : Char → Bool} {c : Char} (hc : isEnd c = true) (l : Text) :
    Text.dropLastIf isEnd (l ++ [c]) = l := by
  rw [Text.dropLastIf, if_pos (by simp [hc]), List.dropLast_concat]

theorem dropLastIf_eq_self {isEnd : Char → Bool} {l : Text}
    (h : ∀ c ∈ l.getLast?, isEnd c = false) :
    Text.dropLastIf isEnd l = l := by
  rw [Text.dropLastIf, if_neg]
  cases hl : l.getLast? with
  | none => simp
  | some c => simp [h c hl]

theorem trim_enclosed {c d : Char} (hc : Text.isBlank c = false) (hd : Text.isBlank d = false)
    (l : Text) : Text.trim (c :: l ++ [d]) = c :: l ++ [d] := by
  refine Text.trim_eq_self ⟨fun e he => ?_, fun e he => ?_⟩
  · cases he
    exact hc
  · rw [List.getLast?_append] at he
    cases he
    exact hd

theorem head?_ne_of_isLegal {l : Text} (hl : Label.IsLegal l) {d : Char}
    (hd : Label.isIllegal d = true) : ∀ c ∈ l.head?, c ≠ d := by
  rintro c hc rfl
  rw [hl c (List.mem_of_mem_head? hc)] at hd
  cases hd

theorem isLegal_trim {l : Text} (hl : Label.IsLegal l) : Label.IsLegal (Text.trim l) :=
  fun c hc => hl c (Text.trim_subset l hc)

theorem classifyInterior_round {i : Text} :
    classifyInterior '(' i = (.terminal, Text.trim (((peel? '[' (· == ']') (Text.trim i)).or
      (peel? '(' (· == ')') (Text.trim i))).getD (Text.trim i))) := rfl

theorem classifyInterior_brace {i : Text} :
    classifyInterior '{' i =
      (.decision, Text.trim ((peel? '{' (· == '}') (Text.trim i)).getD (Text.trim i))) := rfl

/-- Either slash. -/
theorem isSlash_eq : (fun c => c == '/' || c == '\\') = Label.isSlash := rfl

theorem classifyInterior_input {i l : Text} (h : Text.trim i = '/' :: l) :
    classifyInterior '[' i = (.input, Text.trim (Text.dropLastIf Label.isSlash l)) := by
  have hpeel := peel?_cons '/' Label.isSlash l
  rw [← h] at hpeel
  simp [classifyInterior, isSlash_eq, hpeel]

theorem classifyInterior_output {i l : Text} (h : Text.trim i = '\\' :: l) :
    classifyInterior '[' i = (.output, Text.trim (Text.dropLastIf Label.isSlash l)) := by
  have hnone : peel? '/' Label.isSlash (Text.trim i) = none :=
    peel?_eq_none (by simp [h])
  have hpeel := peel?_cons '\\' Label.isSlash l
  rw [← h] at hpeel
  simp [classifyInterior, isSlash_eq, hpeel, hnone]

theorem classifyInterior_storage {i l : Text} (h : Text.trim i = '(' :: l ++ [')']) :
    classifyInterior '[' i = (.storage, Text.trim l) := by
  have hslash : peel? '/' Label.isSlash (Text.trim i) = none := peel?_eq_none (by simp [h])
  have hback : peel? '\\' Label.isSlash (Text.trim i) = none := peel?_eq_none (by simp [h])
  have hbetween := between?_cons '(' ')' l
  rw [← h] at hbetween
  simp [classifyInterior, isSlash_eq, hslash, hback, hbetween]

theorem classifyInterior_process {i : Text}
    (hslash : ∀ c ∈ (Text.trim i).head?, Label.isSlash c = false)
    (hround : between? '(' ')' (Text.trim i) = none) :
    classifyInterior '[' i =
      (.process, Text.trim ((peel? '[' (· == ']') (Text.trim i)).getD (Text.trim i))) := by
  have hne {d : Char} (hd : Label.isSlash d = true) : ∀ c ∈ (Text.trim i).head?, c ≠ d := by
    rintro c hc rfl
    rw [hslash c hc] at hd
    cases hd
  have h₁ : peel? '/' Label.isSlash (Text.trim i) = none := peel?_eq_none (hne (by decide))
  have h₂ : peel? '\\' Label.isSlash (Text.trim i) = none := peel?_eq_none (hne (by decide))
  simp [classifyInterior, isSlash_eq, h₁, h₂, hround]

/-- The interior around a label is read as the shape and the label, blanks apart. -/
theorem classifyInterior_of_keepsLabel (s : Shape) {l : Text} (h : s.KeepsLabel (Text.trim l)) :
    classifyInterior s.opener (s.interior l) = (s, Text.trim l) := by
  cases s with
  | terminal =>
      show classifyInterior '(' ('[' :: l ++ [']']) = _
      rw [classifyInterior_round, trim_enclosed (by decide) (by decide), List.cons_append,
        peel?_cons, dropLastIf_append (by decide)]
      rfl
  | input =>
      show classifyInterior '[' ('/' :: l ++ ['/']) = _
      rw [classifyInterior_input (l := l ++ ['/']) (trim_enclosed (by decide) (by decide) l),
        dropLastIf_append (by decide)]
  | output =>
      show classifyInterior '[' ('\\' :: l ++ ['\\']) = _
      rw [classifyInterior_output (l := l ++ ['\\']) (trim_enclosed (by decide) (by decide) l),
        dropLastIf_append (by decide)]
  | process =>
      obtain ⟨hhead, hround⟩ := h
      show classifyInterior '[' l = _
      rw [classifyInterior_process (fun c hc => (hhead c hc).1) hround,
        peel?_eq_none fun c hc => (hhead c hc).2, Option.getD_none, Text.trim_trim]
  | decision =>
      show classifyInterior '{' l = _
      rw [classifyInterior_brace, peel?_eq_none h, Option.getD_none, Text.trim_trim]
  | storage =>
      show classifyInterior '[' ('(' :: l ++ [')']) = _
      rw [classifyInterior_storage (trim_enclosed (by decide) (by decide) l)]

theorem keepsLabel_of_isLegal (s : Shape) {l : Text} (hl : Label.IsLegal l)
    (hs : s = .process → ∀ c ∈ l.head?, Label.isSlash c = false) : s.KeepsLabel l := by
  have hne {d : Char} (hd : Label.isIllegal d = true) := head?_ne_of_isLegal hl hd
  cases s with
  | process =>
      exact ⟨fun c hc => ⟨hs rfl c hc, hne (by decide) c hc⟩, between?_eq_none (hne (by decide))⟩
  | decision => exact hne (by decide)
  | terminal => trivial
  | input => trivial
  | output => trivial
  | storage => trivial

/-- What a canonical interior is read as. -/
theorem classifyInterior_interior (s : Shape) {l : Text} (hl : Label.IsLegal l)
    (hs : s = .process → ∀ c ∈ (Text.trim l).head?, Label.isSlash c = false) :
    classifyInterior s.opener (s.interior l) = (s, Text.trim l) :=
  classifyInterior_of_keepsLabel s (keepsLabel_of_isLegal s (isLegal_trim hl) hs)

theorem dropLastIf_subset (p : Char → Bool) (t : Text) : Text.dropLastIf p t ⊆ t := by
  unfold Text.dropLastIf
  split
  · exact List.dropLast_subset t
  · exact List.Subset.refl t

theorem forall_mem_dropLastIf_iff {q : Char → Prop} {p : Char → Bool}
    (hq : ∀ c, p c = true → q c) {s : Text} :
    (∀ c ∈ Text.dropLastIf p s, q c) ↔ ∀ c ∈ s, q c := by
  refine ⟨fun h c hc => ?_, fun h c hc => h c (dropLastIf_subset p s hc)⟩
  rw [Text.dropLastIf] at h
  split at h
  · rename_i hlast
    rcases List.eq_nil_or_concat' s with rfl | ⟨t, d, rfl⟩
    · cases hc
    · rw [List.getLast?_concat] at hlast
      rw [List.dropLast_concat] at h
      rcases List.mem_append.1 hc with hc | hc
      · exact h c hc
      · rw [List.mem_singleton.1 hc]
        exact hq d hlast
  · exact h c hc

theorem subset_of_peel? {o : Char} {p : Char → Bool} {t l : Text} (h : peel? o p t = some l) :
    l ⊆ t := by
  cases t with
  | nil => cases h
  | cons a t =>
      rw [peel?] at h
      split at h
      · cases h
        exact fun d hd => List.mem_cons_of_mem a (dropLastIf_subset p t hd)
      · cases h

theorem subset_of_between? {o c : Char} {t l : Text} (h : between? o c t = some l) : l ⊆ t := by
  cases t with
  | nil => cases h
  | cons a t =>
      rw [between?] at h
      split at h
      · cases h
        exact fun d hd => List.mem_cons_of_mem a (List.dropLast_subset t hd)
      · cases h

theorem getD_subset {o : Option Text} {t : Text} (h : ∀ l, o = some l → l ⊆ t) : o.getD t ⊆ t := by
  cases o with
  | none => exact List.Subset.refl t
  | some l => exact h l rfl

/-- The label comes from the interior. -/
theorem mem_of_mem_classifyInterior {c d : Char} {i : Text} (h : d ∈ (classifyInterior c i).2) :
    d ∈ i := by
  refine Text.trim_subset i ?_
  unfold classifyInterior at h
  dsimp only at h
  replace h := Text.trim_subset _ h
  split at h
  · refine getD_subset (fun l hl => ?_) h
    rcases Option.or_eq_some_iff.1 hl with hl | ⟨-, hl⟩
    · exact subset_of_peel? hl
    · exact subset_of_peel? hl
  · split at h
    · exact getD_subset (fun l hl => subset_of_peel? hl) h
    · split at h
      · rename_i l hl
        exact subset_of_peel? hl h
      · split at h
        · rename_i l hl
          exact subset_of_peel? hl h
        · split at h
          · rename_i l hl
            exact subset_of_between? hl h
          · exact getD_subset (fun l hl => subset_of_peel? hl) h

end Segment

theorem Node.IsClean.id {n : Node} (h : n.IsClean) : Ident.isValid n.id = true := by
  cases n with
  | bare id => exact h
  | shaped n => exact h.1

/-! ## Texts of nodes -/

/-- How a node is written. -/
inductive NodeText where
  | bare (id : Text)
  | shaped (id : Text) (opener : Char) (interior : Text)

namespace NodeText

def id : NodeText → Text
  | bare id => id
  | shaped id _ _ => id

def text : NodeText → Text
  | bare id => id
  | shaped id c i => id ++ c :: i ++ [closerOf c]

/-- The node that the text is read as. -/
def node : NodeText → Node
  | bare id => .bare id
  | shaped id c i =>
    .shaped ⟨id, (Segment.classifyInterior c i).1, (Segment.classifyInterior c i).2⟩

/-- Delimiters match inside, and the label is legal once they are taken off. -/
structure IsWell (n : NodeText) : Prop where
  id : Ident.isValid n.id = true
  shape : ∀ id c i, n = shaped id c i → isOpener c = true ∧ Segment.IsBalanced i ∧
    Label.IsLegal (Segment.classifyInterior c i).2

/-- The canonical text of a node. -/
def ofNode : Node → NodeText
  | .bare id => bare id
  | .shaped n => shaped n.id n.shape.opener (n.shape.interior n.label)

theorem text_ofNode (n : Node) : (ofNode n).text = n.render := by
  cases n with
  | bare id => rfl
  | shaped n =>
      show n.id ++ n.shape.opener :: n.shape.interior n.label ++ [closerOf n.shape.opener]
        = n.id ++ n.shape.wrap n.label
      rw [Shape.wrap_eq, List.append_assoc]

theorem id_ofNode (n : Node) : (ofNode n).id = n.id := by
  cases n <;> rfl

theorem id_node (n : NodeText) : n.node.id = n.id := by
  cases n <;> rfl

/-- A node whose identifier is valid and whose label is legal is written well. -/
theorem isWell_ofNode {n : Node} (hid : Ident.isValid n.id = true)
    (hl : ∀ m, n = .shaped m → Label.IsLegal m.label) : (ofNode n).IsWell := by
  refine ⟨by rwa [id_ofNode], fun id c i h => ?_⟩
  cases n with
  | bare id => cases h
  | shaped n =>
      cases h
      have hlegal := hl n rfl
      refine ⟨n.shape.isOpener_opener, n.shape.isBalanced_interior hlegal, fun d hd => ?_⟩
      by_cases hs : n.shape = .process
      · rw [hs] at hd
        exact hlegal d (Segment.mem_of_mem_classifyInterior hd)
      · rw [Segment.classifyInterior_interior n.shape hlegal fun h => absurd h hs] at hd
        exact Segment.isLegal_trim hlegal d hd

theorem IsClean.isWell_ofNode {n : Node} (h : n.IsClean) : (ofNode n).IsWell := by
  refine NodeText.isWell_ofNode (Node.IsClean.id h) ?_
  rintro m rfl
  exact h.2.1.isLegal

/-- A clean node is read back from its canonical text. -/
theorem node_ofNode {n : Node} (h : n.IsClean) : (ofNode n).node = n := by
  cases n with
  | bare id => rfl
  | shaped n =>
      have hclean : Label.IsClean n.label := h.2.1
      have hends : Label.HasPlainEnds n.label := Label.hasPlainEnds_iff.2 h.2.2
      have htrim : Text.trim n.label = n.label := Text.trim_eq_self hclean.isTrimmed
      have hread := Segment.classifyInterior_interior n.shape hclean.isLegal
        fun _ => by rw [htrim]; exact hends.head
      rw [htrim] at hread
      simp [ofNode, node, hread]

end NodeText

end Flowchart
