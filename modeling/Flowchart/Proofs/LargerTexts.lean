import Flowchart.Classifier
import Flowchart.Proofs.Words
import Mathlib.Data.List.Infix

/-!
# Texts within larger texts

Whatever is written around a text, its words may grow together at the seams but do not get fewer,
its cues stay where they are, and its lower case stays the same but for sigmas, which look at the
letters around them. So a text that the classifier accepts is accepted within every larger text,
unless a keyword is written with a small sigma.
-/

namespace Flowchart

namespace Text

/-! ## Words -/

/-- A word is counted at its last character. -/
theorem length_words_cons (c : Char) (s : Text) : (words (c :: s)).length =
    (words s).length + if !isBlank c && s.head?.all isBlank then 1 else 0 := by
  cases hc : isBlank c with
  | true => simp [words_cons_of_isBlank s hc]
  | false =>
      cases s with
      | nil => simp [words, splitBy, extendFirst, hc]
      | cons d s =>
          cases hd : isBlank d with
          | true => simp [words, splitBy, extendFirst, hc, hd]
          | false =>
              obtain ⟨piece, pieces, hs⟩ := List.exists_cons_of_ne_nil (splitBy_ne_nil isBlank s)
              simp [words, splitBy, extendFirst, hc, hd, hs]

theorem words_ne_nil_of_head {s : Text} (h : s.head?.all isBlank = false) : words s ≠ [] := by
  cases s with
  | nil => cases h
  | cons c s =>
      obtain ⟨w, hw, -⟩ := exists_mem_words (s := c :: s) List.mem_cons_self (by simpa using h)
      exact List.ne_nil_of_mem hw

theorem length_words_le_append_left (s t : Text) :
    (words t).length ≤ (words (s ++ t)).length := by
  induction s with
  | nil => exact Nat.le_refl _
  | cons c s ih =>
      rw [List.cons_append, length_words_cons]
      omega

theorem length_words_le_append_right (s t : Text) :
    (words s).length ≤ (words (s ++ t)).length := by
  induction s with
  | nil => exact Nat.zero_le _
  | cons c s ih =>
      rw [List.cons_append, length_words_cons, length_words_cons]
      cases s with
      | cons d s => exact Nat.add_le_add_right ih _
      | nil =>
          -- The one character is a word, or belongs to the first word of the text behind it.
          cases hhead : t.head?.all isBlank with
          | true => simp [hhead]
          | false =>
              have hpos := List.length_pos_iff.2 (words_ne_nil_of_head hhead)
              rw [List.nil_append, words_nil, List.length_nil]
              split <;> omega

/-! ## Lower case -/

/-- Both small sigmas as one. -/
def mergeSigmas (c : Char) : Char :=
  if c = 'ς' then 'σ' else c

theorem mergeSigmas_of_ne {c : Char} (h : c ≠ 'ς') : mergeSigmas c = c := if_neg h

theorem mergeSigmas_eq_self {c : Char} (h : mergeSigmas c ≠ 'σ') : mergeSigmas c = c :=
  mergeSigmas_of_ne fun hc => h (if_pos hc)

theorem mergeSigmas_lowercaseChar_sigma :
    (lowercaseChar 'Σ').map mergeSigmas = ['σ'] := by
  decide +kernel

/-- But for the form of a sigma, each character has its lower case by itself. -/
theorem map_mergeSigmas_lowercaseFrom (afterCased : Bool) (s : Text) :
    (lowercaseFrom afterCased s).map mergeSigmas =
      s.flatMap fun c => (lowercaseChar c).map mergeSigmas := by
  induction s generalizing afterCased with
  | nil => rfl
  | cons c s ih =>
      rw [lowercaseFrom, List.map_append, ih, List.flatMap_cons]
      refine congrArg (· ++ _) ?_
      by_cases hc : c = 'Σ'
      · rw [if_pos (beq_iff_eq.2 hc), hc, mergeSigmas_lowercaseChar_sigma]
        split <;> rfl
      · rw [if_neg (mt beq_iff_eq.1 hc)]

theorem map_mergeSigmas_lowercase_append (s t : Text) :
    (lowercase (s ++ t)).map mergeSigmas =
      (lowercase s).map mergeSigmas ++ (lowercase t).map mergeSigmas := by
  simp only [lowercase, map_mergeSigmas_lowercaseFrom, List.flatMap_append]

theorem occursIn_iff {needle s : Text} : occursIn needle s = true ↔ needle <:+: s := by
  induction s with
  | nil => simp [occursIn]
  | cons c s ih =>
      rw [occursIn, Bool.or_eq_true, ih, List.isPrefixOf_iff_prefix, List.infix_cons_iff]

/-- A text without a small sigma. -/
def IsSigmaless (s : Text) : Prop := 'σ' ∉ s ∧ 'ς' ∉ s

instance (s : Text) : Decidable (IsSigmaless s) :=
  inferInstanceAs (Decidable (_ ∧ _))

/-- A text without a small sigma does not occur where there is one. -/
theorem IsSigmaless.infix_map_iff {needle s : Text} (h : IsSigmaless needle) :
    needle <:+: s.map mergeSigmas ↔ needle <:+: s := by
  constructor
  · intro hinfix
    obtain ⟨piece, hpiece, rfl⟩ := List.infix_map_iff.1 hinfix
    have hsame : piece.map mergeSigmas = piece := by
      refine (List.map_congr_left fun c hc => mergeSigmas_eq_self ?_).trans (List.map_id piece)
      intro heq
      exact h.1 (heq ▸ List.mem_map_of_mem hc)
    rwa [hsame]
  · intro hinfix
    have hsame : needle.map mergeSigmas = needle := by
      refine (List.map_congr_left fun c hc => mergeSigmas_of_ne ?_).trans (List.map_id needle)
      rintro rfl
      exact h.2 hc
    exact hsame ▸ hinfix.map mergeSigmas

/-- What occurs in the lower case of a text occurs in that of every larger text. -/
theorem IsSigmaless.occursIn_lowercase_append {needle t : Text} (h : IsSigmaless needle)
    (ht : occursIn needle (lowercase t) = true) (s u : Text) :
    occursIn needle (lowercase (s ++ t ++ u)) = true := by
  rw [occursIn_iff, ← h.infix_map_iff] at ht ⊢
  rw [map_mergeSigmas_lowercase_append, map_mergeSigmas_lowercase_append]
  exact ht.trans (List.infix_append _ _ _)

end Text

namespace Classifier

/-! ## Cues -/

theorem afterFolded?_append {word s rest : Text} (h : afterFolded? word s = some rest) (t : Text) :
    afterFolded? word (s ++ t) = some (rest ++ t) := by
  fun_induction afterFolded? word s with
  | case1 s =>
      cases h
      rw [afterFolded?]
  | case2 => cases h
  | case3 letter word c s hc ih =>
      rw [List.cons_append, afterFolded?, if_pos hc]
      exact ih h
  | case4 => cases h

/-- A cue at the start of a text is there whatever follows. -/
theorem startsCue_append {s : Text} (h : startsCue s = true) (t : Text) :
    startsCue (s ++ t) = true := by
  rw [startsCue, Bool.or_eq_true] at h ⊢
  rcases h with hstep | hword
  · left
    obtain ⟨rest, hrest, hdigit⟩ := (Option.any_eq_true _ _).1 hstep
    have hne : (rest.dropWhile Text.isBlank).isEmpty = false := by
      cases hdrop : rest.dropWhile Text.isBlank with
      | nil =>
          rw [hdrop] at hdigit
          cases hdigit
      | cons c rest => rfl
    refine (Option.any_eq_true _ _).2 ⟨rest ++ t, afterFolded?_append hrest t, ?_⟩
    rw [List.dropWhile_append, hne, if_neg (by simp), List.head?_append]
    obtain ⟨digit, hhead, hdigit⟩ := (Option.any_eq_true _ _).1 hdigit
    rw [hhead]
    exact hdigit
  · right
    obtain ⟨word, hmem, hword⟩ := List.any_eq_true.1 hword
    obtain ⟨rest, hrest⟩ := Option.isSome_iff_exists.1 hword
    refine List.any_eq_true.2 ⟨word, hmem, ?_⟩
    rw [afterFolded?_append hrest t]
    rfl

theorem hasCue_append_right {s : Text} (h : hasCue s = true) (t : Text) :
    hasCue (s ++ t) = true := by
  induction s with
  | nil => cases h
  | cons c s ih =>
      rw [hasCue, Bool.or_eq_true] at h
      rw [List.cons_append, hasCue, Bool.or_eq_true]
      rcases h with hstart | hrest
      · exact .inl (startsCue_append hstart t)
      · exact .inr (ih hrest)

theorem hasCue_append_left {t : Text} (h : hasCue t = true) (s : Text) :
    hasCue (s ++ t) = true := by
  induction s with
  | nil => exact h
  | cons c s ih => rw [List.cons_append, hasCue, ih, Bool.or_true]

/-! ## The verdict -/

theorem accepts_iff {classifier : Classifier} {text : Text} : classifier.accepts text = true ↔
    (∃ k ∈ classifier.keywords, Text.occursIn k (Text.lowercase text) = true) ∨
      hasCue text = true ∨ longWordCount < (Text.words text).length := by
  have hfind := @List.find?_isSome _ classifier.keywords (Text.occursIn · (Text.lowercase text))
  rw [accepts, classify, ← hfind]
  cases classifier.keywords.find? (Text.occursIn · (Text.lowercase text)) with
  | some k => simp
  | none =>
      cases hasCue text with
      | true => simp
      | false => by_cases hlong : longWordCount < (Text.words text).length <;> simp [hlong]

/-- A text that is accepted is accepted within every larger text, on whatever grounds and wherever
the seams are. -/
theorem accepts_append_append {classifier : Classifier}
    (hkeywords : ∀ k ∈ classifier.keywords, k.IsSigmaless) {t : Text}
    (ht : classifier.accepts t = true) (s u : Text) :
    classifier.accepts (s ++ t ++ u) = true := by
  rw [accepts_iff] at ht ⊢
  rcases ht with ⟨k, hk, hoccurs⟩ | hcue | hlong
  · exact .inl ⟨k, hk, (hkeywords k hk).occursIn_lowercase_append hoccurs s u⟩
  · exact .inr (.inl (hasCue_append_right (hasCue_append_left hcue s) u))
  · have hleft := Text.length_words_le_append_left s t
    have hright := Text.length_words_le_append_right (s ++ t) u
    exact .inr (.inr (by omega))

/-- The last sigma of the text is final, and no longer so in front of a letter. The keyword is
found all the same. -/
theorem accepts_append_append_sigma :
    (∀ k ∈ (default : Classifier).keywords, k.IsSigmaless) ∧
      Text.lowercase "SORT ΑΣ".toList = "sort ας".toList ∧
      Text.lowercase "reSORT ΑΣΒ".toList = "resort ασβ".toList ∧
      (default : Classifier).accepts "SORT ΑΣ".toList = true ∧
      (default : Classifier).accepts ("re".toList ++ "SORT ΑΣ".toList ++ "Β".toList) = true := by
  have hkeywords : ∀ k ∈ (default : Classifier).keywords, k.IsSigmaless := by decide +kernel
  have haccepts : (default : Classifier).accepts "SORT ΑΣ".toList = true := by decide +kernel
  exact ⟨hkeywords, by decide +kernel, by decide +kernel, haccepts,
    accepts_append_append hkeywords haccepts _ _⟩

/-- A keyword with a final sigma is not found any more where a letter follows. -/
example : accepts ⟨["ας".toList]⟩ "ΑΣ".toList = true ∧
    accepts ⟨["ας".toList]⟩ "ΑΣΒ".toList = false := by
  decide +kernel

end Classifier

end Flowchart
