import Flowchart.Chart.Clean
import Mathlib.Data.List.Chain
import Mathlib.Data.List.DropRight

/-!
# Words, trimming and clean labels

Words are read off a text from the left. A text whose words stand one space apart is the join of
its words, and this is a condition on neighbouring characters and on the two ends, so that it
passes to any part that begins and ends inside a word.
-/

namespace Flowchart

namespace Text

/-- A run of blanks. -/
def IsBlanks (s : Text) : Prop := ∀ c ∈ s, isBlank c = true

/-- A word: at least one character, and none of them blank. -/
def IsWord (w : Text) : Prop := w ≠ [] ∧ ∀ c ∈ w, isBlank c = false

theorem IsBlanks.nil : IsBlanks [] := fun _ h => nomatch h

theorem IsBlanks.space : IsBlanks [' '] := by simp [IsBlanks, isBlank]

theorem IsBlanks.append {s t : Text} (hs : IsBlanks s) (ht : IsBlanks t) : IsBlanks (s ++ t) := by
  intro c hc
  rcases List.mem_append.1 hc with h | h
  · exact hs c h
  · exact ht c h

theorem IsBlanks.tail {c : Char} {s : Text} (h : IsBlanks (c :: s)) : IsBlanks s :=
  fun d hd => h d (List.mem_cons_of_mem c hd)

/-- All blanks. -/
def blankChars : List Char :=
  ['\t', '\n', '\x0b', '\x0c', '\r', ' ', '\u0085', '\u00a0', '\u1680', '\u2000', '\u2001',
    '\u2002', '\u2003', '\u2004', '\u2005', '\u2006', '\u2007', '\u2008', '\u2009', '\u200a',
    '\u2028', '\u2029', '\u202f', '\u205f', '\u3000']

theorem mem_blankChars {c : Char} (h : isBlank c = true) : c ∈ blankChars := by
  have hcodes : blankChars.map Char.toNat = [9, 10, 11, 12, 13, 32, 133, 160, 5760, 8192, 8193,
      8194, 8195, 8196, 8197, 8198, 8199, 8200, 8201, 8202, 8232, 8233, 8239, 8287, 12288] := by
    decide
  have hcode : c.toNat ∈ blankChars.map Char.toNat := by
    simp only [isBlank, Bool.or_eq_true, Bool.and_eq_true, decide_eq_true_eq, beq_iff_eq] at h
    simp only [hcodes, List.mem_cons, List.not_mem_nil, or_false]
    omega
  obtain ⟨d, hd, hsame⟩ := List.mem_map.1 hcode
  rwa [← Char.toNat_inj.1 hsame]

/-- What is left when a class is dropped begins outside of it. -/
theorem eq_false_of_head?_dropWhile {p : Char → Bool} {s : Text} {c : Char}
    (h : c ∈ (s.dropWhile p).head?) : p c = false := by
  have hnot := List.head?_dropWhile_not p s
  rw [Option.mem_def.1 h] at hnot
  simpa using hnot

theorem eq_false_of_mem {p : Char → Bool} {l : List Char} {c : Char} (hc : c ∈ l)
    (hp : l.all (!p ·) = true) : p c = false := by
  simpa using List.all_eq_true.1 hp c hc

/-- A class of few characters has nothing in common with one that holds none of them. -/
theorem eq_false_of_all {p q : Char → Bool} {l : List Char} (hq : ∀ c, q c = true → c ∈ l)
    (hp : l.all (!p ·) = true) {c : Char} (h : p c = true) : q c = false := by
  by_contra hc
  rw [eq_false_of_mem (hq c (by simpa using hc)) hp] at h
  cases h

/-- A run does not go on into what begins outside of its class. -/
theorem takeWhile_append_of_head? {p : Char → Bool} {s : Text}
    (hs : ∀ c ∈ s.head?, p c = false) (t : Text) :
    (t ++ s).takeWhile p = t.takeWhile p := by
  induction t with
  | nil =>
      cases s with
      | nil => rfl
      | cons c s => exact List.takeWhile_cons_of_neg (by simp [hs c rfl])
  | cons c t ih => rw [List.cons_append, List.takeWhile_cons, List.takeWhile_cons, ih]

/-! ## Words from the left -/

@[simp] theorem words_nil : words [] = [] := rfl

theorem words_cons_of_isBlank {c : Char} (s : Text) (h : isBlank c = true) :
    words (c :: s) = words s := by
  simp [words, splitBy, h]

theorem words_append_of_isBlanks {b : Text} (s : Text) (hb : IsBlanks b) :
    words (b ++ s) = words s := by
  induction b with
  | nil => rfl
  | cons c b ih =>
      rw [List.cons_append, words_cons_of_isBlank _ (hb c (by simp)), ih hb.tail]

theorem words_of_isBlanks {b : Text} (hb : IsBlanks b) : words b = [] := by
  simpa using words_append_of_isBlanks [] hb

theorem words_word_append {w s : Text} (hw : IsWord w) (hs : ∀ c ∈ s.head?, isBlank c = true) :
    words (w ++ s) = w :: words s := by
  cases s with
  | nil =>
      have h := splitBy_append_of_none (s := []) hw.2
      rw [List.append_nil] at h ⊢
      simp [words, h, splitBy, hw.1]
  | cons c s =>
      have hc : isBlank c = true := hs c rfl
      simp [words, splitBy_append_of_none hw.2, splitBy, hc, hw.1]

theorem words_word {w : Text} (hw : IsWord w) : words w = [w] := by
  simpa using words_word_append (s := []) hw (by simp)

/-- A text that does not begin with a blank is a word and what follows it, or nothing. -/
theorem exists_word_append {s : Text} (hs : s ≠ []) (hh : ∀ c ∈ s.head?, isBlank c = false) :
    ∃ w r, s = w ++ r ∧ IsWord w ∧ ∀ c ∈ r.head?, isBlank c = true := by
  refine ⟨s.takeWhile (!isBlank ·), s.dropWhile (!isBlank ·),
    (List.takeWhile_append_dropWhile).symm,
    ⟨?_, ?_⟩, ?_⟩
  · cases s with
    | nil => exact absurd rfl hs
    | cons c s => simp [hh c rfl]
  · intro c hc
    simpa using List.mem_takeWhile_imp hc
  · intro c hc
    simpa using eq_false_of_head?_dropWhile hc

theorem isWord_of_mem_words {s w : Text} (h : w ∈ words s) : IsWord w := by
  induction hn : s.length using Nat.strong_induction_on generalizing s with
  | _ n ih =>
      cases s with
      | nil => simp at h
      | cons c s =>
          by_cases hc : isBlank c = true
          · rw [words_cons_of_isBlank s hc] at h
            exact ih s.length (by simp [← hn]) h rfl
          · obtain ⟨v, r, hv, hw, hr⟩ := exists_word_append (s := c :: s) (by simp) (by simp [hc])
            rw [hv, words_word_append hw hr] at h
            rcases List.mem_cons.1 h with rfl | h
            · exact hw
            · refine ih r.length ?_ h rfl
              have := List.length_pos_iff.2 hw.1
              rw [← hn, hv, List.length_append]
              omega

theorem mem_of_mem_words {s w : Text} (h : w ∈ words s) {c : Char} (hc : c ∈ w) : c ∈ s := by
  induction hn : s.length using Nat.strong_induction_on generalizing s with
  | _ n ih =>
      cases s with
      | nil => simp at h
      | cons d s =>
          by_cases hd : isBlank d = true
          · rw [words_cons_of_isBlank s hd] at h
            exact List.mem_cons_of_mem d (ih s.length (by simp [← hn]) h rfl)
          · obtain ⟨v, r, hv, hw, hr⟩ := exists_word_append (s := d :: s) (by simp) (by simp [hd])
            rw [hv, words_word_append hw hr] at h
            rw [hv]
            rcases List.mem_cons.1 h with rfl | h
            · exact List.mem_append_left _ hc
            · refine List.mem_append_right _ (ih r.length ?_ h rfl)
              have := List.length_pos_iff.2 hw.1
              rw [← hn, hv, List.length_append]
              omega

/-! ## Words one space apart -/

/-- The words stand one space apart, and nothing else is blank. -/
def IsSpaced (s : Text) : Prop := joinWith ' ' (words s) = s

theorem joinWith_cons {sep : Char} {w : Text} {ws : List Text} (h : ws ≠ []) :
    joinWith sep (w :: ws) = w ++ sep :: joinWith sep ws := by
  cases ws with
  | nil => exact absurd rfl h
  | cons v vs => rfl

theorem words_joinWith {ws : List Text} (h : ∀ w ∈ ws, IsWord w) :
    words (joinWith ' ' ws) = ws := by
  induction ws with
  | nil => rfl
  | cons w ws ih =>
      have hw : IsWord w := h w (by simp)
      have hws : ∀ v ∈ ws, IsWord v := fun v hv => h v (by simp [hv])
      by_cases hne : ws = []
      · subst hne
        exact words_word hw
      · rw [joinWith_cons hne, words_word_append hw (by simp [isBlank]),
          words_cons_of_isBlank _ rfl, ih hws]

theorem isSpaced_joinWith {ws : List Text} (h : ∀ w ∈ ws, IsWord w) :
    IsSpaced (joinWith ' ' ws) := by
  rw [IsSpaced, words_joinWith h]

/-- A property of spaced texts may be shown for joined words. -/
theorem IsSpaced.exists_words {s : Text} (h : IsSpaced s) :
    ∃ ws, (∀ w ∈ ws, IsWord w) ∧ s = joinWith ' ' ws :=
  ⟨words s, fun _ => isWord_of_mem_words, h.symm⟩

theorem mem_joinWith {sep c : Char} {ws : List Text} (h : c ∈ joinWith sep ws) :
    c = sep ∨ ∃ w ∈ ws, c ∈ w := by
  induction ws with
  | nil => simp [joinWith] at h
  | cons w ws ih =>
      by_cases hne : ws = []
      · subst hne
        exact .inr ⟨w, by simp, h⟩
      · rw [joinWith_cons hne] at h
        rcases List.mem_append.1 h with h | h
        · exact .inr ⟨w, by simp, h⟩
        · rcases List.mem_cons.1 h with h | h
          · exact .inl h
          · rcases ih h with h | ⟨v, hv, hc⟩
            · exact .inl h
            · exact .inr ⟨v, by simp [hv], hc⟩

theorem IsSpaced.eq_space {s : Text} (h : IsSpaced s) {c : Char} (hc : c ∈ s)
    (hb : isBlank c = true) : c = ' ' := by
  obtain ⟨ws, hws, rfl⟩ := h.exists_words
  rcases mem_joinWith hc with h | ⟨w, hw, hcw⟩
  · exact h
  · rw [(hws w hw).2 c hcw] at hb
    cases hb

theorem IsSpaced.head {s : Text} (h : IsSpaced s) : ∀ c ∈ s.head?, isBlank c = false := by
  obtain ⟨ws, hws, rfl⟩ := h.exists_words
  intro c hc
  cases ws with
  | nil => simp [joinWith] at hc
  | cons w ws =>
      have hw := hws w (by simp)
      obtain ⟨d, w, rfl⟩ := List.exists_cons_of_ne_nil hw.1
      have hd : c = d := by
        cases ws with
        | nil => simpa [joinWith, eq_comm] using hc
        | cons v vs => simpa [joinWith, eq_comm] using hc
      exact hd ▸ hw.2 d (by simp)

theorem joinWith_append {sep : Char} {us vs : List Text} (hu : us ≠ []) (hv : vs ≠ []) :
    joinWith sep (us ++ vs) = joinWith sep us ++ sep :: joinWith sep vs := by
  induction us with
  | nil => exact absurd rfl hu
  | cons u us ih =>
      by_cases h : us = []
      · subst h
        exact joinWith_cons hv
      · rw [List.cons_append, joinWith_cons (by simp [h]), ih h, joinWith_cons h,
          List.append_assoc, List.cons_append]

theorem reverse_joinWith (sep : Char) (ws : List Text) :
    (joinWith sep ws).reverse = joinWith sep (ws.reverse.map List.reverse) := by
  induction ws with
  | nil => rfl
  | cons w ws ih =>
      by_cases h : ws = []
      · subst h
        rfl
      · rw [joinWith_cons h, List.reverse_cons, List.map_append,
          joinWith_append (by simp [h]) (by simp), ← ih]
        simp [joinWith]

theorem IsWord.reverse {w : Text} (h : IsWord w) : IsWord w.reverse :=
  ⟨by simp [h.1], fun c hc => h.2 c (List.mem_reverse.1 hc)⟩

theorem IsSpaced.reverse {s : Text} (h : IsSpaced s) : IsSpaced s.reverse := by
  obtain ⟨ws, hws, rfl⟩ := h.exists_words
  rw [reverse_joinWith]
  refine isSpaced_joinWith fun w hw => ?_
  obtain ⟨v, hv, rfl⟩ := List.mem_map.1 hw
  exact (hws v (List.mem_reverse.1 hv)).reverse

theorem IsSpaced.getLast {s : Text} (h : IsSpaced s) : ∀ c ∈ s.getLast?, isBlank c = false := by
  intro c hc
  refine h.reverse.head c ?_
  rwa [List.head?_reverse]

theorem isSpaced_nil : IsSpaced [] := rfl

/-- Dropping a class that holds the blanks leaves words one space apart. -/
theorem IsSpaced.dropWhile {p : Char → Bool} (hp : ∀ c, isBlank c = true → p c = true) {s : Text}
    (h : IsSpaced s) : IsSpaced (s.dropWhile p) := by
  obtain ⟨ws, hws, rfl⟩ := h.exists_words
  clear h
  induction ws with
  | nil => exact isSpaced_nil
  | cons w ws ih =>
      have hw := hws w (by simp)
      have hws' : ∀ v ∈ ws, IsWord v := fun v hv => hws v (by simp [hv])
      by_cases hd : w.dropWhile p = []
      · have hall : ∀ c ∈ w, p c = true := by simpa [List.dropWhile_eq_nil_iff] using hd
        by_cases hne : ws = []
        · subst hne
          rw [joinWith, hd]
          exact isSpaced_nil
        · rw [joinWith_cons hne, List.dropWhile_append_of_pos hall, List.dropWhile_cons,
            if_pos (hp ' ' rfl)]
          exact ih hws'
      · have hw' : IsWord (w.dropWhile p) :=
          ⟨hd, fun c hc => hw.2 c ((List.dropWhile_suffix p).subset hc)⟩
        by_cases hne : ws = []
        · subst hne
          have hall : ∀ v ∈ [w.dropWhile p], IsWord v := by simpa using hw'
          exact isSpaced_joinWith hall
        · have hsplit : (joinWith ' ' (w :: ws)).dropWhile p
              = joinWith ' ' (w.dropWhile p :: ws) := by
            rw [joinWith_cons hne, List.dropWhile_append, if_neg (by simpa using hd),
              joinWith_cons hne]
          rw [hsplit]
          refine isSpaced_joinWith fun v hv => ?_
          rcases List.mem_cons.1 hv with rfl | hv
          · exact hw'
          · exact hws' v hv

theorem IsSpaced.trimBy {p : Char → Bool} (hp : ∀ c, isBlank c = true → p c = true) {s : Text}
    (h : IsSpaced s) : IsSpaced (trimBy p s) :=
  ((h.dropWhile hp).reverse.dropWhile hp).reverse

/-! ## Trimming -/

/-- Neither end is in the class. -/
structure IsTrimmedOf (p : Char → Bool) (s : Text) : Prop where
  head : ∀ c ∈ s.head?, p c = false
  getLast : ∀ c ∈ s.getLast?, p c = false

abbrev IsTrimmed (s : Text) : Prop := IsTrimmedOf isBlank s

theorem IsSpaced.isTrimmed {s : Text} (h : IsSpaced s) : IsTrimmed s :=
  ⟨h.head, h.getLast⟩

theorem dropWhile_eq_self_of_head {p : Char → Bool} {s : Text} (h : ∀ c ∈ s.head?, p c = false) :
    s.dropWhile p = s := by
  cases s with
  | nil => rfl
  | cons c s => rw [List.dropWhile_cons, if_neg (by simp [h c rfl])]

theorem trimEndBy_eq_self {p : Char → Bool} {s : Text} (h : ∀ c ∈ s.getLast?, p c = false) :
    trimEndBy p s = s := by
  rw [trimEndBy, dropWhile_eq_self_of_head (by simpa using h), List.reverse_reverse]

theorem trimEndBy_append {p : Char → Bool} {s b : Text} (hb : ∀ c ∈ b, p c = true) :
    trimEndBy p (s ++ b) = trimEndBy p s := by
  rw [trimEndBy, List.reverse_append, List.dropWhile_append_of_pos (by simpa using hb), trimEndBy]

theorem trimEndBy_append_right {p : Char → Bool} {s : Text} (h : ∀ c ∈ s.getLast?, p c = false)
    (t : Text) :
    trimEndBy p (s ++ t) = s ++ trimEndBy p t := by
  have hself : s.reverse.dropWhile p = s.reverse := dropWhile_eq_self_of_head (by simpa using h)
  rw [trimEndBy, trimEndBy, List.reverse_append, List.dropWhile_append, hself]
  split
  · rename_i ht
    rw [List.isEmpty_iff.1 ht, List.reverse_reverse]
    simp
  · simp

theorem trimBy_eq_self {p : Char → Bool} {s : Text} (h : IsTrimmedOf p s) : trimBy p s = s := by
  rw [trimBy, dropWhile_eq_self_of_head h.head, trimEndBy_eq_self h.getLast]

theorem trim_eq_self {s : Text} (h : IsTrimmed s) : trim s = s :=
  trimBy_eq_self h

theorem trim_cons_eq_self {c : Char} (hc : isBlank c = false) {s : Text} (hs : s ≠ [])
    (h : IsTrimmed s) : trim (c :: s) = c :: s := by
  refine trim_eq_self ⟨fun d hd => ?_, fun d hd => ?_⟩
  · cases hd
    exact hc
  · rw [List.getLast?_cons_of_ne_nil hs] at hd
    exact h.getLast d hd

theorem trimEndBy_isPrefix (p : Char → Bool) (s : Text) : trimEndBy p s <+: s := by
  rw [trimEndBy, ← List.reverse_suffix, List.reverse_reverse]
  exact List.dropWhile_suffix p

theorem trimBy_subset (p : Char → Bool) (s : Text) : trimBy p s ⊆ s := fun _ hc =>
  (List.dropWhile_suffix _).subset ((trimEndBy_isPrefix _ _).subset hc)

theorem trim_subset (s : Text) : trim s ⊆ s := trimBy_subset isBlank s

theorem isTrimmedOf_trimBy (p : Char → Bool) (s : Text) : IsTrimmedOf p (trimBy p s) := by
  constructor
  · intro c hc
    obtain ⟨t, ht⟩ := trimEndBy_isPrefix p (s.dropWhile p)
    refine eq_false_of_head?_dropWhile (s := s) ?_
    rw [← ht, List.head?_append]
    rw [trimBy] at hc
    rw [Option.mem_def.1 hc]
    rfl
  · intro c hc
    rw [trimBy, trimEndBy, List.getLast?_reverse] at hc
    exact eq_false_of_head?_dropWhile hc

/-- Trimming does not reach past a character outside the class. -/
theorem head?_trimBy_cons {p : Char → Bool} {c : Char} (hc : p c = false) (s : Text) :
    (trimBy p (c :: s)).head? = some c := by
  have h : trimBy p (c :: s) = [c] ++ trimEndBy p s := by
    rw [trimBy, List.dropWhile_cons, if_neg (by simp [hc])]
    exact trimEndBy_append_right (s := [c]) (by simpa using hc) s
  rw [h]
  rfl

theorem isTrimmed_trim (s : Text) : IsTrimmed (trim s) :=
  isTrimmedOf_trimBy isBlank s

theorem trim_trim (s : Text) : trim (trim s) = trim s :=
  trim_eq_self (isTrimmed_trim s)

/-- Blanks around a text go. -/
theorem trim_append_append {b s b' : Text} (hb : IsBlanks b) (hb' : IsBlanks b') (hs : s ≠ [])
    (h : IsTrimmed s) : trim (b ++ s ++ b') = s := by
  have hhead : ∀ c ∈ (s ++ b').head?, isBlank c = false := by
    obtain ⟨d, s, rfl⟩ := List.exists_cons_of_ne_nil hs
    exact fun c hc => h.head c hc
  rw [trim, trimBy, List.append_assoc, List.dropWhile_append_of_pos hb,
    dropWhile_eq_self_of_head hhead, trimEndBy_append hb', trimEndBy_eq_self h.getLast]

theorem trim_of_isBlanks {b : Text} (hb : IsBlanks b) : trim b = [] := by
  have h : b.dropWhile isBlank = [] := List.dropWhile_eq_nil_iff.2 hb
  rw [trim, trimBy, h]
  rfl

/-- A text is its trimmed part with blanks around. -/
theorem exists_trim (s : Text) : ∃ b b', IsBlanks b ∧ IsBlanks b' ∧ s = b ++ trim s ++ b' := by
  refine ⟨s.takeWhile isBlank, ((s.dropWhile isBlank).reverse.takeWhile isBlank).reverse,
    ?_, ?_, ?_⟩
  · exact fun c hc => List.mem_takeWhile_imp hc
  · exact fun c hc => List.mem_takeWhile_imp (List.mem_reverse.1 hc)
  · rw [trim, trimBy, trimEndBy, List.append_assoc, ← List.reverse_append,
      List.takeWhile_append_dropWhile, List.reverse_reverse, List.takeWhile_append_dropWhile]

theorem trim_append_isBlanks {b b' : Text} (hb : IsBlanks b) (hb' : IsBlanks b') (s : Text) :
    trim (b ++ s ++ b') = trim s := by
  obtain ⟨c, c', hc, hc', hs⟩ := exists_trim s
  by_cases hne : trim s = []
  · rw [hne, List.append_nil] at hs
    rw [hne, hs]
    exact trim_of_isBlanks ((hb.append (hc.append hc')).append hb')
  · have houter : b ++ s ++ b' = (b ++ c) ++ trim s ++ (c' ++ b') := by
      conv_lhs => rw [hs]
      simp
    rw [houter]
    exact trim_append_append (hb.append hc) (hc'.append hb') hne (isTrimmed_trim s)

theorem isBlanks_of_trim_eq_nil {s : Text} (h : trim s = []) : IsBlanks s := by
  obtain ⟨b, b', hb, hb', hs⟩ := exists_trim s
  rw [h, List.append_nil] at hs
  exact hs ▸ hb.append hb'

theorem isBlanks_iff_trim_eq_nil {s : Text} : s.IsBlanks ↔ trim s = [] :=
  ⟨trim_of_isBlanks, isBlanks_of_trim_eq_nil⟩

theorem words_append_isBlanks {s b : Text} (hb : IsBlanks b) : words (s ++ b) = words s := by
  induction hn : s.length using Nat.strong_induction_on generalizing s with
  | _ n ih =>
      cases s with
      | nil => simpa using words_of_isBlanks hb
      | cons d s =>
          by_cases hd : isBlank d = true
          · rw [List.cons_append, words_cons_of_isBlank _ hd, words_cons_of_isBlank _ hd]
            exact ih s.length (by simp [← hn]) rfl
          · obtain ⟨v, r, hv, hw, hr⟩ := exists_word_append (s := d :: s) (by simp) (by simp [hd])
            have hr' : ∀ c ∈ (r ++ b).head?, isBlank c = true := by
              cases r with
              | nil => exact fun c hc => hb c (List.mem_of_mem_head? hc)
              | cons e r => exact hr
            have hlen : r.length < n := by
              have := List.length_pos_iff.2 hw.1
              rw [← hn, hv, List.length_append]
              omega
            rw [hv, List.append_assoc, words_word_append hw hr', words_word_append hw hr,
              ih r.length hlen rfl]

theorem words_trim (s : Text) : words (trim s) = words s := by
  obtain ⟨b, b', hb, hb', h⟩ := exists_trim s
  conv_rhs => rw [h]
  rw [words_append_isBlanks hb', words_append_of_isBlanks _ hb]

/-! ## Characters that are kept -/

theorem mem_joinWith_of_mem {sep c : Char} {w : Text} {ws : List Text} (hw : w ∈ ws) (hc : c ∈ w) :
    c ∈ joinWith sep ws := by
  induction ws with
  | nil => cases hw
  | cons v ws ih =>
      by_cases hnil : ws = []
      · rw [hnil, List.mem_singleton] at hw
        rw [hnil, joinWith, ← hw]
        exact hc
      · rw [joinWith_cons hnil]
        rcases List.mem_cons.1 hw with rfl | hw
        · exact List.mem_append_left _ hc
        · exact List.mem_append_right _ (List.mem_cons_of_mem _ (ih hw))

theorem exists_mem_splitBy {p : Char → Bool} {s : Text} {c : Char} (hc : c ∈ s)
    (hp : p c = false) : ∃ w ∈ splitBy p s, c ∈ w := by
  induction s with
  | nil => cases hc
  | cons d s ih =>
      rw [splitBy]
      rcases List.mem_cons.1 hc with rfl | hc
      · rw [hp, if_neg Bool.false_ne_true]
        cases splitBy p s with
        | nil => exact ⟨[c], by simp [extendFirst]⟩
        | cons w ws => exact ⟨c :: w, by simp [extendFirst]⟩
      · obtain ⟨w, hw, hmem⟩ := ih hc
        split
        · exact ⟨w, List.mem_cons_of_mem _ hw, hmem⟩
        · cases hs : splitBy p s with
          | nil => simp [hs] at hw
          | cons v ws =>
              rw [hs] at hw
              rcases List.mem_cons.1 hw with rfl | hw
              · exact ⟨d :: w, by simp [extendFirst], List.mem_cons_of_mem _ hmem⟩
              · exact ⟨w, List.mem_cons_of_mem _ hw, hmem⟩

/-- Every character that is not blank stands in a word. -/
theorem exists_mem_words {s : Text} {c : Char} (hc : c ∈ s) (hb : isBlank c = false) :
    ∃ w ∈ words s, c ∈ w := by
  obtain ⟨w, hw, hmem⟩ := exists_mem_splitBy hc hb
  have hne : w ≠ [] := List.ne_nil_of_mem hmem
  exact ⟨w, List.mem_filter.2 ⟨hw, by simpa using hne⟩, hmem⟩

theorem trimBy_eq_nil_iff {p : Char → Bool} {s : Text} :
    trimBy p s = [] ↔ ∀ c ∈ s, p c = true := by
  rw [trimBy, trimEndBy, List.reverse_eq_nil_iff, List.dropWhile_eq_nil_iff]
  simp only [List.mem_reverse]
  constructor
  · intro h c hc
    rw [← List.takeWhile_append_dropWhile (p := p) (l := s)] at hc
    rcases List.mem_append.1 hc with hc | hc
    · exact List.mem_takeWhile_imp hc
    · exact h c hc
  · exact fun h c hc => h c ((List.dropWhile_sublist p).subset hc)

theorem forall_mem_trim_iff {q : Char → Prop} (hq : ∀ c, isBlank c = true → q c) {s : Text} :
    (∀ c ∈ trim s, q c) ↔ ∀ c ∈ s, q c := by
  constructor
  · intro h c hc
    obtain ⟨b, b', hb, hb', hs⟩ := exists_trim s
    rw [hs, List.mem_append, List.mem_append] at hc
    rcases hc with (hc | hc) | hc
    · exact hq c (hb c hc)
    · exact h c hc
    · exact hq c (hb' c hc)
  · exact fun h c hc => h c (trim_subset s hc)

end Text

/-! ## Clean labels -/

namespace Label

theorem IsClean.isSpaced {l : Text} (h : IsClean l) : Text.IsSpaced l := h.2.1

theorem IsClean.isTrimmed {l : Text} (h : IsClean l) : Text.IsTrimmed l :=
  h.isSpaced.isTrimmed

theorem IsClean.not_isIllegal {l : Text} (h : IsClean l) {c : Char} (hc : c ∈ l) :
    isIllegal c = false := by
  have := List.all_eq_true.1 h.2.2 c hc
  simp only [Bool.and_eq_true, Bool.not_eq_true'] at this
  exact this.1

theorem IsClean.not_isQuotationMark {l : Text} (h : IsClean l) {c : Char} (hc : c ∈ l) :
    isQuotationMark c = false := by
  have := List.all_eq_true.1 h.2.2 c hc
  simp only [Bool.and_eq_true, Bool.not_eq_true'] at this
  exact this.2

theorem clean_eq_joinWith_words {l : Text} (h : ∀ c ∈ l, isIllegal c = false) :
    clean l = Text.joinWith ' ' (Text.words l) := by
  have hmap : l.map (fun c => if isIllegal c then ' ' else c) = l := by
    refine (List.map_congr_left fun c hc => ?_).trans (List.map_id l)
    rw [if_neg (by simp [h c hc])]
    rfl
  rw [clean, hmap]

theorem clean_of_isClean {l : Text} (h : IsClean l) : clean l = l :=
  (clean_eq_joinWith_words fun _ hc => h.not_isIllegal hc).trans h.2.1

theorem isSpaced_clean (l : Text) : Text.IsSpaced (clean l) :=
  Text.isSpaced_joinWith fun _ => Text.isWord_of_mem_words

theorem mem_clean {l : Text} {c : Char} (h : c ∈ clean l) :
    c = ' ' ∨ c ∈ l ∧ isIllegal c = false := by
  rcases Text.mem_joinWith h with rfl | ⟨w, hw, hc⟩
  · exact .inl rfl
  · obtain ⟨d, hd, he⟩ := List.mem_map.1 (Text.mem_of_mem_words hw hc)
    by_cases hi : isIllegal d = true
    · rw [if_pos hi] at he
      exact .inl he.symm
    · rw [if_neg hi] at he
      subst he
      exact .inr ⟨hd, by simpa using hi⟩

theorem not_isIllegal_of_mem_clean {l : Text} {c : Char} (h : c ∈ clean l) :
    isIllegal c = false := by
  rcases mem_clean h with rfl | h
  · rfl
  · exact h.2

/-- Cleaning gives a clean label unless nothing is left or a quotation mark stays. -/
theorem isClean_clean {l : Text} (hne : clean l ≠ []) (hq : ∀ c ∈ l, isQuotationMark c = false) :
    IsClean (clean l) := by
  refine ⟨hne, isSpaced_clean l, List.all_eq_true.2 fun c hc => ?_⟩
  have hquote : isQuotationMark c = false := by
    rcases mem_clean hc with rfl | h
    · rfl
    · exact hq c h.1
  simp [not_isIllegal_of_mem_clean hc, hquote]

/-- The ends of a node's label. -/
def HasPlainEnds (l : Text) : Prop := Text.IsTrimmedOf isSlash l

theorem hasPlainEnds_iff {l : Text} :
    HasPlainEnds l ↔ l.head?.any isSlash = false ∧ l.getLast?.any isSlash = false := by
  constructor
  · rintro ⟨hh, hl⟩
    constructor
    · cases h : l.head? with
      | none => rfl
      | some c => exact hh c h
    · cases h : l.getLast? with
      | none => rfl
      | some c => exact hl c h
  · rintro ⟨hh, hl⟩
    constructor
    · intro c hc
      rw [Option.mem_def.1 hc] at hh
      exact hh
    · intro c hc
      rw [Option.mem_def.1 hc] at hl
      exact hl

theorem isTrimmedOf_trimSlashes (l : Text) :
    Text.IsTrimmedOf (fun c => isSlash c || Text.isBlank c) (trimSlashes l) :=
  Text.isTrimmedOf_trimBy _ l

theorem hasPlainEnds_trimSlashes (l : Text) : HasPlainEnds (trimSlashes l) := by
  obtain ⟨hh, hl⟩ := isTrimmedOf_trimSlashes l
  constructor
  · intro c hc
    have := hh c hc
    simp only [Bool.or_eq_false_iff] at this
    exact this.1
  · intro c hc
    have := hl c hc
    simp only [Bool.or_eq_false_iff] at this
    exact this.1

theorem trimSlashes_eq_self {l : Text} (ht : Text.IsTrimmed l) (hs : HasPlainEnds l) :
    trimSlashes l = l := by
  refine Text.trimBy_eq_self ⟨?_, ?_⟩
  · intro c hc
    simp [hs.head c hc, ht.head c hc]
  · intro c hc
    simp [hs.getLast c hc, ht.getLast c hc]

theorem isSpaced_trimSlashes {l : Text} (h : Text.IsSpaced l) : Text.IsSpaced (trimSlashes l) :=
  h.trimBy fun c hc => by simp [hc]

theorem mem_of_mem_trimSlashes {l : Text} {c : Char} (h : c ∈ trimSlashes l) : c ∈ l :=
  Text.trimBy_subset _ l h

end Label

end Flowchart
