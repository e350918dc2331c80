import Flowchart.Proofs.Lexing

/-!
# Tokens written out again

The tokens of a text, written out one after the other, are the text with one space for each run of
blanks outside its labels. Neither an arrow nor a word looks past a blank or a pipe, and so the same
tokens are read from what is written.
-/

namespace Flowchart

theorem Segment.untilPipe?_eq_none_iff {s : Text} : untilPipe? s = none ↔ '|' ∉ s := by
  induction s with
  | nil => simp [untilPipe?]
  | cons c s ih =>
      rw [untilPipe?, List.mem_cons, not_or]
      by_cases hc : c = '|'
      · simp [hc]
      · simp [hc, Ne.symm hc, ih]

namespace Token

/-! ## Arrows on their own -/

theorem arrowLength?_eq_none_iff {s : Text} : arrowLength? s = none ↔ startsArrow s = false := by
  rw [arrowLength?, startsArrow]
  split <;> simp_all

theorem isArrow_of_sublist {u v : Text} (h : u.Sublist v) (hu : isArrow u = true) :
    isArrow v = true := by
  have hstrokes : u.countP isStroke ≤ v.countP isStroke := h.countP_le
  simp only [isArrow, Bool.or_eq_true, Bool.and_eq_true, decide_eq_true_eq,
    List.contains_iff_mem] at hu ⊢
  rcases hu with hu | ⟨hu, hhead⟩
  · exact .inl (hu.trans hstrokes)
  · exact .inr ⟨hu.trans hstrokes, h.subset hhead⟩

/-- The head of an arrow is all that is seen of the text behind the strokes. -/
theorem headLength_take (run s : Text) :
    headLength run (s.take (headLength run s)) = headLength run s := by
  cases s with
  | nil => rfl
  | cons c s =>
      by_cases hhead : (run.getLast?.any isStroke && (c == 'o' || c == 'x') &&
          !s.head?.any fun d => Text.isAlphanumeric d || d == '_') = true
      · have hone : headLength run (c :: s) = 1 := if_pos hhead
        simp only [Bool.and_eq_true] at hhead
        rw [hone]
        simp [headLength, hhead.1.1, hhead.1.2]
      · have hzero : headLength run (c :: s) = 0 := if_neg hhead
        rw [hzero]
        rfl

/-- What an arrow is read from is an arrow on its own. -/
theorem isArrowText_take {s : Text} {n : Nat} (h : arrowLength? s = some n) :
    IsArrowText (s.take n) := by
  have hsplit : s = arrowRun s ++ s.dropWhile isArrowChar :=
    (List.takeWhile_append_dropWhile).symm
  have hrun : ∀ c ∈ arrowRun s, isArrowChar c = true := fun _ => isArrowChar_of_mem_arrowRun
  have hrest : ∀ c ∈ (s.dropWhile isArrowChar).head?, isArrowChar c = false :=
    fun _ => Text.eq_false_of_head?_dropWhile
  have hle := le_length_of_arrowLength? h
  generalize arrowRun s = run, s.dropWhile isArrowChar = rest at hsplit hrest hrun
  subst hsplit
  rw [arrowLength?, arrowRun_append run hrun hrest, List.drop_left] at h
  split at h
  · rename_i harrow
    cases h
    have hhead : ∀ c ∈ (rest.take (headLength run rest)).head?, isArrowChar c = false := by
      intro c hc
      rw [List.head?_take] at hc
      split at hc
      · cases hc
      · exact hrest c hc
    have htake := List.length_take_of_le hle
    rw [List.take_length_add_append] at htake ⊢
    rw [IsArrowText, htake, arrowLength?, arrowRun_append run hrun hhead]
    simp [harrow, headLength_take]
  · cases h

theorem IsArrowText.not_isStop {a : Text} (ha : IsArrowText a) {c : Char} (hc : c ∈ a) :
    isStop c = false := by
  have hnot {d : Char} (hd : isArrowChar d = true) : isStop d = false := by
    by_contra hstop
    rw [isArrowChar_eq_false_of_isStop (by simpa using hstop)] at hd
    cases hd
  obtain ⟨-, hrun | ⟨d, hrun, hhead, -⟩⟩ := ha.cases
  · exact hnot (isArrowChar_of_mem_arrowRun (hrun ▸ hc))
  · rw [hrun, List.mem_append, List.mem_singleton] at hc
    rcases hc with hc | rfl
    · exact hnot (isArrowChar_of_mem_arrowRun hc)
    · by_contra hstop
      rw [headLength_of_ne fun e he => ?_] at hhead
      · cases hhead
      · cases he
        constructor <;> rintro rfl <;> exact hstop (by decide)

/-! ## Words on their own -/

/-- An arrow stays one whatever is put behind it. -/
theorem startsArrow_append_left {u : Text} (hu : startsArrow u = true) (s : Text) :
    startsArrow (u ++ s) = true := by
  refine isArrow_of_sublist (List.IsPrefix.sublist ?_) hu
  rw [arrowRun, arrowRun, List.takeWhile_append]
  split
  · exact (List.takeWhile_prefix _).trans (List.prefix_append _ _)
  · exact List.prefix_rfl

theorem startsArrow_word {c : Char} {s : Text} (h : startsArrow (c :: s) = false) :
    startsArrow (c :: (wordRest s).1) = false := by
  by_contra hstart
  have hsame := startsArrow_append_left (by simpa using hstart) (wordRest s).2
  rw [List.cons_append, wordRest_append] at hsame
  cases h.symm.trans hsame

/-- The rest of a word is the rest of a word on its own. -/
theorem wordRest_wordRest (s : Text) : wordRest (wordRest s).1 = ((wordRest s).1, []) := by
  induction s with
  | nil => rfl
  | cons c s ih =>
      rw [wordRest]
      split
      · rfl
      · rename_i hstop
        simp only [Bool.or_eq_true, not_or, Bool.not_eq_true] at hstop
        rw [wordRest, if_neg (by simp [hstop, startsArrow_word hstop.2]), ih]

/-- No word goes on behind the rest of one. -/
theorem endsWord_wordRest (s : Text) : EndsWord (wordRest s).2 := by
  induction s with
  | nil => rfl
  | cons c s ih =>
      rw [wordRest]
      split
      · rename_i hstop
        rw [EndsWord, wordRest, if_pos hstop]
      · exact ih

/-! ## One space for each run of blanks -/

/-- The text with one space for each run of blanks that stands outside labels. -/
def oneSpaced : Text → Text
  | [] => []
  | c :: s =>
    if Text.isBlank c then ' ' :: oneSpaced (s.dropWhile Text.isBlank)
    else if c = '|' then
      match _h : Segment.untilPipe? s with
      | some (l, rest) => '|' :: l ++ '|' :: oneSpaced rest
      | none => '|' :: oneSpaced s
    else c :: oneSpaced s
termination_by s => s.length
decreasing_by
  · exact Nat.lt_succ_of_le (length_dropWhile_le Text.isBlank s)
  · exact Nat.lt_succ_of_lt (Segment.length_lt_of_untilPipe? _h)
  · exact Nat.lt_succ_self _
  · exact Nat.lt_succ_self _

theorem oneSpaced_nil : oneSpaced [] = [] := by
  rw [oneSpaced.eq_def]

theorem oneSpaced_blank {c : Char} (hc : Text.isBlank c = true) (s : Text) :
    oneSpaced (c :: s) = ' ' :: oneSpaced (s.dropWhile Text.isBlank) := by
  rw [oneSpaced.eq_def]
  dsimp only
  rw [if_pos hc]

theorem oneSpaced_label {s l rest : Text} (h : Segment.untilPipe? s = some (l, rest)) :
    oneSpaced ('|' :: s) = '|' :: l ++ '|' :: oneSpaced rest := by
  rw [oneSpaced.eq_def]
  dsimp only
  rw [if_neg (by decide), if_pos rfl]
  split
  · rename_i hlabel
    cases h.symm.trans hlabel
    rfl
  · rename_i hnone
    cases h.symm.trans hnone

theorem oneSpaced_pipe {s : Text} (h : Segment.untilPipe? s = none) :
    oneSpaced ('|' :: s) = '|' :: oneSpaced s := by
  rw [oneSpaced.eq_def]
  dsimp only
  rw [if_neg (by decide), if_pos rfl]
  split
  · rename_i hlabel
    cases h.symm.trans hlabel
  · rfl

theorem oneSpaced_cons {c : Char} (hc : isStop c = false) (s : Text) :
    oneSpaced (c :: s) = c :: oneSpaced s := by
  obtain ⟨hblank, hpipe⟩ := Bool.or_eq_false_iff.1 hc
  rw [oneSpaced.eq_def]
  dsimp only
  rw [if_neg (by simp [hblank]), if_neg (by simpa using hpipe)]

theorem oneSpaced_append {w : Text} (hw : ∀ c ∈ w, isStop c = false) (s : Text) :
    oneSpaced (w ++ s) = w ++ oneSpaced s := by
  induction w with
  | nil => rfl
  | cons c w ih =>
      rw [List.cons_append, oneSpaced_cons (hw c (by simp)), ih fun d hd => hw d (by simp [hd]),
        List.cons_append]

theorem mem_oneSpaced {s : Text} {c : Char} (h : c ∈ oneSpaced s) : c = ' ' ∨ c ∈ s := by
  fun_induction oneSpaced s with
  | case1 => cases h
  | case2 d s hd ih =>
      rcases List.mem_cons.1 h with rfl | h
      · exact .inl rfl
      · exact (ih h).imp_right fun h => List.mem_cons_of_mem d ((List.dropWhile_suffix _).subset h)
  | case3 s l rest hlabel hd ih =>
      obtain ⟨rfl, -⟩ := Segment.eq_append_of_untilPipe? hlabel
      simp only [List.cons_append, List.mem_cons, List.mem_append] at h ⊢
      rcases h with h | h | h | h
      · exact .inr (.inl h)
      · exact .inr (.inr (.inl h))
      · exact .inr (.inl h)
      · exact (ih h).imp_right fun h => .inr (.inr (.inr h))
  | case4 s hnone hd ih =>
      rcases List.mem_cons.1 h with rfl | h
      · exact .inr (by simp)
      · exact (ih h).imp_right (List.mem_cons_of_mem _)
  | case5 d s hd hpipe ih =>
      rcases List.mem_cons.1 h with rfl | h
      · exact .inr (by simp)
      · exact (ih h).imp_right (List.mem_cons_of_mem _)

/-! ## What is seen of a text -/

/-- The character in front stays unless it is a blank. -/
theorem head?_oneSpaced (s : Text) :
    (oneSpaced s).head? = s.head?.map fun c => if Text.isBlank c then ' ' else c := by
  fun_cases oneSpaced s with
  | case1 => rfl
  | case2 c s hc => simp [hc]
  | case3 s l rest hlabel hc => simp [hc]
  | case4 s hnone hc => simp [hc]
  | case5 c s hc hpipe => simp [hc]

/-- Up to the first stop a text is as it was. -/
theorem exists_oneSpaced_eq (s : Text) : ∃ seen rest, s = seen ++ rest ∧
    oneSpaced s = seen ++ oneSpaced rest ∧ (∀ c ∈ seen, isStop c = false) ∧
    (∀ c ∈ rest.head?, isStop c = true) ∧ ∀ c ∈ (oneSpaced rest).head?, isStop c = true := by
  have hseen : ∀ c ∈ s.takeWhile (!isStop ·), isStop c = false := fun c hc => by
    simpa using List.mem_takeWhile_imp hc
  have hrest : ∀ c ∈ (s.dropWhile (!isStop ·)).head?, isStop c = true :=
    fun c hc => by simpa using Text.eq_false_of_head?_dropWhile hc
  have hsplit := (List.takeWhile_append_dropWhile (p := (!isStop ·)) (l := s)).symm
  generalize s.takeWhile (!isStop ·) = seen, s.dropWhile (!isStop ·) = rest at *
  refine ⟨seen, rest, hsplit, by rw [hsplit, oneSpaced_append hseen], hseen, hrest, ?_⟩
  intro c hc
  rw [head?_oneSpaced] at hc
  obtain ⟨d, hd, rfl⟩ := Option.map_eq_some_iff.1 hc
  split
  · rfl
  · exact hrest d hd

theorem arrowLength?_oneSpaced (s : Text) : arrowLength? (oneSpaced s) = arrowLength? s := by
  obtain ⟨seen, rest, rfl, hspaced, -, hrest, hrest'⟩ := exists_oneSpaced_eq s
  rw [hspaced, arrowLength?_append_stop hrest, arrowLength?_append_stop hrest']

theorem wordRest_oneSpaced (s : Text) :
    wordRest (oneSpaced s) = ((wordRest s).1, oneSpaced (wordRest s).2) := by
  obtain ⟨seen, rest, rfl, hspaced, hseen, hrest, hrest'⟩ := exists_oneSpaced_eq s
  have hleft : ∀ c ∈ (wordRest seen).2, isStop c = false := fun c hc =>
    hseen c (wordRest_append seen ▸ List.mem_append_right _ hc)
  rw [hspaced, wordRest_append_stop hrest, wordRest_append_stop hrest', oneSpaced_append hleft]

/-! ## Writing and reading -/

/-- The tokens of a text, written out, are the text with one space for each run of blanks. -/
theorem renderAll_lex (s : Text) : renderAll (lex s) = oneSpaced s := by
  fun_induction lex s with
  | case1 => exact oneSpaced_nil.symm
  | case2 c s hc ih => rw [renderAll_cons, ih, oneSpaced_blank hc, render, List.singleton_append]
  | case3 s l rest h hb ih =>
      rw [renderAll_cons, ih, oneSpaced_label h, render, List.append_assoc, List.singleton_append]
  | case4 s h hb ih =>
      rw [renderAll_cons, ih, render, oneSpaced_pipe h, List.cons_append,
        ← oneSpaced_append fun _ => not_isStop_of_mem_wordRest, wordRest_append]
  | case5 c s hc hp n h ih =>
      rw [renderAll_cons, ih, render, ← oneSpaced_append fun _ => (isArrowText_take h).not_isStop,
        List.take_append_drop]
  | case6 s hc hp h ih => rw [renderAll_cons, ih, oneSpaced_cons (by decide), render]; rfl
  | case7 c s hc hp h hj ih =>
      have hstop : isStop c = false := by simpa [isStop, hp] using hc
      rw [renderAll_cons, ih, render, oneSpaced_cons hstop, List.cons_append,
        ← oneSpaced_append fun _ => not_isStop_of_mem_wordRest, wordRest_append]

/-- A text is lexed as before when its blanks are written as single spaces. -/
theorem lex_oneSpaced (s : Text) : lex (oneSpaced s) = lex s := by
  fun_induction lex s with
  | case1 => rw [oneSpaced_nil, lex_nil]
  | case2 c s hc ih =>
      have hhead : ∀ d ∈ (oneSpaced (s.dropWhile Text.isBlank)).head?, Text.isBlank d = false := by
        intro d hd
        rw [head?_oneSpaced] at hd
        obtain ⟨e, he, rfl⟩ := Option.map_eq_some_iff.1 hd
        have hblank : Text.isBlank e = false := Text.eq_false_of_head?_dropWhile he
        rwa [if_neg (by simp [hblank])]
      rw [oneSpaced_blank hc, ← List.singleton_append, lex_blanks_append .space (by simp) hhead, ih]
  | case3 s l rest h hb ih =>
      rw [oneSpaced_label h, lex_label_append (Segment.eq_append_of_untilPipe? h).2, ih]
  | case4 s h hb ih =>
      have hlone : Segment.untilPipe? (oneSpaced s) = none := by
        rw [Segment.untilPipe?_eq_none_iff] at h ⊢
        exact fun hmem => (mem_oneSpaced hmem).elim (by decide) h
      rw [oneSpaced_pipe h, lex_pipe_word hlone, wordRest_oneSpaced, ih]
  | case5 c s hc hp n h ih =>
      have hstop : isStop c = false := by simpa [isStop, hp] using hc
      have hlength := arrowLength?_oneSpaced (c :: s)
      have harrow : ((c :: s).take n).length = n :=
        List.length_take_of_le (le_length_of_arrowLength? h)
      have hsplit : c :: oneSpaced s = (c :: s).take n ++ oneSpaced ((c :: s).drop n) := by
        rw [← oneSpaced_append fun _ => (isArrowText_take h).not_isStop, List.take_append_drop,
          oneSpaced_cons hstop]
      rw [oneSpaced_cons hstop] at hlength ⊢
      rw [lex_cons_of_arrowLength? (by simpa using hc) hp (hlength.trans h), hsplit,
        List.take_left' harrow, List.drop_left' harrow, ih]
  | case6 s hc hp h ih => rw [oneSpaced_cons (by decide), lex_join_append, ih]
  | case7 c s hc hp h hj ih =>
      have hstop : isStop c = false := by simpa [isStop, hp] using hc
      have hlength := arrowLength?_oneSpaced (c :: s)
      rw [oneSpaced_cons hstop] at hlength ⊢
      rw [lex_cons_word (by simpa using hc) hp hj (hlength.trans h), wordRest_oneSpaced, ih]

end Token

end Flowchart
