import Flowchart.Proofs.Readings
import Flowchart.Proofs.Splitting
import Mathlib.Data.List.Infix

/-!
# Where a statement ends

The splitter counts the delimiters that are open, of whatever kind, and flips at each pipe outside
them. The scanner matches delimiters by kind, lets a closer end the delimiters inside, and needs an
identifier in front of a shape. On lines without stray openers and pipes, whose labels and shapes
close as many delimiters as they open, both see the same semicolons outside.
-/

namespace Flowchart

namespace Repair

/-! ## Cuts -/

/-- What stands in front of each place where the pieces were cut apart. -/
def fronts : List Text → List Text
  | [] => []
  | [_] => []
  | piece :: next :: rest => piece :: (fronts (next :: rest)).map fun u => piece ++ ';' :: u

theorem fronts_nil_cons {pieces : List Text} (h : pieces ≠ []) :
    fronts ([] :: pieces) = [] :: (fronts pieces).map (';' :: ·) := by
  obtain ⟨piece, rest, rfl⟩ := List.exists_cons_of_ne_nil h
  rfl

theorem fronts_extendFirst (c : Char) {pieces : List Text} (h : pieces ≠ []) :
    fronts (Text.extendFirst c pieces) = (fronts pieces).map (c :: ·) := by
  match pieces with
  | [_] => rfl
  | piece :: next :: rest => simp [Text.extendFirst, fronts]

theorem joinWith_extendFirst (sep c : Char) {pieces : List Text} (h : pieces ≠ []) :
    Text.joinWith sep (Text.extendFirst c pieces) = c :: Text.joinWith sep pieces := by
  match pieces with
  | [_] => rfl
  | piece :: next :: rest => rfl

/-- What the splitter knows: how many delimiters are open, and whether a label is. -/
def step (state : Nat × Bool) (c : Char) : Nat × Bool :=
  if isOpener c then (state.1 + 1, state.2)
  else if isCloser c then (state.1 - 1, state.2)
  else if c = '|' ∧ state.1 = 0 then (state.1, !state.2)
  else state

theorem splitFrom_cons {c : Char} (hc : c ≠ '"') (state : Nat × Bool) (s : Text) :
    splitFrom state.1 false state.2 (c :: s) =
      if c = ';' ∧ state = (0, false) then [] :: splitFrom state.1 false state.2 s
      else Text.extendFirst c (splitFrom (step state c).1 false (step state c).2 s) := by
  obtain ⟨depth, piped⟩ := state
  rw [splitFrom, if_neg hc, if_neg Bool.false_ne_true]
  by_cases ho : isOpener c = true
  · have hne : c ≠ ';' := by
      rintro rfl
      cases ho
    simp [step, ho, hne]
  by_cases hclose : isCloser c = true
  · have hne : c ≠ ';' := by
      rintro rfl
      cases hclose
    simp [step, ho, hclose, hne]
  by_cases hpipe : c = '|' ∧ depth = 0
  · obtain ⟨rfl, rfl⟩ := hpipe
    rfl
  · simp [step, ho, hclose, hpipe]

theorem joinWith_splitFrom (depth : Nat) (quoted piped : Bool) (s : Text) :
    Text.joinWith ';' (splitFrom depth quoted piped s) = s := by
  induction s generalizing depth quoted piped with
  | nil => rfl
  | cons c s ih =>
      have hextend (depth : Nat) (quoted piped : Bool) :
          Text.joinWith ';' (Text.extendFirst c (splitFrom depth quoted piped s)) = c :: s := by
        rw [joinWith_extendFirst ';' c (splitFrom_ne_nil _ _ _ _), ih]
      rw [splitFrom]
      split_ifs with hquote hquoted hopen hclose hpipe hcut
      all_goals first | exact hextend _ _ _ | skip
      rw [Text.joinWith_cons (splitFrom_ne_nil _ _ _ _), ih, hcut.1]
      rfl

/-- The splitter cuts at a semicolon where nothing is open. -/
theorem mem_fronts_splitFrom_iff {u v : Text} (hu : '"' ∉ u) (state : Nat × Bool) :
    u ∈ fronts (splitFrom state.1 false state.2 (u ++ ';' :: v)) ↔
      u.foldl step state = (0, false) := by
  induction u generalizing state with
  | nil =>
      have hne := splitFrom_ne_nil
      rw [List.nil_append, splitFrom_cons (by decide), List.foldl_nil]
      split
      · rename_i h
        rw [fronts_nil_cons (hne _ _ _ _)]
        exact iff_of_true List.mem_cons_self h.2
      · rename_i h
        rw [fronts_extendFirst _ (hne _ _ _ _)]
        exact iff_of_false (by simp) fun hstate => h ⟨rfl, hstate⟩
  | cons c u ih =>
      have hrest := ih fun h => hu (List.mem_cons_of_mem c h)
      rw [List.cons_append, splitFrom_cons fun h => hu (h ▸ List.mem_cons_self), List.foldl_cons]
      split
      · rename_i h
        obtain ⟨rfl, rfl⟩ := h
        rw [fronts_nil_cons (splitFrom_ne_nil _ _ _ _), List.mem_cons,
          List.mem_map_of_injective List.cons_injective, hrest (0, false)]
        exact or_iff_right (List.cons_ne_nil _ _)
      · rw [fronts_extendFirst _ (splitFrom_ne_nil _ _ _ _),
          List.mem_map_of_injective List.cons_injective, hrest]

/-! ## What is open behind a text -/

/-- No end of the text opens more delimiters than it closes. -/
def IsClosed (u : Text) : Prop :=
  ∀ t ∈ u.tails, t.countP isOpener ≤ t.countP isCloser

instance (u : Text) : Decidable (IsClosed u) :=
  inferInstanceAs (Decidable (∀ t ∈ u.tails, _))

/-- No beginning of the text closes more delimiters than it opens. -/
def IsNested (t : Text) : Prop :=
  ∀ u ∈ t.inits, u.countP isCloser ≤ u.countP isOpener

instance (t : Text) : Decidable (IsNested t) :=
  inferInstanceAs (Decidable (∀ u ∈ t.inits, _))

theorem IsNested.count_le {t : Text} (h : IsNested t) : t.countP isCloser ≤ t.countP isOpener :=
  h t ((List.mem_inits _ _).2 (List.prefix_refl t))

theorem IsNested.of_isPrefix {t u : Text} (h : IsNested t) (hu : u <+: t) : IsNested u :=
  fun v hv => h v ((List.mem_inits _ _).2 (((List.mem_inits _ _).1 hv).trans hu))

/-- The pipes that stand outside delimiters. -/
def outerPipes (u : Text) : Nat :=
  (List.range u.length).countP fun i => u[i]? == some '|' && decide (IsClosed (u.take i))

/-- A statement may end behind the text: no delimiter is open, and no label is. -/
def MayEnd (u : Text) : Prop :=
  IsClosed u ∧ outerPipes u % 2 = 0

instance (u : Text) : Decidable (MayEnd u) :=
  inferInstanceAs (Decidable (_ ∧ _))

theorem isCloser_eq_false_of_isOpener {c : Char} (h : isOpener c = true) : isCloser c = false := by
  simp only [isOpener, Bool.or_eq_true, beq_iff_eq] at h
  rcases h with (rfl | rfl) | rfl <;> rfl

theorem fst_step (state : Nat × Bool) (c : Char) :
    (step state c).1 =
      if isOpener c then state.1 + 1 else if isCloser c then state.1 - 1 else state.1 := by
  unfold step
  split_ifs <;> rfl

theorem snd_step (state : Nat × Bool) (c : Char) :
    (step state c).2 = if c = '|' ∧ state.1 = 0 then !state.2 else state.2 := by
  by_cases hc : c = '|'
  · have ho : isOpener c = false := by rw [hc]; rfl
    have hclose : isCloser c = false := by rw [hc]; rfl
    rw [step, ho, hclose, if_neg Bool.false_ne_true, if_neg Bool.false_ne_true]
    split <;> rfl
  · have hno : ¬(c = '|' ∧ state.1 = 0) := fun h => hc h.1
    rw [step, if_neg hno, if_neg hno]
    split_ifs <;> rfl

/-- The number of open delimiters is the most that an end of the text opens and does not close. -/
theorem fst_foldl_step_le_iff (u : Text) (piped : Bool) (n : Nat) :
    (u.foldl step (0, piped)).1 ≤ n ↔
      ∀ t ∈ u.tails, t.countP isOpener ≤ t.countP isCloser + n := by
  induction u using List.reverseRecOn generalizing n with
  | nil => simp
  | append_singleton u c ih =>
      have hends : (∀ t ∈ (u ++ [c]).tails, t.countP isOpener ≤ t.countP isCloser + n) ↔
          ∀ t ∈ u.tails, t.countP isOpener + [c].countP isOpener ≤
            t.countP isCloser + [c].countP isCloser + n := by
        simp only [List.mem_tails, List.suffix_concat_iff]
        constructor
        · intro h t ht
          simpa only [List.countP_append] using h _ (.inr ⟨t, rfl, ht⟩)
        · rintro h _ (rfl | ⟨t, rfl, ht⟩)
          · exact Nat.zero_le _
          · simpa only [List.countP_append] using h t ht
      rw [hends, List.foldl_concat, fst_step]
      by_cases ho : isOpener c = true
      · simp only [ho, if_true, List.countP_singleton, isCloser_eq_false_of_isOpener ho]
        cases n with
        | zero =>
            -- The last character alone opens one more than it closes.
            refine iff_of_false (Nat.not_succ_le_zero _) fun h => ?_
            simpa using h [] (by simp)
        | succ n =>
            rw [Nat.succ_le_succ_iff, ih n]
            exact forall₂_congr fun t _ => by simp; omega
      by_cases hclose : isCloser c = true
      · simp only [ho, hclose, if_true, List.countP_singleton]
        rw [if_neg Bool.false_ne_true, Nat.sub_le_iff_le_add, ih (n + 1)]
        exact forall₂_congr fun t _ => by simp; omega
      · simp only [ho, hclose, List.countP_singleton]
        rw [if_neg Bool.false_ne_true, if_neg Bool.false_ne_true, ih n]
        exact forall₂_congr fun t _ => by simp

theorem fst_foldl_step_eq_zero_iff {u : Text} {piped : Bool} :
    (u.foldl step (0, piped)).1 = 0 ↔ IsClosed u := by
  rw [← Nat.le_zero, fst_foldl_step_le_iff]
  rfl

theorem outerPipes_concat (u : Text) (c : Char) :
    outerPipes (u ++ [c]) = outerPipes u + if c = '|' ∧ IsClosed u then 1 else 0 := by
  have hbefore : ∀ i ∈ List.range u.length,
      ((u ++ [c])[i]? == some '|' && decide (IsClosed ((u ++ [c]).take i))) = true ↔
        (u[i]? == some '|' && decide (IsClosed (u.take i))) = true := by
    intro i hi
    have hi := List.mem_range.1 hi
    rw [List.getElem?_append_left hi, List.take_append_of_le_length (Nat.le_of_lt hi)]
  rw [outerPipes, List.length_append, List.length_singleton, List.range_succ, List.countP_append,
    List.countP_congr hbefore, List.countP_singleton, ← outerPipes]
  congr 1
  simp

theorem snd_foldl_step (u : Text) :
    (u.foldl step (0, false)).2 = (outerPipes u % 2 == 1) := by
  induction u using List.reverseRecOn with
  | nil => rfl
  | append_singleton u c ih =>
      rw [List.foldl_concat, outerPipes_concat]
      simp only [snd_step, fst_foldl_step_eq_zero_iff, ih]
      by_cases hpipe : c = '|' ∧ IsClosed u
      · rw [if_pos hpipe, if_pos hpipe]
        rcases Nat.mod_two_eq_zero_or_one (outerPipes u) with h | h <;>
          simp [Nat.add_mod, h]
      · rw [if_neg hpipe, if_neg hpipe, Nat.add_zero]

/-- Nothing is open for the splitter behind a text, if and only if a statement may end there. -/
theorem foldl_step_eq_iff {u : Text} : u.foldl step (0, false) = (0, false) ↔ MayEnd u := by
  rw [Prod.ext_iff, fst_foldl_step_eq_zero_iff, snd_foldl_step, MayEnd]
  simp

/-! ## Parts that leave nothing open -/

end Repair

open Repair (IsClosed IsNested)

/-- The part is no stray opener or pipe, and closes as many delimiters as it opens. Kinds may be
mixed. -/
def Segment.Piece.IsRegular : Segment.Piece → Prop
  | free c => isOpener c = false ∧ c ≠ '|'
  | label l _ => IsClosed l
  | shape _ _ interior closed => closed = true ∧ IsNested interior ∧
      interior.countP isOpener = interior.countP isCloser

instance : DecidablePred Segment.Piece.IsRegular
  | .free _ => inferInstanceAs (Decidable (_ ∧ _))
  | .label l _ => inferInstanceAs (Decidable (IsClosed l))
  | .shape _ _ _ _ => inferInstanceAs (Decidable (_ ∧ _ ∧ _))

namespace Repair

/-- Up to the pipe that closes it, a label stays open, whatever delimiters it holds. -/
theorem foldl_step_label {l : Text} (hl : '|' ∉ l) (state : Nat × Bool) :
    (l.foldl step state).2 = state.2 := by
  induction l generalizing state with
  | nil => rfl
  | cons c l ih =>
      have hc : c ≠ '|' := fun h => hl (h ▸ List.mem_cons_self)
      rw [List.foldl_cons, ih fun h => hl (List.mem_cons_of_mem c h), snd_step,
        if_neg fun h => hc h.1]

/-- Inside a shape some delimiter is open. -/
theorem foldl_step_interior {t : Text} (ht : IsNested t) (piped : Bool) :
    t.foldl step (1, piped) = (1 + t.countP isOpener - t.countP isCloser, piped) := by
  induction t using List.reverseRecOn with
  | nil => rfl
  | append_singleton t c ih =>
      have hbefore : IsNested t := ht.of_isPrefix (List.prefix_append _ _)
      have hself := hbefore.count_le
      have hwhole := ht.count_le
      rw [List.countP_append, List.countP_append, List.countP_singleton,
        List.countP_singleton] at hwhole ⊢
      rw [List.foldl_concat, ih hbefore]
      refine Prod.ext ?_ ?_
      · rw [fst_step]
        by_cases ho : isOpener c = true
        · simp only [ho, isCloser_eq_false_of_isOpener ho, if_true]
          simp
          omega
        · by_cases hclose : isCloser c = true
          · simp [ho, hclose] at hwhole ⊢
            omega
          · simp [ho, hclose]
      · rw [snd_step, if_neg fun h => by omega]

/-- Behind a regular part nothing is open. -/
theorem foldl_step_text {p : Segment.Piece} (hp : p.IsRegular) :
    p.text.foldl step (0, false) = (0, false) := by
  cases p with
  | free c =>
      obtain ⟨ho, hpipe⟩ := hp
      simp [Segment.Piece.text, step, ho, hpipe]
  | label l hl =>
      have hpiped : l.foldl step (0, true) = (0, true) :=
        Prod.ext (fst_foldl_step_eq_zero_iff.2 hp) (foldl_step_label hl _)
      have hopen : step (0, false) '|' = (0, true) := rfl
      rw [Segment.Piece.text, List.foldl_concat, List.foldl_cons, hopen, hpiped]
      rfl
  | shape opener h interior closed =>
      obtain ⟨rfl, hbefore, heq⟩ := hp
      have hopen : step (0, false) opener = (1, false) := by
        rw [step, if_pos h]
      have hclose : step (1, false) (closerOf opener) = (0, false) := by
        rw [step, if_neg (by simp [Segment.isOpener_closerOf]), if_pos (isCloser_closerOf opener)]
        rfl
      rw [Segment.Piece.text, List.foldl_concat, List.foldl_cons, hopen,
        foldl_step_interior hbefore, heq, Nat.add_sub_cancel, hclose]

theorem foldl_step_texts {ps : List Segment.Piece} (h : ∀ p ∈ ps, p.IsRegular) :
    (ps.flatMap Segment.Piece.text).foldl step (0, false) = (0, false) := by
  induction ps with
  | nil => rfl
  | cons p ps ih =>
      rw [List.flatMap_cons, List.foldl_append, foldl_step_text (h p List.mem_cons_self),
        ih fun q hq => h q (List.mem_cons_of_mem p hq)]

theorem isPrefix_of_concat_eq {s a b : Text} {c d : Char} (h : s ++ [d] = a ++ c :: b) :
    a <+: s := by
  rcases List.prefix_concat_iff.1 ⟨_, h.symm⟩ with rfl | hprefix
  · simp at h
  · exact hprefix

/-- A semicolon inside a label or a shape stands where something is open. -/
theorem foldl_step_inside {p : Segment.Piece} (hp : p.IsRegular) {a b : Text}
    (h : p.text = a ++ ';' :: b) (hfree : p ≠ .free ';') :
    a.foldl step (0, false) ≠ (0, false) := by
  cases p with
  | free c =>
      cases a with
      | nil =>
          cases h
          exact absurd rfl hfree
      | cons c' a => simp [Segment.Piece.text] at h
  | label l hl =>
      cases a with
      | nil => cases h
      | cons c a =>
          obtain ⟨rfl, hrest⟩ := List.cons.inj h
          have hpipe : '|' ∉ a := fun hmem => hl ((isPrefix_of_concat_eq hrest).subset hmem)
          intro hstate
          have := congrArg Prod.snd hstate
          rw [List.foldl_cons, foldl_step_label hpipe] at this
          cases this
  | shape opener ho interior closed =>
      obtain ⟨rfl, hbefore, -⟩ := hp
      cases a with
      | nil =>
          cases h
          cases ho
      | cons c a =>
          obtain ⟨rfl, hrest⟩ := List.cons.inj h
          have hnested := hbefore.of_isPrefix (isPrefix_of_concat_eq hrest)
          have hopen : step (0, false) opener = (1, false) := by rw [step, if_pos ho]
          have hcount := hnested.count_le
          intro hstate
          have := congrArg Prod.fst hstate
          rw [List.foldl_cons, hopen, foldl_step_interior hnested] at this
          omega

/-! ## Lines on which both agree -/

/-- A character of joined texts stands in one of them. -/
theorem exists_of_flatMap_eq {α : Type} {f : α → Text} {as : List α} {u v : Text} {c : Char}
    (h : as.flatMap f = u ++ c :: v) :
    ∃ before a behind w x, as = before ++ a :: behind ∧ f a = w ++ c :: x ∧
      u = before.flatMap f ++ w := by
  induction as generalizing u with
  | nil => simp at h
  | cons a as ih =>
      have later {u' : Text} (h : as.flatMap f = u' ++ c :: v) (hu : u = f a ++ u') :
          ∃ before b behind w x, a :: as = before ++ b :: behind ∧ f b = w ++ c :: x ∧
            u = before.flatMap f ++ w := by
        obtain ⟨before, b, behind, w, x, rfl, hb, rfl⟩ := ih h
        refine ⟨a :: before, b, behind, w, x, rfl, hb, ?_⟩
        rw [hu, List.flatMap_cons, List.append_assoc]
      rw [List.flatMap_cons] at h
      rcases List.append_eq_append_iff.1 h with ⟨u', rfl, h⟩ | ⟨t, ht, h⟩
      · exact later (List.append_cancel_left (h.trans (List.append_assoc _ _ _))) rfl
      · cases t with
        | nil => exact @later [] h.symm (by simpa using ht.symm)
        | cons d t =>
            obtain ⟨rfl, -⟩ := List.cons.inj h
            exact ⟨[], a, as, u, t, rfl, ht, rfl⟩

/-- The scanner reads a semicolon behind the text as free text, outside labels and shapes. -/
def IsFreeAt (line u : Text) : Prop :=
  ∃ before behind, Segment.pieces line = before ++ .free ';' :: behind ∧
    before.flatMap Segment.Piece.text = u

theorem IsFreeAt.exists_eq_append {line u : Text} (h : IsFreeAt line u) :
    ∃ v, line = u ++ ';' :: v := by
  obtain ⟨before, behind, hpieces, rfl⟩ := h
  refine ⟨behind.flatMap Segment.Piece.text, ?_⟩
  rw [← Segment.text_pieces line, hpieces, List.flatMap_append, List.flatMap_cons]
  rfl

/-- On a line of regular parts, a statement may end at the semicolons of the free text. -/
theorem mayEnd_iff_isFreeAt {line u v : Text} (h : ∀ p ∈ Segment.pieces line, p.IsRegular)
    (hline : line = u ++ ';' :: v) : MayEnd u ↔ IsFreeAt line u := by
  rw [← foldl_step_eq_iff]
  constructor
  · intro hstate
    have htext := (Segment.text_pieces line).trans hline
    obtain ⟨before, p, behind, a, b, hpieces, hp, rfl⟩ := exists_of_flatMap_eq htext
    have hbefore : ∀ q ∈ before, q.IsRegular := fun q hq => h q (by simp [hpieces, hq])
    rw [List.foldl_append, foldl_step_texts hbefore] at hstate
    have hfree : p = .free ';' := by
      by_contra hfree
      exact foldl_step_inside (h p (by simp [hpieces])) hp hfree hstate
    subst hfree
    have ha : a = [] := List.prefix_nil.1 (isPrefix_of_concat_eq (s := []) hp)
    exact ⟨before, behind, hpieces, by rw [ha, List.append_nil]⟩
  · rintro ⟨before, behind, hpieces, rfl⟩
    exact foldl_step_texts fun q hq => h q (by simp [hpieces, hq])

theorem exists_eq_of_mem_fronts {pieces : List Text} {u : Text} (h : u ∈ fronts pieces) :
    ∃ v, Text.joinWith ';' pieces = u ++ ';' :: v := by
  induction pieces generalizing u with
  | nil => cases h
  | cons piece pieces ih =>
      cases pieces with
      | nil => cases h
      | cons next rest =>
          rw [Text.joinWith_cons (List.cons_ne_nil _ _)]
          rcases List.mem_cons.1 h with rfl | h
          · exact ⟨_, rfl⟩
          · obtain ⟨u, hu, rfl⟩ := List.mem_map.1 h
            obtain ⟨v, hv⟩ := ih hu
            exact ⟨v, by rw [hv]; simp⟩

theorem fronts_eq_nil_iff {pieces : List Text} (h : pieces ≠ []) :
    fronts pieces = [] ↔ ∃ piece, pieces = [piece] := by
  match pieces with
  | [piece] => simp [fronts]
  | piece :: next :: rest => simp [fronts]

/-- How the splitter and the scanner divide one line. -/
structure Divides (line : Text) : Prop where
  scan_eq : Segment.scan line = Segment.ofPieces [] (Segment.pieces line)
  text_eq : (Segment.pieces line).flatMap Segment.Piece.text = line
  joinWith_eq : Text.joinWith ';' (splitFrom 0 false false line) = line
  /-- A line that is not cut stays as it is, and otherwise blank pieces are left out. -/
  splitStatements_eq : splitStatements line =
    if fronts (splitFrom 0 false false line) = [] then line
    else Text.joinLines
      ((splitFrom 0 false false line).filter fun piece => !(Text.trim piece).isEmpty)
  /-- The line is cut at the semicolons at which no delimiter and no label is open, however the
  scanner reads them. -/
  mem_fronts_iff : ∀ u, u ∈ fronts (splitFrom 0 false false line) ↔
    (∃ v, line = u ++ ';' :: v) ∧ MayEnd u
  /-- It is cut at the semicolons that the scanner reads as free text, exactly if these are the
  ones at which nothing is open. -/
  agrees_iff : (∀ u, u ∈ fronts (splitFrom 0 false false line) ↔ IsFreeAt line u) ↔
    ∀ u v, line = u ++ ';' :: v → (MayEnd u ↔ IsFreeAt line u)
  /-- So it is on regular parts. -/
  agrees_of_isRegular : (∀ p ∈ Segment.pieces line, p.IsRegular) →
    ∀ u, u ∈ fronts (splitFrom 0 false false line) ↔ IsFreeAt line u

/-- Rule and scanner agree on a line where its parts close what they open. -/
theorem divides {line : Text} (hline : '\n' ∉ line) (hdirective : Line.isDirective line = false)
    (hquote : '"' ∉ line) : Divides line := by
  have hfront : ∀ u v, line = u ++ ';' :: v →
      (u ∈ fronts (splitFrom 0 false false line) ↔ MayEnd u) := by
    rintro u v rfl
    rw [← foldl_step_eq_iff]
    exact mem_fronts_splitFrom_iff (fun h => hquote (List.mem_append_left _ h)) (0, false)
  have hcuts : ∀ u, u ∈ fronts (splitFrom 0 false false line) ↔
      (∃ v, line = u ++ ';' :: v) ∧ MayEnd u := by
    intro u
    constructor
    · intro hu
      obtain ⟨v, hv⟩ := exists_eq_of_mem_fronts hu
      rw [joinWith_splitFrom] at hv
      exact ⟨⟨v, hv⟩, (hfront u v hv).1 hu⟩
    · rintro ⟨⟨v, hv⟩, hend⟩
      exact (hfront u v hv).2 hend
  have hagrees : (∀ u, u ∈ fronts (splitFrom 0 false false line) ↔ IsFreeAt line u) ↔
      ∀ u v, line = u ++ ';' :: v → (MayEnd u ↔ IsFreeAt line u) := by
    constructor
    · exact fun h u v hv => (hfront u v hv).symm.trans (h u)
    · intro h u
      rw [hcuts]
      constructor
      · rintro ⟨⟨v, hv⟩, hend⟩
        exact (h u v hv).1 hend
      · intro hfree
        obtain ⟨v, hv⟩ := hfree.exists_eq_append
        exact ⟨⟨v, hv⟩, (h u v hv).2 hfree⟩
  constructor
  case scan_eq => exact Segment.scan_eq_ofPieces line
  case text_eq => exact Segment.text_pieces line
  case joinWith_eq => exact joinWith_splitFrom 0 false false line
  case splitStatements_eq =>
    by_cases hne : line = []
    · subst hne
      rfl
    rw [splitStatements, Text.lines_of_notMem hline hne, List.flatMap_singleton, splitLine,
      if_neg (by simp [hdirective])]
    split
    · rename_i piece hone
      rw [hone]
      rfl
    · rename_i hmany
      rw [if_neg]
      rw [fronts_eq_nil_iff (splitFrom_ne_nil _ _ _ _)]
      rintro ⟨piece, hone⟩
      exact hmany piece hone
  case mem_fronts_iff => exact hcuts
  case agrees_iff => exact hagrees
  case agrees_of_isRegular =>
    exact fun hregular => hagrees.2 fun u v hv => mayEnd_iff_isFreeAt hregular hv

/-- Semicolons in a shape and in a label, with delimiters of mixed kinds, and one outside. -/
theorem divides_mixed :
    let line := "A[x; (y\x7d z] -->|a;b)| B; C".toList
    Line.isDirective line = false ∧ Divides line ∧
      (∀ p ∈ Segment.pieces line, p.IsRegular) ∧
      fronts (splitFrom 0 false false line) = ["A[x; (y\x7d z] -->|a;b)| B".toList] ∧
      splitStatements line = "A[x; (y\x7d z] -->|a;b)| B\n C".toList := by
  intro line
  have hdivides : Divides line := divides (by decide) (by decide +kernel) (by decide)
  refine ⟨by decide +kernel, hdivides, by decide +kernel, by decide +kernel, by decide +kernel⟩

/-- The scanner ends the shape at the bracket, and to the splitter the parenthesis stays open. -/
theorem not_cut_behind_mismatch :
    let line := "A[foo (bar] --> B; C --> D".toList
    let u := "A[foo (bar] --> B".toList
    '\n' ∉ line ∧ Line.isDirective line = false ∧ '"' ∉ line ∧ IsFreeAt line u ∧
      u ∉ fronts (splitFrom 0 false false line) ∧ splitStatements line = line := by
  intro line u
  refine ⟨by decide, by decide +kernel, by decide, ?_, by decide +kernel, by decide +kernel⟩
  exact ⟨(Segment.pieces line).take 8, (Segment.pieces line).drop 9, by decide +kernel,
    by decide +kernel⟩

end Repair

end Flowchart
