import Flowchart.Extract
import Flowchart.Proofs.Lines

/-!
# What is taken from a reply

A reply is searched for a closed block, then for one that is never closed, and what is found, or
else the whole reply, is searched for a root declaration. Of several ways to find a block, the one
that begins first is taken, and then the one with a tag in front. So what is taken is a part of the
reply, it holds no fence, and taking it again changes nothing.
-/

namespace Flowchart

namespace Text

/-! ## The first occurrence of a text -/

theorem le_length_of_cut? {needle s before rest : Text} (h : cut? needle s = some (before, rest))
    {b r : Text} (hs : s = b ++ needle ++ r) : before.length ≤ b.length := by
  induction s generalizing before b with
  | nil =>
      rw [cut?] at h
      split at h
      · cases h
        exact Nat.zero_le _
      · cases h
  | cons c s ih =>
      rw [cut?] at h
      split at h
      · cases h
        exact Nat.zero_le _
      · rename_i hnone
        obtain ⟨⟨b', r'⟩, hcut, he⟩ := Option.map_eq_some_iff.1 h
        cases he
        cases b with
        | nil =>
            rw [List.nil_append] at hs
            rw [after?_eq_some_iff.2 hs] at hnone
            cases hnone
        | cons d b =>
            rw [List.cons_append, List.cons_append] at hs
            obtain ⟨-, hs⟩ := List.cons.inj hs
            exact Nat.succ_le_succ (ih hcut hs)

theorem not_infix_of_cut? {needle s : Text} (h : cut? needle s = none) : ¬ needle <:+: s := by
  rintro ⟨b, r, hs⟩
  induction s generalizing b with
  | nil =>
      have hne : needle = [] := by
        have := congrArg List.length hs
        simp only [List.length_append, List.length_nil] at this
        exact List.eq_nil_of_length_eq_zero (by omega)
      rw [hne] at h
      cases h
  | cons c s ih =>
      rw [cut?] at h
      split at h
      · cases h
      · rename_i hnone
        rw [Option.map_eq_none_iff] at h
        cases b with
        | nil =>
            rw [List.nil_append] at hs
            rw [after?_eq_some_iff.2 hs.symm] at hnone
            cases hnone
        | cons d b =>
            rw [List.cons_append, List.cons_append] at hs
            exact ih h b (List.cons.inj hs).2

theorem not_infix_before_cut? {needle s before rest : Text} (hne : needle ≠ [])
    (h : cut? needle s = some (before, rest)) : ¬ needle <:+: before := by
  rintro ⟨b, r, rfl⟩
  have hs := eq_append_of_cut? h
  have hle := le_length_of_cut? h (b := b) (r := r ++ needle ++ rest) (by rw [hs]; simp)
  have hpos := List.length_pos_iff.2 hne
  simp only [List.length_append] at hle
  omega

theorem trim_isInfix (s : Text) : trim s <:+: s := by
  obtain ⟨b, b', -, -, hs⟩ := exists_trim s
  exact ⟨b, b', hs.symm⟩

end Text

namespace Extract

/-! ## Fences and tags -/

/-- A language tag, padding and the end of the line. -/
def IsTagLine (l : Text) : Prop :=
  ∃ tag padding ending, l = tag ++ padding ++ ending ∧ (∀ c ∈ tag, isTagChar c = true) ∧
    (∀ c ∈ padding, isPadding c = true) ∧ (ending = ['\n'] ∨ ending = ['\r', '\n'])

theorem not_isTagChar_of_isPadding {c : Char} (h : isPadding c = true) : isTagChar c = false := by
  rw [isPadding, Bool.or_eq_true, beq_iff_eq, beq_iff_eq] at h
  rcases h with rfl | rfl <;> decide

theorem dropTag_isTagLine {l : Text} (h : IsTagLine l) (rest : Text) :
    dropTag (l ++ rest) = rest := by
  obtain ⟨tag, padding, ending, rfl, htag, hpadding, hending⟩ := h
  have hend : ∀ c ∈ (ending ++ rest).head?, isTagChar c = false ∧ isPadding c = false := by
    rcases hending with rfl | rfl <;>
      · rintro c ⟨⟩
        decide
  have hword : (tag ++ (padding ++ (ending ++ rest))).dropWhile isTagChar
      = padding ++ (ending ++ rest) := by
    rw [List.dropWhile_append_of_pos htag]
    refine Text.dropWhile_eq_self_of_head fun c hc => ?_
    cases padding with
    | nil => exact (hend c hc).1
    | cons d padding =>
        cases hc
        exact not_isTagChar_of_isPadding (hpadding _ List.mem_cons_self)
  have hgap : (padding ++ (ending ++ rest)).dropWhile isPadding = ending ++ rest := by
    rw [List.dropWhile_append_of_pos hpadding]
    exact Text.dropWhile_eq_self_of_head fun c hc => (hend c hc).2
  rw [List.append_assoc, List.append_assoc, dropTag, hword, hgap]
  rcases hending with rfl | rfl <;> rfl

theorem exists_dropTag (s : Text) :
    dropTag s = s ∨ ∃ l, IsTagLine l ∧ s = l ++ dropTag s := by
  have hsplit : s = s.takeWhile isTagChar ++
      ((s.dropWhile isTagChar).takeWhile isPadding ++
        (s.dropWhile isTagChar).dropWhile isPadding) := by
    rw [List.takeWhile_append_dropWhile, List.takeWhile_append_dropWhile]
  have hline {ending rest : Text} (hending : ending = ['\n'] ∨ ending = ['\r', '\n'])
      (hrest : (s.dropWhile isTagChar).dropWhile isPadding = ending ++ rest) :
      ∃ l, IsTagLine l ∧ s = l ++ rest := by
    refine ⟨s.takeWhile isTagChar ++ (s.dropWhile isTagChar).takeWhile isPadding ++ ending,
      ⟨_, _, ending, rfl, fun _ hc => List.mem_takeWhile_imp hc,
        fun _ hc => List.mem_takeWhile_imp hc, hending⟩, ?_⟩
    conv_lhs => rw [hsplit, hrest]
    simp
  rw [dropTag]
  split
  · rename_i rest h
    exact .inr (hline (.inl rfl) h)
  · rename_i rest h
    exact .inr (hline (.inr rfl) h)
  · exact .inl rfl

theorem fence_notMem_isTagLine {l : Text} (h : IsTagLine l) : '\x60' ∉ l := by
  obtain ⟨tag, padding, ending, rfl, htag, hpadding, hending⟩ := h
  intro hmem
  simp only [List.mem_append] at hmem
  rcases hmem with (hmem | hmem) | hmem
  · exact absurd (htag _ hmem) (by decide)
  · exact absurd (hpadding _ hmem) (by decide)
  · rcases hending with rfl | rfl <;> exact absurd hmem (by decide)

/-- No fence begins in what is dropped. -/
theorem fence_infix_dropTag {s : Text} (h : fence <:+: s) : fence <:+: dropTag s := by
  rcases exists_dropTag s with hs | ⟨l, hl, hs⟩
  · rwa [hs]
  · rw [hs] at h
    have hnone := fence_notMem_isTagLine hl
    generalize dropTag s = rest at h
    clear hs hl
    induction l with
    | nil => exact h
    | cons c l ih =>
        rw [List.mem_cons, not_or] at hnone
        rcases List.infix_cons_iff.1 h with hfirst | hrest
        · exact absurd (List.cons_prefix_cons.1 hfirst).1 hnone.1
        · exact ih hnone.2 hrest

/-! ## Blocks -/

/-- A fence with a tag line or none behind it, and what is inside. -/
structure Block where
  before : Text
  tag : Text
  inside : Text
  behind : Text

namespace Block

structure IsIn (text closing : Text) (b : Block) : Prop where
  text : text = b.before ++ fence ++ b.tag ++ b.inside ++ closing ++ b.behind
  tag : b.tag = [] ∨ IsTagLine b.tag

/-- Another fence ends the block. -/
abbrev IsClosed (text : Text) (b : Block) : Prop := b.IsIn text fence

/-- The block reaches to the end. -/
def IsOpen (text : Text) (b : Block) : Prop := b.IsIn text [] ∧ b.behind = []

/-- Which of two blocks is found first: the one that begins first, then the one with a tag line,
then the shorter one. -/
def Precedes (b b' : Block) : Prop :=
  b.before.length < b'.before.length ∨ b.before.length = b'.before.length ∧
    (b.tag ≠ [] ∧ b'.tag = [] ∨ (b.tag = [] ↔ b'.tag = []) ∧ b.inside.length < b'.inside.length)

/-- No other block is found before this one. -/
structure IsFirst (P : Block → Prop) (b : Block) : Prop where
  holds : P b
  first : ∀ b', P b' → ¬ b'.Precedes b

variable {text closing : Text} {b b' : Block}

theorem IsIn.behind_fence (h : b.IsIn text closing) :
    text = b.before ++ fence ++ (b.tag ++ (b.inside ++ closing ++ b.behind)) := by
  rw [h.text]
  simp

theorem IsIn.dropTag_behind (h : b.IsIn text closing) (htag : b.tag ≠ []) :
    dropTag (b.tag ++ (b.inside ++ closing ++ b.behind)) = b.inside ++ closing ++ b.behind :=
  dropTag_isTagLine (h.tag.resolve_left htag) _

/-- The tag line that is taken is the only one there. -/
theorem IsIn.tag_eq (h : b.IsIn text closing) (h' : b'.IsIn text closing)
    (hbefore : b.before = b'.before) (htag : b.tag = [] ↔ b'.tag = []) : b.tag = b'.tag := by
  by_cases hnil : b.tag = []
  · rw [hnil, htag.1 hnil]
  · have hrest := h.behind_fence.symm.trans h'.behind_fence
    rw [hbefore] at hrest
    replace hrest := List.append_cancel_left hrest
    have hdrop := congrArg dropTag hrest
    rw [h.dropTag_behind hnil, h'.dropTag_behind (mt htag.2 hnil)] at hdrop
    rw [hdrop] at hrest
    exact List.append_cancel_right hrest

/-- Blocks of which neither is found before the other have the same inside. -/
theorem IsIn.inside_eq (h : b.IsIn text closing) (h' : b'.IsIn text closing)
    (hle : ¬ b.Precedes b') (hge : ¬ b'.Precedes b) : b.inside = b'.inside := by
  -- the order compares the place, then whether a tag line is taken, then the length
  rw [Precedes, not_or, not_and, not_or, not_and, not_and] at hle hge
  have hlength : b.before.length = b'.before.length := by omega
  have hbefore : b.before = b'.before := by
    have := h.text.symm.trans h'.text
    simp only [List.append_assoc] at this
    exact (List.append_inj this hlength).1
  obtain ⟨htag, hinside⟩ := hle.2 hlength
  obtain ⟨htag', hinside'⟩ := hge.2 hlength.symm
  have hiff : b.tag = [] ↔ b'.tag = [] :=
    ⟨fun hnil => by_contra fun hne => htag' hne hnil,
      fun hnil => by_contra fun hne => htag hne hnil⟩
  have hsize : b.inside.length = b'.inside.length :=
    Nat.le_antisymm (Nat.not_lt.1 (hinside' hiff.symm)) (Nat.not_lt.1 (hinside hiff))
  have := h.behind_fence.symm.trans h'.behind_fence
  rw [hbefore, h.tag_eq h' hbefore hiff] at this
  have hrest := List.append_cancel_left (List.append_cancel_left this)
  simp only [List.append_assoc] at hrest
  exact (List.append_inj hrest hsize).1

theorem IsFirst.inside_eq {P : Block → Prop} (hP : ∀ b, P b → b.IsIn text closing)
    (h : IsFirst P b) (h' : IsFirst P b') : b.inside = b'.inside :=
  (hP b h.holds).inside_eq (hP b' h'.holds) (h'.first b h.holds) (h.first b' h'.holds)

theorem isFirst_of_cut? {P : Block → Prop} (hP : ∀ b, P b → b.IsIn text closing) {behind : Text}
    (hcut : Text.cut? fence text = some (b.before, behind)) (hb : P b)
    (htag : b.tag = [] → dropTag behind = behind)
    (hinside : ∀ b', P b' → b'.inside ++ closing ++ b'.behind = b.inside ++ closing ++ b.behind →
      b.inside.length ≤ b'.inside.length) : IsFirst P b := by
  refine ⟨hb, fun b' hb' hprecedes => ?_⟩
  have htext := (hP b hb).behind_fence
  have htext' := (hP b' hb').behind_fence
  rcases hprecedes with hlt | ⟨hlength, hrest⟩
  · exact absurd (Text.le_length_of_cut? hcut htext') (Nat.not_le.2 hlt)
  · have hbefore : b'.before = b.before := by
      have := htext'.symm.trans htext
      simp only [List.append_assoc] at this
      exact (List.append_inj this hlength).1
    have hbehind := Text.eq_append_of_cut? hcut
    rcases hrest with ⟨hne, hnil⟩ | ⟨hiff, hlt⟩
    · rw [hbehind, ← hbefore] at htext'
      have hdrop := htag hnil
      rw [List.append_cancel_left htext', (hP b' hb').dropTag_behind hne] at hdrop
      exact hne (List.self_eq_append_left.1 hdrop)
    · have heq := htext'.symm.trans htext
      rw [hbefore, (hP b' hb').tag_eq (hP b hb) hbefore hiff] at heq
      have := hinside b' hb' (List.append_cancel_left (List.append_cancel_left heq))
      omega

end Block

/-! ## Candidates -/

/-- What is searched for a root declaration: the inside of the first closed block, or that of the
first open one where none is closed, or the whole text where no fence is. -/
inductive IsCandidate (raw : Text) : Text → Prop where
  | closed {b : Block} (h : Block.IsFirst (Block.IsClosed (Text.trim raw)) b) :
      IsCandidate raw (Text.trim b.inside)
  | opened {b : Block} (hnone : ∀ b, ¬ Block.IsClosed (Text.trim raw) b)
      (h : Block.IsFirst (Block.IsOpen (Text.trim raw)) b) : IsCandidate raw (Text.trim b.inside)
  | plain (hnone : ¬ fence <:+: Text.trim raw) : IsCandidate raw (Text.trim raw)

theorem exists_tag (s : Text) : ∃ tag, s = tag ++ dropTag s ∧ (tag = [] ∨ IsTagLine tag) ∧
    (tag = [] → dropTag s = s) := by
  rcases exists_dropTag s with hs | ⟨l, hl, hs⟩
  · exact ⟨[], hs.symm, .inl rfl, fun _ => hs⟩
  · refine ⟨l, hs, .inr hl, fun hnil => ?_⟩
    rw [hnil, List.nil_append] at hs
    exact hs.symm

theorem Block.IsIn.isInfix {text closing : Text} {b : Block} (h : b.IsIn text closing) :
    fence <:+: text :=
  ⟨b.before, _, h.behind_fence.symm⟩

theorem Block.IsClosed.infix_dropTag {text before behind : Text} {b : Block}
    (h : b.IsClosed text) (hcut : Text.cut? fence text = some (before, behind)) :
    fence <:+: dropTag behind := by
  have htext := h.behind_fence
  have hcutText := Text.eq_append_of_cut? hcut
  have hle := Text.le_length_of_cut? hcut htext
  have hlength := congrArg List.length (hcutText.symm.trans htext)
  have hsuffix : b.tag ++ (b.inside ++ fence ++ b.behind) <:+ behind := by
    refine List.suffix_of_suffix_length_le ⟨_, htext.symm⟩ ⟨_, hcutText.symm⟩ ?_
    simp only [List.length_append] at hlength ⊢
    omega
  have hclosing : fence <:+: b.tag ++ (b.inside ++ fence ++ b.behind) :=
    ⟨b.tag ++ b.inside, b.behind, by simp⟩
  exact fence_infix_dropTag (hclosing.trans hsuffix.isInfix)

theorem isCandidate_candidate (raw : Text) : IsCandidate raw (candidate raw) := by
  rw [candidate]
  cases hcut : Text.cut? fence (Text.trim raw) with
  | none => exact .plain (Text.not_infix_of_cut? hcut)
  | some cut =>
      obtain ⟨before, behind⟩ := cut
      obtain ⟨tag, htag, hkind, hnil⟩ := exists_tag behind
      have htext := Text.eq_append_of_cut? hcut
      dsimp only
      cases hclose : Text.cut? fence (dropTag behind) with
      | none =>
          have hin : Block.IsIn (Text.trim raw) [] ⟨before, tag, dropTag behind, []⟩ := by
            refine ⟨?_, hkind⟩
            rw [htext]
            conv_lhs => rw [htag]
            simp
          refine .opened (b := ⟨before, tag, dropTag behind, []⟩) (fun b hb => ?_)
            (Block.isFirst_of_cut? (fun b hb => hb.1) hcut ⟨hin, rfl⟩ hnil fun b hb h => ?_)
          · exact Text.not_infix_of_cut? hclose (hb.infix_dropTag hcut)
          · rw [hb.2] at h
            simp only [List.append_nil] at h
            rw [h]
      | some cut =>
          obtain ⟨inside, rest⟩ := cut
          have hinside := Text.eq_append_of_cut? hclose
          have hin : Block.IsClosed (Text.trim raw) ⟨before, tag, inside, rest⟩ := by
            refine ⟨?_, hkind⟩
            rw [htext]
            conv_lhs => rw [htag, hinside]
            simp
          refine .closed (b := ⟨before, tag, inside, rest⟩)
            (Block.isFirst_of_cut? (fun b hb => hb) hcut hin hnil fun b hb h => ?_)
          exact Text.le_length_of_cut? hclose (hinside.trans h.symm)

theorem isCandidate_iff {raw c : Text} : IsCandidate raw c ↔ c = candidate raw := by
  refine ⟨fun h => ?_, fun h => h ▸ isCandidate_candidate raw⟩
  have hown := isCandidate_candidate raw
  generalize candidate raw = c' at hown
  -- the kinds exclude each other, so that only blocks of one kind are left to compare
  cases h with
  | closed h =>
      cases hown with
      | closed h' => rw [Block.IsFirst.inside_eq (fun _ hb => hb) h h']
      | opened hnone _ => exact absurd h.holds (hnone _)
      | plain hnone => exact absurd h.holds.isInfix hnone
  | opened hnone h =>
      cases hown with
      | closed h' => exact absurd h'.holds (hnone _)
      | opened _ h' => rw [Block.IsFirst.inside_eq (fun _ hb => hb.1) h h']
      | plain hnone => exact absurd h.holds.1.isInfix hnone
  | plain hnone =>
      cases hown with
      | closed h' => exact absurd h'.holds.isInfix hnone
      | opened _ h' => exact absurd h'.holds.1.isInfix hnone
      | plain _ => rfl

theorem not_infix_candidate (raw : Text) : ¬ fence <:+: candidate raw := by
  rw [candidate]
  cases hcut : Text.cut? fence (Text.trim raw) with
  | none => exact Text.not_infix_of_cut? hcut
  | some cut =>
      dsimp only
      cases hclose : Text.cut? fence (dropTag cut.2) with
      | none => exact fun h => Text.not_infix_of_cut? hclose (h.trans (Text.trim_isInfix _))
      | some cut =>
          exact fun h => Text.not_infix_before_cut? (by decide) hclose
            (h.trans (Text.trim_isInfix _))

theorem isTrimmed_candidate (raw : Text) : Text.IsTrimmed (candidate raw) := by
  rw [candidate]
  split
  · exact Text.isTrimmed_trim _
  · dsimp only
    split <;> exact Text.isTrimmed_trim _

theorem candidate_isInfix (raw : Text) : candidate raw <:+: raw := by
  have hbehind {s before behind : Text} (h : Text.cut? fence s = some (before, behind)) :
      behind <:+: s := (List.IsSuffix.isInfix ⟨_, (Text.eq_append_of_cut? h).symm⟩)
  have hdrop (s : Text) : dropTag s <:+: s := by
    obtain ⟨tag, htag, -, -⟩ := exists_tag s
    exact (List.IsSuffix.isInfix ⟨tag, htag.symm⟩)
  rw [candidate]
  split
  · exact Text.trim_isInfix raw
  · rename_i before behind hcut
    have hinside := (hdrop behind).trans ((hbehind hcut).trans (Text.trim_isInfix raw))
    dsimp only
    split
    · rename_i block rest hclose
      have hblock : block <:+: dropTag behind :=
        ⟨[], fence ++ rest, by rw [Text.eq_append_of_cut? hclose]; simp⟩
      exact (Text.trim_isInfix block).trans (hblock.trans hinside)
    · exact (Text.trim_isInfix _).trans hinside

/-! ## Root declarations -/

/-- A root declaration and the text around it. -/
structure Root where
  before : Text
  declaration : Text
  behind : Text

namespace Root

/-- The declaration is a root keyword in any case, padding and the code of a direction, and it
begins and ends where a word does. -/
structure IsIn (text : Text) (r : Root) : Prop where
  text : text = r.before ++ r.declaration ++ r.behind
  declaration : ∃ keyword padding code, r.declaration = keyword ++ padding ++ code ∧
    Line.isRootKeyword keyword = true ∧ padding ≠ [] ∧ (∀ c ∈ padding, isPadding c = true) ∧
      (Direction.ofText? code).isSome = true
  start : r.before.getLast?.any Text.isWordChar = false
  stop : r.behind.head?.any Text.isWordChar = false

/-- No other declaration begins before this one. -/
structure IsFirst (text : Text) (r : Root) : Prop where
  holds : r.IsIn text
  first : ∀ r' : Root, r'.IsIn text → r.before.length ≤ r'.before.length

end Root

theorem not_isPadding_of_isAlphanum {c : Char} (h : c.isAlphanum = true) : isPadding c = false := by
  rw [isPadding, Bool.or_eq_false_iff, beq_eq_false_iff_ne, beq_eq_false_iff_ne]
  constructor <;>
    · rintro rfl
      exact absurd h (by decide)

theorem exists_code {code : Text} (h : (Direction.ofText? code).isSome = true) :
    ∃ a b, code = [a, b] := by
  obtain ⟨d, hd⟩ := Option.isSome_iff_exists.1 h
  have hcode : code.map Char.toUpper = d.code := Direction.ofCode?_eq_some_iff.1 hd
  have hlength : code.length = 2 := by
    rw [← List.length_map (f := Char.toUpper), hcode]
    cases d <;> rfl
  exact List.length_eq_two.1 hlength

theorem continuesRoot_iff {s : Text} : continuesRoot s = true ↔
    ∃ padding code behind, s = padding ++ code ++ behind ∧ padding ≠ [] ∧
      (∀ c ∈ padding, isPadding c = true) ∧ (Direction.ofText? code).isSome = true ∧
        behind.head?.any Text.isWordChar = false := by
  constructor
  · intro h
    rw [continuesRoot] at h
    split at h
    · rename_i a b behind hrest
      simp only [Bool.and_eq_true, Bool.not_eq_true'] at h
      obtain ⟨⟨hhead, hcode⟩, hstop⟩ := h
      refine ⟨s.takeWhile isPadding, [a, b], behind, ?_, ?_, fun _ => List.mem_takeWhile_imp, hcode,
        hstop⟩
      · rw [List.append_assoc]
        exact (congrArg (_ ++ ·) hrest).symm.trans List.takeWhile_append_dropWhile |>.symm
      · cases s with
        | nil => cases hhead
        | cons c s =>
            have hc : isPadding c = true := hhead
            rw [List.takeWhile_cons, if_pos hc]
            exact List.cons_ne_nil _ _
    · cases h
  · rintro ⟨padding, code, behind, rfl, hne, hpadding, hcode, hstop⟩
    obtain ⟨d, hd⟩ := Option.isSome_iff_exists.1 hcode
    obtain ⟨a, b, rfl⟩ := exists_code hcode
    have ha := not_isPadding_of_isAlphanum (Line.isAlphanum_of_ofText? hd a (by simp))
    have hrest : (padding ++ [a, b] ++ behind).dropWhile isPadding = a :: b :: behind := by
      rw [List.append_assoc, List.dropWhile_append_of_pos hpadding]
      exact Text.dropWhile_eq_self_of_head (by rintro c ⟨⟩; exact ha)
    have hhead : (padding ++ [a, b] ++ behind).head?.any isPadding = true := by
      obtain ⟨c, padding, rfl⟩ := List.exists_cons_of_ne_nil hne
      exact hpadding c List.mem_cons_self
    rw [continuesRoot, hrest]
    simp only [hhead, hcode, hstop]
    rfl

theorem afterWord?_any_iff {word s : Text} {p : Text → Bool} :
    (afterWord? word s).any p = true ↔
      ∃ k r, s = k ++ r ∧ k.map Char.toLower = word ∧ p r = true := by
  rw [afterWord?]
  constructor
  · intro h
    split at h
    · rename_i hword
      exact ⟨_, _, (List.take_append_drop _ s).symm, hword, h⟩
    · cases h
  · rintro ⟨k, r, rfl, rfl, hp⟩
    rw [List.length_map, List.take_left, List.drop_left, if_pos rfl]
    exact hp

theorem isRootKeyword_iff {w : Text} : Line.isRootKeyword w = true ↔
    w.map Char.toLower = "flowchart".toList ∨ w.map Char.toLower = "graph".toList := by
  rw [Line.isRootKeyword, List.contains_iff_mem, Line.rootKeywords]
  simp only [List.mem_cons, List.not_mem_nil, or_false]

/-- Where a declaration begins, word boundaries in front of it apart. -/
theorem beginsRoot_iff {s : Text} : beginsRoot s = true ↔
    ∃ keyword padding code behind, s = keyword ++ padding ++ code ++ behind ∧
      Line.isRootKeyword keyword = true ∧ padding ≠ [] ∧ (∀ c ∈ padding, isPadding c = true) ∧
        (Direction.ofText? code).isSome = true ∧ behind.head?.any Text.isWordChar = false := by
  rw [beginsRoot, Bool.or_eq_true, afterWord?_any_iff, afterWord?_any_iff]
  constructor
  · rintro (⟨k, r, rfl, hk, hr⟩ | ⟨k, r, rfl, hk, hr⟩) <;>
      obtain ⟨padding, code, behind, rfl, hrest⟩ := continuesRoot_iff.1 hr
    · exact ⟨k, padding, code, behind, by simp, isRootKeyword_iff.2 (.inl hk), hrest⟩
    · exact ⟨k, padding, code, behind, by simp, isRootKeyword_iff.2 (.inr hk), hrest⟩
  · rintro ⟨k, padding, code, behind, rfl, hk, hrest⟩
    have hcontinues : continuesRoot (padding ++ code ++ behind) = true :=
      continuesRoot_iff.2 ⟨padding, code, behind, rfl, hrest⟩
    have hsplit : k ++ padding ++ code ++ behind = k ++ (padding ++ code ++ behind) := by simp
    exact (isRootKeyword_iff.1 hk).imp (fun hw => ⟨k, _, hsplit, hw, hcontinues⟩)
      fun hw => ⟨k, _, hsplit, hw, hcontinues⟩

/-- Whether a word goes on behind the text, which stands behind a word or not. -/
def endsInWord (insideWord : Bool) (before : Text) : Bool :=
  (before.getLast?.map Text.isWordChar).getD insideWord

theorem endsInWord_cons (insideWord : Bool) (c : Char) (before : Text) :
    endsInWord insideWord (c :: before) = endsInWord (Text.isWordChar c) before := by
  rw [endsInWord, endsInWord, List.getLast?_cons]
  cases before.getLast? <;> rfl

/-- The text from the first declaration on. -/
theorem of_fromRoot?_eq_some {insideWord : Bool} {s t : Text}
    (h : fromRoot? insideWord s = some t) : ∃ before, s = before ++ t ∧
      endsInWord insideWord before = false ∧ beginsRoot t = true ∧
        ∀ b u, s = b ++ u → endsInWord insideWord b = false → beginsRoot u = true →
          before.length ≤ b.length := by
  induction s generalizing insideWord with
  | nil => cases h
  | cons c s ih =>
      rw [fromRoot?] at h
      split at h
      · rename_i hbegins
        rw [Bool.and_eq_true, Bool.not_eq_true'] at hbegins
        cases h
        exact ⟨[], rfl, hbegins.1, hbegins.2, fun _ _ _ _ _ => Nat.zero_le _⟩
      · rename_i hbegins
        -- the character that is passed says whether a word goes on behind it
        obtain ⟨before, rfl, hend, hroot, hfirst⟩ := ih h
        refine ⟨c :: before, rfl, ?_, hroot, fun b u hs hb hu => ?_⟩
        · rw [endsInWord_cons]
          exact hend
        · cases b with
          | nil =>
              have hinside : insideWord = false := hb
              rw [List.nil_append] at hs
              rw [hinside, hs, hu] at hbegins
              exact absurd rfl hbegins
          | cons d b =>
              obtain ⟨rfl, hrest⟩ := List.cons.inj hs
              rw [endsInWord_cons] at hb
              exact Nat.succ_le_succ (hfirst b u hrest hb hu)

theorem of_fromRoot?_eq_none {insideWord : Bool} {s : Text} (h : fromRoot? insideWord s = none)
    {b u : Text} (hs : s = b ++ u) (hb : endsInWord insideWord b = false) :
    beginsRoot u = false := by
  induction s generalizing insideWord b with
  | nil =>
      obtain ⟨-, rfl⟩ := List.append_eq_nil_iff.1 hs.symm
      decide
  | cons c s ih =>
      rw [fromRoot?] at h
      split at h
      · cases h
      · rename_i hbegins
        cases b with
        | nil =>
            have hinside : insideWord = false := hb
            rw [List.nil_append] at hs
            rw [← hs]
            rw [hinside] at hbegins
            simpa using hbegins
        | cons d b =>
            obtain ⟨rfl, hrest⟩ := List.cons.inj hs
            rw [endsInWord_cons] at hb
            exact ih h hrest hb

namespace Root

theorem endsInWord_false (before : Text) :
    endsInWord false before = before.getLast?.any Text.isWordChar := by
  rw [endsInWord]
  cases before.getLast? <;> rfl

theorem IsIn.beginsRoot {text : Text} {r : Root} (h : r.IsIn text) :
    Extract.beginsRoot (r.declaration ++ r.behind) = true := by
  obtain ⟨keyword, padding, code, hdeclaration, hkeyword, hne, hpadding, hcode⟩ := h.declaration
  exact beginsRoot_iff.2 ⟨keyword, padding, code, r.behind, by rw [hdeclaration], hkeyword, hne,
    hpadding, hcode, h.stop⟩

theorem IsIn.start_eq {text : Text} {r : Root} (h : r.IsIn text) :
    text = r.before ++ (r.declaration ++ r.behind) ∧ endsInWord false r.before = false := by
  rw [endsInWord_false, ← List.append_assoc]
  exact ⟨h.text, h.start⟩

theorem exists_isFirst_of_fromRoot? {text t : Text} (h : fromRoot? false text = some t) :
    ∃ r : Root, r.IsFirst text ∧ t = r.declaration ++ r.behind := by
  obtain ⟨before, rfl, hend, hroot, hfirst⟩ := of_fromRoot?_eq_some h
  rw [endsInWord_false] at hend
  obtain ⟨keyword, padding, code, behind, rfl, hkeyword, hne, hpadding, hcode, hstop⟩ :=
    beginsRoot_iff.1 hroot
  refine ⟨⟨before, keyword ++ padding ++ code, behind⟩, ⟨⟨by simp, ?_, hend, hstop⟩, ?_⟩, rfl⟩
  · exact ⟨keyword, padding, code, rfl, hkeyword, hne, hpadding, hcode⟩
  · exact fun r hr => hfirst _ _ hr.start_eq.1 hr.start_eq.2 hr.beginsRoot

theorem fromRoot?_eq_none {text : Text} (h : ∀ r : Root, ¬ r.IsIn text) :
    fromRoot? false text = none := by
  cases hfrom : fromRoot? false text with
  | none => rfl
  | some t =>
      obtain ⟨r, hr, -⟩ := exists_isFirst_of_fromRoot? hfrom
      exact absurd hr.holds (h r)

theorem IsIn.exists_isFirst {text : Text} {r : Root} (h : r.IsIn text) :
    ∃ r : Root, r.IsFirst text := by
  cases hfrom : fromRoot? false text with
  | none =>
      have hnone := of_fromRoot?_eq_none hfrom h.start_eq.1 h.start_eq.2
      rw [h.beginsRoot] at hnone
      cases hnone
  | some t =>
      obtain ⟨r, hr, -⟩ := exists_isFirst_of_fromRoot? hfrom
      exact ⟨r, hr⟩

theorem IsFirst.fromRoot?_eq {text : Text} {r : Root} (h : r.IsFirst text) :
    fromRoot? false text = some (r.declaration ++ r.behind) := by
  cases hfrom : fromRoot? false text with
  | none =>
      have hnone := of_fromRoot?_eq_none hfrom h.holds.start_eq.1 h.holds.start_eq.2
      rw [h.holds.beginsRoot] at hnone
      cases hnone
  | some t =>
      obtain ⟨r', hr', rfl⟩ := exists_isFirst_of_fromRoot? hfrom
      have hlength := Nat.le_antisymm (hr'.first r h.holds) (h.first r' hr'.holds)
      have hequal := hr'.holds.start_eq.1.symm.trans h.holds.start_eq.1
      rw [(List.append_inj hequal hlength).2]

theorem IsIn.head {text : Text} {r : Root} (h : r.IsIn text) :
    ∃ c s, r.declaration = c :: s ∧ Text.isBlank c = false := by
  obtain ⟨keyword, padding, code, hdeclaration, hkeyword, -⟩ := h.declaration
  cases keyword with
  | nil => exact absurd hkeyword (by decide)
  | cons c keyword =>
      exact ⟨c, keyword ++ padding ++ code, by simp [hdeclaration], Ident.not_isBlank_of_isAlphanum
        (Line.isAlphanum_of_isRootKeyword hkeyword c List.mem_cons_self)⟩

end Root

end Extract

/-! ## Selections -/

open Extract

theorem extract_eq (raw : Text) :
    extract raw = ((fromRoot? false (candidate raw)).getD (candidate raw)) := by
  rw [extract]
  refine Text.trim_eq_self ?_
  have hcandidate := isTrimmed_candidate raw
  cases hfrom : fromRoot? false (candidate raw) with
  | none => exact hcandidate
  | some t =>
      obtain ⟨r, hr, rfl⟩ := Root.exists_isFirst_of_fromRoot? hfrom
      obtain ⟨c, s, hc, hblank⟩ := hr.holds.head
      rw [Option.getD_some]
      refine ⟨fun d hd => ?_, fun d hd => hcandidate.getLast d ?_⟩
      · rw [hc] at hd
        cases hd
        exact hblank
      · rw [hr.holds.start_eq.1, List.getLast?_append_of_ne_nil _ (by simp [hc])]
        exact hd

theorem extract_isInfix_candidate (raw : Text) : extract raw <:+: candidate raw := by
  rw [extract_eq]
  cases hfrom : fromRoot? false (candidate raw) with
  | none => exact List.infix_rfl
  | some t => exact (suffix_of_fromRoot? hfrom).isInfix

theorem isTrimmed_extract (raw : Text) : Text.IsTrimmed (extract raw) := Text.isTrimmed_trim _

theorem candidate_eq_self {s : Text} (hs : Text.IsTrimmed s) (hnone : ¬ fence <:+: s) :
    candidate s = s := by
  rw [candidate, Text.trim_eq_self hs]
  cases hcut : Text.cut? fence s with
  | none => rfl
  | some cut =>
      exact absurd ⟨cut.1, cut.2, (Text.eq_append_of_cut? hcut).symm⟩ hnone

theorem not_infix_extract (raw : Text) : ¬ fence <:+: extract raw :=
  fun h => not_infix_candidate raw (h.trans (extract_isInfix_candidate raw))

theorem extract_again (raw : Text) : extract (extract raw) = extract raw := by
  rw [extract_eq (extract raw), candidate_eq_self (isTrimmed_extract raw) (not_infix_extract raw)]
  cases hfrom : fromRoot? false (candidate raw) with
  | none =>
      have : extract raw = candidate raw := by
        rw [extract_eq, hfrom]
        rfl
      rw [this, hfrom]
      rfl
  | some t =>
      have : extract raw = t := by
        rw [extract_eq, hfrom]
        rfl
      -- the declaration stands at the front now, where a word begins in any case
      obtain ⟨-, -, -, hroot, -⟩ := of_fromRoot?_eq_some hfrom
      rw [this]
      cases t with
      | nil => exact absurd hroot (by decide)
      | cons c s =>
          rw [fromRoot?, hroot]
          rfl

/-- What is taken from a reply is a trimmed part of it without a fence. It is the candidate from its
first root declaration on, or the whole candidate where there is none, and nothing more is dropped
a second time. -/
theorem extract_selects (raw : Text) :
    extract raw <:+: raw ∧ Text.IsTrimmed (extract raw) ∧ ¬ fence <:+: extract raw ∧
      (∃ c, IsCandidate raw c) ∧
      (∀ c, IsCandidate raw c →
        ((∃ r : Root, r.IsIn c) → ∃ r : Root, r.IsFirst c) ∧
          (∀ r : Root, r.IsFirst c → extract raw = r.declaration ++ r.behind) ∧
            ((∀ r : Root, ¬ r.IsIn c) → extract raw = c)) ∧
      extract (extract raw) = extract raw := by
  refine ⟨(extract_isInfix_candidate raw).trans (candidate_isInfix raw), isTrimmed_extract raw,
    not_infix_extract raw, ⟨_, isCandidate_candidate raw⟩, fun c hc => ?_, extract_again raw⟩
  rw [isCandidate_iff.1 hc]
  refine ⟨fun ⟨r, hr⟩ => hr.exists_isFirst, fun r hr => ?_, fun hnone => ?_⟩
  · rw [extract_eq, hr.fromRoot?_eq]
    rfl
  · rw [extract_eq, Root.fromRoot?_eq_none hnone]
    rfl

/-- A fourth backtick is no part of a fence, and a keyword inside a word is none. -/
example : extract "Use \x60\x60\x60\x60\nmygraph TD graph td\nA\x60\x60\x60\x60".toList
    = "graph td\nA".toList := by decide +kernel

end Flowchart
