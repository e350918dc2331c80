import Flowchart.Proofs.Canonical

/-!
# Lines that are not split

Where a text puts the splitter back into the state that it found, the text is passed over whole.
A statement line that is written canonically holds no semicolon outside its edge labels, and there
the splitter never is outside a label, whatever delimiters the labels hold.
-/

namespace Flowchart

namespace Repair

/-- Puts a text in front of the first piece. -/
def prefixFirst (t : Text) : List Text → List Text
  | [] => [t]
  | piece :: pieces => (t ++ piece) :: pieces

theorem prefixFirst_nil {pieces : List Text} (h : pieces ≠ []) :
    prefixFirst [] pieces = pieces := by
  cases pieces with
  | nil => exact absurd rfl h
  | cons piece pieces => rfl

theorem extendFirst_prefixFirst (c : Char) (t : Text) (pieces : List Text) :
    Text.extendFirst c (prefixFirst t pieces) = prefixFirst (c :: t) pieces := by
  cases pieces <;> rfl

theorem prefixFirst_prefixFirst (s t : Text) {pieces : List Text} (h : pieces ≠ []) :
    prefixFirst s (prefixFirst t pieces) = prefixFirst (s ++ t) pieces := by
  cases pieces with
  | nil => exact absurd rfl h
  | cons piece pieces => simp [prefixFirst]

theorem splitFrom_ne_nil (depth : Nat) (quoted piped : Bool) (s : Text) :
    splitFrom depth quoted piped s ≠ [] := by
  cases s with
  | nil => simp [splitFrom]
  | cons c s =>
      unfold splitFrom
      split
      · exact Text.extendFirst_ne_nil _ _
      · split
        · exact Text.extendFirst_ne_nil _ _
        · split
          · exact Text.extendFirst_ne_nil _ _
          · split
            · exact Text.extendFirst_ne_nil _ _
            · split
              · exact Text.extendFirst_ne_nil _ _
              · split
                · simp
                · exact Text.extendFirst_ne_nil _ _

/-! ## Texts that leave the state alone -/

/-- The splitter passes over the text, outside quotes, and is back in its state behind it. -/
def IsLevel (t : Text) : Prop := ∀ depth piped rest,
  splitFrom depth false piped (t ++ rest) = prefixFirst t (splitFrom depth false piped rest)

theorem IsLevel.nil : IsLevel [] :=
  fun _ _ _ => (prefixFirst_nil (splitFrom_ne_nil _ _ _ _)).symm

theorem IsLevel.append {s t : Text} (hs : IsLevel s) (ht : IsLevel t) : IsLevel (s ++ t) := by
  intro depth piped rest
  rw [List.append_assoc, hs, ht, prefixFirst_prefixFirst _ _ (splitFrom_ne_nil _ _ _ _)]

theorem isLevel_flatMap {α : Type} {f : α → Text} {as : List α} (h : ∀ a ∈ as, IsLevel (f a)) :
    IsLevel (as.flatMap f) := by
  induction as with
  | nil => exact .nil
  | cons a as ih =>
      rw [List.flatMap_cons]
      exact (h a (by simp)).append (ih fun b hb => h b (by simp [hb]))

/-- Characters that mean nothing to the splitter. -/
def isPlain (c : Char) : Bool :=
  !(c == '"' || isOpener c || isCloser c || c == '|' || c == ';')

theorem splitFrom_cons_plain {c : Char} (hc : isPlain c = true) (depth : Nat) (piped : Bool)
    (s : Text) : splitFrom depth false piped (c :: s)
      = Text.extendFirst c (splitFrom depth false piped s) := by
  simp only [isPlain, Bool.not_eq_true', Bool.or_eq_false_iff, beq_eq_false_iff_ne] at hc
  rw [splitFrom, if_neg hc.1.1.1.1, if_neg (by simp), if_neg (by simp [hc.1.1.1.2]),
    if_neg (by simp [hc.1.1.2]), if_neg (by simp [hc.1.2]), if_neg (by simp [hc.2])]

theorem isLevel_of_plain {t : Text} (h : ∀ c ∈ t, isPlain c = true) : IsLevel t := by
  induction t with
  | nil => exact .nil
  | cons c t ih =>
      intro depth piped rest
      rw [List.cons_append, splitFrom_cons_plain (h c (by simp)),
        ih (fun d hd => h d (by simp [hd])), extendFirst_prefixFirst]

theorem IsLevel.enclose {c : Char} {t : Text} (hc : isOpener c = true) (ht : IsLevel t) :
    IsLevel (c :: t ++ [closerOf c]) := by
  intro depth piped rest
  have hquote : c ≠ '"' := by
    rintro rfl
    exact absurd hc (by decide)
  have hclose : closerOf c ≠ '"' := by
    intro h
    have := isCloser_closerOf c
    rw [h] at this
    exact absurd this (by decide)
  have hsplit : c :: t ++ [closerOf c] ++ rest = c :: (t ++ closerOf c :: rest) := by simp
  rw [hsplit, splitFrom, if_neg hquote, if_neg (by simp), if_pos hc, ht, splitFrom, if_neg hclose,
    if_neg (by simp), if_neg (by simp [Segment.isOpener_closerOf]), if_pos (isCloser_closerOf c),
    Nat.add_sub_cancel]
  cases h : splitFrom depth false piped rest with
  | nil => exact absurd h (splitFrom_ne_nil _ _ _ _)
  | cons piece pieces => simp [Text.extendFirst, prefixFirst]

theorem isPlain_of_all {p : Char → Bool}
    (hp : ['"', '[', '(', '{', ']', ')', '}', '|', ';'].all (!p ·) = true) {c : Char}
    (h : p c = true) : isPlain c = true := by
  have hmem (d : Char) (hd : (!isPlain d) = true) :
      d ∈ ['"', '[', '(', '{', ']', ')', '}', '|', ';'] := by
    simpa [isPlain, isOpener, isCloser, or_assoc] using hd
  simpa using Text.eq_false_of_all hmem hp h

theorem isPlain_of_isAlphanum {c : Char} (h : c.isAlphanum = true) : isPlain c = true :=
  isPlain_of_all (by decide) h

theorem isPlain_of_isBlank {c : Char} (h : Text.isBlank c = true) : isPlain c = true :=
  isPlain_of_all (by decide) h

theorem isPlain_of_legal {c : Char} (h : Label.isIllegal c = false)
    (hq : Label.isQuotationMark c = false) : isPlain c = true :=
  isPlain_of_all (p := fun c => !(Label.isIllegal c || Label.isQuotationMark c))
    (by decide) (by simp [h, hq])

theorem isLevel_blanks {b : Text} (hb : Text.IsBlanks b) : IsLevel b :=
  isLevel_of_plain fun c hc => isPlain_of_isBlank (hb c hc)

theorem isLevel_arrow {a : Text} (ha : Token.IsArrowText a) : IsLevel a := by
  refine isLevel_of_plain fun c hc => ?_
  rcases EdgeText.arrowPart_cases (EdgeText.isArrowPart ha hc) with
    rfl | rfl | rfl | rfl | rfl | rfl | rfl <;> decide

theorem isLevel_legal {l : Text} (hl : Label.IsLegal l) (hq : Text.IsUnquoted l) : IsLevel l :=
  isLevel_of_plain fun c hc => isPlain_of_legal (hl c hc) (hq c hc)

theorem isLevel_id {w : Text} (hw : Ident.isValid w = true) : IsLevel w :=
  isLevel_of_plain fun c hc => isPlain_of_isAlphanum ((Ident.isValid_iff.1 hw).2.1 c hc)

theorem isLevel_interior (s : Shape) {l : Text} (hl : IsLevel l) : IsLevel (s.interior l) := by
  have slashed {c : Char} (hc : isPlain c = true) : IsLevel (c :: l ++ [c]) := by
    have hone : IsLevel [c] := isLevel_of_plain fun d hd => by
      rw [List.mem_singleton] at hd
      exact hd ▸ hc
    exact (hone.append hl).append hone
  cases s with
  | terminal => exact IsLevel.enclose (c := '[') rfl hl
  | input => exact slashed (by decide)
  | output => exact slashed (by decide)
  | process => exact hl
  | decision => exact hl
  | storage => exact IsLevel.enclose (c := '(') rfl hl

/-- Inside quotes nothing means anything to the splitter. -/
theorem splitFrom_quoted {l : Text} (hl : '"' ∉ l) (depth : Nat) (piped : Bool) (rest : Text) :
    splitFrom depth true piped (l ++ '"' :: rest)
      = prefixFirst (l ++ ['"']) (splitFrom depth false piped rest) := by
  induction l with
  | nil =>
      rw [List.nil_append, splitFrom, if_pos rfl, Bool.not_true]
      cases h : splitFrom depth false piped rest with
      | nil => exact absurd h (splitFrom_ne_nil _ _ _ _)
      | cons piece pieces => rfl
  | cons c l ih =>
      have hc : c ≠ '"' := fun h => hl (by simp [h])
      rw [List.cons_append, splitFrom, if_neg hc, if_pos rfl, ih fun h => hl (by simp [h]),
        extendFirst_prefixFirst]
      rfl

theorem isLevel_quoted {l : Text} (hl : '"' ∉ l) : IsLevel ('"' :: l ++ ['"']) := by
  intro depth piped rest
  have hsplit : '"' :: l ++ ['"'] ++ rest = '"' :: (l ++ '"' :: rest) := by simp
  rw [hsplit, splitFrom, if_pos rfl, Bool.not_false, splitFrom_quoted hl, extendFirst_prefixFirst]
  rfl

/-- A canonical node is passed over. -/
theorem isLevel_render {n : Node} (hid : Ident.isValid n.id = true)
    (hl : ∀ m, n = .shaped m → Label.IsLegal m.label ∧ Text.IsUnquoted m.label) :
    IsLevel n.render := by
  cases n with
  | bare w => exact isLevel_id hid
  | shaped m =>
      obtain ⟨hlegal, hq⟩ := hl m rfl
      have hwrap : IsLevel (m.shape.wrap m.label) := by
        rw [Shape.wrap_eq]
        exact (isLevel_interior m.shape (isLevel_legal hlegal hq)).enclose
          (Shape.isOpener_opener m.shape)
      exact (isLevel_id hid).append hwrap

/-! ## Texts that are not cut -/

/-- The states between labels: outside everything, or inside delimiters and a label. -/
def IsBetween (depth : Nat) (piped : Bool) : Prop :=
  depth = 0 ∧ piped = false ∨ 0 < depth ∧ piped = true

/-- The splitter passes over the text from each state between labels to such a state. -/
def IsUncut (t : Text) : Prop := ∀ depth piped, IsBetween depth piped →
  ∃ depth' piped', IsBetween depth' piped' ∧ ∀ rest,
    splitFrom depth false piped (t ++ rest) = prefixFirst t (splitFrom depth' false piped' rest)

theorem IsLevel.isUncut {t : Text} (ht : IsLevel t) : IsUncut t :=
  fun depth piped h => ⟨depth, piped, h, ht depth piped⟩

theorem IsUncut.append {s t : Text} (hs : IsUncut s) (ht : IsUncut t) : IsUncut (s ++ t) := by
  intro depth piped h
  obtain ⟨depth₁, piped₁, h₁, hs⟩ := hs depth piped h
  obtain ⟨depth₂, piped₂, h₂, ht⟩ := ht depth₁ piped₁ h₁
  refine ⟨depth₂, piped₂, h₂, fun rest => ?_⟩
  rw [List.append_assoc, hs, ht, prefixFirst_prefixFirst _ _ (splitFrom_ne_nil _ _ _ _)]

/-- Inside a label no semicolon cuts. -/
theorem splitFrom_label {l : Text} (hpipe : '|' ∉ l) (hquote : '"' ∉ l) (depth : Nat) :
    ∃ depth', ∀ rest, splitFrom depth false true (l ++ rest)
      = prefixFirst l (splitFrom depth' false true rest) := by
  induction l generalizing depth with
  | nil => exact ⟨depth, fun rest => (prefixFirst_nil (splitFrom_ne_nil _ _ _ _)).symm⟩
  | cons c l ih =>
      have hc : c ≠ '"' := fun h => hquote (by simp [h])
      have hp : c ≠ '|' := fun h => hpipe (by simp [h])
      have hrest := ih (fun h => hpipe (by simp [h])) fun h => hquote (by simp [h])
      by_cases ho : isOpener c = true
      · obtain ⟨depth', h⟩ := hrest (depth + 1)
        refine ⟨depth', fun rest => ?_⟩
        rw [List.cons_append, splitFrom, if_neg hc, if_neg (by simp), if_pos ho, h,
          extendFirst_prefixFirst]
      · by_cases hcl : isCloser c = true
        · obtain ⟨depth', h⟩ := hrest (depth - 1)
          refine ⟨depth', fun rest => ?_⟩
          rw [List.cons_append, splitFrom, if_neg hc, if_neg (by simp), if_neg ho, if_pos hcl, h,
            extendFirst_prefixFirst]
        · obtain ⟨depth', h⟩ := hrest depth
          refine ⟨depth', fun rest => ?_⟩
          rw [List.cons_append, splitFrom, if_neg hc, if_neg (by simp), if_neg ho, if_neg hcl,
            if_neg (by simp [hp]), if_neg (by simp), h, extendFirst_prefixFirst]

theorem splitFrom_pipe (depth : Nat) (piped : Bool) (s : Text) :
    splitFrom depth false piped ('|' :: s)
      = Text.extendFirst '|' (splitFrom depth false (if depth = 0 then !piped else piped) s) := by
  rw [splitFrom, if_neg (by decide), if_neg (by simp), if_neg (by decide), if_neg (by decide)]
  by_cases h : depth = 0
  · simp [h]
  · simp [h]

/-- A label that is passed over leaves the state as it was before the first pipe. -/
theorem isLevel_label {l : Text} (hl : IsLevel l) : IsLevel ('|' :: l ++ ['|']) := by
  intro depth piped rest
  have hsplit : '|' :: l ++ ['|'] ++ rest = '|' :: (l ++ '|' :: rest) := by simp
  have hback : (if depth = 0 then !(if depth = 0 then !piped else piped)
      else if depth = 0 then !piped else piped) = piped := by
    by_cases h : depth = 0 <;> simp [h]
  rw [hsplit, splitFrom_pipe, hl, splitFrom_pipe, hback]
  cases h : splitFrom depth false piped rest with
  | nil => exact absurd h (splitFrom_ne_nil _ _ _ _)
  | cons piece pieces => simp [Text.extendFirst, prefixFirst]

theorem isUncut_label {l : Text} (hpipe : '|' ∉ l) (hquote : '"' ∉ l) :
    IsUncut ('|' :: l ++ ['|']) := by
  intro depth piped h
  obtain ⟨depth', hlabel⟩ := splitFrom_label hpipe hquote depth
  have hopen : (if depth = 0 then !piped else piped) = true := by
    rcases h with ⟨rfl, rfl⟩ | ⟨hd, rfl⟩
    · rfl
    · rw [if_neg (by omega)]
  refine ⟨depth', if depth' = 0 then false else true, ?_, fun rest => ?_⟩
  · by_cases hd : depth' = 0
    · exact .inl ⟨hd, by simp [hd]⟩
    · exact .inr ⟨by omega, by simp [hd]⟩
  · have hsplit : '|' :: l ++ ['|'] ++ rest = '|' :: (l ++ '|' :: rest) := by simp
    rw [hsplit, splitFrom_pipe, hopen, hlabel, splitFrom_pipe]
    cases hs : splitFrom depth' false (if depth' = 0 then !true else true) rest with
    | nil => exact absurd hs (splitFrom_ne_nil _ _ _ _)
    | cons piece pieces =>
        rw [Bool.not_true] at hs
        rw [hs]
        simp [Text.extendFirst, prefixFirst]

theorem quote_notMem {t : Text} (ht : Text.IsUnquoted t) : '"' ∉ t :=
  fun h => absurd (ht _ h) (by decide)

theorem isUncut_edge {e : EdgeText} (he : e.IsWell) (hq : Text.IsUnquoted e.text) :
    IsUncut e.text := by
  cases e with
  | plain b a b' =>
      obtain ⟨hb, ha, hb', -⟩ := he
      exact ((isLevel_blanks hb).append ((isLevel_arrow ha.1).append (isLevel_blanks hb'))).isUncut
  | piped b a m l b' =>
      obtain ⟨hb, ha, hm, -, hl, hb', -⟩ := he
      have hlabel : '"' ∉ l := fun h => quote_notMem hq (by simp [EdgeText.text, h])
      have hsplit : (EdgeText.piped b a m l b').text
          = (b ++ (a ++ m)) ++ (('|' :: l ++ ['|']) ++ b') := by
        simp [EdgeText.text]
      rw [hsplit]
      exact ((isLevel_blanks hb).append ((isLevel_arrow ha.1).append
        (isLevel_blanks hm))).isUncut.append
          ((isUncut_label hl hlabel).append (isLevel_blanks hb').isUncut)
  | inline b o g l g' a b' =>
      obtain ⟨hb, ho, -, hg, -, hl, -, hg', -, ha, hb', -⟩ := he
      have hlabel := isLevel_legal hl.isLegal fun c hc => hl.not_isQuotationMark hc
      exact ((isLevel_blanks hb).append ((isLevel_arrow ho).append
        ((isLevel_blanks hg.isBlanks).append (hlabel.append ((isLevel_blanks hg'.isBlanks).append
          ((isLevel_arrow ha.1).append (isLevel_blanks hb'))))))).isUncut

/-- Every node of the line is passed over. -/
def HasLevelNodes (p : Layout) : Prop :=
  IsLevel p.first.text ∧ ∀ l ∈ p.links, IsLevel l.2.text

theorem isUncut_linksText {links : List (EdgeText × NodeText)} {trail : Text}
    (hlinks : ∀ l ∈ links, l.1.IsWell ∧ IsLevel l.2.text) (htrail : Text.IsBlanks trail)
    (hq : Text.IsUnquoted (Layout.linksText links trail)) :
    IsUncut (Layout.linksText links trail) := by
  induction links with
  | nil => exact (isLevel_blanks htrail).isUncut
  | cons l links ih =>
      obtain ⟨e, n⟩ := l
      obtain ⟨he, hn⟩ := hlinks (e, n) (by simp)
      rw [Layout.linksText] at hq ⊢
      exact (isUncut_edge he hq.left).append
        (hn.isUncut.append (ih (fun m hm => hlinks m (by simp [hm])) hq.right.right))

/-- A line of level nodes is not split. -/
theorem splitLine_text {p : Layout} (hp : p.IsReady) (hn : HasLevelNodes p) :
    splitLine p.text = [p.text] := by
  have hlinks : IsUncut (Layout.linksText p.links p.trail) :=
    isUncut_linksText (fun l hl => ⟨(hp.well.links l hl).1, hn.2 l hl⟩) hp.well.trail
      hp.unquoted.right.right
  obtain ⟨depth, piped, -, hsplit⟩ := ((isLevel_blanks hp.well.lead).isUncut.append
    (hn.1.isUncut.append hlinks)) 0 false (.inl ⟨rfl, rfl⟩)
  have hone : splitFrom 0 false false p.text = [p.text] := by
    have := hsplit []
    rw [List.append_nil] at this
    rw [Layout.text, this]
    simp [splitFrom, prefixFirst]
  unfold splitLine
  split
  · rfl
  · rw [hone]

theorem splitLine_rootLine (d : Direction) : splitLine (Chart.rootLine d) = [Chart.rootLine d] := by
  cases d <;> decide

/-- Lines that are not split make a text that is not split. -/
theorem splitStatements_joinLines {ls : List Text} (hls : ∀ l ∈ ls, Text.IsLine l)
    (h : ∀ l ∈ ls, splitLine l = [l]) :
    splitStatements (Text.joinLines ls) = Text.joinLines ls := by
  have hself : ls.flatMap splitLine = ls := by
    clear hls
    induction ls with
    | nil => rfl
    | cons l ls ih =>
        rw [List.flatMap_cons, h l (by simp), ih fun m hm => h m (by simp [hm])]
        rfl
  rw [splitStatements, Text.lines_joinLines hls, hself]

/-! ## Texts without quotation marks -/

theorem quotedLabel_eq_none {opening closing s : Text} (hs : '"' ∉ s) :
    quotedLabel opening closing s = none := by
  unfold quotedLabel
  cases hbody : Text.after? opening s with
  | none => rfl
  | some body =>
      rw [Text.after?_eq_some_iff] at hbody
      cases hinner : Text.after? ['"'] (body.dropWhile Text.isBlank) with
      | none => simp [hinner]
      | some inner =>
          rw [Text.after?_eq_some_iff] at hinner
          refine absurd ?_ hs
          rw [hbody]
          refine List.mem_append_right _ ((List.dropWhile_suffix Text.isBlank).subset ?_)
          simp [hinner]

theorem foldl_quotedLabel_eq_self (ds : List (Text × Text)) {t : Text} (ht : '"' ∉ t) :
    ds.foldl (fun t d => Text.replaceMatches (quotedLabel d.1 d.2) t) t = t := by
  have hstep (d : Text × Text) : Text.replaceMatches (quotedLabel d.1 d.2) t = t :=
    Text.replaceMatches_eq_self fun s hs => quotedLabel_eq_none fun h => ht (hs.subset h)
  induction ds with
  | nil => rfl
  | cons d ds ih => rw [List.foldl_cons, hstep, ih]

theorem unwrapQuotes_eq_self {t : Text} (ht : '"' ∉ t) : unwrapQuotes t = t :=
  foldl_quotedLabel_eq_self quotedDelimiters ht

theorem dropEscapedQuotes_eq_self {t : Text} (ht : '"' ∉ t) : dropEscapedQuotes t = t := by
  fun_induction dropEscapedQuotes t with
  | case1 => rfl
  | case2 => rfl
  | case3 c d s h ih => exact absurd (by simp [h.2]) ht
  | case4 c d s h ih => rw [ih fun hm => ht (List.mem_cons_of_mem c hm)]

/-- Nothing is stripped where no quotation mark is. -/
theorem stripQuotes_eq_self {t : Text} (ht : Text.IsUnquoted t) : stripQuotes t = t := by
  rw [stripQuotes, unwrapQuotes_eq_self (quote_notMem ht),
    dropEscapedQuotes_eq_self (quote_notMem ht), List.filter_eq_self.2]
  intro c hc
  simp [ht c hc]

end Repair

end Flowchart
