import Flowchart.Proofs.Respellings
import Flowchart.Text.Utf8

/-!
# The lexer by its places in the bytes of a text

The lexer goes by places in the bytes of a text. A text can only be cut between two characters, and
a cut through a character or past the end is none at all. From each place between two characters the
lexer gets to a later one, and the tokens on its way are those of the text.
-/

namespace Flowchart

namespace Text

/-! ## Bytes -/

def byteSize (t : Text) : Nat :=
  (encodeUtf8 t).length

theorem byteSize_append (s t : Text) : byteSize (s ++ t) = byteSize s + byteSize t := by
  rw [byteSize, encodeUtf8, List.flatMap_append, List.length_append]
  rfl

theorem byteSize_cons (c : Char) (t : Text) : byteSize (c :: t) = byteSize [c] + byteSize t :=
  byteSize_append [c] t

theorem byteSize_pos {t : Text} (h : t ≠ []) : 0 < byteSize t := by
  obtain ⟨c, t, rfl⟩ := List.exists_cons_of_ne_nil h
  have hchar : 0 < byteSize [c] := by
    rw [byteSize, encodeUtf8, List.flatMap_singleton, String.length_utf8EncodeChar]
    exact Char.utf8Size_pos c
  rw [byteSize_cons]
  exact Nat.add_pos_left hchar _

/-- The text in front of that many bytes and the text behind them. -/
def cutBytes? : Nat → Text → Option (Text × Text)
  | 0, t => some ([], t)
  | _ + 1, [] => none
  | n + 1, c :: t =>
    if byteSize [c] ≤ n + 1 then
      (cutBytes? (n + 1 - byteSize [c]) t).map fun r => (c :: r.1, r.2)
    else none

theorem cutBytes?_zero (t : Text) : cutBytes? 0 t = some ([], t) := by
  rw [cutBytes?.eq_def]

theorem cutBytes?_append (s t : Text) : cutBytes? (byteSize s) (s ++ t) = some (s, t) := by
  induction s with
  | nil => exact cutBytes?_zero t
  | cons c s ih =>
      obtain ⟨n, hn⟩ := Nat.exists_eq_succ_of_ne_zero (byteSize_pos (List.cons_ne_nil c s)).ne'
      have hsize := byteSize_cons c s
      have hrest : n + 1 - byteSize [c] = byteSize s := by omega
      rw [List.cons_append, hn, cutBytes?, if_pos (by omega), hrest, ih]
      rfl

/-- The place of the first character of a class. -/
def findBytes? (p : Char → Bool) : Text → Option Nat
  | [] => none
  | c :: t => if p c then some 0 else (findBytes? p t).map (byteSize [c] + ·)

/-- How many bytes the characters of a class have that stand in front. -/
def spanBytes (p : Char → Bool) (t : Text) : Nat :=
  (findBytes? (!p ·) t).getD (byteSize t)

theorem spanBytes_eq (p : Char → Bool) (t : Text) :
    spanBytes p t = byteSize (t.takeWhile p) := by
  rw [spanBytes]
  induction t with
  | nil => rfl
  | cons c t ih =>
      rw [findBytes?, List.takeWhile_cons]
      by_cases hc : p c = true
      · rw [if_neg (by simp [hc]), if_pos hc, byteSize_cons c (t.takeWhile p), ← ih,
          byteSize_cons c t]
        cases findBytes? (!p ·) t <;> rfl
      · rw [if_pos (by simpa using hc), if_neg hc]
        rfl

theorem findBytes?_pipe (s : Text) :
    findBytes? (· == '|') s = (Segment.untilPipe? s).map fun r => byteSize r.1 := by
  induction s with
  | nil => rfl
  | cons c s ih =>
      rw [findBytes?, Segment.untilPipe?, ih]
      by_cases hc : c = '|'
      · simp [hc, byteSize, encodeUtf8]
      · rw [if_neg (by simpa using hc), if_neg hc, Option.map_map, Option.map_map]
        exact congrArg (Option.map · _) (funext fun r => (byteSize_cons c r.1).symm)

end Text

namespace Token

open Text (byteSize cutBytes? spanBytes)

/-! ## Labels and arrows -/

/-- The label that a pipe opens, with the bytes from there on to its second pipe. -/
def readLabel? (t : Text) : Option (Option (Text × Nat)) := do
  let (_, s) ← cutBytes? 1 t
  match Text.findBytes? (· == '|') s with
  | some n =>
    let (l, _) ← cutBytes? n s
    some (some (l, n + 2))
  | none => some none

theorem readLabel?_eq (s : Text) : readLabel? ('|' :: s) =
    some ((Segment.untilPipe? s).map fun r => (r.1, byteSize ('|' :: r.1 ++ ['|']))) := by
  have hcut : cutBytes? 1 ('|' :: s) = some (['|'], s) := Text.cutBytes?_append ['|'] s
  rw [readLabel?, hcut, Option.bind_eq_bind, Option.bind_some]
  dsimp only
  rw [Text.findBytes?_pipe]
  cases hlabel : Segment.untilPipe? s with
  | none => rfl
  | some r =>
      obtain ⟨l, rest⟩ := r
      have hsize : byteSize ('|' :: l ++ ['|']) = byteSize l + 2 := by
        rw [Text.byteSize_append, Text.byteSize_cons]
        show 1 + byteSize l + 1 = byteSize l + 2
        omega
      obtain ⟨rfl, -⟩ := Segment.eq_append_of_untilPipe? hlabel
      simpa [Text.cutBytes?_append] using hsize.symm

/-- The bytes of the arrow in front, the head of which is one byte. -/
def arrowBytes? (t : Text) : Option (Option Nat) :=
  if t.head?.any isArrowChar then do
    let (run, rest) ← cutBytes? (spanBytes isArrowChar t) t
    if isArrow run then some (some (byteSize run + headLength run rest)) else some none
  else some none

theorem arrowRun_append_dropWhile (t : Text) : arrowRun t ++ t.dropWhile isArrowChar = t :=
  List.takeWhile_append_dropWhile

theorem cutBytes?_arrowRun (t : Text) : cutBytes? (spanBytes isArrowChar t) t =
    some (arrowRun t, t.dropWhile isArrowChar) := by
  have hcut := Text.cutBytes?_append (arrowRun t) (t.dropWhile isArrowChar)
  rwa [arrowRun_append_dropWhile, arrowRun, ← Text.spanBytes_eq] at hcut

theorem byteSize_take_headLength (run s : Text) :
    byteSize (s.take (headLength run s)) = headLength run s := by
  cases s with
  | nil => rfl
  | cons c s =>
      unfold headLength
      dsimp only
      split
      · rename_i hhead
        simp only [Bool.and_eq_true, Bool.or_eq_true, beq_iff_eq] at hhead
        rcases hhead.1.2 with rfl | rfl <;> rfl
      · rfl

theorem arrowBytes?_eq (t : Text) :
    arrowBytes? t = some ((arrowLength? t).map fun n => byteSize (t.take n)) := by
  rw [arrowBytes?]
  split
  · rw [cutBytes?_arrowRun, Option.bind_eq_bind, Option.bind_some, arrowLength?]
    dsimp only
    rw [drop_arrowRun]
    split
    · have htake (n : Nat) : t.take ((arrowRun t).length + n) =
          arrowRun t ++ (t.dropWhile isArrowChar).take n := by
        rw [← List.take_length_add_append, arrowRun_append_dropWhile]
      rw [Option.map_some, htake, Text.byteSize_append, byteSize_take_headLength]
    · rfl
  · rename_i hhead
    cases t with
    | nil => rfl
    | cons c s => rw [arrowLength?_eq_none (by simpa using hhead), Option.map_none]

/-! ## Words -/

/-- Where a word ends, looked for from a place in it. A run of arrow characters that is no arrow is
passed as a whole. -/
def wordEnd? (t : Text) (place : Nat) : Option Nat :=
  if place < byteSize t then
    match cutBytes? place t with
    | some (_, c :: s) =>
      if Text.isBlank c || c == '&' || (c == '|' && 0 < place) then some place
      else if _h : isArrowChar c = true then
        match cutBytes? (spanBytes isArrowChar (c :: s)) (c :: s) with
        | some (run, _) =>
          if isArrow run then some place
          else wordEnd? t (place + spanBytes isArrowChar (c :: s))
        | none => none
      else wordEnd? t (place + byteSize [c])
    | _ => none
  else some place
termination_by byteSize t - place
decreasing_by
  · have : 0 < spanBytes isArrowChar (c :: s) := by
      rw [Text.spanBytes_eq, List.takeWhile_cons, if_pos _h]
      exact Text.byteSize_pos (List.cons_ne_nil _ _)
    omega
  · have := Text.byteSize_pos (List.cons_ne_nil c [])
    omega

/-- A run of arrow characters that is no arrow is part of a word. -/
theorem wordRest_append_run {run s : Text} (hrun : ∀ c ∈ run, isArrowChar c = true)
    (hnot : isArrow run = false) (hs : ∀ c ∈ s.head?, isArrowChar c = false) :
    wordRest (run ++ s) = (run ++ (wordRest s).1, (wordRest s).2) := by
  induction run with
  | nil => rfl
  | cons c run ih =>
      have hc : isArrowChar c = true := hrun c (by simp)
      have hstop : (Text.isBlank c || c == '&' || c == '|') = false := by
        by_contra hstop
        simp only [Bool.not_eq_false, Bool.or_eq_true, beq_iff_eq] at hstop
        rcases hstop with (hblank | rfl) | rfl
        · cases hc.symm.trans (isArrowChar_eq_false_of_isBlank hblank)
        · cases hc
        · cases hc
      have hstart : startsArrow (c :: run ++ s) = false := by
        rwa [startsArrow, arrowRun_append _ hrun hs]
      have hrest : isArrow run = false := by
        by_contra harrow
        have := isArrow_of_sublist (List.sublist_cons_self c run) (by simpa using harrow)
        cases hnot.symm.trans this
      rw [List.cons_append] at hstart ⊢
      rw [wordRest, if_neg (by simp [hstop, hstart]), ih (fun d hd => hrun d (by simp [hd])) hrest,
        List.cons_append]

theorem wordRest_run {s : Text} (hnot : isArrow (arrowRun s) = false) :
    wordRest s = (arrowRun s ++ (wordRest (s.dropWhile isArrowChar)).1,
      (wordRest (s.dropWhile isArrowChar)).2) := by
  have hrest := wordRest_append_run (fun _ => isArrowChar_of_mem_arrowRun) hnot
    fun _ => Text.eq_false_of_head?_dropWhile (s := s)
  rwa [arrowRun_append_dropWhile] at hrest

/-- Behind what stands in front of it, the rest of a word is found. -/
theorem wordEnd?_append (front rest : Text) (hpipe : front = [] → rest.head? ≠ some '|') :
    wordEnd? (front ++ rest) (byteSize front) = some (byteSize (front ++ (wordRest rest).1)) := by
  induction hn : rest.length using Nat.strong_induction_on generalizing front rest with
  | _ n ih =>
      cases rest with
      | nil => rw [List.append_nil, wordEnd?, if_neg (Nat.lt_irrefl _)]; simp [wordRest]
      | cons c s =>
          have hlt : byteSize front < byteSize (front ++ c :: s) := by
            rw [Text.byteSize_append]
            exact Nat.lt_add_of_pos_right (Text.byteSize_pos (List.cons_ne_nil c s))
          have hfirst : (c == '|' && decide (0 < byteSize front)) = (c == '|') := by
            by_cases hc : c = '|'
            · have hfront : front ≠ [] := fun hnil => hpipe hnil (by simp [hc])
              simp [Text.byteSize_pos hfront]
            · simp [hc]
          rw [wordEnd?, if_pos hlt, Text.cutBytes?_append]
          dsimp only
          rw [hfirst]
          by_cases hstop : (Text.isBlank c || c == '&' || c == '|') = true
          · rw [if_pos hstop, wordRest, if_pos (by simp [hstop]), List.append_nil]
          rw [if_neg hstop]
          split
          · rename_i harrow
            rw [cutBytes?_arrowRun]
            dsimp only
            split
            · rename_i hrun
              rw [wordRest, if_pos (by simp [startsArrow, hrun]), List.append_nil]
            · rename_i hrun
              have hlength : ((c :: s).dropWhile isArrowChar).length < n := by
                rw [List.dropWhile_cons, if_pos harrow, ← hn]
                exact Nat.lt_succ_of_le (length_dropWhile_le isArrowChar s)
              have hne : arrowRun (c :: s) ≠ [] := by simp [arrowRun, harrow]
              have hnext := ih _ hlength (front ++ arrowRun (c :: s)) _ (by simp [hne]) rfl
              rw [List.append_assoc, arrowRun_append_dropWhile, Text.byteSize_append,
                List.append_assoc] at hnext
              rw [Text.spanBytes_eq, ← arrowRun, hnext,
                wordRest_run (s := c :: s) (by simpa using hrun)]
          · rename_i harrow
            have hstart := startsArrow_eq_false (by simpa using harrow) s
            have hnext := ih s.length (by simp [← hn]) (front ++ [c]) s (by simp) rfl
            rw [List.append_assoc, List.singleton_append, Text.byteSize_append, List.append_assoc,
              List.singleton_append] at hnext
            rw [hnext, wordRest, if_neg (by simp [hstart]; simpa using hstop)]

theorem wordEnd?_cons {c : Char} {s : Text} (hblank : Text.isBlank c = false) (hjoin : c ≠ '&')
    (harrow : arrowLength? (c :: s) = none) :
    wordEnd? (c :: s) 0 = some (byteSize (c :: (wordRest s).1)) := by
  by_cases hpipe : c = '|'
  · subst hpipe
    have hnext := wordEnd?_append ['|'] s (by simp)
    rw [wordEnd?, if_pos (Text.byteSize_pos (List.cons_ne_nil _ _)), Text.cutBytes?_zero]
    dsimp only
    rw [if_neg (by decide), dif_neg (by decide)]
    exact hnext
  · have hnext := wordEnd?_append [] (c :: s) (by simpa using hpipe)
    have hstart := arrowLength?_eq_none_iff.1 harrow
    rw [List.nil_append, wordRest, if_neg (by simp [hblank, hjoin, hpipe, hstart])] at hnext
    exact hnext

theorem max_byteSize (c : Char) (w : Text) :
    max (byteSize (c :: w)) (byteSize [c]) = byteSize (c :: w) :=
  max_eq_left (Text.byteSize_cons c w ▸ Nat.le_add_right _ _)

theorem cutBytes?_word (c : Char) (s : Text) :
    cutBytes? (byteSize (c :: (wordRest s).1)) (c :: s) =
      some (c :: (wordRest s).1, (wordRest s).2) := by
  have hcut := Text.cutBytes?_append (c :: (wordRest s).1) (wordRest s).2
  rwa [List.cons_append, wordRest_append] at hcut

/-! ## Tokens -/

/-- The token in front, with its bytes. -/
def readToken? (t : Text) : Option (Token × Nat) := do
  let c ← t.head?
  if Text.isBlank c then some (.space, spanBytes Text.isBlank t)
  else
    match ← if c = '|' then readLabel? t else some none with
    | some (l, n) => some (.label l, n)
    | none =>
      match ← arrowBytes? t with
      | some n =>
        let (a, _) ← cutBytes? n t
        some (.arrow a, n)
      | none =>
        if c = '&' then some (.join, 1)
        else
          let n := max (← wordEnd? t 0) (byteSize [c])
          let (w, _) ← cutBytes? n t
          some (.word w, n)

/-- The piece of a text that a token is read from: blanks for a space, and else what the token is
written as. -/
structure IsReadFrom (token : Token) (piece : Text) : Prop where
  ne_nil : piece ≠ []
  blanks : token = space → Text.IsBlanks piece
  spelling : token ≠ space → piece = token.render

theorem isReadFrom_render {token : Token} (htoken : token ≠ space) (hne : token.render ≠ []) :
    IsReadFrom token token.render where
  ne_nil := hne
  blanks := fun h => absurd h htoken
  spelling := fun _ => rfl

theorem exists_readToken? {t : Text} (ht : t ≠ []) : ∃ token piece rest,
    t = piece ++ rest ∧ IsReadFrom token piece ∧ lex t = token :: lex rest ∧
      readToken? t = some (token, byteSize piece) := by
  fun_cases lex t with
  | case1 => exact absurd rfl ht
  | case2 c s hc =>
      have hpiece : Text.IsBlanks (c :: s.takeWhile Text.isBlank) := fun d hd => by
        rcases List.mem_cons.1 hd with rfl | hd
        · exact hc
        · exact List.mem_takeWhile_imp hd
      refine ⟨space, c :: s.takeWhile Text.isBlank, s.dropWhile Text.isBlank,
        by rw [List.cons_append, List.takeWhile_append_dropWhile],
        ⟨List.cons_ne_nil _ _, fun _ => hpiece, fun h => absurd rfl h⟩, rfl, ?_⟩
      simp [readToken?, hc, Text.spanBytes_eq]
  | case3 s l rest h hb =>
      obtain ⟨rfl, -⟩ := Segment.eq_append_of_untilPipe? h
      refine ⟨label l, (label l).render, rest, by simp [render],
        isReadFrom_render (by simp) (by simp [render]), rfl, ?_⟩
      simp [readToken?, readLabel?_eq, h, hb, render]
  | case4 s h hb =>
      have hlone : readLabel? ('|' :: s) = some none := by
        rw [readLabel?_eq, h]
        rfl
      have hnone := arrowLength?_eq_none (c := '|') (by decide) s
      refine ⟨word ('|' :: (wordRest s).1), '|' :: (wordRest s).1, (wordRest s).2,
        by rw [List.cons_append, wordRest_append],
        isReadFrom_render (by simp) (by simp [render]), rfl, ?_⟩
      have hend := wordEnd?_cons (by decide) (by decide) hnone
      simp [readToken?, hlone, hb, arrowBytes?_eq, hnone, hend, max_byteSize, cutBytes?_word]
  | case5 c s hc hp n h =>
      have hcut := Text.cutBytes?_append ((c :: s).take n) ((c :: s).drop n)
      rw [List.take_append_drop] at hcut
      refine ⟨arrow ((c :: s).take n), (c :: s).take n, (c :: s).drop n,
        (List.take_append_drop n _).symm,
        isReadFrom_render (by simp) (isArrowText_take h).ne_nil, rfl, ?_⟩
      simp [readToken?, hc, hp, arrowBytes?_eq, h, hcut]
  | case6 s hc hp h =>
      refine ⟨join, ['&'], s, rfl, isReadFrom_render (by simp) (by simp [render]), rfl, ?_⟩
      simp [readToken?, hc, arrowBytes?_eq, h]
      rfl
  | case7 c s hc hp h hj =>
      have hend := wordEnd?_cons (by simpa using hc) hj h
      refine ⟨word (c :: (wordRest s).1), c :: (wordRest s).1, (wordRest s).2,
        by rw [List.cons_append, wordRest_append],
        isReadFrom_render (by simp) (by simp [render]), rfl, ?_⟩
      simp [readToken?, hc, hp, hj, hend, arrowBytes?_eq, h, max_byteSize, cutBytes?_word]

/-- Each token is read from a piece of its own, and the pieces make up the text. -/
theorem exists_parts (t : Text) : ∃ parts : List (Token × Text),
    parts.map Prod.fst = lex t ∧ parts.flatMap Prod.snd = t ∧
      ∀ part ∈ parts, IsReadFrom part.1 part.2 := by
  induction hn : t.length using Nat.strong_induction_on generalizing t with
  | _ n ih =>
      by_cases ht : t = []
      · exact ⟨[], by rw [ht, lex_nil]; rfl, by rw [ht]; rfl, fun _ h => nomatch h⟩
      · obtain ⟨token, piece, rest, rfl, hread, hlex, -⟩ := exists_readToken? ht
        have hpos := List.length_pos_iff.2 hread.ne_nil
        rw [List.length_append] at hn
        obtain ⟨parts, htokens, hpieces, hparts⟩ := ih rest.length (by omega) rest rfl
        refine ⟨(token, piece) :: parts, ?_, ?_, fun part hpart => ?_⟩
        · rw [hlex, ← htokens, List.map_cons]
        · rw [List.flatMap_cons, hpieces]
        · rcases List.mem_cons.1 hpart with rfl | hpart
          · exact hread
          · exact hparts part hpart

/-! ## Steps -/

/-- A place in the bytes of a text, with the tokens in front of it. -/
structure Cursor where
  place : Nat
  tokens : List Token

namespace Cursor

def start : Cursor :=
  ⟨0, []⟩

def step? (text : Text) (cursor : Cursor) : Option Cursor := do
  let (_, rest) ← cutBytes? cursor.place text
  let (token, n) ← readToken? rest
  some ⟨cursor.place + n, cursor.tokens ++ [token]⟩

/-- The tokens of a text, if that many steps are enough. -/
def run? (text : Text) (n : Nat) (cursor : Cursor) : Option (List Token) :=
  if cursor.place < byteSize text then
    match n with
    | 0 => none
    | n + 1 => (step? text cursor).bind (run? text n)
  else some cursor.tokens

theorem exists_step? (front : Text) {rest : Text} (hrest : rest ≠ []) (tokens : List Token) :
    ∃ token piece rest', rest = piece ++ rest' ∧ piece ≠ [] ∧ lex rest = token :: lex rest' ∧
      step? (front ++ rest) ⟨byteSize front, tokens⟩ =
        some ⟨byteSize (front ++ piece), tokens ++ [token]⟩ := by
  obtain ⟨token, piece, rest', hsplit, hread, hlex, htoken⟩ := exists_readToken? hrest
  refine ⟨token, piece, rest', hsplit, hread.ne_nil, hlex, ?_⟩
  simp [step?, Text.cutBytes?_append, htoken, Text.byteSize_append]

theorem run?_eq_some (front : Text) {rest : Text} {n : Nat} (h : rest.length ≤ n)
    (tokens : List Token) :
    run? (front ++ rest) n ⟨byteSize front, tokens⟩ = some (tokens ++ lex rest) := by
  induction n generalizing front rest tokens with
  | zero =>
      have hnil : rest = [] := List.length_eq_zero_iff.1 (Nat.le_zero.1 h)
      rw [hnil, List.append_nil, run?, if_neg (Nat.lt_irrefl _), lex_nil, List.append_nil]
  | succ n ih =>
      by_cases hrest : rest = []
      · rw [hrest, List.append_nil, run?, if_neg (Nat.lt_irrefl _), lex_nil, List.append_nil]
      · obtain ⟨token, piece, rest', rfl, hpiece, hlex, hstep⟩ := exists_step? front hrest tokens
        have hlt : byteSize front < byteSize (front ++ (piece ++ rest')) := by
          rw [Text.byteSize_append]
          exact Nat.lt_add_of_pos_right (Text.byteSize_pos hrest)
        have hlength : rest'.length ≤ n := by
          have := List.length_pos_iff.2 hpiece
          rw [List.length_append] at h
          omega
        have hnext := ih (front ++ piece) hlength (tokens ++ [token])
        rw [List.append_assoc] at hnext
        rw [run?, if_pos hlt, hstep, Option.bind_some, hnext, hlex, List.append_assoc,
          List.singleton_append]

end Cursor

/-- What the lexer makes of a text. The tokens are read from the pieces that the text is divided
into, and written out they are the text with one space for each run of blanks outside labels, of
which the same tokens are read again. From each place between two characters a step goes over one
character at least, to another such place, so that the text is read in no more steps than it has
characters. -/
structure Partitions (text : Text) : Prop where
  divides : ∃ parts : List (Token × Text), parts.map Prod.fst = lex text ∧
    parts.flatMap Prod.snd = text ∧ ∀ part ∈ parts, IsReadFrom part.1 part.2
  respelled : renderAll (lex text) = oneSpaced text
  reread : lex (renderAll (lex text)) = lex text
  advances : ∀ front rest tokens, text = front ++ rest → rest ≠ [] →
    ∃ token piece rest', rest = piece ++ rest' ∧ piece ≠ [] ∧
      Cursor.step? text ⟨byteSize front, tokens⟩ =
        some ⟨byteSize (front ++ piece), tokens ++ [token]⟩
  runs : Cursor.start.run? text text.length = some (lex text)

theorem lex_partitions (text : Text) : Partitions text where
  divides := exists_parts text
  respelled := renderAll_lex text
  reread := by rw [renderAll_lex, lex_oneSpaced]
  advances := by
    rintro front rest tokens rfl hrest
    obtain ⟨token, piece, rest', hsplit, hpiece, -, hstep⟩ := Cursor.exists_step? front hrest tokens
    exact ⟨token, piece, rest', hsplit, hpiece, hstep⟩
  runs := Cursor.run?_eq_some [] (Nat.le_refl _) []

end Token

end Flowchart
