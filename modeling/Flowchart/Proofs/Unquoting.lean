import Flowchart.Proofs.FixedPoints

/-!
# Quoted labels

A text is put together from chunks: free of double quotes, or an identifier with a quoted label
that fills its delimiters. One pass unwraps the labels in its own delimiters. An opening that is
the end of a longer one is tried after it, so that no pass takes a label of another one.
-/

namespace Flowchart

namespace Text

/-- No match begins inside the text. -/
theorem replaceMatches_append_of_none (pattern : Pattern) {t : Text} (s : Text)
    (h : ∀ u, u ≠ [] → u <:+ t → pattern (u ++ s) = none) :
    replaceMatches pattern (t ++ s) = t ++ replaceMatches pattern s := by
  induction t with
  | nil => rfl
  | cons c t ih =>
      have hc := h (c :: t) (by simp) (List.suffix_refl _)
      have hrest := ih fun u hne hu => h u hne (hu.trans (List.suffix_cons c t))
      rw [List.cons_append] at hc ⊢
      rw [replaceMatches, hc]
      simp [hrest]

/-- The text is a match. -/
theorem replaceMatches_append_of_some {pattern : Pattern} {t s r : Text} (hne : t ≠ [])
    (h : pattern (t ++ s) = some (r, t.length)) :
    replaceMatches pattern (t ++ s) = r ++ replaceMatches pattern s := by
  obtain ⟨c, t, rfl⟩ := List.exists_cons_of_ne_nil hne
  rw [List.cons_append] at h ⊢
  rw [replaceMatches, h]
  simp

theorem takeWhile_quote {a : Text} (ha : '"' ∉ a) (r : Text) :
    (a ++ '"' :: r).takeWhile (· != '"') = a :=
  Segment.takeWhile_append_of_stop (fun _ hc => bne_iff_ne.2 (ne_of_mem_of_not_mem hc ha)) (by simp)

/-- The text before the first double quote is unique. -/
theorem eq_of_append_quote {a b r s : Text} (ha : '"' ∉ a) (hb : '"' ∉ b)
    (h : a ++ '"' :: r = b ++ '"' :: s) : a = b := by
  rw [← takeWhile_quote ha r, h, takeWhile_quote hb]

theorem IsBlanks.quote_notMem {b : Text} (hb : IsBlanks b) : '"' ∉ b :=
  fun h => absurd (hb _ h) (by decide)

end Text

namespace Repair

/-! ## Matches -/

/-- A match begins with its opening, blanks and a double quote. -/
theorem exists_of_quotedLabel {opening closing s : Text} {r : Text × Nat}
    (h : quotedLabel opening closing s = some r) :
    ∃ b t, Text.IsBlanks b ∧ s = (opening ++ b) ++ '"' :: t := by
  unfold quotedLabel at h
  obtain ⟨body, hbody, h⟩ := Option.bind_eq_some_iff.1 h
  obtain ⟨inner, hinner, -⟩ := Option.bind_eq_some_iff.1 h
  rw [Text.after?_eq_some_iff] at hbody hinner
  refine ⟨body.takeWhile Text.isBlank, inner, fun c hc => List.mem_takeWhile_imp hc, ?_⟩
  have hsplit := List.takeWhile_append_dropWhile (p := Text.isBlank) (l := body)
  rw [hinner] at hsplit
  rw [hbody, List.append_assoc]
  exact congrArg _ hsplit.symm

/-- What the delimiters of a quoted label are made of. -/
structure IsDelimiter (d : Text × Text) : Prop where
  opening : ∀ c ∈ d.1, c.isAlphanum = false ∧ Text.isBlank c = false ∧ c ≠ '"'
  head : d.1.head?.any Label.isIllegal = true
  closing : ∀ c ∈ d.2, Text.isBlank c = false ∧ c ≠ '"'
  nonempty : d.2 ≠ []

theorem isDelimiter_of_mem {d : Text × Text} (h : d ∈ quotedDelimiters) : IsDelimiter d where
  opening := by
    have := (by decide : ∀ d ∈ quotedDelimiters,
      d.1.all (fun c => !c.isAlphanum && !Text.isBlank c && c != '"') = true) d h
    simpa [and_assoc] using this
  head := (by decide : ∀ d ∈ quotedDelimiters, d.1.head?.any Label.isIllegal = true) d h
  closing := by
    have := (by decide : ∀ d ∈ quotedDelimiters,
      d.2.all (fun c => !Text.isBlank c && c != '"') = true) d h
    simpa using this
  nonempty := (by decide : ∀ d ∈ quotedDelimiters, d.2 ≠ []) d h

theorem pairwise_quotedDelimiters : quotedDelimiters.Pairwise fun d e => ¬ d.1 <:+ e.1 := by
  decide

variable {d : Text × Text} (hd : IsDelimiter d)

include hd

theorem IsDelimiter.quote_notMem : '"' ∉ d.1 ∧ '"' ∉ d.2 :=
  ⟨fun h => (hd.opening _ h).2.2 rfl, fun h => (hd.closing _ h).2 rfl⟩

theorem IsDelimiter.exists_head : ∃ c o, d.1 = c :: o ∧ Label.isIllegal c = true := by
  have h := hd.head
  cases hd' : d.1 with
  | nil =>
      rw [hd'] at h
      cases h
  | cons c o =>
      rw [hd'] at h
      exact ⟨c, o, rfl, h⟩

/-- A label that fills its delimiters is a match. -/
theorem quotedLabel_append {l : Text} (hquote : '"' ∉ l) (hline : '\n' ∉ l) (s : Text) :
    quotedLabel d.1 d.2 (d.1 ++ '"' :: (l ++ '"' :: d.2) ++ s)
      = some (d.1 ++ l ++ d.2, (d.1 ++ '"' :: (l ++ '"' :: d.2)).length) := by
  have hopen : Text.after? d.1 (d.1 ++ '"' :: (l ++ '"' :: d.2) ++ s)
      = some ('"' :: (l ++ '"' :: (d.2 ++ s))) := by
    rw [Text.after?_eq_some_iff]
    simp
  have hmark (t : Text) : Text.after? ['"'] (('"' :: t).dropWhile Text.isBlank) = some t := by
    rw [Text.after?_eq_some_iff, List.dropWhile_cons, if_neg (by decide)]
    rfl
  have hlabel : (l ++ '"' :: (d.2 ++ s)).takeWhile (fun c => c != '"' && c != '\n') = l := by
    refine Segment.takeWhile_append_of_stop (fun c hc => ?_) (by simp)
    have hq : c ≠ '"' := fun he => hquote (he ▸ hc)
    have hn : c ≠ '\n' := fun he => hline (he ▸ hc)
    simp [hq, hn]
  have hbehind : Text.after? ['"'] ((l ++ '"' :: (d.2 ++ s)).drop l.length) = some (d.2 ++ s) := by
    rw [List.drop_left, Text.after?_eq_some_iff]
    rfl
  have hclose : Text.after? d.2 ((d.2 ++ s).dropWhile Text.isBlank) = some s := by
    rw [Text.dropWhile_eq_self_of_head, Text.after?_eq_some_iff]
    intro c hc
    obtain ⟨e, t, he⟩ := List.exists_cons_of_ne_nil hd.nonempty
    rw [he] at hc
    cases hc
    exact (hd.closing _ (by simp [he])).1
  simp only [quotedLabel, Option.bind_eq_bind, hopen, Option.bind_some, hmark, hlabel, hbehind,
    hclose]
  simp
  omega

/-- Before a double quote only the opening itself makes a match. -/
theorem quotedLabel_eq_none_of_ne {u : Text} (hquote : '"' ∉ u)
    (hne : ∀ b, Text.IsBlanks b → u ≠ d.1 ++ b) (s : Text) :
    quotedLabel d.1 d.2 (u ++ '"' :: s) = none := by
  cases h : quotedLabel d.1 d.2 (u ++ '"' :: s) with
  | none => rfl
  | some r =>
      obtain ⟨b, t, hb, hs⟩ := exists_of_quotedLabel h
      have hquote' : '"' ∉ d.1 ++ b := by
        simp [hd.quote_notMem.1, hb.quote_notMem]
      exact absurd (Text.eq_of_append_quote hquote hquote' hs) (hne b hb)

omit hd

/-! ## Guarded texts -/

/-- A letter or a digit stands before the first double quote. -/
def IsGuarded (s : Text) : Prop :=
  ∀ a r, s = a ++ '"' :: r → '"' ∉ a → ∃ c ∈ a, c.isAlphanum = true

theorem isGuarded_nil : IsGuarded [] := by
  intro a r h
  simp at h

theorem exists_append_of_append_eq {u s a r : Text} (hu : '"' ∉ u) (h : u ++ s = a ++ '"' :: r) :
    ∃ a', a = u ++ a' ∧ s = a' ++ '"' :: r := by
  rcases List.append_eq_append_iff.1 h with ⟨a', ha, hs⟩ | ⟨b, hb, hs⟩
  · exact ⟨a', ha, hs⟩
  · cases b with
    | nil => exact ⟨[], by simpa using hb.symm, hs.symm⟩
    | cons c b =>
        rw [List.cons_append, List.cons.injEq] at hs
        exact absurd (by simp [hb, ← hs.1]) hu

theorem IsGuarded.append {u s : Text} (hu : '"' ∉ u) (hs : IsGuarded s) : IsGuarded (u ++ s) := by
  intro a r h ha
  obtain ⟨a', rfl, hbehind⟩ := exists_append_of_append_eq hu h
  obtain ⟨c, hc, halnum⟩ := hs a' r hbehind fun hm => ha (by simp [hm])
  exact ⟨c, by simp [hc], halnum⟩

theorem quote_notMem_of_isAlphanum {w : Text} (hw : ∀ c ∈ w, c.isAlphanum = true) : '"' ∉ w :=
  fun h => absurd (hw _ h) (by decide)

theorem isGuarded_word_append {w : Text} (hne : w ≠ []) (hw : ∀ c ∈ w, c.isAlphanum = true)
    (s : Text) : IsGuarded (w ++ s) := by
  intro a r h _
  obtain ⟨a', rfl, -⟩ := exists_append_of_append_eq (quote_notMem_of_isAlphanum hw) h
  obtain ⟨c, w, rfl⟩ := List.exists_cons_of_ne_nil hne
  exact ⟨c, by simp, hw c (by simp)⟩

include hd in
theorem IsGuarded.quotedLabel {s : Text} (hs : IsGuarded s) : quotedLabel d.1 d.2 s = none := by
  cases h : Repair.quotedLabel d.1 d.2 s with
  | none => rfl
  | some r =>
      obtain ⟨b, t, hb, hsplit⟩ := exists_of_quotedLabel h
      have hquote : '"' ∉ d.1 ++ b := by
        simp [hd.quote_notMem.1, hb.quote_notMem]
      obtain ⟨c, hc, halnum⟩ := hs _ _ hsplit hquote
      rcases List.mem_append.1 hc with hc | hc
      · rw [(hd.opening c hc).1] at halnum
        cases halnum
      · rw [Layout.isAlphanum_eq_false_of_isBlank (hb c hc)] at halnum
        cases halnum

include hd in
/-- A pass goes over a text before a guarded one. -/
theorem replaceMatches_of_isGuarded {t s : Text} (ht : '"' ∉ t) (hs : IsGuarded s) :
    Text.replaceMatches (quotedLabel d.1 d.2) (t ++ s)
      = t ++ Text.replaceMatches (quotedLabel d.1 d.2) s :=
  Text.replaceMatches_append_of_none _ s fun _ _ hu =>
    (IsGuarded.append (fun h => ht (hu.subset h)) hs).quotedLabel hd

/-! ## Chunks -/

/-- A part of a text: without double quotes, or a quoted label behind an identifier. -/
inductive Chunk where
  | plain (t : Text)
  | quoted (id : Text) (d : Text × Text) (label : Text)

namespace Chunk

def text : Chunk → Text
  | plain t => t
  | quoted id d l => id ++ (d.1 ++ '"' :: (l ++ '"' :: d.2))

/-- The text without its double quotes. -/
def bare : Chunk → Text
  | plain t => t
  | quoted id d l => id ++ (d.1 ++ l ++ d.2)

def IsWell : Chunk → Prop
  | plain t => '"' ∉ t
  | quoted id d l => Ident.isValid id = true ∧ d ∈ quotedDelimiters ∧ Label.IsClean l

/-- What the pass for some delimiters makes of a chunk. -/
def unwrap (d : Text × Text) : Chunk → Chunk
  | plain t => plain t
  | quoted id e l => if e = d then plain (id ++ (e.1 ++ l ++ e.2)) else quoted id e l

theorem bare_unwrap (d : Text × Text) (k : Chunk) : (k.unwrap d).bare = k.bare := by
  cases k with
  | plain t => rfl
  | quoted id e l =>
      rw [unwrap]
      split <;> rfl

theorem quote_notMem_of_isClean {l : Text} (hl : Label.IsClean l) : '"' ∉ l :=
  fun h => absurd (hl.not_isQuotationMark h) (by decide)

theorem quote_notMem_bare {k : Chunk} (hk : k.IsWell) : '"' ∉ k.bare := by
  cases k with
  | plain t => exact hk
  | quoted id d l =>
      obtain ⟨hid, hd, hl⟩ := hk
      have hmarks := (isDelimiter_of_mem hd).quote_notMem
      have hword := quote_notMem_of_isAlphanum (Ident.isValid_iff.1 hid).2.1
      simp [bare, hmarks.1, hmarks.2, hword, quote_notMem_of_isClean hl]

theorem mem_bare_of_mem_text {k : Chunk} {c : Char} (h : c ∈ k.text) : c = '"' ∨ c ∈ k.bare := by
  cases k with
  | plain t => exact .inr h
  | quoted id d l =>
      simp only [text, List.mem_append, List.mem_cons] at h
      simp only [bare, List.mem_append]
      tauto

theorem isWell_unwrap (d : Text × Text) {k : Chunk} (hk : k.IsWell) : (k.unwrap d).IsWell := by
  cases k with
  | plain t => exact hk
  | quoted id e l =>
      rw [unwrap]
      split
      · exact quote_notMem_bare hk
      · exact hk

theorem isGuarded_text_append {k : Chunk} (hk : k.IsWell) {s : Text} (hs : IsGuarded s) :
    IsGuarded (k.text ++ s) := by
  cases k with
  | plain t => exact hs.append hk
  | quoted id d l =>
      obtain ⟨hne, hid, -⟩ := Ident.isValid_iff.1 hk.1
      rw [text, List.append_assoc]
      exact isGuarded_word_append hne hid _

theorem isGuarded_flatMap {ks : List Chunk} (hks : ∀ k ∈ ks, k.IsWell) :
    IsGuarded (ks.flatMap text) := by
  induction ks with
  | nil => exact isGuarded_nil
  | cons k ks ih =>
      rw [List.flatMap_cons]
      exact isGuarded_text_append (hks k (by simp)) (ih fun m hm => hks m (by simp [hm]))

section

include hd

theorem replaceMatches_id {id : Text} (hid : Ident.isValid id = true) (s : Text) :
    Text.replaceMatches (quotedLabel d.1 d.2) (id ++ s)
      = id ++ Text.replaceMatches (quotedLabel d.1 d.2) s := by
  have halnum := (Ident.isValid_iff.1 hid).2.1
  exact Text.replaceMatches_append_of_none _ s fun u hne hu =>
    (isGuarded_word_append hne (fun c hc => halnum c (hu.subset hc)) s).quotedLabel hd

/-- A pass goes over a quoted label in delimiters whose opening does not end in its own, if no match
begins in the label. -/
theorem replaceMatches_other {e : Text × Text} (he : IsDelimiter e) (hne : ¬ d.1 <:+ e.1)
    {l s : Text}
    (hl : ∀ u, u <:+ l → quotedLabel d.1 d.2 (u ++ '"' :: (e.2 ++ s)) = none) :
    Text.replaceMatches (quotedLabel d.1 d.2) (e.1 ++ '"' :: (l ++ '"' :: (e.2 ++ s)))
      = e.1 ++ '"' :: (l ++ '"' :: Text.replaceMatches (quotedLabel d.1 d.2) (e.2 ++ s)) := by
  obtain ⟨c, o, hopening, -⟩ := hd.exists_head
  have hmark (t : Text) : Text.replaceMatches (quotedLabel d.1 d.2) ('"' :: t)
      = '"' :: Text.replaceMatches (quotedLabel d.1 d.2) t := by
    have hnone : quotedLabel d.1 d.2 ('"' :: t) = none :=
      quotedLabel_eq_none_of_ne (u := []) hd (by simp) (fun b _ => by simp [hopening]) t
    rw [Text.replaceMatches, hnone]
  have hopen := Text.replaceMatches_append_of_none (quotedLabel d.1 d.2) (t := e.1)
    ('"' :: (l ++ '"' :: (e.2 ++ s))) fun u _ hu => by
      refine quotedLabel_eq_none_of_ne hd (fun h => he.quote_notMem.1 (hu.subset h)) ?_ _
      rintro b hb rfl
      have hnil : b = [] := List.eq_nil_iff_forall_not_mem.2 fun x hx => by
        have := (he.opening x (hu.subset (by simp [hx]))).2.1
        rw [hb x hx] at this
        cases this
      rw [hnil, List.append_nil] at hu
      exact hne hu
  have hlabel := Text.replaceMatches_append_of_none (quotedLabel d.1 d.2) (t := l)
    ('"' :: (e.2 ++ s)) fun u _ hu => hl u hu
  rw [hopen, hmark, hlabel, hmark]

/-- No match begins in a clean label. -/
theorem quotedLabel_isClean {l u : Text} (hl : Label.IsClean l) (hu : u <:+ l) (s : Text) :
    quotedLabel d.1 d.2 (u ++ '"' :: s) = none := by
  obtain ⟨c, o, hopening, hillegal⟩ := hd.exists_head
  refine quotedLabel_eq_none_of_ne hd (fun h => quote_notMem_of_isClean hl (hu.subset h)) ?_ _
  rintro b - rfl
  have := hl.not_isIllegal (hu.subset (by simp [hopening] : c ∈ d.1 ++ b))
  rw [hillegal] at this
  cases this

/-- The pass for some delimiters, chunk by chunk. -/
theorem replaceMatches_flatMap {ks : List Chunk} (hks : ∀ k ∈ ks, k.IsWell)
    (hother : ∀ id e l, quoted id e l ∈ ks → e = d ∨ ¬ d.1 <:+ e.1) :
    Text.replaceMatches (quotedLabel d.1 d.2) (ks.flatMap text)
      = (ks.map (unwrap d)).flatMap text := by
  induction ks with
  | nil => simp [Text.replaceMatches]
  | cons k ks ih =>
      have hrest : ∀ m ∈ ks, m.IsWell := fun m hm => hks m (by simp [hm])
      have ih := ih hrest fun id e l h => hother id e l (by simp [h])
      have hguard := isGuarded_flatMap hrest
      rw [List.flatMap_cons, List.map_cons, List.flatMap_cons, ← ih]
      cases k with
      | plain t => exact replaceMatches_of_isGuarded hd (hks (plain t) (by simp)) hguard
      | quoted id e l =>
          obtain ⟨hid, he, hl⟩ := hks (quoted id e l) (by simp)
          rw [unwrap, text, List.append_assoc, replaceMatches_id hd hid]
          by_cases hed : e = d
          · subst hed
            have hmatch := quotedLabel_append hd (quote_notMem_of_isClean hl) hl.newline
              (ks.flatMap text)
            rw [Text.replaceMatches_append_of_some (by simp) hmatch, if_pos rfl, text,
              List.append_assoc id]
          · have hne := (hother id e l (by simp)).resolve_left hed
            have hpass := replaceMatches_other hd (isDelimiter_of_mem he) hne
              (s := ks.flatMap text) fun u hu => quotedLabel_isClean hd hl hu _
            have hquote := (isDelimiter_of_mem he).quote_notMem.2
            rw [replaceMatches_of_isGuarded hd hquote hguard] at hpass
            rw [if_neg hed, text]
            simp only [List.append_assoc, List.cons_append] at hpass ⊢
            rw [hpass]

end

/-- The passes for a list of delimiters unwrap all labels in them. -/
theorem foldl_flatMap {ds : List (Text × Text)} (hds : ∀ d ∈ ds, IsDelimiter d)
    (hpair : ds.Pairwise fun d e => ¬ d.1 <:+ e.1) {ks : List Chunk} (hks : ∀ k ∈ ks, k.IsWell)
    (hmem : ∀ id e l, quoted id e l ∈ ks → e ∈ ds) :
    ds.foldl (fun t d => Text.replaceMatches (quotedLabel d.1 d.2) t) (ks.flatMap text)
      = ks.flatMap bare := by
  induction ds generalizing ks with
  | nil =>
      refine List.flatMap_congr fun k hk => ?_
      cases k with
      | plain t => rfl
      | quoted id e l => exact absurd (hmem id e l hk) (by simp)
  | cons d ds ih =>
      rw [List.pairwise_cons] at hpair
      have hother : ∀ id e l, quoted id e l ∈ ks → e = d ∨ ¬ d.1 <:+ e.1 := by
        intro id e l h
        rcases List.mem_cons.1 (hmem id e l h) with rfl | he
        · exact .inl rfl
        · exact .inr (hpair.1 e he)
      have hwell : ∀ k ∈ ks.map (unwrap d), k.IsWell := by
        intro k hk
        obtain ⟨m, hm, rfl⟩ := List.mem_map.1 hk
        exact isWell_unwrap d (hks m hm)
      have hleft : ∀ id e l, quoted id e l ∈ ks.map (unwrap d) → e ∈ ds := by
        intro id e l h
        obtain ⟨m, hm, he⟩ := List.mem_map.1 h
        cases m with
        | plain t => cases he
        | quoted id' e' l' =>
            rw [unwrap] at he
            split at he
            · cases he
            · rename_i hne
              cases he
              exact (List.mem_cons.1 (hmem _ _ _ hm)).resolve_left hne
      rw [List.foldl_cons, replaceMatches_flatMap (hds d (by simp)) hks hother,
        ih (fun e he => hds e (by simp [he])) hpair.2 hwell hleft, List.flatMap_map]
      exact List.flatMap_congr fun k _ => bare_unwrap d k

/-- Stripping quotes from chunks leaves their bare texts. -/
theorem stripQuotes_flatMap {ks : List Chunk} (hks : ∀ k ∈ ks, k.IsWell)
    (hbare : Text.IsUnquoted (ks.flatMap bare)) :
    stripQuotes (ks.flatMap text) = ks.flatMap bare := by
  have hunwrap : unwrapQuotes (ks.flatMap text) = ks.flatMap bare := by
    refine foldl_flatMap (fun _ => isDelimiter_of_mem) pairwise_quotedDelimiters hks
      fun id e l h => ?_
    exact (hks _ h).2.1
  have hself := stripQuotes_eq_self hbare
  rw [stripQuotes, unwrapQuotes_eq_self (quote_notMem hbare)] at hself
  rw [stripQuotes, hunwrap, hself]

end Chunk

end Repair

end Flowchart
