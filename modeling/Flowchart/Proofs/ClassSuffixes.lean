import Flowchart.Proofs.WordEdges

/-!
# Class suffixes

A class that is attached to a node goes, and the letters, digits, underscores and hyphens behind
its name go with it. An arrow that touches the name loses its hyphens. With a blank in front of the
arrow nothing is lost, and without one the line stays what it is as long as what is left of the
arrow is an arrow.
-/

namespace Flowchart

/-! ## What a class takes along -/

namespace Repair

/-- A character that the name of a class goes on with. -/
def isClassChar (c : Char) : Bool := Text.isWordChar c || c == '-'

def behindClass (t : Text) : Text := t.dropWhile isClassChar

theorem replaceMatches_classSuffix_append {u : Text} (hu : ':' ∉ u) (s : Text) :
    Text.replaceMatches classSuffix (u ++ s) = u ++ Text.replaceMatches classSuffix s := by
  induction u with
  | nil => rfl
  | cons c u ih =>
      have hnone : classSuffix (c :: (u ++ s)) = none := by
        have hc : c ≠ ':' := fun he => hu (by simp [he])
        have hafter : Text.after? [':', ':', ':'] (c :: (u ++ s)) = none := by
          simp [Text.after?, Ne.symm hc]
        simp [classSuffix, hafter]
      rw [List.cons_append, Text.replaceMatches, hnone]
      exact congrArg (c :: ·) (ih fun h => hu (by simp [h]))

def IsClassName (c : Text) : Prop := c ≠ [] ∧ ∀ d ∈ c, Text.isWordChar d = true

variable {c t : Text} (hc : IsClassName c)

include hc

theorem replaceMatches_class (ht : ':' ∉ t) :
    Text.replaceMatches classSuffix (':' :: ':' :: ':' :: (c ++ t)) = behindClass t := by
  have hchars : ∀ d ∈ c, isClassChar d = true := fun d hd => by simp [isClassChar, hc.2 d hd]
  have hname : (c ++ t).takeWhile isClassChar = c ++ t.takeWhile isClassChar :=
    List.takeWhile_append_of_pos hchars
  have hmatch : classSuffix (':' :: ':' :: ':' :: (c ++ t))
      = some ([], (c ++ t.takeWhile isClassChar).length + 3) := by
    have hafter : Text.after? [':', ':', ':'] (':' :: ':' :: ':' :: (c ++ t)) = some (c ++ t) :=
      Text.after?_eq_some_iff.2 rfl
    have hne : (c ++ t.takeWhile isClassChar).isEmpty = false := by
      simp [hc.1]
    have hread : (c ++ t).takeWhile (fun d => Text.isWordChar d || d == '-')
        = c ++ t.takeWhile isClassChar := hname
    simp only [classSuffix, hafter, Option.bind_eq_bind, Option.bind_some, hread, hne,
      Bool.false_eq_true, if_false]
  have hrest : (':' :: ':' :: (c ++ t)).drop ((c ++ t.takeWhile isClassChar).length + 3 - 1)
      = behindClass t := by
    have hsplit : c ++ t = (c ++ t.takeWhile isClassChar) ++ behindClass t := by
      rw [List.append_assoc, behindClass, List.takeWhile_append_dropWhile]
    conv_lhs => rw [hsplit]
    exact List.drop_left
  have hcolon : ':' ∉ behindClass t := fun h => ht ((List.dropWhile_sublist _).subset h)
  rw [Text.replaceMatches, hmatch]
  dsimp only
  rw [hrest, List.nil_append, Layout.replaceMatches_classSuffix hcolon]

/-- The rule for identifiers sees nothing of the class and of what goes with it. -/
theorem sanitizedText_class {u : Text} (hu : ':' ∉ u) (ht : ':' ∉ t) :
    sanitizedText (u ++ ':' :: ':' :: ':' :: (c ++ t)) = sanitizedText (u ++ behindClass t) := by
  have hcolon : ':' ∉ behindClass t := fun h => ht ((List.dropWhile_sublist _).subset h)
  rw [sanitizedText, sanitizedText, replaceMatches_classSuffix_append hu,
    replaceMatches_class hc ht, replaceMatches_classSuffix_append hu,
    Layout.replaceMatches_classSuffix hcolon]

omit hc in
theorem isUndelimited_wordChars (hc : ∀ d ∈ c, Text.isWordChar d = true) : c.IsUndelimited := by
  intro d hd
  have hne {e : Char} (he : Text.isWordChar e = false) : d ≠ e := by
    rintro rfl
    rw [hc d hd] at he
    cases he
  refine ⟨⟨hne (by decide), hne (by decide), ?_⟩, ?_, ?_, hne (by decide)⟩
  · simp [Label.isQuotationMark, Label.quotationMarks, hne (e := '"') (by decide),
      hne (e := '\u201c') (by decide +kernel), hne (e := '\u201d') (by decide +kernel),
      hne (e := '\u201e') (by decide +kernel), hne (e := '\x60') (by decide)]
  · simp [isOpener, hne (e := '[') (by decide), hne (e := '(') (by decide),
      hne (e := '{') (by decide)]
  · simp [isCloser, hne (e := ']') (by decide), hne (e := ')') (by decide),
      hne (e := '}') (by decide)]

end Repair

open Repair (behindClass IsClassName)

/-- A node with a class attached to it, and what stands behind. -/
def withClass (n : NodeText) (c t : Text) : Text := n.text ++ ':' :: ':' :: ':' :: (c ++ t)

section

variable {n : NodeText} {c t : Text} (hn : n.IsReady) (hc : IsClassName c)
  (ht : t.IsUndelimited) (hne : t ≠ []) (hlast : ∀ d ∈ t.getLast?, Text.isBlank d = false)

include hn hc ht hne hlast

theorem leads_class : n.Leads (':' :: ':' :: ':' :: (c ++ t)) := by
  have hcolon : Text.IsUndelimited [':', ':', ':'] := by
    intro d hd
    simp only [List.mem_cons, List.not_mem_nil, or_false] at hd
    rcases hd with rfl | rfl | rfl <;> exact ⟨⟨by decide, by decide, by decide⟩, by decide⟩
  have hfree : Text.IsUndelimited (':' :: ':' :: ':' :: (c ++ t)) :=
    hcolon.append ((Repair.isUndelimited_wordChars hc.2).append ht)
  have hends : ∀ d ∈ (':' :: ':' :: ':' :: (c ++ t)).getLast?, Text.isBlank d = false := by
    have hsplit : ':' :: ':' :: ':' :: (c ++ t) = (':' :: ':' :: ':' :: c) ++ t := rfl
    rw [hsplit, List.getLast?_append_of_ne_nil _ hne]
    exact hlast
  exact NodeText.leads_touching hn hfree hends (c := ':') rfl (by decide) (by decide)

variable (hcolon : ':' ∉ t)

include hcolon

theorem repair_withClass_eq (hsemi : ';' ∉ n.text) : repair (withClass n c t)
    = Repair.shapeDocument (Repair.normalizeSpacing (Repair.repairEdges
        ((Layout.finalNode n).mapBehind Repair.sanitizedText (behindClass t)))) := by
  rw [withClass, (leads_class hn hc ht hne hlast).repair_eq hsemi]
  have hclean := hn.isClean_finalNode
  cases hnode : Layout.finalNode n with
  | bare a =>
      rw [hnode] at hclean
      have ha : ':' ∉ a := fun h => absurd ((Ident.isValid_iff.1 hclean).2.1 _ h) (by decide)
      rw [Node.mapBehind, Node.mapBehind, Repair.sanitizedText_class hc ha hcolon]
  | shaped m =>
      have := Repair.sanitizedText_class hc (u := []) (by simp) hcolon
      rw [List.nil_append, List.nil_append] at this
      rw [Node.mapBehind, Node.mapBehind, this]

/-- A class goes with what touches its name. -/
theorem repair_withClass (hsemi : ';' ∉ n.text) (hleads : n.Leads (behindClass t)) :
    repair (withClass n c t) = repair (n.text ++ behindClass t) := by
  rw [repair_withClass_eq hn hc ht hne hlast hcolon hsemi, hleads.repair_eq hsemi]

theorem repair_withClass_mistakable {p : Layout} {a : Text} (hp : p.IsReady)
    (hm : p.isMistakable = true) (hword : n = .bare a) (htext : p.text = a ++ behindClass t)
    (hclean : p.HasCleanEdges) : repair (withClass n c t) = Chart.render ⟨default, []⟩ := by
  subst hword
  have hsemi : ';' ∉ (NodeText.bare a).text :=
    fun h => absurd ((Ident.isValid_iff.1 hn.well.id).2.1 _ h) (by decide)
  have hspaced := hp.respaced hclean
  have hidents := Layout.sanitizeIdents_text hp.well hclean
  have hfree : Segment.IsFree p.text := by
    rw [htext]
    refine (Layout.isFree_id hn.well.id).append (Text.IsUndelimited.isFree ?_)
    exact ht.of_subset (List.dropWhile_sublist _).subset
  have hscan : Segment.scan p.text = Layout.textSegment p.text := by
    have := hfree [] []
    rw [List.append_nil, List.append_nil, Segment.scanFrom_nil, Layout.ofBack_eq,
      List.reverse_reverse] at this
    exact this
  rw [hscan, Repair.sanitizeSegments_textSegment, htext] at hidents
  rw [repair_withClass_eq hn hc ht hne hlast hcolon hsemi]
  show Repair.shapeDocument (Repair.normalizeSpacing (Repair.repairEdges
    (Repair.sanitizedText (a ++ behindClass t)))) = _
  rw [hidents]
  exact Layout.lastRules_of_isMistakable hspaced
    (by rw [Layout.isMistakable_respaced, hm])

end

/-! ## Behind blanks -/

theorem behindClass_eq_self {t : Text} (h : ∀ c ∈ t.head?, Repair.isClassChar c = false) :
    behindClass t = t := by
  cases t with
  | nil => rfl
  | cons c t => exact List.dropWhile_cons_of_neg (by simp [h c rfl])

section

variable {n : NodeText} {c s r s' b : Text} (hn : n.IsReady) (hsemi : ';' ∉ n.text)
  (hc : IsClassName c) (hb : Ident.isValid b = true) (hr : ∀ c ∈ r, Token.isArrowChar c = true)
  (hfinish : EdgeText.IsFinishing r)

include hn hsemi hc hb hr hfinish

theorem repair_withClass_spaced (hs : s.IsSpaces) (hne : s ≠ []) (hs' : s'.IsSpaces)
    (hclose : EdgeText.Closes r s') : repair (withClass n c (s ++ (r ++ (s' ++ b))))
      = repair (n.text ++ (s ++ (r ++ (s' ++ b)))) := by
  have hfree := isUndelimited_toWord hb hs hs' hr
  have hcolon := colon_notMem_toWord hb hs hs' hr
  obtain ⟨htne, hlast⟩ := getLast?_toWord hb (s ++ (r ++ s'))
  have hassoc : s ++ (r ++ s') ++ b = s ++ (r ++ (s' ++ b)) := by simp
  rw [hassoc] at htne hlast
  have hself : behindClass (s ++ (r ++ (s' ++ b))) = s ++ (r ++ (s' ++ b)) := by
    refine behindClass_eq_self fun d hd => ?_
    obtain ⟨e, s, rfl⟩ := List.exists_cons_of_ne_nil hne
    cases hd
    rw [hs d (by simp)]
    decide
  have hready := Layout.isReady_toWord hn hb hs hs' hr hfinish hclose
  -- behind a keyword the line is a directive only once the class is gone
  by_cases hk : n.isKeyword = true
  · cases n with
    | shaped a o i => cases hk
    | bare a =>
        have hm : (Layout.toWord (.bare a) s r s' b).isMistakable = true := by
          rw [Layout.isMistakable_toWord, hk]
          simp [hne]
        have hclean : (Layout.toWord (.bare a) s r s' b).HasCleanEdges := by
          intro l hl
          rw [List.mem_singleton.1 hl]
          simp only [List.mem_append, not_or] at hcolon
          simp [EdgeText.text, hcolon.1, hcolon.2.1, hcolon.2.2.1]
        rw [repair_withClass_mistakable hn hc hfree htne hlast hcolon hready hm rfl
          (by rw [Layout.text_toWord, hself]; rfl) hclean,
          repair_toWord hn hsemi hb hs hs' hr hfinish hclose, if_pos hk]
        rfl
  · have hleads : n.Leads (s ++ (r ++ (s' ++ b))) := by
      refine ⟨hn, hfree, hlast, fun a ha => ?_⟩
      subst ha
      have hm : (Layout.toWord (.bare a) s r s' b).isMistakable = false := by
        rw [Layout.isMistakable_toWord]
        simp [hk]
      have := Layout.mayHoldStatement_text hready.well
      rwa [Layout.text_toWord, hm] at this
    have hlaw := repair_withClass hn hc hfree htne hlast hcolon hsemi (by rwa [hself])
    rwa [hself] at hlaw

end

/-! ## Arrows that touch the name -/

section

variable {n : NodeText} {c b : Text} (hn : n.IsReady) (hsemi : ';' ∉ n.text)
  (hc : IsClassName c) (hb : Ident.isValid b = true)

include hn hsemi hc hb

theorem repair_withClass_tight {r x : Text} (hr : ∀ c ∈ r, Token.isArrowChar c = true)
    (hcut : behindClass (r ++ b) = x ++ b) (hx : ∀ c ∈ x, Token.isArrowChar c = true)
    (hne : x ≠ []) : repair (withClass n c (r ++ b)) = repair (n.text ++ (x ++ b)) := by
  obtain ⟨hfree, htne, hlast, hcolon⟩ := isUndelimited_tight hb hr
  have := repair_withClass hn hc hfree htne hlast hcolon hsemi
    (by rw [hcut]; exact leads_tight hn hb hx hne)
  rwa [hcut] at this

theorem repair_withClass_strokes :
    repair (withClass n c (strokes ++ b)) = Statement.answer (Layout.lone n).kept := by
  obtain ⟨hfree, hne, hlast, hcolon⟩ := isUndelimited_tight hb isArrowChar_strokes
  have hcut : behindClass (strokes ++ b) = [] := by
    refine List.dropWhile_eq_nil_iff.2 fun d hd => ?_
    rcases List.mem_append.1 hd with hd | hd
    · exact List.all_eq_true.1 (by decide : strokes.all Repair.isClassChar = true) d hd
    · simp [Repair.isClassChar,
        Text.isWordChar_of_isAlphanum ((Ident.isValid_iff.1 hb).2.1 d hd)]
  have htext : (Layout.lone n).text = n.text := Layout.text_lone n
  cases hm : (Layout.lone n).isMistakable with
  | true =>
      have hkept : (Layout.lone n).kept = none := by
        rw [Layout.kept, hm]
        rfl
      rw [hkept]
      cases n with
      | shaped a o i => cases hm
      | bare a =>
          refine repair_withClass_mistakable hn hc hfree hne hlast hcolon hn.lone hm rfl ?_
            (Layout.hasCleanEdges_lone _)
          rw [hcut, htext]
          exact (List.append_nil a).symm
  | false =>
      have hheld := Layout.mayHoldStatement_text hn.lone.well
      rw [hm, htext] at hheld
      have hleads := NodeText.leads_nil hn hheld
      have hlaw := repair_withClass hn hc hfree hne hlast hcolon hsemi (by rwa [hcut])
      rw [hlaw, hcut, List.append_nil, hn.repair_text_eq hsemi]

end

/-! ## Both spellings -/

section

variable {a b : Text} (ha : Ident.isValid a = true) (hb : Ident.isValid b = true)

include ha hb

/-- A word that begins a directive is long enough for both words to stay what they are. -/
theorem sanitize_head_of_mem (hk : a ∈ Line.directiveKeywords) :
    Ident.sanitize (a ++ '>' :: b) = a ++ b := by
  have hres := (Ident.isValid_iff.1 (isValid_append_of_mem ha hb hk)).2.2
  rw [Ident.sanitize, filter_head hb (Ident.isValid_iff.1 ha).2.1, if_neg hres]

theorem repair_word_head_iff :
    repair (a ++ '>' :: b) = Statement.answer (if (NodeText.bare a).isKeyword = true then none
        else some (Statement.toWord (.bare a) b)) ↔
      a ∈ Line.directiveKeywords ∧ a ++ b ∈ Line.directiveKeywords := by
  have hvalid := isValid_sanitize_head hb ha
  have hready := NodeText.isReady_bare hvalid
  have hkept := kept_lone hready
  have hword : repair (Ident.sanitize (a ++ '>' :: b)) = _ :=
    hready.repair_text_eq fun h => absurd ((Ident.isValid_iff.1 hvalid).2.1 _ h) (by decide)
  rw [repair_word_head hb ha, hword]
  by_cases hk : a ∈ Line.directiveKeywords
  · have hkeyword : (NodeText.bare a).isKeyword = true := by simpa [NodeText.isKeyword] using hk
    rw [hkeyword, if_pos rfl]
    rw [sanitize_head_of_mem ha hb hk, kept_lone_bare, not_isRootKeyword_append hk] at hkept ⊢
    by_cases hab : a ++ b ∈ Line.directiveKeywords
    · rw [if_pos (.inl hab)]
      exact iff_of_true rfl ⟨hk, hab⟩
    · rw [if_neg (by simp [hab])] at hkept ⊢
      exact iff_of_false (answer_some_ne_none (hkept _ rfl).1) fun h => hab h.2
  · have hkeyword : (NodeText.bare a).isKeyword = false := by simpa [NodeText.isKeyword] using hk
    rw [hkeyword, if_neg Bool.false_ne_true]
    have hclean : (Node.bare a).IsClean := ha
    exact iff_of_false (answer_ne_toWord hclean hb hkept) fun h => hk h.1

end

section

variable {n : NodeText} {c b : Text} (hn : n.IsReady) (hsemi : ';' ∉ n.text)
  (hc : IsClassName c) (hb : Ident.isValid b = true)

include hn hsemi hc hb

/-- Where only the head of the arrow is left, the edge is lost, unless no statement was there. -/
theorem repair_withClass_head_iff {r : Text} (hr : ∀ c ∈ r, Token.isArrowChar c = true)
    (hfinish : EdgeText.IsFinishing r) (hhead : r.getLast? = some '>')
    (hcut : behindClass (r ++ b) = '>' :: b) :
    repair (withClass n c (r ++ b)) = repair (n.text ++ (r ++ b)) ↔
      ∃ a, n = .bare a ∧ a ∈ Line.directiveKeywords ∧ a ++ b ∈ Line.directiveKeywords := by
  have hlaw := repair_withClass_tight hn hsemi hc hb hr hcut isArrowChar_head (by simp)
  rw [hlaw, repair_tight hn hsemi hb hr hfinish hhead]
  show repair (n.text ++ '>' :: b) = _ ↔ _
  have hclean := hn.isClean_finalNode
  cases n with
  | shaped a o i =>
      rw [repair_shaped_head hb hn hsemi rfl]
      refine iff_of_false (answer_ne_toWord hclean hb nofun) ?_
      rintro ⟨a, ha, -⟩
      cases ha
  | bare a =>
      refine (repair_word_head_iff hclean hb).trans ⟨fun h => ⟨a, rfl, h⟩, ?_⟩
      rintro ⟨_, he, h⟩
      cases he
      exact h

theorem repair_withClass_strokes_iff :
    repair (withClass n c (strokes ++ b)) = repair (n.text ++ (strokes ++ b)) ↔
      ∃ a, n = .bare a ∧
        (a ∈ Line.directiveKeywords ∨ Line.isRootKeyword a = true ∧ IsHead b) := by
  have hclean := hn.isClean_finalNode
  have hkept := kept_lone hn
  rw [repair_withClass_strokes hn hsemi hc hb]
  by_cases hhead : IsHead b
  · rw [repair_strokes_head hb hn hsemi hhead]
    cases n with
    | shaped a o i =>
        rw [kept_lone_shaped] at hkept ⊢
        refine iff_of_false (answer_some_ne_none (hkept _ rfl).1) ?_
        rintro ⟨a, ha, -⟩
        cases ha
    | bare a =>
        rw [kept_lone_bare] at hkept ⊢
        by_cases hk : a ∈ Line.directiveKeywords ∨ Line.isRootKeyword a = true
        · rw [if_pos hk]
          exact iff_of_true rfl ⟨a, rfl, hk.imp_right fun h => ⟨h, hhead⟩⟩
        · rw [if_neg hk] at hkept ⊢
          refine iff_of_false (answer_some_ne_none (hkept _ rfl).1) ?_
          rintro ⟨_, he, h⟩
          cases he
          exact hk (h.imp_right fun h => h.1)
  · rw [repair_strokes hb hn hsemi hhead]
    by_cases hk : n.isKeyword = true
    · cases n with
      | shaped a o i => cases hk
      | bare a =>
          have hmem : a ∈ Line.directiveKeywords := by simpa [NodeText.isKeyword] using hk
          rw [if_pos hk, kept_lone_bare, if_pos (.inl hmem)]
          exact iff_of_true rfl ⟨a, rfl, .inl hmem⟩
    · rw [if_neg hk]
      refine iff_of_false (answer_ne_toWord hclean hb hkept) ?_
      rintro ⟨a, rfl, h | h⟩
      · exact hk (by simpa [NodeText.isKeyword] using h)
      · exact hhead h.2

end

/-! ## A word or a rectangle in front of an edge -/

def nodeText (a : Text) : Option Text → NodeText
  | none => .bare a
  | some l => .shaped a '[' l

/-- The arrows of an edge without a label. -/
def edgeArrows : List Text := ["-->".toList, "->".toList, "==>".toList, "-.->".toList, strokes]

theorem isFinishing_of_mem_edgeArrows {r : Text} (hr : r ∈ edgeArrows) :
    (∀ c ∈ r, Token.isArrowChar c = true) ∧ EdgeText.IsFinishing r := by
  simp only [edgeArrows, List.mem_cons, List.not_mem_nil, or_false] at hr
  rcases hr with rfl | rfl | rfl | rfl | rfl
  all_goals exact ⟨List.all_eq_true.1 (by decide), by decide⟩

section

variable {a b : Text} {label : Option Text} (ha : Ident.isValid a = true)
  (hl : ∀ l ∈ label, Label.IsClean l)

include ha hl

theorem isInert_nodeText : Text.All IsInert (nodeText a label).text := by
  have hword := (Token.isPath_word (Ident.isValid_iff.1 ha).2.1).isInert
  cases label with
  | none => exact hword
  | some l =>
      have hsign : ∀ c ∈ ['[', ']'], IsInert c := by
        intro c hc
        simp only [List.mem_cons, List.not_mem_nil, or_false] at hc
        rcases hc with rfl | rfl <;> exact ⟨by decide, by decide, by decide⟩
      exact (hword.append (.cons (hsign '[' (by simp)) (hl l rfl).isInert)).append
        (.cons (hsign ']' (by simp)) .nil)

theorem isReady_nodeText : (nodeText a label).IsReady := by
  have hinert := isInert_nodeText ha hl
  refine ⟨⟨?_, fun id c i he => ?_⟩, fun h => (hinert _ h).1 rfl, fun c hc => (hinert c hc).2.2⟩
  · cases label <;> exact ha
  · cases label with
    | none => cases he
    | some k =>
        have hclean := hl k rfl
        cases he
        exact ⟨rfl, hclean.isLegal.isBalanced,
          (ShapedNode.isReadBack_ofInterior hclean a).legal⟩

omit ha hl in
theorem exists_nodeText_eq_bare {P : Text → Prop} :
    (∃ w, nodeText a label = .bare w ∧ P w) ↔ label = none ∧ P a := by
  cases label with
  | none => simp [nodeText]
  | some l => simp [nodeText]

variable {c r : Text} (hb : Ident.isValid b = true) (hc : IsClassName c) (hr : r ∈ edgeArrows)

include hb hc hr

/-- A class that is attached to the first node of an edge changes nothing where spaces stand around
the arrow. Where the arrow touches both nodes, the class takes the hyphens at its front along.
Nothing changes then if the arrow begins with something else or is still an arrow without them,
and otherwise only if no statement was on the line anyway. -/
theorem repair_withClass_eq_iff :
    (∀ s s' : Text, s.IsSpaces → s ≠ [] → s'.IsSpaces → s' ≠ [] →
      repair (withClass (nodeText a label) c (s ++ (r ++ (s' ++ b))))
        = repair ((nodeText a label).text ++ (s ++ (r ++ (s' ++ b))))) ∧
    (repair (withClass (nodeText a label) c (r ++ b))
        = repair ((nodeText a label).text ++ (r ++ b)) ↔
      r = "==>".toList ∨ r = "-.->".toList ∨ label = none ∧
        (a ∈ Line.directiveKeywords ∧ (r = strokes ∨ a ++ b ∈ Line.directiveKeywords) ∨
          Line.isRootKeyword a = true ∧ r = strokes ∧ IsHead b)) := by
  have hn := isReady_nodeText ha hl
  have hsemi : ';' ∉ (nodeText a label).text := fun h => (isInert_nodeText ha hl _ h).2.1 rfl
  obtain ⟨hchars, hfinish⟩ := isFinishing_of_mem_edgeArrows hr
  refine ⟨fun s s' hs hne hs' hne' => ?_, ?_⟩
  · obtain ⟨d, u, rfl⟩ := List.exists_cons_of_ne_nil hne'
    exact repair_withClass_spaced hn hsemi hc hb hchars hfinish hs hne hs'
      (.inl ⟨d, rfl, .inl (hs' d (by simp))⟩)
  · simp only [edgeArrows, List.mem_cons, List.not_mem_nil, or_false] at hr
    rcases hr with rfl | rfl | rfl | rfl | rfl
    · rw [repair_withClass_head_iff hn hsemi hc hb hchars hfinish rfl rfl,
        exists_nodeText_eq_bare]
      simp [strokes]
    · rw [repair_withClass_head_iff hn hsemi hc hb hchars hfinish rfl rfl,
        exists_nodeText_eq_bare]
      simp [strokes]
    · have hlaw := repair_withClass_tight hn hsemi hc hb hchars (x := "==>".toList) rfl hchars
        (by decide)
      exact iff_of_true hlaw (.inl rfl)
    · have hleft : ∀ c ∈ ".->".toList, Token.isArrowChar c = true :=
        List.all_eq_true.1 (by decide)
      have hlaw := repair_withClass_tight hn hsemi hc hb hchars (x := ".->".toList) rfl hleft
        (by decide)
      refine iff_of_true ?_ (.inr (.inl rfl))
      rw [hlaw, repair_tight hn hsemi hb hleft (by decide) rfl,
        repair_tight hn hsemi hb hchars hfinish rfl]
    · rw [repair_withClass_strokes_iff hn hsemi hc hb, exists_nodeText_eq_bare]
      simp [strokes]

end

/-- A class with a digit and an underscore in its name. -/
theorem repair_withClass_doubled :
    Ident.isValid "A".toList = true ∧ Ident.isValid "B".toList = true ∧
      (∀ l ∈ some "go / stop".toList, Label.IsClean l) ∧ IsClassName "big_1".toList ∧
      "==>".toList ∈ edgeArrows ∧
      repair (withClass (nodeText "A".toList (some "go / stop".toList)) "big_1".toList
          ([' '] ++ ("==>".toList ++ ([' ', ' '] ++ "B".toList))))
        = repair ((nodeText "A".toList (some "go / stop".toList)).text
          ++ ([' '] ++ ("==>".toList ++ ([' ', ' '] ++ "B".toList)))) ∧
      repair (withClass (nodeText "A".toList (some "go / stop".toList)) "big_1".toList
          ("==>".toList ++ "B".toList))
        = repair ((nodeText "A".toList (some "go / stop".toList)).text
          ++ ("==>".toList ++ "B".toList)) := by
  have ha : Ident.isValid "A".toList = true := by decide
  have hb : Ident.isValid "B".toList = true := by decide
  have hclean : Label.IsClean "go / stop".toList := by decide +kernel
  have hl : ∀ l ∈ some "go / stop".toList, Label.IsClean l := by
    rintro l ⟨⟩
    exact hclean
  have hc : IsClassName "big_1".toList :=
    ⟨by decide, fun d hd => List.all_eq_true.1 (by decide : "big_1".toList.all _ = true) d hd⟩
  have hr : "==>".toList ∈ edgeArrows := by decide
  obtain ⟨hspaced, htight⟩ := repair_withClass_eq_iff ha hl hb hc hr
  have hspace : Text.IsSpaces [' '] ∧ Text.IsSpaces [' ', ' '] :=
    ⟨by simp [Text.IsSpaces], by simp [Text.IsSpaces]⟩
  exact ⟨ha, hb, hl, hc, hr, hspaced _ _ hspace.1 (by simp) hspace.2 (by simp),
    htight.2 (.inl rfl)⟩

/-- The class takes the hyphens of the arrow, and one word is left of both nodes. -/
theorem repair_withClass_ne :
    Ident.isValid "A".toList = true ∧ Ident.isValid "B".toList = true ∧
      IsClassName "c".toList ∧ "-->".toList ∈ edgeArrows ∧
      repair (withClass (nodeText "A".toList none) "c".toList ("-->".toList ++ "B".toList))
        = "flowchart TD\nAB".toList ∧
      repair ((nodeText "A".toList none).text ++ ("-->".toList ++ "B".toList))
        = "flowchart TD\nA --> B".toList ∧
      repair (withClass (nodeText "A".toList none) "c".toList ("-->".toList ++ "B".toList))
        ≠ repair ((nodeText "A".toList none).text ++ ("-->".toList ++ "B".toList)) := by
  have hc : IsClassName "c".toList :=
    ⟨by decide, fun d hd => List.all_eq_true.1 (by decide : "c".toList.all _ = true) d hd⟩
  refine ⟨by decide, by decide, hc, by decide, ?_⟩
  decide +kernel

end Flowchart
