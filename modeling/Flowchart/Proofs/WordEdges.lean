import Flowchart.Proofs.LeadingNodes

/-!
# Edges to a word

A line is a node, an arrow and a word behind it. An arrow with a head, or with blanks behind it, is
found whatever stands around it. Three hyphens are an arrow too, unless the word is read as their
head, and the head of an arrow by itself is none.
-/

namespace Flowchart

/-! ## Edges to a word -/

/-- An edge to a word, with what stands around its arrow. -/
def Layout.toWord (n : NodeText) (s r s' b : Text) : Layout :=
  ⟨[], n, [(.plain s r s', .bare b)], []⟩

theorem Layout.text_toWord (n : NodeText) (s r s' b : Text) :
    (toWord n s r s' b).text = n.text ++ (s ++ (r ++ (s' ++ b))) := by
  simp [toWord, text, linksText, EdgeText.text, NodeText.text]

/-- Whether the node is a word that begins a directive. -/
def NodeText.isKeyword (n : NodeText) : Bool :=
  match n with
  | .bare a => Line.directiveKeywords.contains a
  | .shaped .. => false

/-- A node by itself as a statement. -/
def Statement.lone (m : Node) : Statement := ⟨m, []⟩

/-- An edge without a label as a statement. -/
def Statement.toWord (m : Node) (b : Text) : Statement := ⟨m, [⟨none, .bare b⟩]⟩

/-- The answer of repair for at most one statement. -/
def Statement.answer (s : Option Statement) : Text :=
  Chart.render ⟨default, settleAll [] s.toList⟩

/-- A node by itself comes out as its statement. -/
theorem NodeText.IsReady.repair_text_eq {n : NodeText} (hn : n.IsReady) (hsemi : ';' ∉ n.text) :
    repair n.text = Statement.answer (Layout.lone n).kept := by
  have hsingle := Layout.repair_single hn.lone (by rwa [Layout.text_lone])
  rwa [Layout.text_lone] at hsingle

/-- A run of spaces. -/
def Text.IsSpaces (s : Text) : Prop := ∀ c ∈ s, c = ' '

theorem Text.IsSpaces.nil : Text.IsSpaces [] := nofun

theorem Text.IsSpaces.isBlanks {s : Text} (hs : IsSpaces s) : IsBlanks s := by
  intro c hc
  rw [hs c hc]
  rfl

theorem Text.IsSpaces.isUndelimited {s : Text} (hs : IsSpaces s) : s.IsUndelimited := by
  intro c hc
  rw [hs c hc]
  exact ⟨⟨by decide, by decide, by decide⟩, by decide⟩

section

variable {n : NodeText} {s r s' b : Text} (hn : n.IsReady) (hsemi : ';' ∉ n.text)
  (hb : Ident.isValid b = true) (hs : s.IsSpaces) (hs' : s'.IsSpaces)
  (hr : ∀ c ∈ r, Token.isArrowChar c = true)

include hb hs hs' hr

theorem isUndelimited_toWord : (s ++ (r ++ (s' ++ b))).IsUndelimited :=
  hs.isUndelimited.append ((Token.isPath_arrow hr).isUndelimited.append
    (hs'.isUndelimited.append
      (Token.isPath_word (Ident.isValid_iff.1 hb).2.1).isUndelimited))

theorem colon_notMem_toWord : ':' ∉ s ++ (r ++ (s' ++ b)) := by
  have hspaces {u : Text} (hu : u.IsSpaces) : ':' ∉ u := fun h => absurd (hu _ h) (by decide)
  have harrow : ':' ∉ r := fun h => absurd (hr _ h) (by decide)
  have hword : ':' ∉ b := fun h => absurd ((Ident.isValid_iff.1 hb).2.1 _ h) (by decide)
  simp [hspaces hs, hspaces hs', harrow, hword]

omit hs hs' hr in
theorem getLast?_toWord (u : Text) : u ++ b ≠ [] ∧
    ∀ c ∈ (u ++ b).getLast?, Text.isBlank c = false := by
  obtain ⟨hne, halnum, -⟩ := Ident.isValid_iff.1 hb
  refine ⟨by simp [hne], fun c hc => ?_⟩
  rw [List.getLast?_append_of_ne_nil _ hne] at hc
  exact Ident.not_isBlank_of_isAlphanum (halnum c (List.mem_of_getLast? hc))

variable (hfinish : EdgeText.IsFinishing r) (hclose : EdgeText.Closes r s')

include hn hfinish hclose

theorem Layout.isReady_toWord : (toWord n s r s' b).IsReady := by
  have hfree := isUndelimited_toWord hb hs hs' hr
  have hedge : (EdgeText.plain s r s').IsWell :=
    ⟨hs.isBlanks, hfinish, hs'.isBlanks, hclose⟩
  refine ⟨⟨.nil, hn.well, fun l hl => ?_, .nil⟩, ?_, ?_, nofun⟩
  · rw [List.mem_singleton.1 hl]
    exact ⟨hedge, (NodeText.isReady_bare hb).well⟩
  · rw [text_toWord, List.mem_append]
    exact fun h => h.elim hn.newline hfree.newline
  · rw [text_toWord]
    exact hn.unquoted.append hfree.isUnquoted

omit hn hb hs hs' hr hfinish hclose in
/-- The word of a directive is known where a blank ends it. -/
theorem Layout.isMistakable_toWord (a s r s' b : Text) :
    (toWord (.bare a) s r s' b).isMistakable
      = (!s.isEmpty && (NodeText.bare a).isKeyword) := by
  simp [toWord, isMistakable, isDirective, isRoot, endsFirst, EdgeText.before, NodeText.isKeyword]

omit hn hb hs hs' hr hfinish hclose in
/-- Only a word that begins a directive keeps the line from being a statement. -/
theorem Layout.kept_toWord (n : NodeText) (s r s' b : Text) : (toWord n s r s' b).kept
    = if n.isKeyword = true then none else some (Statement.toWord (finalNode n) b) := by
  have hstatement : (toWord n s r s' b).statement = Statement.toWord (finalNode n) b := rfl
  rw [kept, hstatement]
  cases n with
  | shaped a c i => rfl
  | bare a =>
      have hword : (Statement.toWord (finalNode (.bare a)) b).isMistakable
          = (NodeText.bare a).isKeyword := by
        simp [Statement.toWord, Statement.isMistakable, finalNode, mapNode, NodeText.node,
          NodeText.ofNode, NodeText.isKeyword]
      rw [hword, isMistakable_toWord]
      cases (NodeText.bare a).isKeyword <;> simp

include hsemi

/-- An edge to a word is found unless a directive begins with the first word. -/
theorem repair_toWord : repair (n.text ++ (s ++ (r ++ (s' ++ b)))) = Statement.answer
    (if n.isKeyword = true then none else some (Statement.toWord (Layout.finalNode n) b)) := by
  have hready := Layout.isReady_toWord hn hb hs hs' hr hfinish hclose
  have hfree := isUndelimited_toWord hb hs hs' hr
  have hline : ';' ∉ (Layout.toWord n s r s' b).text := by
    rw [Layout.text_toWord, List.mem_append]
    exact fun h => h.elim hsemi fun ht => (hfree _ ht).1.2.1 rfl
  have := Layout.repair_single hready hline
  rwa [Layout.text_toWord, Layout.kept_toWord] at this

end

/-! ## Arrows that touch the word -/

section

variable {n : NodeText} {b : Text} (hn : n.IsReady) (hsemi : ';' ∉ n.text)
  (hb : Ident.isValid b = true)

include hb

theorem isUndelimited_tight {x : Text} (hx : ∀ c ∈ x, Token.isArrowChar c = true) :
    (x ++ b).IsUndelimited ∧ x ++ b ≠ [] ∧ (∀ c ∈ (x ++ b).getLast?, Text.isBlank c = false) ∧
      ':' ∉ x ++ b := by
  obtain ⟨hne, hlast⟩ := getLast?_toWord hb x
  exact ⟨isUndelimited_toWord hb .nil .nil hx, hne, hlast, colon_notMem_toWord hb .nil .nil hx⟩

include hn

/-- An arrow in front of the word keeps the line from being anything but a statement. -/
theorem leads_tight {x : Text} (hx : ∀ c ∈ x, Token.isArrowChar c = true) (hne : x ≠ []) :
    n.Leads (x ++ b) := by
  obtain ⟨hfree, -, hlast, -⟩ := isUndelimited_tight hb hx
  obtain ⟨d, x, rfl⟩ := List.exists_cons_of_ne_nil hne
  have hd := hx d (by simp)
  exact NodeText.leads_touching hn hfree hlast (c := d) rfl
    (Layout.isAlphanum_eq_false_of_isArrowChar hd) (Layout.isBlank_eq_false_of_isArrowChar hd)

include hsemi

/-- An arrow with a head that touches both nodes. -/
theorem repair_tight {r : Text} (hr : ∀ c ∈ r, Token.isArrowChar c = true)
    (hfinish : EdgeText.IsFinishing r) (hhead : r.getLast? = some '>') :
    repair (n.text ++ (r ++ b)) = Statement.answer
      (if n.isKeyword = true then none else some (Statement.toWord (Layout.finalNode n) b)) := by
  have hword := repair_toWord hn hsemi hb .nil .nil hr hfinish (.inr hhead)
  rwa [List.nil_append, List.nil_append] at hword

end

/-! ## What is left of an arrow with a head -/

/-- A word by itself comes out of the last rules as it comes out of all of them. -/
theorem lastRules_word {w : Text} (hw : Ident.isValid w = true) :
    Repair.shapeDocument (Repair.normalizeSpacing (Repair.repairEdges w)) = repair w := by
  have hready := NodeText.isReady_bare hw
  have htext : (Layout.lone (.bare w)).text = w := Layout.text_lone _
  have hsemi : ';' ∉ w := fun h => absurd ((Ident.isValid_iff.1 hw).2.1 _ h) (by decide)
  -- a word that is taken for something else is left alone by the rules in front as well
  cases hm : (Layout.lone (.bare w)).isMistakable with
  | true =>
      have hall := hready.repair_text_eq hsemi
      have hlast := Layout.lastRules_of_isMistakable hready.lone hm
      have hkept : (Layout.lone (.bare w)).kept = none := by
        rw [Layout.kept, hm]
        rfl
      rw [hkept] at hall
      rw [htext] at hlast
      exact hlast.trans hall.symm
  | false =>
      have hheld : Line.mayHoldStatement w = true := by
        have := Layout.mayHoldStatement_text hready.lone.well
        rwa [hm, htext] at this
      have hleads := NodeText.leads_nil hready hheld
      have hself := Node.IsClean.mapBehind_sanitizedText (m := .bare w) hw Token.endsWord_nil
        (by simp) Repair.sanitizedText_nil
      have hall := hleads.repair_eq hsemi
      rw [show Layout.finalNode (.bare w) = .bare w from rfl, hself, List.append_nil,
        List.append_nil] at hall
      exact hall.symm

section

variable {a b : Text} (hb : Ident.isValid b = true)

include hb

omit hb in
theorem isArrowChar_head : ∀ c ∈ ['>'], Token.isArrowChar c = true :=
  List.all_eq_true.1 (by decide)

theorem lex_head_word (hne : a ++ '>' :: b ≠ []) (ha : ∀ c ∈ a, c.isAlphanum = true) :
    Token.lex (a ++ '>' :: b) = [.word (a ++ '>' :: b)] := by
  have hpath : Token.IsPath (a ++ '>' :: b) :=
    (Token.isPath_word ha).append ((Token.isPath_arrow isArrowChar_head).append
      (Token.isPath_word (Ident.isValid_iff.1 hb).2.1))
  refine Token.lex_of_not_isStroke hne fun c hc => ⟨hpath.not_isBlank c hc, ?_, ?_, ?_⟩
  · rintro rfl
    exact hpath.notMem (d := '&') rfl rfl hc
  · exact (hpath.not_delimiter c hc).2.2
  · simp only [List.mem_append, List.mem_cons] at hc
    rcases hc with hc | rfl | hc
    · exact Token.not_isStroke_of_isAlphanum (ha c hc)
    · rfl
    · exact Token.not_isStroke_of_isAlphanum ((Ident.isValid_iff.1 hb).2.1 c hc)

theorem sanitizedText_head (ha : ∀ c ∈ a, c.isAlphanum = true) :
    Repair.sanitizedText (a ++ '>' :: b) = Ident.sanitize (a ++ '>' :: b) := by
  have hcolon : ':' ∉ a ++ '>' :: b := by
    have hword : ':' ∉ a := fun h => absurd (ha _ h) (by decide)
    have htarget : ':' ∉ b := fun h => absurd ((Ident.isValid_iff.1 hb).2.1 _ h) (by decide)
    simp [hword, htarget]
  rw [Repair.sanitizedText, Layout.replaceMatches_classSuffix hcolon,
    lex_head_word hb (by simp) ha]
  simp [Repair.sanitizeWords, Token.renderAll, Token.render]

theorem filter_head (ha : ∀ c ∈ a, c.isAlphanum = true) :
    (a ++ '>' :: b).filter Char.isAlphanum = a ++ b := by
  rw [List.filter_append, List.filter_eq_self.2 ha, List.filter_cons_of_neg (by decide),
    List.filter_eq_self.2 (Ident.isValid_iff.1 hb).2.1]

theorem isValid_sanitize_head (ha : Ident.isValid a = true) :
    Ident.isValid (Ident.sanitize (a ++ '>' :: b)) = true := by
  obtain ⟨hne, halnum, -⟩ := Ident.isValid_iff.1 ha
  refine Ident.isValid_sanitize ?_
  rw [Ident.sanitize, filter_head hb halnum]
  split
  · simp
  · simp [hne]

/-- Both words become one. -/
theorem repair_word_head (ha : Ident.isValid a = true) :
    repair (a ++ '>' :: b) = repair (Ident.sanitize (a ++ '>' :: b)) := by
  have halnum := (Ident.isValid_iff.1 ha).2.1
  have hsemi : ';' ∉ a := fun h => absurd (halnum _ h) (by decide)
  have hleads := leads_tight (NodeText.isReady_bare ha) hb isArrowChar_head (by simp)
  have hall := hleads.repair_eq hsemi
  show repair ((NodeText.bare a).text ++ (['>'] ++ b)) = _
  rw [hall]
  show Repair.shapeDocument (Repair.normalizeSpacing (Repair.repairEdges
    (Repair.sanitizedText (a ++ '>' :: b)))) = _
  rw [sanitizedText_head hb halnum, lastRules_word (isValid_sanitize_head hb ha)]

theorem repairEdgeText_target : Repair.repairEdgeText b = b :=
  EdgeText.repairEdgeText_lone (Layout.lex_word hb)

theorem padArrows_target : Repair.padArrows b = b := by
  have hspace : ' ' ∉ b := fun h => absurd ((Ident.isValid_iff.1 hb).2.1 _ h) (by decide)
  exact EdgeText.padArrows_lone hspace (Layout.lex_word hb)

/-- A word that touches a shape takes the line with it. -/
theorem lastRules_shaped_word {m : ShapedNode} (hm : m.IsClean)
    (hready : (NodeText.ofNode (.shaped m)).IsReady) :
    Repair.shapeDocument (Repair.normalizeSpacing (Repair.repairEdges (m.render ++ b)))
      = Statement.answer none := by
  have halnum := (Ident.isValid_iff.1 hb).2.1
  have hfree := (Token.isPath_word halnum).isUndelimited
  have hleads : (NodeText.ofNode (.shaped m)).Leads b := by
    refine ⟨hready, hfree, fun c hc => ?_, fun _ h => by cases h⟩
    exact Ident.not_isBlank_of_isAlphanum (halnum c (List.mem_of_getLast? hc))
  have hmap {f : Text → Text} (hnil : f [] = []) (hself : f b = b) :
      Line.mapFreeText f (m.render ++ b) = m.render ++ b := by
    have := Node.IsClean.mapFreeText (m := .shaped m) hm hleads hnil
    rwa [Node.mapBehind, hself] at this
  have hitems : Repair.Item.ofLine (m.render ++ b)
      = [.node (.shaped m), .node (.bare b)] := by
    have := Node.IsClean.ofLine (m := .shaped m) hm hready hfree (fun _ h => by cases h)
    rwa [Layout.lex_word hb] at this
  have hline := hleads.isLine
  have htrim := hleads.isTrimmed
  have hroot := hleads.rootDirection?
  rw [NodeText.text_ofNode, Node.render] at hline htrim hroot
  rw [Repair.repairEdges,
    hmap EdgeText.repairEdgeText_nil (repairEdgeText_target hb), Repair.normalizeSpacing,
    hmap EdgeText.padArrows_nil (padArrows_target hb), Repair.trimLines_line hline htrim]
  refine Repair.shapeDocument_dropped hline htrim hroot (by simp [hitems]) ?_
  rw [Repair.isStatement, hitems]
  rfl

/-- Behind a shape the word stays apart, and no statement is left. -/
theorem repair_shaped_head {n : NodeText} (hn : n.IsReady) (hsemi : ';' ∉ n.text)
    {m : ShapedNode} (hnode : Layout.finalNode n = .shaped m) :
    repair (n.text ++ '>' :: b) = Statement.answer none := by
  have hclean := hn.isClean_finalNode
  have hready := hn.finalNode
  rw [hnode] at hclean hready
  have hsanitized : Repair.sanitizedText ('>' :: b) = b :=
    (sanitizedText_head (a := []) hb nofun).trans
      (Ident.sanitize_append_arrow hb isArrowChar_head).2
  have hall := (leads_tight hn hb isArrowChar_head (by simp)).repair_eq hsemi
  rw [hnode] at hall
  refine hall.trans ?_
  show Repair.shapeDocument (Repair.normalizeSpacing (Repair.repairEdges
    (m.render ++ Repair.sanitizedText ('>' :: b)))) = _
  rw [hsanitized, lastRules_shaped_word hb hclean hready]

end

/-! ## Three strokes -/

/-- The arrow that is nothing but hyphens. -/
def strokes : Text := ['-', '-', '-']

theorem isArrowChar_strokes : ∀ c ∈ strokes, Token.isArrowChar c = true :=
  List.all_eq_true.1 (by decide)

theorem isArrowChar_arrow : ∀ c ∈ arrow, Token.isArrowChar c = true :=
  List.all_eq_true.1 (by decide)

theorem isBlank_eq_false_of_mem_getLast?_arrow : ∀ c ∈ arrow.getLast?, Text.isBlank c = false := by
  rintro c ⟨⟩
  rfl

theorem Text.isAscii_of_isAlphanum {c : Char} (h : c.isAlphanum = true) : isAscii c = true := by
  have h : (decide ('A'.val ≤ c.val ∧ c.val ≤ 'Z'.val) ||
      decide ('a'.val ≤ c.val) && decide (c.val ≤ 'z'.val) ||
      decide ('0'.val ≤ c.val) && decide (c.val ≤ '9'.val)) = true := h
  simp only [Bool.or_eq_true, Bool.and_eq_true, decide_eq_true_eq, UInt32.le_iff_toNat_le] at h
  have hcode : c.toNat = c.val.toNat := rfl
  simp only [isAscii, hcode, decide_eq_true_eq]
  simp at h
  omega

theorem Text.isWordChar_of_isAlphanum {c : Char} (h : c.isAlphanum = true) :
    isWordChar c = true := by
  simp [isWordChar, isAscii_of_isAlphanum h, h]

theorem Text.isAlphanumeric_of_isAlphanum {c : Char} (h : c.isAlphanum = true) :
    isAlphanumeric c = true := by
  simp [isAlphanumeric, isAscii_of_isAlphanum h, h]

/-- A word that is the head of the strokes in front of it. -/
def IsHead (b : Text) : Prop := b = ['o'] ∨ b = ['x']

instance (b : Text) : Decidable (IsHead b) := inferInstanceAs (Decidable (_ ∨ _))

section

variable {b : Text} (hb : Ident.isValid b = true)

include hb

omit hb in
theorem repairTokens_arrow_word {a : Text} (b : Text) (hopen : Token.opensLabel a = false) :
    Repair.repairTokens [.arrow a, .word b] = arrow ++ b := by
  rw [EdgeText.repairTokens_plain hopen rfl, Repair.repairTokens_cons (by simp),
    Repair.repairTokens_nil, List.append_nil, Token.render]

theorem arrowRun_strokes : Token.arrowRun (strokes ++ b) = strokes := by
  refine Token.arrowRun_append strokes isArrowChar_strokes fun c hc => ?_
  exact Token.isArrowChar_eq_false_of_isAlphanum
    ((Ident.isValid_iff.1 hb).2.1 c (List.mem_of_mem_head? hc))

theorem headLength_strokes : Token.headLength strokes b = if IsHead b then 1 else 0 := by
  obtain ⟨hne, halnum, -⟩ := Ident.isValid_iff.1 hb
  obtain ⟨c, s, rfl⟩ := List.exists_cons_of_ne_nil hne
  cases s with
  | nil => simp [Token.headLength, IsHead, strokes, Token.isStroke]
  | cons d s =>
      have hd := Text.isAlphanumeric_of_isAlphanum (halnum d (by simp))
      simp [Token.headLength, IsHead, hd]

theorem lex_strokes : Token.lex (strokes ++ b)
    = if IsHead b then [.arrow (strokes ++ b)] else [.arrow strokes, .word b] := by
  have hlength : Token.arrowLength? (strokes ++ b) = some (3 + if IsHead b then 1 else 0) := by
    have hdrop : (strokes ++ b).drop strokes.length = b := List.drop_left
    rw [Token.arrowLength?, arrowRun_strokes hb, if_pos (by decide), hdrop, headLength_strokes hb]
    rfl
  have hlex : Token.lex (strokes ++ b) = .arrow ((strokes ++ b).take _)
      :: Token.lex ((strokes ++ b).drop _) :=
    Token.lex_cons_of_arrowLength? (c := '-') (s := ['-', '-'] ++ b) (by decide) (by decide)
      hlength
  rw [hlex]
  by_cases h : IsHead b
  · rw [if_pos h, if_pos h]
    rcases h with rfl | rfl <;> simp [strokes, Token.lex_nil]
  · rw [if_neg h, if_neg h]
    show Token.arrow strokes :: Token.lex b = _
    rw [Layout.lex_word hb]

theorem endsWord_strokes : Token.EndsWord (strokes ++ b) := by
  refine Token.endsWord_of_startsArrow ?_
  rw [Token.startsArrow, arrowRun_strokes hb]
  rfl

theorem colon_notMem_strokes : ':' ∉ strokes ++ b :=
  (isUndelimited_tight hb isArrowChar_strokes).2.2.2

theorem sanitizedText_strokes : Repair.sanitizedText (strokes ++ b) = strokes ++ b := by
  rw [Repair.sanitizedText, Layout.replaceMatches_classSuffix (colon_notMem_strokes hb),
    lex_strokes hb]
  split
  · simp [Repair.sanitizeWords, Token.renderAll, Token.render]
  · have hopen : Token.opensLabel strokes = false := rfl
    simp [Repair.sanitizeWords, Token.renderAll, Token.render, hopen, Layout.sanitize_eq_self hb]

theorem repairEdgeText_strokes : Repair.repairEdgeText (strokes ++ b)
    = arrow ++ if IsHead b then [] else b := by
  rw [Repair.repairEdgeText, lex_strokes hb]
  split
  · rename_i h
    have hopen : Token.opensLabel (strokes ++ b) = false := by
      rcases h with rfl | rfl <;> rfl
    rw [EdgeText.repairTokens_plain hopen rfl, Repair.repairTokens_nil]
  · exact repairTokens_arrow_word b rfl

variable {n : NodeText} (hn : n.IsReady) (hsemi : ';' ∉ n.text)

include hn hsemi

/-- The strokes become the canonical arrow, and a head goes. -/
theorem repair_strokes_eq : repair (n.text ++ (strokes ++ b))
    = Repair.shapeDocument (Repair.normalizeSpacing ((Layout.finalNode n).render
        ++ (arrow ++ if IsHead b then [] else b))) := by
  have hclean := hn.isClean_finalNode
  have hleads := leads_tight hn hb isArrowChar_strokes (by decide)
  have hends := endsWord_strokes hb
  rw [hleads.repair_eq hsemi, hclean.mapBehind_sanitizedText hends (colon_notMem_strokes hb)
    (sanitizedText_strokes hb), Repair.repairEdges,
    hclean.mapFreeText hleads.finalNode EdgeText.repairEdgeText_nil,
    hclean.mapBehind_repairEdgeText hends, repairEdgeText_strokes hb]

/-- In front of a word that is no head the strokes are an arrow. -/
theorem repair_strokes (h : ¬ IsHead b) : repair (n.text ++ (strokes ++ b)) = Statement.answer
    (if n.isKeyword = true then none else some (Statement.toWord (Layout.finalNode n) b)) := by
  have hclean := hn.isClean_finalNode
  have harrow := isArrowChar_arrow
  have hfinish : EdgeText.IsFinishing arrow := by decide
  have hleads := leads_tight hn hb harrow (by decide)
  have hstart : Token.EndsArrow arrow b := .inr ⟨rfl, fun c hc =>
    Token.isArrowChar_eq_false_of_isAlphanum
      ((Ident.isValid_iff.1 hb).2.1 c (List.mem_of_mem_head? hc))⟩
  have hlex : Token.lex (arrow ++ b) = [.arrow arrow, .word b] := by
    rw [Token.lex_arrow_append hfinish.1 hstart, Layout.lex_word hb]
  have hends : Token.EndsWord (arrow ++ b) :=
    Token.endsWord_of_startsArrow (Token.startsArrow_append hfinish.1 hstart)
  have hcolon := (isUndelimited_tight hb harrow).2.2.2
  have hopen : Token.opensLabel arrow = false := rfl
  have hsanitized : Repair.sanitizedText (arrow ++ b) = arrow ++ b := by
    rw [Repair.sanitizedText, Layout.replaceMatches_classSuffix hcolon, hlex]
    simp [Repair.sanitizeWords, Token.renderAll, Token.render, hopen, Layout.sanitize_eq_self hb]
  have hedges : Repair.repairEdgeText (arrow ++ b) = arrow ++ b := by
    rw [Repair.repairEdgeText, hlex, repairTokens_arrow_word b hopen]
  -- the canonical arrow in the place of the strokes has the same text behind the rule for edges
  have htight := repair_tight hn hsemi hb harrow hfinish rfl
  rw [hleads.repair_eq hsemi, hclean.mapBehind_sanitizedText hends hcolon hsanitized,
    Repair.repairEdges, hclean.mapFreeText hleads.finalNode EdgeText.repairEdgeText_nil,
    hclean.mapBehind_repairEdgeText hends, hedges] at htight
  rw [repair_strokes_eq hb hn hsemi, if_neg h, htight]

omit hb hn hsemi in
theorem isUndelimited_arrow : Text.IsUndelimited (' ' :: arrow) := by
  have hspace : Text.IsSpaces [' '] := by simp [Text.IsSpaces]
  exact hspace.isUndelimited.append (Token.isPath_arrow isArrowChar_arrow).isUndelimited

omit hb hsemi in
theorem rootDirection?_arrow : Line.rootDirection? ((Layout.finalNode n).render ++ ' ' :: arrow)
    = none := by
  have hready := hn.finalNode
  have hfree := isUndelimited_arrow
  have hlast : ∀ c ∈ (' ' :: arrow).getLast?, Text.isBlank c = false :=
    isBlank_eq_false_of_mem_getLast?_arrow
  have htrim := hready.isTrimmed hlast
  rw [NodeText.text_ofNode] at htrim
  cases hnode : Layout.finalNode n with
  | shaped m =>
      rw [hnode] at hready
      have hleads : (NodeText.ofNode (.shaped m)).Leads (' ' :: arrow) :=
        ⟨hready, hfree, hlast, fun _ h => by cases h⟩
      have := hleads.rootDirection?
      rwa [NodeText.text_ofNode] at this
  | bare a =>
      rw [hnode] at hready htrim
      obtain ⟨hne, halnum, -⟩ := Ident.isValid_iff.1 hready.well.id
      have hwords : Text.words ((' ' :: arrow).dropWhile (!Text.isBlank ·)) = [arrow] := by decide
      refine Line.rootDirection?_of_second (b := []) nofun hne halnum ?_ hwords (by decide)
      intro c hc
      have hends : c ∈ ((Node.bare a).render ++ ' ' :: arrow).getLast? := by
        rw [← Text.trim_eq_self htrim]
        exact hc
      rw [List.getLast?_append_of_ne_nil _ (by simp)] at hends
      cases hends
      decide

/-- The strokes and their head lead nowhere. -/
theorem repair_strokes_head (h : IsHead b) :
    repair (n.text ++ (strokes ++ b)) = Statement.answer none := by
  have hclean := hn.isClean_finalNode
  have hready := hn.finalNode
  have hfree := isUndelimited_arrow
  have hlast : ∀ c ∈ (' ' :: arrow).getLast?, Text.isBlank c = false :=
    isBlank_eq_false_of_mem_getLast?_arrow
  have hline := hready.isLine hfree hlast
  have htrim := hready.isTrimmed hlast
  have hleads : (NodeText.ofNode (Layout.finalNode n)).Leads arrow :=
    NodeText.leads_touching hready hfree.tail isBlank_eq_false_of_mem_getLast?_arrow (c := '-') rfl
      (by decide) (by decide)
  rw [NodeText.text_ofNode] at hline htrim
  have hpad : Repair.padArrows arrow = ' ' :: arrow ++ [' '] := by decide +kernel
  have hitems : Repair.Item.ofLine ((Layout.finalNode n).render ++ ' ' :: arrow)
      = [.node (Layout.finalNode n), .edge arrow none] := by
    have hlex : Repair.Item.ofTokens (Token.lex (' ' :: arrow)) = [.edge arrow none] := by
      decide +kernel
    rw [hclean.ofLine hready hfree fun _ _ => Token.endsWord_of_head (.inl rfl), hlex]
  have hspaced : Repair.normalizeSpacing ((Layout.finalNode n).render ++ arrow)
      = (Layout.finalNode n).render ++ ' ' :: arrow := by
    have hends : Token.EndsWord arrow := Token.endsWord_of_startsArrow rfl
    rw [Repair.normalizeSpacing, hclean.mapFreeText hleads EdgeText.padArrows_nil,
      hclean.mapBehind_padArrows hends, hpad, ← List.append_assoc]
    have hnewline : '\n' ∉ (Layout.finalNode n).render ++ ' ' :: arrow ++ [' '] := by
      have := hline.newline
      simpa using this
    have htrimmed := Text.trim_append_append .nil .space hline.ne_nil htrim
    rw [List.nil_append] at htrimmed
    rw [Repair.trimLines, Text.lines_of_notMem hnewline (by simp), List.map_singleton, htrimmed,
      List.filter_cons_of_pos (by simp)]
    rfl
  rw [repair_strokes_eq hb hn hsemi, if_pos h, List.append_nil, hspaced]
  refine Repair.shapeDocument_dropped hline htrim (rootDirection?_arrow hn) (by simp [hitems]) ?_
  rw [Repair.isStatement, hitems]
  simp [Repair.alternates]

end

/-! ## Answers compared -/

theorem isClean_toWord {m : Node} {b : Text} (hm : m.IsClean) (hb : Ident.isValid b = true) :
    (Statement.toWord m b).IsClean := by
  refine ⟨hm, fun l hl => ?_⟩
  rw [List.mem_singleton.1 hl]
  exact ⟨nofun, hb⟩

/-- An edge that is found is not found in a statement without links. -/
theorem answer_ne_toWord {m : Node} {b : Text} (hm : m.IsClean) (hb : Ident.isValid b = true)
    {o : Option Statement} (ho : ∀ s ∈ o, s.IsClean ∧ s.links = []) :
    Statement.answer o ≠ Statement.answer (some (Statement.toWord m b)) := by
  intro h
  have hclean : ∀ s ∈ (some (Statement.toWord m b)).toList, s.IsClean := by
    intro s hs
    rw [List.mem_singleton.1 hs]
    exact isClean_toWord hm hb
  have hedges := (Chart.eq_of_render_settleAll
    (fun s hs => (ho s (Option.mem_toList.1 hs)).1) hclean h).1
  have hnone : (⟨default, o.toList⟩ : Chart).edges = [] := by
    cases o with
    | none => rfl
    | some s =>
        simp [Chart.edges, Statement.edges, (ho s rfl).2, Link.edges]
  rw [hnone] at hedges
  cases hedges

/-- A statement that is found has a node. -/
theorem answer_some_ne_none {s : Statement} (hs : s.IsClean) :
    Statement.answer (some s) ≠ Statement.answer none := by
  intro h
  have hclean : ∀ t ∈ (some s).toList, t.IsClean := by
    intro t ht
    rw [List.mem_singleton.1 ht]
    exact hs
  have hnone : ∀ t ∈ (none : Option Statement).toList, t.IsClean := by simp
  have hids := (Chart.eq_of_render_settleAll hclean hnone h).2 s.first.id
  simp [Chart.nodes, Node.ids, Statement.nodes] at hids

theorem kept_lone {n : NodeText} (hn : n.IsReady) :
    ∀ s ∈ (Layout.lone n).kept, s.IsClean ∧ s.links = [] := by
  intro s hs
  rw [(Layout.of_kept_eq_some hs).2]
  exact ⟨Layout.isClean_statement hn.lone, rfl⟩

theorem kept_lone_shaped (a : Text) (o : Char) (i : Text) : (Layout.lone (.shaped a o i)).kept
    = some (.lone (Layout.finalNode (.shaped a o i))) := rfl

theorem kept_lone_bare (a : Text) : (Layout.lone (.bare a)).kept
    = if a ∈ Line.directiveKeywords ∨ Line.isRootKeyword a = true then none
      else some (.lone (.bare a)) := by
  have hstatement : (Layout.lone (.bare a)).statement = .lone (.bare a) := rfl
  rw [Layout.kept, hstatement]
  simp [Layout.isMistakable, Layout.isDirective, Layout.isRoot, Layout.lone, Layout.endsFirst,
    Statement.lone, Statement.isMistakable]

/-- No keyword of a directive begins a root keyword. -/
theorem not_isRootKeyword_append {a : Text} (h : a ∈ Line.directiveKeywords) (b : Text) :
    Line.isRootKeyword (a ++ b) = false := by
  by_contra hroot
  have hmem : a.map Char.toLower ++ b.map Char.toLower ∈ Line.rootKeywords := by
    simpa [Line.isRootKeyword] using hroot
  have hnone : ∀ k ∈ Line.directiveKeywords, ∀ w ∈ Line.rootKeywords,
      ¬ k.map Char.toLower <+: w := by decide
  exact hnone a h _ hmem (List.prefix_append _ _)

end Flowchart
