import Flowchart.Conversion
import Flowchart.Proofs.Idempotence

/-!
# Charts in fenced replies

A reply may wrap a chart in a fenced block. Prose in front of the fence holds no backtick, so the
first fence is found, and no clean chart holds one, so the block ends right behind the chart. The
chart begins with its root line, and nothing of it is dropped.
-/

namespace Flowchart

/-! ## Trimming a text around its middle -/

namespace Text

/-- A middle that is not blank at its ends keeps what is trimmed on either side apart. -/
theorem trim_around {s : Text} (hne : s ≠ []) (hs : IsTrimmed s) (before behind : Text) :
    trim (before ++ (s ++ behind)) =
      before.dropWhile isBlank ++ (s ++ trimEndBy isBlank behind) := by
  have hmiddle : (s ++ behind).dropWhile isBlank = s ++ behind := by
    refine dropWhile_eq_self_of_head fun c hc => hs.head c ?_
    obtain ⟨d, s, rfl⟩ := List.exists_cons_of_ne_nil hne
    exact hc
  have hfront : (before ++ (s ++ behind)).dropWhile isBlank
      = before.dropWhile isBlank ++ (s ++ behind) := by
    rw [List.dropWhile_append, hmiddle]
    split
    · rename_i h
      rw [List.isEmpty_iff.1 h, List.nil_append]
    · rfl
  have hlast : ∀ c ∈ (before.dropWhile isBlank ++ s).getLast?, isBlank c = false := by
    rw [List.getLast?_append_of_ne_nil _ hne]
    exact hs.getLast
  rw [trim, trimBy, hfront, ← List.append_assoc, trimEndBy_append_right hlast, List.append_assoc]

theorem trim_append_blanks {s b : Text} (hne : s ≠ []) (hs : IsTrimmed s) (hb : IsBlanks b) :
    trim (s ++ b) = s := by
  simpa using trim_append_append .nil hb hne hs

theorem joinWith_ne_nil {sep : Char} {w : Text} (hw : w ≠ []) (ws : List Text) :
    joinWith sep (w :: ws) ≠ [] := by
  cases ws <;> simp [joinWith, hw]

theorem isTrimmed_joinWith {sep : Char} {ws : List Text} (h : ∀ w ∈ ws, w ≠ [] ∧ IsTrimmed w) :
    IsTrimmed (joinWith sep ws) := by
  induction ws with
  | nil => exact ⟨nofun, nofun⟩
  | cons w ws ih =>
      obtain ⟨hne, hw⟩ := h w (by simp)
      have hrest := ih fun v hv => h v (by simp [hv])
      cases ws with
      | nil => exact hw
      | cons v ws =>
          have hbehind : joinWith sep (v :: ws) ≠ [] := joinWith_ne_nil (h v (by simp)).1 ws
          rw [joinWith_cons (by simp)]
          constructor
          · obtain ⟨c, w, rfl⟩ := List.exists_cons_of_ne_nil hne
            exact hw.head
          · rw [List.getLast?_append_of_ne_nil _ (by simp), List.getLast?_cons_of_ne_nil hbehind]
            exact hrest.getLast

end Text

/-! ## Texts of charts -/

namespace Chart

theorem isUnquoted_render {c : Chart} (hc : ∀ s ∈ c.statements, s.IsClean) :
    Text.IsUnquoted c.render := by
  refine all_joinWith (by decide) fun line hline => ?_
  rcases List.mem_cons.1 hline with rfl | hline
  · exact Text.isUnquoted_rootLine c.direction
  · obtain ⟨s, hs, rfl⟩ := List.mem_map.1 hline
    exact (hc s hs).isUnquoted

/-- The text begins with the root line, and a line feed ends that if a statement follows. -/
theorem exists_render_eq (c : Chart) :
    ∃ behind : Text, c.render = rootLine c.direction ++ behind ∧ ∀ d ∈ behind.head?, d = '\n' := by
  obtain ⟨d, statements⟩ := c
  cases statements with
  | nil => exact ⟨[], (List.append_nil _).symm, by simp⟩
  | cons s statements => exact ⟨_, Text.joinWith_cons (by simp), by simp⟩

theorem isTrimmed_rootLine (d : Direction) : Text.IsTrimmed (Chart.rootLine d) := by
  cases d <;>
    · constructor <;>
        · rintro c ⟨⟩
          rfl

theorem isTrimmed_render {c : Chart} (hc : ∀ s ∈ c.statements, s.IsClean) :
    Text.IsTrimmed c.render := by
  refine Text.isTrimmed_joinWith fun line hline => ?_
  rcases List.mem_cons.1 hline with rfl | hline
  · exact ⟨by cases c.direction <;> decide, isTrimmed_rootLine c.direction⟩
  · obtain ⟨s, hs, rfl⟩ := List.mem_map.1 hline
    have hwell := Layout.isWell_ofStatement (hc s hs)
    have hcore : (Layout.ofStatement s).core = s.render := by
      have := Layout.text_eq_core (Layout.ofStatement s)
      rw [Layout.text_ofStatement] at this
      simpa [Layout.ofStatement] using this.symm
    rw [← hcore]
    exact ⟨Layout.core_ne_nil hwell, Layout.isTrimmed_core hwell⟩

end Chart

namespace Extract

theorem cut?_fence {before : Text} (h : '\x60' ∉ before) (behind : Text) :
    Text.cut? fence (before ++ (fence ++ behind)) = some (before, behind) := by
  induction before with
  | nil => simp [fence, Text.cut?, Text.after?]
  | cons c before ih =>
      rw [List.mem_cons, not_or] at h
      have hnone : Text.after? fence (c :: (before ++ (fence ++ behind))) = none := by
        simp [fence, Text.after?, h.1]
      rw [List.cons_append, Text.cut?, hnone, ih h.2]
      rfl

theorem dropTag_append {tag : Text} (htag : ∀ c ∈ tag, isTagChar c = true) (s : Text) :
    dropTag (tag ++ '\n' :: s) = s := by
  have hstop : ('\n' :: s).dropWhile isTagChar = '\n' :: s := rfl
  rw [dropTag, List.dropWhile_append_of_pos htag, hstop]
  rfl

theorem continuesRoot_code (d : Direction) {behind : Text} (h : ∀ c ∈ behind.head?, c = '\n') :
    continuesRoot (' ' :: d.code ++ behind) = true := by
  have hword : behind.head?.any Text.isWordChar = false := by
    cases behind with
    | nil => rfl
    | cons c behind =>
        rw [h c rfl]
        rfl
  cases d <;>
    simp [continuesRoot, Direction.code, isPadding, Direction.ofText?, Direction.ofCode?, hword]

theorem afterWord?_append {word : Text} (h : word.map Char.toLower = word) (s : Text) :
    afterWord? word (word ++ s) = some s := by
  simp [afterWord?, h]

theorem beginsRoot_rootLine (d : Direction) {behind : Text} (h : ∀ c ∈ behind.head?, c = '\n') :
    beginsRoot (Chart.rootLine d ++ behind) = true := by
  have hlower : Chart.rootKeyword.map Char.toLower = Chart.rootKeyword := by decide
  have hline : Chart.rootLine d ++ behind = Chart.rootKeyword ++ (' ' :: d.code ++ behind) := by
    simp [Chart.rootLine]
  have hword : (afterWord? Chart.rootKeyword (Chart.rootLine d ++ behind)).any continuesRoot
      = true := by
    rw [hline, afterWord?_append hlower]
    exact continuesRoot_code d h
  unfold beginsRoot
  exact Bool.or_eq_true_iff.2 (.inl hword)

theorem fromRoot?_render (c : Chart) : fromRoot? false c.render = some c.render := by
  obtain ⟨behind, hrender, hbehind⟩ := c.exists_render_eq
  have hbegins := beginsRoot_rootLine c.direction hbehind
  rw [← hrender] at hbegins
  have hne : c.render ≠ [] := by simp [hrender, Chart.rootLine]
  obtain ⟨d, s, hcons⟩ := List.exists_cons_of_ne_nil hne
  rw [hcons] at hbegins ⊢
  rw [fromRoot?, hbegins]
  rfl

/-- A block behind a fence and a tag, with another fence right behind it. -/
def fenced (tag block : Text) : Text := fence ++ tag ++ '\n' :: block ++ fence

theorem isTrimmed_fenced (tag block : Text) : Text.IsTrimmed (fenced tag block) := by
  refine ⟨fun c hc => ?_, fun c hc => ?_⟩
  · cases hc
    decide
  · rw [fenced, List.getLast?_append_of_ne_nil _ (by decide)] at hc
    cases hc
    decide

/-- The first block of a reply ends at the first fence in it, whatever follows. -/
theorem candidate_fenced {prose tag block : Text} (hprose : '\x60' ∉ prose)
    (htag : ∀ c ∈ tag, isTagChar c = true) (hblock : '\x60' ∉ block) (suffix : Text) :
    candidate (prose ++ fenced tag block ++ suffix) = Text.trim block := by
  have hbefore : '\x60' ∉ prose.dropWhile Text.isBlank :=
    fun h => hprose ((List.dropWhile_suffix _).subset h)
  have hcut : Text.cut? fence (Text.trim (prose ++ fenced tag block ++ suffix)) =
      some (prose.dropWhile Text.isBlank,
        tag ++ '\n' :: (block ++ (fence ++ Text.trimEndBy Text.isBlank suffix))) := by
    rw [List.append_assoc, Text.trim_around (by simp [fenced, fence]) (isTrimmed_fenced tag block),
      ← cut?_fence hbefore]
    simp only [fenced, List.append_assoc, List.cons_append]
  have hend := cut?_fence hblock (Text.trimEndBy Text.isBlank suffix)
  simp only [candidate, hcut, dropTag_append htag, hend]

end Extract

/-! ## Conversions -/

namespace Chart

/-- A chart is found again in the reply that wraps it. -/
theorem extract_fenced {c : Chart} (hc : ∀ s ∈ c.statements, s.IsClean) {prose tag : Text}
    (hprose : '\x60' ∉ prose) (htag : ∀ t ∈ tag, Extract.isTagChar t = true) (suffix : Text) :
    extract (prose ++ Extract.fenced tag (c.render ++ ['\n']) ++ suffix) = c.render := by
  have hne : c.render ≠ [] := Text.joinWith_ne_nil (by simp [rootLine]) _
  have hblock : '\x60' ∉ c.render ++ ['\n'] := by
    intro h
    rcases List.mem_append.1 h with h | h
    · exact absurd (isUnquoted_render hc _ h) (by decide)
    · exact absurd h (by decide)
  have hcandidate := Extract.candidate_fenced hprose htag hblock suffix
  rw [Text.trim_append_blanks hne (isTrimmed_render hc) (by simp [Text.IsBlanks, Text.isBlank])]
    at hcandidate
  rw [extract, hcandidate, Extract.fromRoot?_render, Option.getD_some,
    Text.trim_eq_self (isTrimmed_render hc)]

theorem text_ofText_render {c : Chart} (hc : c.IsClean)
    (hm : ∀ s ∈ c.statements, s.isMistakable = false) :
    (Diagram.ofText c.render).text = c.render := by
  simp only [Diagram.ofText]
  exact (repair_eq_self_iff _).2 ⟨c, hc, hm, rfl⟩

/-- A reply that wraps a clean chart is converted to that chart, character for character, unless one
of its lines is taken for a directive or a root declaration. The prose around the block may hold
root declarations and statements, and other blocks may follow. -/
theorem convert_fenced {c : Chart} (hc : c.IsClean) (hne : c.statements ≠ [])
    (hm : ∀ s ∈ c.statements, s.isMistakable = false) {prose tag suffix raw : Text}
    (hprose : '\x60' ∉ prose) (htag : ∀ t ∈ tag, Extract.isTagChar t = true)
    (hraw : raw = prose ++ Extract.fenced tag (c.render ++ ['\n']) ++ suffix) {client : Client}
    (hreply : client.next = .ok raw) (d : Description) :
    extract raw = c.render ∧
      (client.convert d).1.diagram.text = c.render ∧
      (client.convert d).1.fullResponse = some raw ∧
      (client.convert d).1.fallback = none := by
  have hextract : extract raw = c.render := by
    rw [hraw]
    exact extract_fenced hc.1 hprose htag suffix
  have htext := text_ofText_render hc hm
  have hstatements : (Diagram.ofText c.render).statements.isEmpty = false := by
    rw [Diagram.statements, htext, lines_render hc.1]
    simpa using hne
  have hgenerate (prompt : Text) : (client.generate prompt).1 = client.next := by
    unfold Client.generate
    cases client.later <;> rfl
  have hconvert : (client.convert d).1 = ⟨Diagram.ofText c.render, some raw, none⟩ := by
    rw [Client.convert, hgenerate, hreply, Conversion.ofReply, hextract, hstatements]
    rfl
  rw [hconvert]
  exact ⟨hextract, htext, rfl, rfl⟩

/-- Prose with a root declaration and a statement, and a second block behind the first. -/
theorem convert_fenced_decoys :
    let c : Chart := ⟨.leftRight,
      [⟨.shaped ⟨"A".toList, .terminal, "graph TD --> on".toList⟩,
        [⟨some "a b".toList, .bare "style".toList⟩]⟩]⟩
    let prose : Text := "As graph TD:\nX --> Y\n".toList
    let suffix : Text := "\x60 or\n\x60\x60\x60\nflowchart RL\nY --> X\n\x60\x60\x60\n".toList
    let raw := prose ++ Extract.fenced "mermaid".toList (c.render ++ ['\n']) ++ suffix
    let client := Client.ofReplies (.ok raw) []
    let d : Description := ⟨"sort".toList, by decide⟩
    extract raw = c.render ∧ (client.convert d).1.diagram.text = c.render ∧
      (client.convert d).1.fullResponse = some raw ∧ (client.convert d).1.fallback = none := by
  intro c prose suffix raw client d
  have hc : c.IsClean := by decide +kernel
  have hne : c.statements ≠ [] := List.cons_ne_nil _ _
  have hm : ∀ s ∈ c.statements, s.isMistakable = false := by decide +kernel
  have hprose : '\x60' ∉ prose := by decide +kernel
  have htag : ∀ t ∈ "mermaid".toList, Extract.isTagChar t = true :=
    List.all_eq_true.1 (by decide +kernel)
  have hreply : client.next = .ok raw := rfl
  exact convert_fenced hc hne hm hprose htag rfl hreply d

end Chart

end Flowchart
