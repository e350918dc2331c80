import Flowchart.Proofs.OutputLines

/-!
# Repairing what was repaired

A second run makes a clean chart of what the first one wrote. It loses the statements whose lines
are taken for directives, and those from the first line on that is taken for a root declaration. A
third run settles that for good.
-/

namespace Flowchart

namespace Chart

/-- The statements up to the first line taken for a root declaration, without those taken for
directives. -/
def heard (c : Chart) : List Statement :=
  (c.statements.takeWhile fun s => !(Layout.ofStatement s).isRoot).filter (!·.isMistakable)

theorem heard_sublist (c : Chart) : c.heard.Sublist c.statements :=
  List.filter_sublist.trans (List.takeWhile_sublist _)

theorem not_isMistakable_of_mem_heard {c : Chart} {s : Statement} (h : s ∈ c.heard) :
    s.isMistakable = false := by
  simpa using (List.mem_filter.1 h).2

theorem kept_ofStatement {s : Statement} (hs : s.IsClean) :
    (Layout.ofStatement s).kept = if !s.isMistakable then some s else none := by
  rw [Layout.kept, Layout.isMistakable_ofStatement, Layout.statement_ofStatement hs, Bool.or_self]
  cases s.isMistakable <;> rfl

theorem filterMap_kept {ss : List Statement} (hss : ∀ s ∈ ss, s.IsClean) :
    (ss.map Layout.ofStatement).filterMap Layout.kept = ss.filter (!·.isMistakable) := by
  induction ss with
  | nil => rfl
  | cons s ss ih =>
      rw [List.map_cons, List.filterMap_cons, kept_ofStatement (hss s (by simp)),
        ih fun t ht => hss t (by simp [ht]), List.filter_cons]
      cases s.isMistakable <;> rfl

theorem isConsistent_of_sublist {c : Chart} (hc : c.IsConsistent) {ss : List Statement}
    (hss : ss.Sublist c.statements) : (⟨c.direction, ss⟩ : Chart).IsConsistent := by
  have hnodes : (⟨c.direction, ss⟩ : Chart).nodes ⊆ c.nodes := by
    intro n hn
    obtain ⟨s, hs, hn⟩ := List.mem_flatMap.1 hn
    exact List.mem_flatMap.2 ⟨s, hss.subset hs, hn⟩
  exact fun m hm n hn => hc m (hnodes hm) n (hnodes hn)

theorem isClean_heard {c : Chart} (hc : c.IsClean) : (⟨c.direction, c.heard⟩ : Chart).IsClean :=
  ⟨fun s hs => hc.1 s (c.heard_sublist.subset hs), isConsistent_of_sublist hc.2 c.heard_sublist⟩

/-- One run on the canonical text of a clean chart. -/
theorem repair_render_of_isClean {c : Chart} (hc : c.IsClean) :
    repair c.render = render ⟨c.direction, c.heard⟩ := by
  have hheard : ((c.statements.map Layout.ofStatement).takeWhile (!·.isRoot)).filterMap Layout.kept
      = c.heard := by
    rw [List.takeWhile_map, filterMap_kept]
    · rfl
    · exact fun s hs => hc.1 s ((List.takeWhile_prefix _).subset hs)
  have hsettled := settleAll_statements (isClean_heard hc).2
  rw [repair_render c hc.1, hheard, hsettled]

theorem heard_eq_self {c : Chart} (hm : ∀ s ∈ c.statements, s.isMistakable = false) :
    c.heard = c.statements := by
  have htake : c.statements.takeWhile (fun s => !(Layout.ofStatement s).isRoot)
      = c.statements := by
    refine List.takeWhile_eq_self_iff.2 fun s hs => ?_
    have := (Layout.isMistakable_ofStatement s).trans (hm s hs)
    rw [Layout.isMistakable, Bool.or_eq_false_iff] at this
    simp [this.2]
  rw [heard, htake, List.filter_eq_self]
  intro s hs
  simp [hm s hs]

theorem lines_render {c : Chart} (hc : ∀ s ∈ c.statements, s.IsClean) :
    Text.lines c.render = rootLine c.direction :: c.statements.map Statement.render := by
  rw [render_eq_joinLines, Layout.lines_joinLines, List.map_map]
  · exact congrArg _ (List.map_congr_left fun s _ => Layout.text_ofStatement s)
  · rw [List.forall_mem_map]
    exact fun s hs => Layout.isSettledLine_ofStatement (hc s hs)

theorem not_isMistakable_of_repair_eq {c : Chart} (hc : c.IsClean)
    (h : repair c.render = c.render) : ∀ s ∈ c.statements, s.isMistakable = false := by
  rw [repair_render_of_isClean hc] at h
  have hlength := congrArg (List.length ∘ Text.lines) h
  simp only [Function.comp_apply] at hlength
  rw [lines_render hc.1, lines_render (isClean_heard hc).1] at hlength
  have hself : c.heard = c.statements :=
    c.heard_sublist.eq_of_length (by simpa using hlength)
  intro s hs
  exact not_isMistakable_of_mem_heard (hself ▸ hs)

end Chart

theorem exists_isClean_repair_repair (x : Text) :
    ∃ c : Chart, c.IsClean ∧ repair (repair x) = c.render := by
  obtain ⟨d, ps, hps, hx⟩ := exists_repair_eq x
  have hkept := Layout.isClean_of_mem_kept fun p hp => (hps p hp).2.toIsReady
  refine ⟨_, Chart.isClean_settleAll d hkept, ?_⟩
  rw [hx]
  exact repair_joinLines d fun p hp => (hps p hp).2

/-- The texts that repair leaves alone are the texts of the clean charts in which no line is taken
for a directive or a root declaration. -/
theorem repair_eq_self_iff (y : Text) : repair y = y ↔
    ∃ c : Chart, c.IsClean ∧ (∀ s ∈ c.statements, s.isMistakable = false) ∧ y = c.render := by
  constructor
  · intro h
    obtain ⟨c, hc, hy⟩ := exists_isClean_repair_repair y
    rw [h, h] at hy
    exact ⟨c, hc, Chart.not_isMistakable_of_repair_eq hc (by rw [← hy, h]), hy⟩
  · rintro ⟨c, hc, hm, rfl⟩
    rw [Chart.repair_render_of_isClean hc, Chart.heard_eq_self hm]

/-- A second run changes nothing exactly when the first one wrote a clean chart in which no line is
taken for a directive or a root declaration. -/
theorem repair_repair_eq_iff (x : Text) : repair (repair x) = repair x ↔
    ∃ c : Chart, c.IsClean ∧ (∀ s ∈ c.statements, s.isMistakable = false) ∧
      repair x = c.render :=
  repair_eq_self_iff (repair x)

/-- A bare node that is joined to another one stands on a line of its own, and there it may be a
keyword. -/
theorem repair_repair_ne : repair (repair "A & style".toList) ≠ repair "A & style".toList := by
  decide +kernel

/-- No text is changed by a fourth run. -/
theorem repair_repair_repair_repair (x : Text) :
    repair (repair (repair (repair x))) = repair (repair (repair x)) := by
  obtain ⟨c, hc, hx⟩ := exists_isClean_repair_repair x
  have hself := Chart.heard_eq_self (c := ⟨c.direction, c.heard⟩)
    fun _ hs => Chart.not_isMistakable_of_mem_heard hs
  rw [hx, Chart.repair_render_of_isClean hc,
    Chart.repair_render_of_isClean (Chart.isClean_heard hc), hself]

end Flowchart
