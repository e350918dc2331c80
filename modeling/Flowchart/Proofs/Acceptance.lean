import Flowchart.Proofs.Idempotence
import Flowchart.Proofs.StrictLines

/-!
# Repaired texts before the strict check

Whatever the text, repair writes a root line and chains of canonical nodes and arrows, so only
labels and shapes can fail the check. A label between pipes may be blank or illegal, the label of a
node may have a slash at its end, and a label in slashes may be read as another shape. The text of
a clean chart passes, and so does any text that was repaired twice.
-/

namespace Flowchart

/-- What repair writes passes the check exactly when its labels are strict and the shapes of each
identifier agree. -/
theorem exists_isOk_check_repair_iff (x : Text) :
    ∃ d, ∃ ps : List Layout, (∀ p ∈ ps, p.IsRaw) ∧
      repair x = Text.joinLines (Chart.rootLine d :: ps.map Layout.text) ∧
        ((check (repair x)).isOk = true ↔
          (∀ p ∈ ps, p.IsStrict) ∧ Node.Agree (ps.flatMap Layout.nodes)) := by
  obtain ⟨d, ps, hps, hx⟩ := exists_repair_eq x
  refine ⟨d, ps, fun p hp => (hps p hp).1, hx, ?_⟩
  rw [hx]
  exact isOk_check_joinLines_iff d hps

/-- The empty label between pipes hides the label of `x` from the rule that cleans labels, and its
slashes are still there when the check reads it. -/
theorem isOk_check_repair_ne :
    (check (repair "A[[foo] --> x||(/bar/)]".toList)).isOk ≠ true := by
  decide +kernel

/-! ## Clean charts -/

theorem Label.IsClean.isStrict {l : Text} (hl : Label.IsClean l) : Label.IsStrict l := by
  refine ⟨?_, hl.isLegal⟩
  rw [Text.trim_eq_self hl.isTrimmed]
  exact hl.1

namespace Layout

theorem isRaw_ofStatement {s : Statement} (hs : s.IsClean) : (ofStatement s).IsRaw where
  lead := .nil
  first := hs.1.isStrict.isRawNode
  links := by
    intro l hl
    obtain ⟨m, hm, rfl⟩ := List.mem_map.1 hl
    have hlink := hs.2 m hm
    refine ⟨⟨[' '], m.label, [' '], rfl, ?_, ?_, fun l hl => (hlink.1 l hl).isLegal.pipe⟩,
      hlink.2.isStrict.isRawNode⟩ <;> simp [Text.IsBlanks, Text.isBlank]
  trail := .nil

theorem isStrict_ofStatement {s : Statement} (hs : s.IsClean) : (ofStatement s).IsStrict := by
  refine ⟨NodeText.isStrict_ofNode hs.1.isStrict, fun l hl => ?_⟩
  obtain ⟨m, hm, rfl⟩ := List.mem_map.1 hl
  have hlink := hs.2 m hm
  refine ⟨fun t ht => ?_, NodeText.isStrict_ofNode hlink.2.isStrict⟩
  rw [ofLink, rawLabel_ofLabel] at ht
  exact (hlink.1 t ht).isStrict

theorem nodes_ofStatement {s : Statement} (hs : s.IsClean) : (ofStatement s).nodes = s.nodes := by
  rw [nodes, Statement.nodes, ofStatement]
  dsimp only
  rw [NodeText.node_ofNode hs.1, List.map_map]
  refine congrArg _ (List.map_congr_left fun l hl => ?_)
  exact NodeText.node_ofNode (hs.2 l hl).2

end Layout

namespace Chart

theorem agree_nodes {c : Chart} (hc : c.IsConsistent) : Node.Agree c.nodes := by
  intro id
  refine (List.pairwise_of_forall_mem_list fun m hm n hn => ?_).isChain
  have hid := (Node.id_of_mem_mentions hm).trans (Node.id_of_mem_mentions hn).symm
  exact .inl (hc _ (Node.mem_of_mem_mentions hm) _ (Node.mem_of_mem_mentions hn) hid m.shape rfl
    n.shape rfl)

variable {c : Chart}

/-- The lines of a clean chart, as they are read by the check and kept by repair. -/
theorem isSettledLine_ofStatement (hc : ∀ s ∈ c.statements, s.IsClean) :
    ∀ p ∈ c.statements.map Layout.ofStatement, p.IsRaw ∧ p.IsSettledLine := by
  rw [List.forall_mem_map]
  exact fun s hs =>
    ⟨Layout.isRaw_ofStatement (hc s hs), Layout.isSettledLine_ofStatement (hc s hs)⟩

variable (hc : c.IsClean)

include hc

/-- The check of a clean chart records its nodes and edges. -/
theorem check_render_eq_ok_iff {summary : Summary} : check c.render = .ok summary ↔
    Check.Records ⟨c.direction, [], []⟩ summary c.nodes
      ((c.statements.map Layout.ofStatement).flatMap Layout.edges) := by
  have hnodes : (c.statements.map Layout.ofStatement).flatMap Layout.nodes = c.nodes := by
    rw [List.flatMap_map, nodes]
    exact List.flatMap_congr fun s hs => Layout.nodes_ofStatement (hc.1 s hs)
  rw [render_eq_joinLines, check_joinLines_eq_ok_iff c.direction (isSettledLine_ofStatement hc.1),
    hnodes, and_iff_right]
  intro p hp
  obtain ⟨s, hs, rfl⟩ := List.mem_map.1 hp
  exact Layout.isStrict_ofStatement (hc.1 s hs)

theorem exists_check_render : ∃ summary, check c.render = .ok summary := by
  simp only [check_render_eq_ok_iff hc]
  exact (Check.exists_records_iff _ _ _).2 (agree_nodes hc.2)

/-- The text of a clean chart passes the check. -/
theorem isOk_check_render : (check c.render).isOk = true := by
  obtain ⟨summary, h⟩ := exists_check_render hc
  rw [h]
  rfl

end Chart

/-- A text that was repaired twice passes the check. -/
theorem isOk_check_repair_repair (x : Text) : (check (repair (repair x))).isOk = true := by
  obtain ⟨c, hc, hx⟩ := exists_isClean_repair_repair x
  rw [hx]
  exact Chart.isOk_check_render hc

end Flowchart
