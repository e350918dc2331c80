import Flowchart.Proofs.Histories

/-!
# The fields of a session

The fields of a session go with its state. An idle session has no text, one that is loading or shows
a diagram has a text that is not blank, and only the latter has a response. So a snapshot never
shows a diagram with an error, or with what is left of another text.
-/

namespace Flowchart

theorem repair_ne_nil (x : Text) : repair x ≠ [] := by
  have hroot (d : Direction) (ls : List Text) : Text.joinLines (Chart.rootLine d :: ls) ≠ [] := by
    cases ls <;> exact List.cons_ne_nil _ _
  rw [repair_eq]
  exact hroot _ _

theorem Diagram.text_ne_nil (d : Diagram) : d.text ≠ [] := by
  obtain ⟨source, hsource⟩ := d.repaired
  exact hsource ▸ repair_ne_nil source

namespace Session

/-! ## Snapshots -/

theorem isSome_error_snapshot_iff (s : Session) :
    s.snapshot.error.isSome = true ↔ s.snapshot.phase = .failed := by
  obtain ⟨state, text, generation, fullResponse, fallback⟩ := s
  cases state <;> simp [snapshot, error?, phase, SessionState.phase]

theorem diagram_snapshot_ne_nil_iff (s : Session) :
    s.snapshot.diagram ≠ [] ↔ s.snapshot.phase = .ready := by
  obtain ⟨state, text, generation, fullResponse, fallback⟩ := s
  cases state with
  | ready d => exact iff_of_true d.text_ne_nil rfl
  | _ => exact iff_of_false (not_not.2 rfl) nofun

/-! ## What each transition leaves behind -/

/-- The fields have what the state allows them. -/
structure IsTidy (s : Session) : Prop where
  idle : s.phase = .idle → s.text = []
  loading : s.phase = .loading → Text.trim s.text ≠ []
  ready : s.phase = .ready → Text.trim s.text ≠ []
  response : s.phase ≠ .ready → s.fullResponse = none ∧ s.fallback = none

theorem isTidy_initial : initial.IsTidy where
  idle _ := rfl
  loading := nofun
  ready := nofun
  response _ := ⟨rfl, rfl⟩

/-- Every transition that is applied resets the fields that it has to. -/
theorem Applies.isTidy {s s' : Session} {t : Transition} (hs : s.IsTidy) (h : Applies s t s') :
    s'.IsTidy := by
  cases h with
  | begin d => exact ⟨nofun, fun _ => d.notBlank, nofun, fun _ => ⟨rfl, rfl⟩⟩
  | reject text reason => exact ⟨nofun, nofun, nofun, fun _ => ⟨rfl, rfl⟩⟩
  | resolve c hphase => exact ⟨nofun, nofun, fun _ => hs.loading hphase, fun h => absurd rfl h⟩
  | renderFailed message hphase => exact ⟨nofun, nofun, nofun, fun _ => ⟨rfl, rfl⟩⟩
  | clear => exact ⟨fun _ => rfl, nofun, nofun, fun _ => ⟨rfl, rfl⟩⟩

/-! ## Histories -/

theorem isTidy_run (ts : List Transition) : (initial.run ts).IsTidy :=
  applied_induction (P := fun _ s => s.IsTidy) isTidy_initial (fun _ _ _ _ hs h => h.isTidy hs) ts

/-- The generation counts the transitions that were applied and renewed the session. -/
theorem generation_run_applied (ts : List Transition) :
    (initial.run ts).generation = (initial.applied ts).countP Transition.renews := by
  rw [← (isRecorded_applied ts).run_eq, generation_run]
  exact Nat.zero_add _

/-- What holds of the fields of a session, and of its snapshot, after a history. -/
structure IsCoherent (ts : List Transition) : Prop where
  generation_eq : (initial.run ts).generation = (initial.applied ts).countP Transition.renews
  /-- The counter of generations does not pass the length of the history. -/
  generation_le : (initial.run ts).generation ≤ ts.length
  tidy : (initial.run ts).IsTidy
  error_iff : (initial.run ts).snapshot.error.isSome = true ↔ (initial.run ts).phase = .failed
  diagram_iff : (initial.run ts).snapshot.diagram ≠ [] ↔ (initial.run ts).phase = .ready
  /-- A diagram is shown without an error. -/
  apart : (initial.run ts).snapshot.diagram ≠ [] → (initial.run ts).snapshot.error = none
  /-- A diagram is shown with the text that was begun last, and with its own response. -/
  own : (initial.run ts).snapshot.diagram ≠ [] → ∃ d c, EndsDelivered (initial.applied ts) d c ∧
    (initial.run ts).snapshot = ⟨.ready, d.text, c.diagram.text, none, c.fullResponse, c.fallback,
      (initial.run ts).generation⟩
  /-- Clearing resets every field at once. -/
  cleared : initial.run (ts ++ [.clear]) =
    { initial with generation := (initial.run ts).generation + 1 }

theorem isCoherent (ts : List Transition) : IsCoherent ts := by
  have hdiagram := (initial.run ts).diagram_snapshot_ne_nil_iff
  have hrecorded := isRecorded_applied ts
  constructor
  case generation_eq => exact generation_run_applied ts
  case generation_le =>
    rw [generation_run, initial, Nat.zero_add]
    exact List.countP_le_length
  case tidy => exact isTidy_run ts
  case error_iff => exact (initial.run ts).isSome_error_snapshot_iff
  case diagram_iff => exact hdiagram
  case apart =>
    intro hshown
    rw [← Option.not_isSome_iff_eq_none, isSome_error_snapshot_iff, hdiagram.1 hshown]
    decide
  case own =>
    intro hshown
    obtain ⟨d, c, hends⟩ := hrecorded.ready (hdiagram.1 hshown)
    have heq := hrecorded.eq_of_endsDelivered hends
    refine ⟨d, c, hends, ?_⟩
    generalize initial.run ts = s at heq ⊢
    rw [heq]
    rfl
  case cleared =>
    rw [run_concat]
    rfl

end Session

end Flowchart
