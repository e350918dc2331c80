import Flowchart.Proofs.Calls

/-!
# Stored texts

The state of a session tells what the gate says of its text: a text that is being converted or was
converted is accepted, and a text that was turned down would be turned down again, for the same
reason. This holds however the tasks of a controller overlap.
-/

namespace Flowchart

/-- Why the gate turns down the text of a session in this state, if it does. -/
def SessionState.refusal? : SessionState → Option FailureReason
  | idle => some .emptyInput
  | loading => none
  | ready _ => none
  | failed .emptyInput => some .emptyInput
  | failed .notAnAlgorithm => some .notAnAlgorithm
  | failed (.renderFailed _) => none

namespace Transition

/-- A submission is rejected with its own text, and in a state that tells why. -/
theorem eq_of_submit_eq_reject {classifier : Classifier} {text text' : Text}
    {reason : FailureReason} (h : submit classifier text = .reject text' reason) :
    text' = text ∧ (SessionState.failed reason).refusal? = some reason := by
  unfold submit at h
  cases htext : Description.ofText? text with
  | none =>
      rw [htext] at h
      cases h
      exact ⟨rfl, rfl⟩
  | some d =>
      rw [htext] at h
      dsimp only at h
      split at h
      · cases h
      · cases h
        exact ⟨rfl, rfl⟩

/-- A transition that takes a text does so on the word of the gate. -/
def IsGated (classifier : Classifier) : Transition → Prop
  | begin d => submit classifier d.text = .begin d
  | reject text reason => submit classifier text = .reject text reason
  | resolve _ _ => True
  | renderFailed _ => True
  | clear => True

theorem isGated_submit (classifier : Classifier) (text : Text) :
    (submit classifier text).IsGated classifier := by
  cases h : submit classifier text with
  | begin d =>
      rw [IsGated, text_of_submit h]
      exact h
  | reject text' reason => exact (eq_of_submit_eq_reject h).1 ▸ h
  | resolve => trivial
  | renderFailed => trivial
  | clear => trivial

end Transition

namespace Session

/-- The gate says of the text what the state tells. -/
structure IsJudged (classifier : Classifier) (s : Session) : Prop where
  accepted : s.state.refusal? = none → ∃ d, Transition.submit classifier s.text = .begin d
  refused : ∀ reason, s.state.refusal? = some reason →
    Transition.submit classifier s.text = .reject s.text reason

theorem IsJudged.refusal?_eq_none {classifier : Classifier} {s : Session}
    (hs : s.IsJudged classifier) {d : Description}
    (hd : Transition.submit classifier s.text = .begin d) : s.state.refusal? = none := by
  cases hrefusal : s.state.refusal? with
  | none => rfl
  | some reason => cases hd.symm.trans (hs.refused reason hrefusal)

theorem IsJudged.refusal?_eq_some {classifier : Classifier} {s : Session}
    (hs : s.IsJudged classifier) {reason : FailureReason}
    (hreason : Transition.submit classifier s.text = .reject s.text reason) :
    s.state.refusal? = some reason := by
  cases hrefusal : s.state.refusal? with
  | none =>
      obtain ⟨d, hd⟩ := hs.accepted hrefusal
      cases hd.symm.trans hreason
  | some reason' =>
      cases hreason.symm.trans (hs.refused reason' hrefusal)
      rfl

theorem refusal?_eq_none_of_phase {s : Session} (h : s.phase = .loading ∨ s.phase = .ready) :
    s.state.refusal? = none := by
  obtain ⟨state, text, generation, fullResponse, fallback⟩ := s
  cases state with
  | loading => rfl
  | ready d => rfl
  | idle => rcases h with h | h <;> cases h
  | failed reason => rcases h with h | h <;> cases h

theorem isJudged_initial (classifier : Classifier) : initial.IsJudged classifier :=
  ⟨nofun, fun _ h => by cases h; rfl⟩

theorem Applies.isJudged {classifier : Classifier} {s s' : Session} {t : Transition}
    (hs : s.IsJudged classifier) (h : Applies s t s') (ht : t.IsGated classifier) :
    s'.IsJudged classifier := by
  cases h with
  | begin d => exact ⟨fun _ => ⟨d, ht⟩, nofun⟩
  | reject text reason =>
      have hrefusal := (Transition.eq_of_submit_eq_reject ht).2
      refine ⟨fun h => ?_, fun reason' h => ?_⟩
      · cases hrefusal.symm.trans h
      · cases hrefusal.symm.trans h
        exact ht
  | resolve c hphase =>
    exact ⟨fun _ => hs.accepted (refusal?_eq_none_of_phase (.inl hphase)), nofun⟩
  | renderFailed message hphase =>
      exact ⟨fun _ => hs.accepted (refusal?_eq_none_of_phase (.inr hphase)), nofun⟩
  | clear => exact ⟨nofun, fun _ h => by cases h; rfl⟩

theorem IsJudged.advance {classifier : Classifier} {s : Session} {t : Transition}
    (hs : s.IsJudged classifier) (ht : t.IsGated classifier) :
    (s.advance t).IsJudged classifier := by
  cases h : s.apply t with
  | ok s' =>
      rw [advance_of_ok h]
      exact (apply_eq_ok_iff.1 h).isJudged hs ht
  | error e =>
      rw [advance_of_error h]
      exact hs

end Session

namespace Tasks

/-- Sections offer texts to the gate, and no other transitions with a text. -/
theorem Event.isGated_of_transition? {t : Tasks} {e : Event} {tr : Transition}
    (h : e.transition? t = some tr) : tr.IsGated t.controller.classifier := by
  cases e with
  | submit text =>
      cases h
      exact Transition.isGated_submit _ text
  | resubmit task =>
      dsimp only [transition?] at h
      split at h
      · cases h
        exact Transition.isGated_submit _ _
      · cases h
  | answer task reply =>
      dsimp only [transition?] at h
      split at h
      · cases h
        trivial
      · cases h
  | regenerate =>
      cases h
      trivial
  | clear =>
      cases h
      trivial
  | reportRenderError message =>
      cases h
      trivial

theorem Step.isJudged {t t' : Tasks} {e : Event}
    (ht : t.controller.session.IsJudged t.controller.classifier) (h : Step t e t') :
    t'.controller.session.IsJudged t'.controller.classifier := by
  obtain ⟨tr, htr, hcontroller⟩ := h.offers
  rw [h.classifier_eq, hcontroller, Controller.session_offer]
  exact ht.advance (Event.isGated_of_transition? htr)

theorem Run.isJudged {t t' : Tasks} {es : List Event}
    (ht : t.controller.session.IsJudged t.controller.classifier) (h : Run t es t') :
    t'.controller.session.IsJudged t'.controller.classifier := by
  induction h with
  | nil => exact ht
  | snoc _ he ih => exact he.isJudged ih

end Tasks

end Flowchart
