import Flowchart.Proofs.Broadcasts

/-!
# Overlapping regenerations

A regeneration withdraws the text of the session in one section and submits it again in another. A
regeneration that begins between the two finds the session cleared and withdraws an empty text. The
text of the session is kept exactly when the regeneration that submits last has withdrawn it, which
is so where none begins between the two sections of another. Otherwise it is lost.
-/

namespace Flowchart

theorem Transition.text_of_submit {classifier : Classifier} {text : Text} {d : Description}
    (h : submit classifier text = .begin d) : d.text = text := by
  unfold submit at h
  cases htext : Description.ofText? text with
  | none =>
      rw [htext] at h
      cases h
  | some d' =>
      rw [htext] at h
      dsimp only at h
      split at h
      · cases h
        exact Description.text_of_ofText? htext
      · cases h

theorem Session.text_advance_submit (s : Session) (classifier : Classifier) (text : Text) :
    (s.advance (.submit classifier text)).text = text := by
  rcases Transition.submit_cases classifier text with ⟨d, hd⟩ | ⟨reason, hreason⟩
  · rw [hd]
    exact Transition.text_of_submit hd
  · rw [hreason]
    rfl

theorem Session.advance_of_failed {s : Session} {t : Transition} (hphase : s.phase = .failed)
    (ht : t.renews = false) : s.advance t = s := by
  cases t with
  | resolve generation c =>
      by_cases h : generation = s.generation <;> simp [advance, apply, h, hphase]
  | renderFailed message => simp [advance, apply, hphase]
  | _ => cases ht

namespace Tasks

/-! ## Sections -/

theorem Event.renews_of_transition? {t : Tasks} {e : Event} {tr : Transition}
    (h : e.transition? t = some tr) : tr.renews = e.supersedes := by
  have hsubmit (text : Text) :
      (Transition.submit t.controller.classifier text).renews = true := by
    rcases Transition.submit_cases t.controller.classifier text with ⟨d, hd⟩ | ⟨reason, hreason⟩
    · rw [hd]
      rfl
    · rw [hreason]
      rfl
  cases e with
  | submit text =>
      cases h
      exact hsubmit text
  | resubmit task =>
      dsimp only [transition?] at h
      split at h
      · cases h
        exact hsubmit _
      · cases h
  | answer task reply =>
      dsimp only [transition?] at h
      split at h
      · cases h
        rfl
      · cases h
  | regenerate =>
      cases h
      rfl
  | clear =>
      cases h
      rfl
  | reportRenderError message =>
      cases h
      rfl

theorem Step.classifier_eq {t t' : Tasks} {e : Event} (h : Step t e t') :
    t'.controller.classifier = t.controller.classifier := by
  obtain ⟨tr, -, hcontroller⟩ := h.offers
  rw [hcontroller, Controller.classifier_offer]

theorem Run.classifier_eq {t t' : Tasks} {es : List Event} (h : Run t es t') :
    t'.controller.classifier = t.controller.classifier := by
  induction h with
  | nil => rfl
  | snoc _ he ih => exact he.classifier_eq.trans ih

theorem Step.text_eq {t t' : Tasks} {e : Event} (h : Step t e t') (he : e.supersedes = false) :
    t'.controller.session.text = t.controller.session.text := by
  obtain ⟨tr, htr, hcontroller⟩ := h.offers
  rw [hcontroller, Controller.session_offer]
  exact Session.text_advance ((Event.renews_of_transition? htr).trans he)

theorem text_resubmit {t : Tasks} {task : Nat} {text : Text}
    (h : t.running.lookup task = some (.withdrawn text)) :
    (t.resubmit task).controller.session.text = text := by
  rw [resubmit_eq h, controller_submitSection, Controller.session_offer]
  exact Session.text_advance_submit _ _ _

/-- A text that is still withdrawn was so before, or was withdrawn by the section itself. -/
theorem Step.withdrawn_of_mem {t t' : Tasks} {e : Event} (h : Step t e t') {n : Nat} {text : Text}
    (hmem : (n, .withdrawn text) ∈ t'.running) :
    ((n, .withdrawn text) ∈ t.running ∧ e ≠ .resubmit n) ∨
      e = .regenerate ∧ n = t.started ∧ text = t.controller.session.text := by
  have hsubmit {t : Tasks} {task : Nat} {submitted : Text}
      (h : (n, .withdrawn text) ∈ (t.submitSection task submitted).running) :
      (n, .withdrawn text) ∈ t.running := by
    rcases t.submitSection_cases task submitted with
      ⟨d, -, -, hrunning⟩ | ⟨reason, -, -, hrunning⟩
    · rw [hrunning] at h
      rcases List.mem_append.1 h with h | h
      · exact h
      · cases List.mem_singleton.1 h
    · exact hrunning ▸ h
  cases h with
  | submit submitted =>
      let next : Tasks := { t with started := t.started + 1 }
      have hmem : (n, TaskState.withdrawn text) ∈ next.running := hsubmit hmem
      exact .inl ⟨hmem, by simp⟩
  | regenerate =>
      rcases List.mem_append.1 hmem with hmem | hmem
      · exact .inl ⟨hmem, by simp⟩
      · cases List.mem_singleton.1 hmem
        exact .inr ⟨rfl, rfl, rfl⟩
  | @resubmit task submitted hlookup =>
      rw [resubmit_eq hlookup] at hmem
      obtain ⟨hmem, hne⟩ := List.mem_filter.1 (hsubmit hmem)
      refine .inl ⟨hmem, ?_⟩
      rintro ⟨⟩
      simp at hne
  | answer reply hlookup =>
      rw [answer_eq hlookup] at hmem
      exact .inl ⟨(List.mem_filter.1 hmem).1, by simp⟩
  | clear => exact .inl ⟨hmem, by simp⟩
  | reportRenderError hreport =>
      obtain ⟨-, -, -, hrunning, -⟩ := running_reportRenderError hreport
      exact .inl ⟨hrunning ▸ hmem, by simp⟩
  | refuseRenderError hreport => exact .inl ⟨hmem, by simp⟩

theorem Step.withdrawn_mem {t t' : Tasks} {e : Event} (ht : t.IsNumbered) (h : Step t e t')
    (he : e.supersedes = false) {n : Nat} {text : Text} (hmem : (n, .withdrawn text) ∈ t.running) :
    (n, .withdrawn text) ∈ t'.running := by
  cases h with
  | @answer task ticket reply hlookup =>
      rw [answer_eq hlookup]
      refine List.mem_filter.2 ⟨hmem, ?_⟩
      simp only [bne_iff_ne, ne_eq]
      rintro rfl
      cases ht.eq_of_mem hmem (mem_of_lookup hlookup)
  | reportRenderError hreport =>
      obtain ⟨-, -, -, hrunning, -⟩ := running_reportRenderError hreport
      exact hrunning ▸ hmem
  | refuseRenderError hreport => exact hmem
  | _ => cases he

/-! ## Regenerations that run side by side -/

/-- The sections of regenerations with numbers from `first` on, and those that may run beside
them. -/
def Event.Regenerates (first : Nat) : Event → Prop
  | submit _ => False
  | regenerate => True
  | resubmit task => first ≤ task
  | answer _ _ => True
  | clear => False
  | reportRenderError _ => True

/-- The last section that withdraws or submits a text is one that submits this text. -/
def SubmitsLast (t₀ : Tasks) (es : List Event) (t : Tasks) (text : Text) : Prop :=
  ∃ before task after t', es = before ++ .resubmit task :: after ∧
    (∀ e ∈ after, e.supersedes = false) ∧ Run t₀ before t' ∧
    t'.running.lookup task = some (.withdrawn text) ∧ Run (t'.resubmit task) after t

theorem SubmitsLast.snoc {t₀ t t' : Tasks} {es : List Event} {text : Text}
    (h : SubmitsLast t₀ es t text) {e : Event} (he : Step t e t') (hsuper : e.supersedes = false) :
    SubmitsLast t₀ (es ++ [e]) t' text := by
  obtain ⟨before, task, after, t₁, rfl, hafter, hbefore, hlookup, hrun⟩ := h
  refine ⟨before, task, after ++ [e], t₁, by simp, fun e' he' => ?_, hbefore, hlookup, hrun.snoc he⟩
  rcases List.mem_append.1 he' with he' | he'
  · exact hafter e' he'
  · exact List.mem_singleton.1 he' ▸ hsuper

section Overlapping

variable {t₀ t : Tasks} {es : List Event}

/-- Nothing has been withdrawn yet, or the last text withdrawn is still so, or it was submitted. -/
theorem Run.exists_submitsLast (ht₀ : t₀.IsValid) (h : Run t₀ es t)
    (hes : ∀ e ∈ es, e.Regenerates t₀.started) :
    (∀ e ∈ es, e.supersedes = false) ∨
      (∃ n text, t₀.started ≤ n ∧ (n, .withdrawn text) ∈ t.running) ∨
        ∃ text, SubmitsLast t₀ es t text := by
  induction h with
  | nil => exact .inl nofun
  | @snoc t t' es e h he ih =>
      have ih := ih fun e' he' => hes e' (List.mem_append_left _ he')
      have hallowed := hes e (by simp)
      have hnumbered := (h.isValid ht₀).numbered
      cases hsuper : e.supersedes with
      | false =>
          rcases ih with hquiet | ⟨n, text, hn, hmem⟩ | ⟨text, hlast⟩
          · refine .inl fun e' he' => ?_
            rcases List.mem_append.1 he' with he' | he'
            · exact hquiet e' he'
            · exact List.mem_singleton.1 he' ▸ hsuper
          · exact .inr (.inl ⟨n, text, hn, he.withdrawn_mem hnumbered hsuper hmem⟩)
          · exact .inr (.inr ⟨text, hlast.snoc he hsuper⟩)
      | true =>
          cases he with
          | regenerate =>
              have hstarted : t₀.started ≤ t.started := h.started_le
              exact .inr (.inl ⟨t.started, t.controller.session.text, hstarted,
                List.mem_append_right _ (List.mem_singleton_self _)⟩)
          | @resubmit task text hlookup =>
              exact .inr (.inr ⟨text, es, task, [], t, rfl, nofun, h, hlookup, .nil⟩)
          | submit => cases hallowed
          | clear => cases hallowed
          | answer => cases hsuper
          | reportRenderError => cases hsuper
          | refuseRenderError => cases hsuper

/-- The session has the text or none, and so have the regenerations. -/
structure IsHolding (first : Nat) (x : Text) (t : Tasks) : Prop where
  text : t.controller.session.text = x ∨ t.controller.session.text = []
  withdrawn : ∀ n y, first ≤ n → (n, .withdrawn y) ∈ t.running → y = x ∨ y = []

theorem Step.isHolding {first : Nat} {x : Text} {t' : Tasks} {e : Event}
    (ht : IsHolding first x t) (he : Step t e t') (hallowed : e.Regenerates first) :
    IsHolding first x t' := by
  constructor
  · cases he with
    | submit => cases hallowed
    | regenerate => exact .inr rfl
    | @resubmit task y hlookup =>
        rw [text_resubmit hlookup]
        exact ht.withdrawn task y hallowed (mem_of_lookup hlookup)
    | clear => cases hallowed
    | answer reply hlookup => exact (Step.answer reply hlookup).text_eq rfl ▸ ht.text
    | reportRenderError hreport => exact (Step.reportRenderError hreport).text_eq rfl ▸ ht.text
    | refuseRenderError hreport => exact ht.text
  · intro n y hn hmem
    rcases he.withdrawn_of_mem hmem with ⟨hmem, -⟩ | ⟨-, -, rfl⟩
    · exact ht.withdrawn n y hn hmem
    · exact ht.text

theorem Run.isHolding (ht₀ : t₀.IsNumbered) (h : Run t₀ es t)
    (hes : ∀ e ∈ es, e.Regenerates t₀.started) :
    IsHolding t₀.started t₀.controller.session.text t := by
  induction h with
  | nil =>
      refine ⟨.inl rfl, fun n y hn hmem => ?_⟩
      exact absurd (ht₀.lt_started _ hmem) (by omega)
  | snoc _ he ih =>
      exact he.isHolding (ih fun e' he' => hes e' (List.mem_append_left _ he')) (hes _ (by simp))

end Overlapping

/-! ## What the last submission comes to -/

/-- The text is in the session, and its conversion waits for an answer, is shown, or was reported
not to be drawn. -/
structure IsUnderway (x : Text) (f : Nat × Ticket) (after : List Event) (t : Tasks) : Prop where
  text : t.controller.session.text = x
  generation : f.2.generation = t.controller.session.generation
  state : f ∈ t.flights ∨ t.controller.session.phase = .ready ∨
    ∃ message, .reportRenderError message ∈ after ∧
      t.controller.session.state = .failed (.renderFailed message)

theorem IsUnderway.step {x : Text} {f : Nat × Ticket} {after : List Event} {t t' : Tasks}
    {e : Event} (h : IsUnderway x f after t) (ht : t.IsValid) (he : Step t e t')
    (hsuper : e.supersedes = false) : IsUnderway x f (after ++ [e]) t' := by
  have heffect := he.effect ht.numbered ht.sound
  have hgeneration : f.2.generation = t'.controller.session.generation := by
    rw [heffect.generation, hsuper, h.generation]
    rfl
  refine ⟨(he.text_eq hsuper).trans h.text, hgeneration, ?_⟩
  have hstate (hsession : t'.controller.session = t.controller.session)
      (hflights : f ∈ t.flights → f ∈ t'.flights) :
      f ∈ t'.flights ∨ t'.controller.session.phase = .ready ∨
        ∃ message, .reportRenderError message ∈ after ++ [e] ∧
          t'.controller.session.state = .failed (.renderFailed message) := by
    rw [hsession]
    rcases h.state with hmem | hready | ⟨message, hreport, hstate⟩
    · exact .inl (hflights hmem)
    · exact .inr (.inl hready)
    · exact .inr (.inr ⟨message, List.mem_append_left _ hreport, hstate⟩)
  cases he with
  | @answer task ticket reply hlookup =>
      generalize (t.answer task reply).controller.session = s at heffect hstate ⊢
      generalize (t.answer task reply).flights = fs at heffect hstate ⊢
      cases heffect with
      | begun hsuper' => cases hsuper'
      | superseded hsuper' => cases hsuper'
      | delivered hmem hgeneration' hphase => exact .inr (.inl rfl)
      | discarded hmem hne =>
          -- The answer that is dropped belongs to another task.
          refine hstate rfl fun hf => List.mem_filter.2 ⟨hf, ?_⟩
          simp only [bne_iff_ne, ne_eq]
          intro htask
          have hsame := h.generation
          rw [ht.sound.eq_of_task_eq hf hmem htask] at hsame
          exact hne hsame
  | @reportRenderError _ message hreport =>
      obtain ⟨tr, htr, hcontroller⟩ := (Step.reportRenderError hreport).offers
      cases htr
      have hphase := (running_reportRenderError hreport).1
      refine .inr (.inr ⟨message, by simp, ?_⟩)
      rw [hcontroller, Controller.session_offer]
      simp [Session.advance, Session.apply, hphase]
  | refuseRenderError hreport => exact hstate rfl id
  | _ => cases hsuper

theorem IsUnderway.run {x : Text} {f : Nat × Ticket} {t t' : Tasks} {after : List Event}
    (h : IsUnderway x f [] t) (ht : t.IsValid) (hrun : Run t after t')
    (hafter : ∀ e ∈ after, e.supersedes = false) : IsUnderway x f after t' := by
  induction hrun with
  | nil => exact h
  | snoc hrun he ih =>
      have ih := ih fun e' he' => hafter e' (List.mem_append_left _ he')
      exact ih.step (hrun.isValid ht) he (hafter _ (by simp))

/-- A session that has failed takes neither answers nor reports. -/
theorem Run.session_eq_of_failed {t t' : Tasks} {after : List Event} (h : Run t after t')
    (hphase : t.controller.session.phase = .failed)
    (hafter : ∀ e ∈ after, e.supersedes = false) :
    t'.controller.session = t.controller.session := by
  induction h with
  | nil => rfl
  | @snoc t' t'' es e h he ih =>
      have ih := ih fun e' he' => hafter e' (List.mem_append_left _ he')
      obtain ⟨tr, htr, hcontroller⟩ := he.offers
      have hrenews := (Event.renews_of_transition? htr).trans (hafter e (by simp))
      rw [hcontroller, Controller.session_offer, ← ih]
      exact Session.advance_of_failed (ih ▸ hphase) hrenews

/-- The session has the text, and shows its conversion unless it was reported not to be drawn. -/
def IsKept (x : Text) (es : List Event) (t : Tasks) : Prop :=
  t.controller.session.text = x ∧ (t.controller.session.phase = .ready ∨
    ∃ message, .reportRenderError message ∈ es ∧
      t.controller.session.state = .failed (.renderFailed message))

def IsLost (t : Tasks) : Prop :=
  t.controller.session.text = [] ∧ t.controller.session.state = .failed .emptyInput

section Ended

variable {classifier : Classifier} {es₀ es : List Event} {t₀ t : Tasks} {d : Description}

theorem SubmitsLast.isKept (ht₀ : t₀.IsValid) {x : Text}
    (hgate : Transition.submit t₀.controller.classifier x = .begin d)
    (hes : ∀ e ∈ es, e.Regenerates t₀.started) (hdone : ∀ entry ∈ t.running, entry.1 < t₀.started)
    (h : SubmitsLast t₀ es t x) : IsKept x es t := by
  obtain ⟨before, task, after, t', rfl, hafter, hbefore, hlookup, hrun⟩ := h
  have hvalid := hbefore.isValid ht₀
  have hfirst : t₀.started ≤ task := hes (.resubmit task) (by simp)
  have hunderway : ∃ f : Nat × Ticket, f.1 = task ∧ IsUnderway x f [] (t'.resubmit task) := by
    rw [resubmit_eq hlookup]
    rcases (t'.drop task).submitSection_cases task x with
      ⟨d', hd', hsession, hrunning⟩ | ⟨reason, hreason, -⟩
    · refine ⟨(task, ⟨t'.controller.session.generation + 1, d'⟩), rfl, ?_, ?_, .inl ?_⟩
      · rw [hsession]
        exact Transition.text_of_submit hd'
      · rw [hsession]
        rfl
      · rw [mem_flights_iff, hrunning]
        exact List.mem_append_right _ (List.mem_singleton_self _)
    · have hclassifier : (t'.drop task).controller.classifier = t₀.controller.classifier :=
        hbefore.classifier_eq
      rw [hclassifier, hgate] at hreason
      cases hreason
  obtain ⟨f, rfl, hunderway⟩ := hunderway
  have hend := hunderway.run ((Step.resubmit hlookup).isValid hvalid) hrun hafter
  refine ⟨hend.text, ?_⟩
  rcases hend.state with hmem | hready | ⟨message, hreport, hstate⟩
  · exact absurd (hdone _ (mem_flights_iff.1 hmem)) (by simpa using hfirst)
  · exact .inl hready
  · exact .inr ⟨message, by simp [hreport], hstate⟩

theorem SubmitsLast.isLost (h : SubmitsLast t₀ es t []) : IsLost t := by
  obtain ⟨before, task, after, t', rfl, hafter, hbefore, hlookup, hrun⟩ := h
  have hfailed : (t'.resubmit task).controller.session.state = .failed .emptyInput := by
    rw [resubmit_eq hlookup, controller_submitSection, Controller.session_offer]
    rfl
  have hphase : (t'.resubmit task).controller.session.phase = .failed := by
    rw [Session.phase, hfailed]
    rfl
  have hsession := hrun.session_eq_of_failed hphase hafter
  rw [IsLost, hsession]
  exact ⟨text_resubmit hlookup, hfailed⟩

end Ended

/-! ## Regenerations one after another -/

/-- No regeneration begins between the two sections of another. -/
def AreApart (es : List Event) : Prop :=
  ∀ before between after, es = before ++ .regenerate :: (between ++ .regenerate :: after) →
    ∃ task, .resubmit task ∈ between

theorem AreApart.left {es : List Event} {e : Event} (h : AreApart (es ++ [e])) : AreApart es := by
  rintro before between after rfl
  exact h before between (after ++ [e]) (by simp)

/-- One regeneration at a time: the session has the text and none is withdrawn, or the last one to
begin has withdrawn it and none has begun or been submitted since. -/
def IsSerial (first : Nat) (x : Text) (es : List Event) (t : Tasks) : Prop :=
  (t.controller.session.text = x ∧ ∀ n y, first ≤ n → (n, .withdrawn y) ∉ t.running) ∨
    ∃ n, first ≤ n ∧ (n, .withdrawn x) ∈ t.running ∧
      (∀ m y, first ≤ m → (m, .withdrawn y) ∈ t.running → m = n) ∧
      ∃ before between, es = before ++ .regenerate :: between ∧
        ∀ task, .resubmit task ∉ between

theorem IsSerial.step {first : Nat} {x : Text} {es : List Event} {t t' : Tasks} {e : Event}
    (h : IsSerial first x es t) (ht : t.IsNumbered) (hfirst : first ≤ t.started) (he : Step t e t')
    (hallowed : e.Regenerates first) (hapart : AreApart (es ++ [e])) :
    IsSerial first x (es ++ [e]) t' := by
  cases hsuper : e.supersedes with
  | false =>
      rcases h with ⟨htext, hnone⟩ | ⟨n, hn, hmem, honly, before, between, rfl, hbetween⟩
      · refine .inl ⟨(he.text_eq hsuper).trans htext, fun n y hn hmem => ?_⟩
        rcases he.withdrawn_of_mem hmem with ⟨hmem, -⟩ | ⟨rfl, -⟩
        · exact hnone n y hn hmem
        · cases hsuper
      · refine .inr ⟨n, hn, he.withdrawn_mem ht hsuper hmem, fun m y hm hmem => ?_, before,
          between ++ [e], by simp, fun task htask => ?_⟩
        · rcases he.withdrawn_of_mem hmem with ⟨hmem, -⟩ | ⟨rfl, -⟩
          · exact honly m y hm hmem
          · cases hsuper
        · rcases List.mem_append.1 htask with htask | htask
          · exact hbetween task htask
          · rw [← List.mem_singleton.1 htask] at hsuper
            cases hsuper
  | true =>
      cases he with
      | regenerate =>
          rcases h with ⟨htext, hnone⟩ | ⟨n, -, -, -, before, between, rfl, hbetween⟩
          · refine .inr ⟨t.started, hfirst, ?_, fun m y hm hmem => ?_, es, [], rfl, nofun⟩
            · rw [← htext]
              exact List.mem_append_right _ (List.mem_singleton_self _)
            · rcases Step.regenerate.withdrawn_of_mem hmem with ⟨hmem, -⟩ | ⟨-, hm, -⟩
              · exact absurd hmem (hnone m y ‹_›)
              · exact hm
          · obtain ⟨task, htask⟩ := hapart before between [] (by simp)
            exact absurd htask (hbetween task)
      | @resubmit task text hlookup =>
          have hmem' := mem_of_lookup hlookup
          rcases h with ⟨-, hnone⟩ | ⟨n, hn, hmem, honly, -⟩
          · exact absurd hmem' (hnone task text hallowed)
          · obtain rfl := honly task text hallowed hmem'
            cases ht.eq_of_mem hmem hmem'
            refine .inl ⟨text_resubmit hlookup, fun m y hm hmem => ?_⟩
            rcases (Step.resubmit hlookup).withdrawn_of_mem hmem with ⟨hmem, hne⟩ | ⟨he, -⟩
            · exact hne (by rw [honly m y hm hmem])
            · cases he
      | submit => cases hallowed
      | clear => cases hallowed
      | answer => cases hsuper
      | reportRenderError => cases hsuper
      | refuseRenderError => cases hsuper

theorem Run.isSerial {t₀ t : Tasks} {es : List Event} (ht₀ : t₀.IsValid) (h : Run t₀ es t)
    (hes : ∀ e ∈ es, e.Regenerates t₀.started) (hapart : AreApart es) :
    IsSerial t₀.started t₀.controller.session.text es t := by
  induction h with
  | nil =>
      refine .inl ⟨rfl, fun n y hn hmem => ?_⟩
      exact absurd (ht₀.numbered.lt_started _ hmem) (by simpa using hn)
  | snoc h he ih =>
      have ih := ih (fun e' he' => hes e' (List.mem_append_left _ he')) hapart.left
      exact ih.step (h.isValid ht₀).numbered h.started_le he (hes _ (by simp)) hapart

/-! ## When the text is kept -/

/-- Regenerations that were started with a text have ended. -/
structure Regenerated (t₀ : Tasks) (es : List Event) (t : Tasks) : Prop where
  submitsLast : SubmitsLast t₀ es t t₀.controller.session.text ∨ SubmitsLast t₀ es t []
  kept_iff : IsKept t₀.controller.session.text es t ↔
    SubmitsLast t₀ es t t₀.controller.session.text
  lost_iff : IsLost t ↔ SubmitsLast t₀ es t []
  kept_of_apart : AreApart es → IsKept t₀.controller.session.text es t

/-- A session that shows a conversion of the text. -/
def sortShown : Tasks :=
  ((initial ⟨["sort".toList]⟩).submit "sort".toList).answer 0 (.ok "flowchart TD\nA --> B".toList)

theorem run_sortShown : Run (initial ⟨["sort".toList]⟩)
    [.submit "sort".toList, .answer 0 (.ok "flowchart TD\nA --> B".toList)] sortShown := by
  obtain ⟨ticket, hticket⟩ : ∃ ticket, ((initial ⟨["sort".toList]⟩).submit
      "sort".toList).running.lookup 0 = some (.generating ticket) := ⟨_, rfl⟩
  exact (Run.nil.snoc (.submit "sort".toList)).snoc (.answer _ hticket)

theorem run_overlap : Run sortShown [.regenerate, .regenerate] sortShown.regenerate.regenerate :=
  (Run.nil.snoc .regenerate).snoc .regenerate

/-- However regenerations overlap, the text is kept or lost, and the one that submits last
decides. -/
theorem regenerated_of_run {classifier : Classifier} {es₀ es : List Event} {t₀ t : Tasks}
    {d : Description} (h₀ : Run (initial classifier) es₀ t₀)
    (hgate : Transition.submit classifier t₀.controller.session.text = .begin d)
    (h : Run t₀ es t) (hes : ∀ e ∈ es, e.Regenerates t₀.started) (hsome : .regenerate ∈ es)
    (hdone : ∀ entry ∈ t.running, entry.1 < t₀.started) : Regenerated t₀ es t := by
  have hvalid := h₀.isValid (isValid_initial classifier)
  have hclassifier : t₀.controller.classifier = classifier := h₀.classifier_eq
  rw [← hclassifier] at hgate
  have hne : t₀.controller.session.text ≠ [] := by
    rw [← Transition.text_of_submit hgate]
    intro hnil
    exact d.notBlank (by rw [hnil]; rfl)
  have hkept := SubmitsLast.isKept hvalid hgate hes hdone
  have hlost : SubmitsLast t₀ es t [] → IsLost t := SubmitsLast.isLost
  have hlast : SubmitsLast t₀ es t t₀.controller.session.text ∨ SubmitsLast t₀ es t [] := by
    rcases h.exists_submitsLast hvalid hes with hquiet | ⟨n, text, hn, hmem⟩ | ⟨text, hlast⟩
    · cases hquiet _ hsome
    · exact absurd (hdone _ hmem) (by simpa using hn)
    · obtain ⟨before, task, after, t', rfl, -, hbefore, hlookup, -⟩ := id hlast
      have hholding := hbefore.isHolding hvalid.numbered fun e he => hes e (by simp [he])
      have htask : t₀.started ≤ task := hes (.resubmit task) (by simp)
      rcases hholding.withdrawn task text htask (mem_of_lookup hlookup) with rfl | rfl
      · exact .inl hlast
      · exact .inr hlast
  have hnot : ¬ (IsKept t₀.controller.session.text es t ∧ IsLost t) :=
    fun ⟨hk, hl⟩ => hne (hk.1.symm.trans hl.1)
  constructor
  case submitsLast => exact hlast
  case kept_iff => exact ⟨fun hk => hlast.resolve_right fun hl => hnot ⟨hk, hlost hl⟩, hkept⟩
  case lost_iff => exact ⟨fun hl => hlast.resolve_left fun hk => hnot ⟨hkept hk, hl⟩, hlost⟩
  case kept_of_apart =>
    intro hapart
    refine hlast.elim hkept fun hl => ?_
    rcases h.isSerial hvalid hes hapart with ⟨htext, -⟩ | ⟨n, hn, hmem, -⟩
    · exact absurd (htext.symm.trans (hlost hl).1) hne
    · exact absurd (hdone _ hmem) (by simpa using hn)

/-- The first of two regenerations has the text and submits it last. -/
theorem regenerated_of_last :
    let reply : Reply := .error .timeout
    let t := ((sortShown.regenerate.regenerate.resubmit 2).resubmit 1).answer 1 reply
    let es : List Event := [.regenerate, .regenerate, .resubmit 2, .resubmit 1, .answer 1 reply]
    Run sortShown es t ∧ t.running = [] ∧ Regenerated sortShown es t ∧
      IsKept "sort".toList es t := by
  intro reply t es
  have hsecond : Run sortShown [.regenerate, .regenerate, .resubmit 2] _ :=
    run_overlap.snoc (@Step.resubmit _ 2 [] (by decide +kernel))
  have hfirst : Run sortShown [.regenerate, .regenerate, .resubmit 2, .resubmit 1] _ :=
    hsecond.snoc (@Step.resubmit _ 1 "sort".toList (by decide +kernel))
  obtain ⟨ticket, hticket⟩ : ∃ ticket, ((sortShown.regenerate.regenerate.resubmit 2).resubmit
      1).running.lookup 1 = some (.generating ticket) := ⟨_, rfl⟩
  have hrun : Run sortShown es t := hfirst.snoc (.answer reply hticket)
  have hgate : ∃ d,
      Transition.submit ⟨["sort".toList]⟩ sortShown.controller.session.text = .begin d :=
    ⟨⟨"sort".toList, by decide⟩, by decide +kernel⟩
  obtain ⟨d, hd⟩ := hgate
  have hnone : t.running = [] := by decide +kernel
  have hes : ∀ e ∈ es, e.Regenerates sortShown.started := by
    simp only [es, List.forall_mem_cons]
    exact ⟨trivial, trivial, (by decide +kernel : sortShown.started ≤ 2),
      (by decide +kernel : sortShown.started ≤ 1), trivial, nofun⟩
  have hregenerated :=
    regenerated_of_run run_sortShown hd hrun hes List.mem_cons_self (by simp [hnone])
  exact ⟨hrun, hnone, hregenerated, by decide +kernel, .inl (by decide +kernel)⟩

/-- The second of two regenerations finds the session cleared and submits last. -/
theorem isLost_of_overlap :
    let reply : Reply := .ok "flowchart TD\nA --> B".toList
    let t := ((sortShown.regenerate.regenerate.resubmit 1).resubmit 2).answer 1 reply
    Run (initial ⟨["sort".toList]⟩)
        [.submit "sort".toList, .answer 0 (.ok "flowchart TD\nA --> B".toList)] sortShown ∧
      sortShown.controller.session.phase = .ready ∧
      sortShown.controller.session.text = "sort".toList ∧
      Classifier.accepts ⟨["sort".toList]⟩ "sort".toList = true ∧
      Run sortShown [.regenerate, .regenerate, .resubmit 1, .resubmit 2, .answer 1 reply] t ∧
      t.running = [] ∧ t.controller.session.text = [] ∧
      t.controller.session.state = .failed .emptyInput := by
  intro reply t
  have hfirst : Run sortShown [.regenerate, .regenerate, .resubmit 1] _ :=
    run_overlap.snoc (@Step.resubmit _ 1 "sort".toList (by decide +kernel))
  have hsecond : Run sortShown [.regenerate, .regenerate, .resubmit 1, .resubmit 2] _ :=
    hfirst.snoc (@Step.resubmit _ 2 [] (by decide +kernel))
  obtain ⟨ticket, hticket⟩ : ∃ ticket, ((sortShown.regenerate.regenerate.resubmit 1).resubmit
      2).running.lookup 1 = some (.generating ticket) := ⟨_, rfl⟩
  exact ⟨run_sortShown, by decide +kernel, by decide +kernel, by decide +kernel,
    hsecond.snoc (.answer reply hticket), by decide +kernel, by decide +kernel, by decide +kernel⟩

end Tasks

end Flowchart
