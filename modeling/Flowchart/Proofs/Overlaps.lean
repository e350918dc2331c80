import Flowchart.Controller.Tasks
import Mathlib.Data.List.Nodup

/-!
# Overlapping submissions

The sections of any number of tasks run one after another, in any order, and the service answers as
it likes. A session is loading exactly while the task of its own generation waits for the answer.
That answer is shown, and an answer that comes later than another submission, regeneration or
clearing is dropped.
-/

namespace Flowchart

/-- An entry with a key of its own may be put at the end. -/
theorem nodup_map_append_singleton {α β : Type} {key : α → β} {l : List α} {a : α}
    (h : (l.map key).Nodup) (ha : key a ∉ l.map key) : ((l ++ [a]).map key).Nodup := by
  rw [List.map_append, List.map_singleton, ← List.concat_eq_append]
  exact h.concat ha

theorem Transition.submit_cases (classifier : Classifier) (text : Text) :
    (∃ d : Description, submit classifier text = .begin d) ∨
      ∃ reason, submit classifier text = .reject text reason := by
  unfold submit
  cases Description.ofText? text with
  | none => exact .inr ⟨_, rfl⟩
  | some d =>
      dsimp only
      split
      · exact .inl ⟨d, rfl⟩
      · exact .inr ⟨_, rfl⟩

namespace Controller

theorem classifier_offer (c : Controller) (t : Transition) :
    (c.offer t).classifier = c.classifier := by
  unfold offer commit
  cases c.session.apply t <;> rfl

theorem fst_submit (c : Controller) (text : Text) :
    (c.submit text).1 = c.offer (.submit c.classifier text) := by
  unfold submit
  dsimp only
  split <;> rfl

/-- A text is accepted with a ticket of the next generation, or rejected without one. -/
theorem submit_cases (c : Controller) (text : Text) :
    (∃ d : Description, Transition.submit c.classifier text = .begin d ∧
      (c.submit text).1.session = ⟨.loading, d.text, c.session.generation + 1, none, none⟩ ∧
        (c.submit text).2 = some ⟨c.session.generation + 1, d⟩) ∨
      ∃ reason, Transition.submit c.classifier text = .reject text reason ∧
        (c.submit text).1.session = ⟨.failed reason, text, c.session.generation + 1, none, none⟩ ∧
          (c.submit text).2 = none := by
  unfold submit
  rcases Transition.submit_cases c.classifier text with ⟨d, h⟩ | ⟨reason, h⟩
  · have hsession := c.session_offer (.begin d)
    simp only [h]
    exact .inl ⟨d, rfl, hsession, by rw [hsession]; rfl⟩
  · simp only [h, and_true]
    exact .inr ⟨reason, rfl, c.session_offer (.reject text reason)⟩

theorem resolve_of_ne {c : Controller} {ticket : Ticket}
    (h : ticket.generation ≠ c.session.generation) (reply : Reply) :
    c.resolve ticket reply = c := by
  simp [resolve, offer, commit, Session.apply, h, Except.map]

/-- A result of the current generation is shown. -/
theorem session_resolve {c : Controller} {ticket : Ticket}
    (h : ticket.generation = c.session.generation) (hphase : c.session.phase = .loading)
    (reply : Reply) :
    (c.resolve ticket reply).session =
      ⟨.ready (Conversion.ofReply reply).diagram, c.session.text, c.session.generation,
        (Conversion.ofReply reply).fullResponse, (Conversion.ofReply reply).fallback⟩ := by
  rw [resolve, session_offer]
  simp [Session.advance, Session.apply, h, hphase]

end Controller

namespace Tasks

/-! ## Runs -/

/-- A section that runs without interruption. A regeneration has two of them before its answer. -/
inductive Event where
  | submit (text : Text)
  | regenerate
  | resubmit (task : Nat)
  | answer (task : Nat) (reply : Reply)
  | clear
  | reportRenderError (message : Text)

/-- Whether results that are on their way become stale. -/
def Event.supersedes : Event → Bool
  | submit _ => true
  | regenerate => true
  | resubmit _ => true
  | answer _ _ => false
  | clear => true
  | reportRenderError _ => false

/-- A task goes on only where it stands. -/
inductive Step (t : Tasks) : Event → Tasks → Prop
  | submit (text : Text) : Step t (.submit text) (t.submit text)
  | regenerate : Step t .regenerate t.regenerate
  | resubmit {task : Nat} {text : Text}
      (h : t.running.lookup task = some (.withdrawn text)) :
      Step t (.resubmit task) (t.resubmit task)
  | answer {task : Nat} {ticket : Ticket} (reply : Reply)
      (h : t.running.lookup task = some (.generating ticket)) :
      Step t (.answer task reply) (t.answer task reply)
  | clear : Step t .clear t.clear
  | reportRenderError {t' : Tasks} {message : Text} (h : t.reportRenderError message = .ok t') :
      Step t (.reportRenderError message) t'
  | refuseRenderError {message : Text} {e : TransitionError}
      (h : t.reportRenderError message = .error e) : Step t (.reportRenderError message) t

inductive Run (t : Tasks) : List Event → Tasks → Prop
  | nil : Run t [] t
  | snoc {t' t'' : Tasks} {es : List Event} {e : Event} (h : Run t es t') (he : Step t' e t'') :
      Run t (es ++ [e]) t''

/-- The tasks that wait for an answer, with their tickets. -/
def flights (t : Tasks) : List (Nat × Ticket) :=
  t.running.filterMap fun entry =>
    match entry.2 with
    | .generating ticket => some (entry.1, ticket)
    | .withdrawn _ => none

theorem mem_flights_iff {t : Tasks} {f : Nat × Ticket} :
    f ∈ t.flights ↔ (f.1, .generating f.2) ∈ t.running := by
  obtain ⟨task, ticket⟩ := f
  rw [flights, List.mem_filterMap]
  constructor
  · rintro ⟨⟨number, state⟩, hmem, h⟩
    cases state with
    | generating k =>
        cases h
        exact hmem
    | withdrawn text => cases h
  · exact fun h => ⟨_, h, rfl⟩

/-! ## Task numbers -/

/-- Every task has a number of its own, which was given out before. -/
structure IsNumbered (t : Tasks) : Prop where
  lt_started : ∀ entry ∈ t.running, entry.1 < t.started
  nodup : (t.running.map Prod.fst).Nodup

theorem IsNumbered.eq_of_mem {t : Tasks} (ht : t.IsNumbered) {task : Nat} {a b : TaskState}
    (ha : (task, a) ∈ t.running) (hb : (task, b) ∈ t.running) : a = b :=
  congrArg Prod.snd (List.inj_on_of_nodup_map ht.nodup ha hb rfl)

theorem mem_of_lookup {task : Nat} {a : TaskState} {running : List (Nat × TaskState)}
    (h : running.lookup task = some a) : (task, a) ∈ running := by
  obtain ⟨before, behind, rfl, -⟩ := List.lookup_eq_some_iff.1 h
  simp

theorem IsNumbered.lookup_of_mem {t : Tasks} (ht : t.IsNumbered) {task : Nat} {a : TaskState}
    (h : (task, a) ∈ t.running) : t.running.lookup task = some a := by
  cases hlookup : t.running.lookup task with
  | none =>
      rw [List.lookup_eq_none_iff] at hlookup
      simpa using hlookup _ h
  | some b => rw [ht.eq_of_mem (mem_of_lookup hlookup) h]

theorem resubmit_eq {t : Tasks} {task : Nat} {text : Text}
    (h : t.running.lookup task = some (.withdrawn text)) :
    t.resubmit task = (t.drop task).submitSection task text := by
  rw [resubmit, h]

theorem answer_eq {t : Tasks} {task : Nat} {ticket : Ticket}
    (h : t.running.lookup task = some (.generating ticket)) (reply : Reply) :
    t.answer task reply =
      { t.drop task with controller := t.controller.resolve ticket reply } := by
  rw [answer, h]

/-- What a submission adds to the tasks. -/
theorem submitSection_cases (t : Tasks) (task : Nat) (text : Text) :
    (∃ d : Description, Transition.submit t.controller.classifier text = .begin d ∧
      (t.submitSection task text).controller.session =
          ⟨.loading, d.text, t.controller.session.generation + 1, none, none⟩ ∧
        (t.submitSection task text).running =
          t.running ++ [(task, .generating ⟨t.controller.session.generation + 1, d⟩)]) ∨
      ∃ reason, Transition.submit t.controller.classifier text = .reject text reason ∧
        (t.submitSection task text).controller.session =
            ⟨.failed reason, text, t.controller.session.generation + 1, none, none⟩ ∧
          (t.submitSection task text).running = t.running := by
  unfold submitSection
  rcases t.controller.submit_cases text with
    ⟨d, hd, hsession, hticket⟩ | ⟨reason, hreason, hsession, hticket⟩
  · left
    refine ⟨d, hd, ?_⟩
    generalize t.controller.submit text = result at hsession hticket
    obtain ⟨controller, ticket⟩ := result
    cases hticket
    exact ⟨hsession, rfl⟩
  · right
    refine ⟨reason, hreason, ?_⟩
    generalize t.controller.submit text = result at hsession hticket
    obtain ⟨controller, ticket⟩ := result
    cases hticket
    exact ⟨hsession, rfl⟩

theorem started_submitSection (t : Tasks) (task : Nat) (text : Text) :
    (t.submitSection task text).started = t.started := by
  unfold submitSection
  split <;> rfl

theorem running_reportRenderError {t t' : Tasks} {message : Text}
    (h : t.reportRenderError message = .ok t') :
    t.controller.session.phase = .ready ∧
      t'.controller.session.generation = t.controller.session.generation ∧
      t'.controller.session.phase = .failed ∧ t'.running = t.running ∧ t'.started = t.started := by
  by_cases hphase : t.controller.session.phase = .ready
  · simp only [reportRenderError, Controller.reportRenderError, Controller.commit, Session.apply,
      hphase, ne_eq, not_true_eq_false, if_false, Except.map] at h
    cases h
    exact ⟨hphase, rfl, rfl, rfl, rfl⟩
  · simp [reportRenderError, Controller.reportRenderError, Controller.commit, Session.apply,
      hphase, Except.map] at h

theorem IsNumbered.of_sublist {t t' : Tasks} (ht : t.IsNumbered)
    (hrunning : t'.running.Sublist t.running) (hstarted : t'.started = t.started) :
    t'.IsNumbered :=
  ⟨fun entry h => hstarted ▸ ht.lt_started entry (hrunning.subset h),
    ht.nodup.sublist (hrunning.map _)⟩

theorem IsNumbered.append {t t' : Tasks} (ht : t.IsNumbered) {task : Nat} {a : TaskState}
    (hrunning : t'.running = t.running ++ [(task, a)]) (hstarted : t.started ≤ t'.started)
    (hlt : task < t'.started) (hnew : task ∉ t.running.map Prod.fst) : t'.IsNumbered := by
  constructor
  · intro entry h
    rw [hrunning] at h
    rcases List.mem_append.1 h with h | h
    · exact Nat.lt_of_lt_of_le (ht.lt_started entry h) hstarted
    · rw [List.mem_singleton] at h
      exact h ▸ hlt
  · rw [hrunning]
    exact nodup_map_append_singleton ht.nodup hnew

theorem notMem_drop (t : Tasks) (task : Nat) : task ∉ (t.drop task).running.map Prod.fst := by
  rintro h
  obtain ⟨entry, hentry, rfl⟩ := List.mem_map.1 h
  simpa using (List.mem_filter.1 hentry).2

/-- A section of a submission keeps the numbers apart. -/
theorem IsNumbered.submitSection {t : Tasks} (ht : t.IsNumbered) {task : Nat} (text : Text)
    (hlt : task < t.started) (hnew : task ∉ t.running.map Prod.fst) :
    (t.submitSection task text).IsNumbered := by
  have hstarted := t.started_submitSection task text
  rcases t.submitSection_cases task text with ⟨d, -, -, hrunning⟩ | ⟨reason, -, -, hrunning⟩
  · exact ht.append hrunning (Nat.le_of_eq hstarted.symm) (hstarted ▸ hlt) hnew
  · exact ht.of_sublist (hrunning ▸ List.Sublist.refl _) hstarted

theorem IsNumbered.started_notMem {t : Tasks} (ht : t.IsNumbered) :
    t.started ∉ t.running.map Prod.fst := by
  intro h
  obtain ⟨entry, hentry, he⟩ := List.mem_map.1 h
  exact absurd (ht.lt_started entry hentry) (by omega)

theorem Step.isNumbered {t t' : Tasks} {e : Event} (ht : t.IsNumbered) (h : Step t e t') :
    t'.IsNumbered := by
  cases h with
  | submit text =>
      have hnext : IsNumbered { t with started := t.started + 1 } :=
        ⟨fun entry h => Nat.lt_succ_of_lt (ht.lt_started entry h), ht.nodup⟩
      exact hnext.submitSection text (Nat.lt_succ_self _) ht.started_notMem
  | regenerate =>
      exact ht.append rfl (Nat.le_succ _) (Nat.lt_succ_self _) ht.started_notMem
  | resubmit hlookup =>
      rename_i task text
      have hdrop : (t.drop task).IsNumbered := ht.of_sublist List.filter_sublist rfl
      have hlt := ht.lt_started _ (mem_of_lookup hlookup)
      rw [Tasks.resubmit, hlookup]
      exact hdrop.submitSection text hlt (t.notMem_drop task)
  | answer reply hlookup =>
      rw [Tasks.answer, hlookup]
      exact ht.of_sublist List.filter_sublist rfl
  | clear => exact ht.of_sublist (List.Sublist.refl _) rfl
  | reportRenderError hreport =>
      obtain ⟨-, -, -, hrunning, hstarted⟩ := running_reportRenderError hreport
      exact ht.of_sublist (hrunning ▸ List.Sublist.refl _) hstarted
  | refuseRenderError hreport => exact ht

/-! ## What a section does -/

/-- What a section does to a session and to the tasks that wait. -/
inductive Effect (s : Session) (fs : List (Nat × Ticket)) :
    Event → Session → List (Nat × Ticket) → Prop
  | begun {e : Event} (he : e.supersedes = true) {task : Nat} (hnew : task ∉ fs.map Prod.fst)
      (d : Description) :
      Effect s fs e ⟨.loading, d.text, s.generation + 1, none, none⟩
        (fs ++ [(task, ⟨s.generation + 1, d⟩)])
  | superseded {e : Event} (he : e.supersedes = true) {s' : Session}
      (hgeneration : s'.generation = s.generation + 1)
      (hphase : s'.phase = .idle ∨ s'.phase = .failed) : Effect s fs e s' fs
  | delivered {task : Nat} {ticket : Ticket} (hmem : (task, ticket) ∈ fs)
      (hgeneration : ticket.generation = s.generation) (hphase : s.phase = .loading)
      (reply : Reply) :
      Effect s fs (.answer task reply)
        ⟨.ready (Conversion.ofReply reply).diagram, s.text, s.generation,
          (Conversion.ofReply reply).fullResponse, (Conversion.ofReply reply).fallback⟩
        (fs.filter (·.1 != task))
  | discarded {task : Nat} {ticket : Ticket} (hmem : (task, ticket) ∈ fs)
      (hgeneration : ticket.generation ≠ s.generation) (reply : Reply) :
      Effect s fs (.answer task reply) s (fs.filter (·.1 != task))
  | failed {s' : Session} (hphase : s.phase = .ready) (hgeneration : s'.generation = s.generation)
      (hphase' : s'.phase = .failed) (message : Text) :
      Effect s fs (.reportRenderError message) s' fs
  | refused (message : Text) : Effect s fs (.reportRenderError message) s fs

/-- What holds of a session and the tasks that wait, whatever has run. -/
structure IsSound (s : Session) (fs : List (Nat × Ticket)) : Prop where
  tasks : (fs.map Prod.fst).Nodup
  generations : (fs.map fun f => f.2.generation).Nodup
  generation_le : ∀ f ∈ fs, f.2.generation ≤ s.generation
  loading_iff : s.phase = .loading ↔ ∃ f ∈ fs, f.2.generation = s.generation
  text : ∀ f ∈ fs, f.2.generation = s.generation → f.2.description.text = s.text

theorem IsSound.initial : IsSound .initial [] := by
  refine ⟨List.nodup_nil, List.nodup_nil, nofun, ?_, nofun⟩
  simp [Session.phase, Session.initial, SessionState.phase]

namespace IsSound

variable {s s' : Session} {fs : List (Nat × Ticket)}

/-- Nothing waits for a generation that is still to come. -/
theorem generation_ne_succ (h : IsSound s fs) : ∀ f ∈ fs, f.2.generation ≠ s.generation + 1 := by
  intro f hf
  have := h.generation_le f hf
  omega

theorem generation_ne (h : IsSound s fs) (hphase : s.phase ≠ .loading) :
    ∀ f ∈ fs, f.2.generation ≠ s.generation :=
  fun f hf he => hphase (h.loading_iff.2 ⟨f, hf, he⟩)

/-- Nothing waits for the generation of the next session, and that session is not loading. -/
theorem of_not_loading (h : IsSound s fs) {gs : List (Nat × Ticket)} (hgs : gs.Sublist fs)
    (hgeneration : s.generation ≤ s'.generation) (hphase : s'.phase ≠ .loading)
    (hne : ∀ f ∈ gs, f.2.generation ≠ s'.generation) : IsSound s' gs where
  tasks := h.tasks.sublist (hgs.map _)
  generations := h.generations.sublist (hgs.map _)
  generation_le f hf := Nat.le_trans (h.generation_le f (hgs.subset hf)) hgeneration
  loading_iff := iff_of_false hphase fun ⟨f, hf, he⟩ => hne f hf he
  text f hf he := absurd he (hne f hf)

theorem begun (h : IsSound s fs) {task : Nat} (hnew : task ∉ fs.map Prod.fst) (d : Description) :
    IsSound ⟨.loading, d.text, s.generation + 1, none, none⟩
      (fs ++ [(task, ⟨s.generation + 1, d⟩)]) where
  tasks := nodup_map_append_singleton h.tasks hnew
  generations := by
    refine nodup_map_append_singleton h.generations fun hmem => ?_
    obtain ⟨f, hf, he⟩ := List.mem_map.1 hmem
    exact h.generation_ne_succ f hf he
  generation_le f hf := by
    rcases List.mem_append.1 hf with hf | hf
    · exact Nat.le_trans (h.generation_le f hf) (Nat.le_succ _)
    · obtain rfl := List.mem_singleton.1 hf
      exact Nat.le_refl _
  loading_iff := iff_of_true rfl ⟨_, List.mem_append_right _ (List.mem_singleton_self _), rfl⟩
  text f hf he := by
    rcases List.mem_append.1 hf with hf | hf
    · exact absurd he (h.generation_ne_succ f hf)
    · rw [List.mem_singleton] at hf
      rw [hf]

/-- Only one task waits for a generation. -/
theorem eq_of_generation_eq (h : IsSound s fs) {f g : Nat × Ticket} (hf : f ∈ fs) (hg : g ∈ fs)
    (he : f.2.generation = g.2.generation) : f = g :=
  List.inj_on_of_nodup_map h.generations hf hg he

theorem eq_of_task_eq (h : IsSound s fs) {f g : Nat × Ticket} (hf : f ∈ fs) (hg : g ∈ fs)
    (he : f.1 = g.1) : f = g :=
  List.inj_on_of_nodup_map h.tasks hf hg he

theorem discarded (h : IsSound s fs) {f : Nat × Ticket} (hf : f ∈ fs)
    (hne : f.2.generation ≠ s.generation) : IsSound s (fs.filter (·.1 != f.1)) where
  tasks := h.tasks.sublist (List.filter_sublist.map _)
  generations := h.generations.sublist (List.filter_sublist.map _)
  generation_le g hg := h.generation_le g (List.mem_filter.1 hg).1
  loading_iff := by
    rw [h.loading_iff]
    constructor
    · rintro ⟨g, hg, he⟩
      refine ⟨g, List.mem_filter.2 ⟨hg, ?_⟩, he⟩
      simp only [bne_iff_ne, ne_eq]
      intro htask
      rw [h.eq_of_task_eq hg hf htask] at he
      exact hne he
    · rintro ⟨g, hg, he⟩
      exact ⟨g, (List.mem_filter.1 hg).1, he⟩
  text g hg := h.text g (List.mem_filter.1 hg).1

end IsSound

/-- Every section keeps sessions and waiting tasks sound. -/
theorem Effect.isSound {s s' : Session} {fs fs' : List (Nat × Ticket)} {e : Event}
    (h : IsSound s fs) (he : Effect s fs e s' fs') : IsSound s' fs' := by
  cases he with
  | begun hsuper hnew d => exact h.begun hnew d
  | superseded hsuper hgeneration hphase =>
      refine h.of_not_loading (List.Sublist.refl _) (by omega) ?_ ?_
      · rcases hphase with hphase | hphase <;> simp [hphase]
      · rw [hgeneration]
        exact h.generation_ne_succ
  | @delivered task ticket hmem hgeneration hphase reply =>
      refine h.of_not_loading List.filter_sublist (Nat.le_refl _) nofun fun f hf he => ?_
      obtain ⟨hf, htask⟩ := List.mem_filter.1 hf
      rw [h.eq_of_generation_eq hf hmem (he.trans hgeneration.symm)] at htask
      simp at htask
  | discarded hmem hgeneration reply => exact h.discarded hmem hgeneration
  | failed hphase hgeneration hphase' message =>
      refine h.of_not_loading (List.Sublist.refl _) (Nat.le_of_eq hgeneration.symm) ?_ ?_
      · simp [hphase']
      · rw [hgeneration]
        exact h.generation_ne (by simp [hphase])
  | refused message => exact h

theorem flights_drop (t : Tasks) (task : Nat) :
    (t.drop task).flights = t.flights.filter (·.1 != task) := by
  rw [flights, flights, drop, List.filterMap_filter, List.filter_filterMap]
  refine List.filterMap_congr fun entry _ => ?_
  obtain ⟨number, state⟩ := entry
  cases state with
  | generating ticket => by_cases h : number = task <;> simp [h, Option.filter]
  | withdrawn text => simp

/-- A task that withdrew a text does not wait. -/
theorem flights_drop_of_lookup {t : Tasks} (ht : t.IsNumbered) {task : Nat} {text : Text}
    (h : t.running.lookup task = some (.withdrawn text)) : (t.drop task).flights = t.flights := by
  rw [flights_drop, List.filter_eq_self]
  intro f hf
  simp only [bne_iff_ne, ne_eq]
  rintro rfl
  have := ht.eq_of_mem (mem_flights_iff.1 hf) (mem_of_lookup h)
  cases this

theorem effect_submitSection {t : Tasks} {task : Nat} (hnew : task ∉ t.flights.map Prod.fst)
    (text : Text) {e : Event} (he : e.supersedes = true) :
    Effect t.controller.session t.flights e (t.submitSection task text).controller.session
      (t.submitSection task text).flights := by
  rcases t.submitSection_cases task text with
    ⟨d, -, hsession, hrunning⟩ | ⟨reason, -, hsession, hrunning⟩
  · have hflights : (t.submitSection task text).flights =
        t.flights ++ [(task, ⟨t.controller.session.generation + 1, d⟩)] := by
      rw [flights, hrunning, List.filterMap_append]
      rfl
    rw [hsession, hflights]
    exact .begun he hnew d
  · have hflights : (t.submitSection task text).flights = t.flights := by
      rw [flights, hrunning, flights]
    rw [hsession, hflights]
    exact .superseded he rfl (.inr rfl)

theorem flights_fst_subset (t : Tasks) : t.flights.map Prod.fst ⊆ t.running.map Prod.fst := by
  intro task h
  obtain ⟨f, hf, rfl⟩ := List.mem_map.1 h
  exact List.mem_map.2 ⟨_, mem_flights_iff.1 hf, rfl⟩

theorem Step.effect {t t' : Tasks} {e : Event} (ht : t.IsNumbered)
    (hs : IsSound t.controller.session t.flights) (h : Step t e t') :
    Effect t.controller.session t.flights e t'.controller.session t'.flights := by
  cases h with
  | submit text =>
      exact effect_submitSection (t := { t with started := t.started + 1 })
        (fun h => ht.started_notMem (t.flights_fst_subset h)) text rfl
  | regenerate =>
      have hflights : t.regenerate.flights = t.flights := by
        rw [flights, Tasks.regenerate, List.filterMap_append]
        exact List.append_nil _
      rw [hflights]
      exact .superseded rfl rfl (.inl rfl)
  | @resubmit task text hlookup =>
      have hflights := flights_drop_of_lookup ht hlookup
      have hnew : task ∉ (t.drop task).flights.map Prod.fst :=
        fun h => t.notMem_drop task ((t.drop task).flights_fst_subset h)
      rw [← hflights, Tasks.resubmit, hlookup]
      exact effect_submitSection hnew text rfl
  | @answer task ticket reply hlookup =>
      have hmem : (task, ticket) ∈ t.flights := mem_flights_iff.2 (mem_of_lookup hlookup)
      have hflights : (t.answer task reply).flights = t.flights.filter (·.1 != task) := by
        rw [Tasks.answer, hlookup, ← flights_drop]
        rfl
      have hsession : (t.answer task reply).controller = t.controller.resolve ticket reply := by
        rw [Tasks.answer, hlookup]
      rw [hflights, hsession]
      by_cases hgeneration : ticket.generation = t.controller.session.generation
      · have hphase := hs.loading_iff.2 ⟨_, hmem, hgeneration⟩
        rw [Controller.session_resolve hgeneration hphase]
        exact .delivered hmem hgeneration hphase reply
      · rw [Controller.resolve_of_ne hgeneration]
        exact .discarded hmem hgeneration reply
  | clear => exact .superseded rfl rfl (.inl rfl)
  | reportRenderError hreport =>
      obtain ⟨hphase, hgeneration, hphase', hrunning, -⟩ := running_reportRenderError hreport
      have hflights : t'.flights = t.flights := by rw [flights, hrunning, flights]
      rw [hflights]
      exact .failed hphase hgeneration hphase' _
  | refuseRenderError hreport => exact .refused _

/-! ## Valid tasks -/

structure IsValid (t : Tasks) : Prop where
  numbered : t.IsNumbered
  sound : IsSound t.controller.session t.flights

theorem isValid_initial (classifier : Classifier) : (initial classifier).IsValid :=
  ⟨⟨nofun, List.nodup_nil⟩, .initial⟩

theorem Step.isValid {t t' : Tasks} {e : Event} (ht : t.IsValid) (h : Step t e t') : t'.IsValid :=
  ⟨h.isNumbered ht.numbered, (h.effect ht.numbered ht.sound).isSound ht.sound⟩

theorem Run.isValid {t t' : Tasks} {es : List Event} (ht : t.IsValid) (h : Run t es t') :
    t'.IsValid := by
  induction h with
  | nil => exact ht
  | snoc _ he ih => exact he.isValid ih

/-! ## Generations -/

theorem Effect.generation {s s' : Session} {fs fs' : List (Nat × Ticket)} {e : Event}
    (h : Effect s fs e s' fs') : s'.generation = s.generation + e.supersedes.toNat := by
  cases h with
  | begun he hnew d => simp [he]
  | superseded he hgeneration hphase => simp [he, hgeneration]
  | delivered hmem hgeneration hphase reply => rfl
  | discarded hmem hgeneration reply => rfl
  | failed hphase hgeneration hphase' message => exact hgeneration
  | refused message => rfl

/-- The generation counts the events that supersede. -/
theorem Run.generation {t t' : Tasks} {es : List Event} (ht : t.IsValid) (h : Run t es t') :
    t'.controller.session.generation =
      t.controller.session.generation + es.countP Event.supersedes := by
  induction h with
  | nil => rfl
  | @snoc t₁ t₂ es e h he ih =>
      have hvalid := h.isValid ht
      rw [(he.effect hvalid.numbered hvalid.sound).generation, ih, List.countP_append,
        List.countP_singleton, Nat.add_assoc]
      cases e.supersedes <;> rfl

/-- A task that begins to wait has a ticket of the generation that its section began. -/
theorem Effect.generation_of_mem {s s' : Session} {fs fs' : List (Nat × Ticket)} {e : Event}
    (h : Effect s fs e s' fs') {f : Nat × Ticket} (hbefore : f.1 ∉ fs.map Prod.fst)
    (hf : f ∈ fs') : f.2.generation = s'.generation := by
  have hfs : f ∉ fs := fun h => hbefore (List.mem_map_of_mem h)
  cases h with
  | begun he hnew d =>
      rcases List.mem_append.1 hf with hf | hf
      · exact absurd hf hfs
      · rw [List.mem_singleton.1 hf]
  | superseded he hgeneration hphase => exact absurd hf hfs
  | delivered hmem hgeneration hphase reply => exact absurd (List.mem_filter.1 hf).1 hfs
  | discarded hmem hgeneration reply => exact absurd (List.mem_filter.1 hf).1 hfs
  | failed hphase hgeneration hphase' message => exact absurd hf hfs
  | refused message => exact absurd hf hfs

/-! ## Tasks keep their tickets -/

theorem started_le_of_step {t t' : Tasks} {e : Event} (h : Step t e t') :
    t.started ≤ t'.started := by
  cases h with
  | submit text =>
      rw [Tasks.submit, started_submitSection]
      exact Nat.le_succ _
  | regenerate => exact Nat.le_succ _
  | resubmit h =>
      rw [Tasks.resubmit, h]
      dsimp only
      rw [started_submitSection]
      exact Nat.le_refl _
  | answer reply h =>
      rw [Tasks.answer, h]
      exact Nat.le_refl _
  | clear => exact Nat.le_refl _
  | reportRenderError h => exact Nat.le_of_eq (running_reportRenderError h).2.2.2.2.symm
  | refuseRenderError h => exact Nat.le_refl _

theorem Run.started_le {t t' : Tasks} {es : List Event} (h : Run t es t') :
    t.started ≤ t'.started := by
  induction h with
  | nil => exact Nat.le_refl _
  | snoc _ he ih => exact Nat.le_trans ih (started_le_of_step he)

theorem mem_running_submitSection {t : Tasks} {task : Nat} {text : Text} {entry : Nat × TaskState}
    (h : entry ∈ (t.submitSection task text).running) : entry ∈ t.running ∨ entry.1 = task := by
  rcases t.submitSection_cases task text with ⟨d, -, -, hrunning⟩ | ⟨reason, -, -, hrunning⟩
  · rw [hrunning] at h
    rcases List.mem_append.1 h with h | h
    · exact .inl h
    · exact .inr (congrArg Prod.fst (List.mem_singleton.1 h))
  · exact .inl (hrunning ▸ h)

/-- What runs after a section ran before it, or is new, or had withdrawn a text. -/
theorem Step.mem_running {t t' : Tasks} {e : Event} (h : Step t e t') {entry : Nat × TaskState}
    (hentry : entry ∈ t'.running) :
    entry ∈ t.running ∨ entry.1 = t.started ∨
      ∃ text, (entry.1, .withdrawn text) ∈ t.running := by
  cases h with
  | submit text =>
      rcases mem_running_submitSection hentry with h | h
      · exact .inl h
      · exact .inr (.inl h)
  | regenerate =>
      rcases List.mem_append.1 hentry with h | h
      · exact .inl h
      · exact .inr (.inl (congrArg Prod.fst (List.mem_singleton.1 h)))
  | @resubmit task text hlookup =>
      rw [Tasks.resubmit, hlookup] at hentry
      rcases mem_running_submitSection hentry with h | h
      · exact .inl (List.mem_filter.1 h).1
      · exact .inr (.inr ⟨text, h ▸ mem_of_lookup hlookup⟩)
  | answer reply hlookup =>
      rw [Tasks.answer, hlookup] at hentry
      exact .inl (List.mem_filter.1 hentry).1
  | clear => exact .inl hentry
  | reportRenderError hreport =>
      obtain ⟨-, -, -, hrunning, -⟩ := running_reportRenderError hreport
      exact .inl (hrunning ▸ hentry)
  | refuseRenderError hreport => exact .inl hentry

/-- The task was started, and it waits with this ticket or has ended. -/
structure Holds (t : Tasks) (f : Nat × Ticket) : Prop where
  lt_started : f.1 < t.started
  eq_generating : ∀ state, (f.1, state) ∈ t.running → state = .generating f.2

theorem Step.holds {t t' : Tasks} {e : Event} {f : Nat × Ticket} (hf : t.Holds f)
    (h : Step t e t') : t'.Holds f := by
  refine ⟨Nat.lt_of_lt_of_le hf.lt_started (started_le_of_step h), fun state hstate => ?_⟩
  rcases h.mem_running hstate with hmem | hnew | ⟨text, hmem⟩
  · exact hf.eq_generating state hmem
  · exact absurd hf.lt_started (by omega)
  · cases hf.eq_generating _ hmem

theorem Run.holds {t t' : Tasks} {es : List Event} {f : Nat × Ticket} (hf : t.Holds f)
    (h : Run t es t') : t'.Holds f := by
  induction h with
  | nil => exact hf
  | snoc _ he ih => exact he.holds ih

theorem IsNumbered.holds {t : Tasks} (ht : t.IsNumbered) {f : Nat × Ticket} (hf : f ∈ t.flights) :
    t.Holds f := by
  have hmem := mem_flights_iff.1 hf
  exact ⟨ht.lt_started _ hmem, fun state hstate => ht.eq_of_mem hstate hmem⟩

/-! ## The last one wins -/

/-- The tasks that wait for an answer. -/
def waiting (t : Tasks) : List Nat :=
  t.flights.map Prod.fst

theorem mem_waiting_iff {t : Tasks} {task : Nat} :
    task ∈ t.waiting ↔ ∃ ticket, (task, ticket) ∈ t.flights := by
  simp [waiting]

/-- In the run, the task began to wait right before the events of `after`. -/
def WaitsSince (classifier : Classifier) (es : List Event) (t : Tasks) (task : Nat)
    (after : List Event) : Prop :=
  ∃ before e t₀ t₁, es = before ++ e :: after ∧ Run (initial classifier) before t₀ ∧
    task ∉ t₀.waiting ∧ Step t₀ e t₁ ∧ task ∈ t₁.waiting ∧ Run t₁ after t

/-- The session shows the conversion of the reply. -/
def Shows (s : Session) (reply : Reply) : Prop :=
  s.state = .ready (Conversion.ofReply reply).diagram ∧
    s.fullResponse = (Conversion.ofReply reply).fullResponse ∧
    s.fallback = (Conversion.ofReply reply).fallback

/-- In the run, a task that waited for the text of the session was answered with the reply. The
session shows it, and nothing has superseded it. -/
def ShownSince (classifier : Classifier) (es : List Event) (s : Session) (reply : Reply) : Prop :=
  Shows s reply ∧ ∃ before task ticket after t₀, es = before ++ .answer task reply :: after ∧
    Run (initial classifier) before t₀ ∧ (task, ticket) ∈ t₀.flights ∧
    ticket.description.text = s.text ∧ ticket.generation = s.generation ∧
    ∀ e ∈ after, e.supersedes = false

/-- What holds of the session and of the waiting tasks after a run. -/
structure LastWins (classifier : Classifier) (es : List Event) (t : Tasks) : Prop where
  generation_eq : t.controller.session.generation = es.countP Event.supersedes
  /-- The counter of generations does not pass the number of sections. -/
  generation_le : t.controller.session.generation ≤ es.length
  loading_iff : t.controller.session.phase = .loading ↔
    ∃! f, f ∈ t.flights ∧ f.2.generation = t.controller.session.generation
  nodup_generations : (t.flights.map fun f => f.2.generation).Nodup
  not_loading : t.flights = [] → t.controller.session.phase ≠ .loading
  exists_since : ∀ task ∈ t.waiting, ∃ after, WaitsSince classifier es t task after
  /-- An answer changes the session if nothing has superseded the task. -/
  answer_ne_iff : ∀ task ∈ t.waiting, ∀ after, WaitsSince classifier es t task after → ∀ reply,
    ((t.answer task reply).controller.session ≠ t.controller.session ↔
      ∀ e ∈ after, e.supersedes = false)
  /-- Any other answer changes neither the session nor what was sent. -/
  answer_eq : ∀ task ∈ t.waiting, ∀ after, WaitsSince classifier es t task after → ∀ reply,
    (∃ e ∈ after, e.supersedes = true) →
      (t.answer task reply).controller = t.controller ∧
        (t.answer task reply).controller.snapshot = t.controller.snapshot
  /-- A diagram that is shown is the conversion of the text of the session. -/
  ready : t.controller.session.phase = .ready →
    ∃ reply, ShownSince classifier es t.controller.session reply

theorem exists_waitsSince {classifier : Classifier} {es : List Event} {t : Tasks}
    (h : Run (initial classifier) es t) {task : Nat} (htask : task ∈ t.waiting) :
    ∃ after, WaitsSince classifier es t task after := by
  induction h with
  | nil => cases htask
  | @snoc t' t'' es e h he ih =>
      by_cases hbefore : task ∈ t'.waiting
      · obtain ⟨after, before, e', t₀, t₁, rfl, hrun, hnot, hstep, hmem, hafter⟩ := ih hbefore
        exact ⟨after ++ [e], before, e', t₀, t₁, by simp, hrun, hnot, hstep, hmem, hafter.snoc he⟩
      · exact ⟨[], es, e, t', t'', rfl, h, hbefore, he, htask, .nil⟩

/-- The generation has been raised since a task began to wait, once for each event that
supersedes it. -/
theorem WaitsSince.generation {classifier : Classifier} {es after : List Event} {t : Tasks}
    {f : Nat × Ticket} (h : WaitsSince classifier es t f.1 after) (hf : f ∈ t.flights) :
    t.controller.session.generation = f.2.generation + after.countP Event.supersedes := by
  obtain ⟨before, e, t₀, t₁, rfl, hrun, hnot, hstep, hmem, hafter⟩ := h
  have hvalid := hrun.isValid (isValid_initial classifier)
  have hvalid' := hstep.isValid hvalid
  obtain ⟨ticket, hticket⟩ := mem_waiting_iff.1 hmem
  -- It still waits with the ticket that it began with.
  have hholds := hafter.holds (hvalid'.numbered.holds hticket)
  have hsame : TaskState.generating f.2 = .generating ticket :=
    hholds.eq_generating _ (mem_flights_iff.1 hf)
  cases hsame
  have hbegun := (hstep.effect hvalid.numbered hvalid.sound).generation_of_mem hnot hticket
  rw [hafter.generation hvalid', ← hbegun]

theorem lookup_of_mem_flights {t : Tasks} (ht : t.IsNumbered) {f : Nat × Ticket}
    (hf : f ∈ t.flights) : t.running.lookup f.1 = some (.generating f.2) :=
  ht.lookup_of_mem (mem_flights_iff.1 hf)

/-- An answer is shown, or leaves the controller as it is. -/
theorem IsValid.answer {t : Tasks} (ht : t.IsValid) {f : Nat × Ticket} (hf : f ∈ t.flights)
    (reply : Reply) :
    (f.2.generation = t.controller.session.generation →
        (t.answer f.1 reply).controller.session ≠ t.controller.session) ∧
      (f.2.generation ≠ t.controller.session.generation →
        (t.answer f.1 reply).controller = t.controller) := by
  have hcontroller : (t.answer f.1 reply).controller = t.controller.resolve f.2 reply := by
    rw [Tasks.answer, lookup_of_mem_flights ht.numbered hf]
  rw [hcontroller]
  constructor
  · intro hgeneration heq
    have hphase := ht.sound.loading_iff.2 ⟨f, hf, hgeneration⟩
    have hshown := Controller.session_resolve hgeneration hphase reply
    rw [← heq, hshown] at hphase
    cases hphase
  · exact fun hgeneration => Controller.resolve_of_ne hgeneration reply

theorem ShownSince.snoc {classifier : Classifier} {es : List Event} {s : Session} {reply : Reply}
    (h : ShownSince classifier es s reply) {e : Event} (he : e.supersedes = false) :
    ShownSince classifier (es ++ [e]) s reply := by
  obtain ⟨hshows, before, task, ticket, after, t₀, rfl, hrun, hmem, htext, hgen, hafter⟩ := h
  refine ⟨hshows, before, task, ticket, after ++ [e], t₀, by simp, hrun, hmem, htext, hgen,
    fun e' he' => ?_⟩
  rcases List.mem_append.1 he' with he' | he'
  · exact hafter e' he'
  · exact List.mem_singleton.1 he' ▸ he

/-- What is shown was delivered by the run. -/
theorem exists_shownSince {classifier : Classifier} {es : List Event} {t : Tasks}
    (h : Run (initial classifier) es t) (hready : t.controller.session.phase = .ready) :
    ∃ reply, ShownSince classifier es t.controller.session reply := by
  induction h with
  | nil => cases hready
  | @snoc t' t'' es e h he ih =>
      have hvalid := h.isValid (isValid_initial classifier)
      have heffect := he.effect hvalid.numbered hvalid.sound
      generalize t''.controller.session = s at heffect hready
      generalize t''.flights = fs at heffect
      cases heffect with
      | begun hsuper hnew d => cases hready
      | superseded hsuper hgeneration hphase =>
          rcases hphase with hphase | hphase <;> cases hphase.symm.trans hready
      | @delivered task ticket hmem hgeneration hphase reply =>
          have htext := hvalid.sound.text _ hmem hgeneration
          exact ⟨reply, ⟨rfl, rfl, rfl⟩, es, task, ticket, [], t', rfl, h, hmem, htext, hgeneration,
            nofun⟩
      | discarded hmem hgeneration reply =>
          obtain ⟨shown, hshown⟩ := ih hready
          exact ⟨shown, hshown.snoc rfl⟩
      | failed hphase hgeneration hphase' message => cases hphase'.symm.trans hready
      | refused message =>
          obtain ⟨shown, hshown⟩ := ih hready
          exact ⟨shown, hshown.snoc rfl⟩

/-- However submissions, regenerations, clearings, reports and answers overlap, the last one
wins. -/
theorem lastWins_of_run {classifier : Classifier} {es : List Event} {t : Tasks}
    (h : Run (initial classifier) es t) : LastWins classifier es t := by
  have hvalid := h.isValid (isValid_initial classifier)
  have hsound := hvalid.sound
  have hgeneration : t.controller.session.generation = es.countP Event.supersedes :=
    (h.generation (isValid_initial classifier)).trans (Nat.zero_add _)
  constructor
  case generation_eq => exact hgeneration
  case generation_le => exact hgeneration ▸ List.countP_le_length
  case loading_iff =>
    rw [hsound.loading_iff]
    constructor
    · rintro ⟨f, hf, hgeneration⟩
      exact ⟨f, ⟨hf, hgeneration⟩, fun g hg =>
        hsound.eq_of_generation_eq hg.1 hf (hg.2.trans hgeneration.symm)⟩
    · rintro ⟨f, ⟨hf, hgeneration⟩, -⟩
      exact ⟨f, hf, hgeneration⟩
  case nodup_generations => exact hsound.generations
  case not_loading =>
    intro hnone hphase
    obtain ⟨f, hf, -⟩ := hsound.loading_iff.1 hphase
    rw [hnone] at hf
    cases hf
  case exists_since => exact fun task htask => exists_waitsSince h htask
  case answer_ne_iff =>
    intro task htask after hsince reply
    obtain ⟨ticket, hmem⟩ := mem_waiting_iff.1 htask
    have hgeneration := hsince.generation (f := (task, ticket)) hmem
    obtain ⟨hshown, hdropped⟩ := hvalid.answer hmem reply
    constructor
    · intro hne e he
      by_contra hsuper
      have hpos := List.countP_pos_iff.2 ⟨e, he, by simpa using hsuper⟩
      exact hne (congrArg Controller.session (hdropped (by omega)))
    · intro hsuper
      have hzero : after.countP Event.supersedes = 0 :=
        List.countP_eq_zero.2 fun e he => by simp [hsuper e he]
      exact hshown (by omega)
  case answer_eq =>
    intro task htask after hsince reply hsuper
    obtain ⟨ticket, hmem⟩ := mem_waiting_iff.1 htask
    have hgeneration := hsince.generation (f := (task, ticket)) hmem
    have hpos := List.countP_pos_iff.2 hsuper
    have heq := (hvalid.answer hmem reply).2 (by omega)
    exact ⟨heq, by rw [heq]⟩
  case ready => exact exists_shownSince h

/-- The answer to the second submission is shown and the later answer to the first is dropped. -/
theorem lastWins_of_late_answer :
    let classifier : Classifier := ⟨["sort".toList]⟩
    let asked := ((initial classifier).submit "sort a".toList).submit "sort b".toList
    let reply : Reply := .ok "flowchart TD\nA --> B".toList
    let answered := (asked.answer 1 reply).answer 0 (.error .timeout)
    asked.waiting = [0, 1] ∧ answered.controller.session.phase = .ready ∧
      answered.controller.session.text = "sort b".toList ∧
      LastWins classifier [.submit "sort a".toList, .submit "sort b".toList, .answer 1 reply,
        .answer 0 (.error .timeout)] answered := by
  intro classifier asked reply answered
  have hfirst : Run (initial classifier) [.submit "sort a".toList] _ := Run.nil.snoc (.submit _)
  have hasked : Run (initial classifier) _ asked := hfirst.snoc (.submit "sort b".toList)
  obtain ⟨second, hsecond⟩ : ∃ ticket, asked.running.lookup 1 = some (.generating ticket) :=
    ⟨_, rfl⟩
  have hshown := hasked.snoc (.answer reply hsecond)
  obtain ⟨first, hfirst⟩ :
      ∃ ticket, (asked.answer 1 reply).running.lookup 0 = some (.generating ticket) := ⟨_, rfl⟩
  have hlate := hshown.snoc (.answer (.error .timeout) hfirst)
  refine ⟨by decide +kernel, by decide +kernel, by decide +kernel, lastWins_of_run hlate⟩

end Tasks

end Flowchart
