import Flowchart.Session
import Mathlib.Data.List.Induction

/-!
# Histories

Any transitions are offered to a session, one after another, and those that cannot be applied are
passed over. A generation is resolved at most once, and only while the text that began it is still
the one being converted. So a session that shows a diagram shows the conversion of its own text,
and results that come late may as well not come at all.
-/

namespace Flowchart

/-- Whether a transition raises the generation. -/
def Transition.renews : Transition → Bool
  | begin _ => true
  | reject _ _ => true
  | resolve _ _ => false
  | renderFailed _ => false
  | clear => true

/-- Whether a transition brings the result of a generation. -/
def Transition.resolves (generation : Nat) : Transition → Bool
  | resolve g _ => g == generation
  | _ => false

theorem Transition.resolves_eq_true_iff {generation : Nat} {t : Transition} :
    t.resolves generation = true ↔ ∃ c, t = .resolve generation c := by
  cases t <;> simp [resolves]

namespace Session

/-! ## One transition -/

/-- The transitions that a session takes, with what they make of it. -/
inductive Applies (s : Session) : Transition → Session → Prop
  | begin (d : Description) : Applies s (.begin d) ⟨.loading, d.text, s.generation + 1, none, none⟩
  | reject (text : Text) (reason : FailureReason) :
      Applies s (.reject text reason) ⟨.failed reason, text, s.generation + 1, none, none⟩
  | resolve (c : Conversion) (hphase : s.phase = .loading) :
      Applies s (.resolve s.generation c)
        ⟨.ready c.diagram, s.text, s.generation, c.fullResponse, c.fallback⟩
  | renderFailed (message : Text) (hphase : s.phase = .ready) :
      Applies s (.renderFailed message)
        ⟨.failed (.renderFailed message), s.text, s.generation, none, none⟩
  | clear : Applies s .clear ⟨.idle, [], s.generation + 1, none, none⟩

theorem apply_eq_ok_iff {s s' : Session} {t : Transition} :
    s.apply t = .ok s' ↔ Applies s t s' := by
  constructor
  · intro h
    cases t with
    | begin d =>
        cases h
        exact .begin d
    | reject text reason =>
        cases h
        exact .reject text reason
    | resolve generation c =>
        simp only [apply] at h
        split at h
        · cases h
        · rename_i hgeneration
          split at h
          · cases h
          · rename_i hphase
            cases h
            rw [not_not] at hgeneration hphase
            exact hgeneration ▸ .resolve c hphase
    | renderFailed message =>
        simp only [apply] at h
        split at h
        · cases h
        · rename_i hphase
          cases h
          exact .renderFailed message (not_not.1 hphase)
    | clear =>
        cases h
        exact .clear
  · intro h
    cases h with
    | resolve c hphase => simp [apply, hphase]
    | renderFailed message hphase => simp [apply, hphase]
    | _ => rfl

theorem advance_of_ok {s s' : Session} {t : Transition} (h : s.apply t = .ok s') :
    s.advance t = s' := by
  rw [advance, h]

theorem advance_of_error {s : Session} {t : Transition} {e : TransitionError}
    (h : s.apply t = .error e) : s.advance t = s := by
  rw [advance, h]

theorem apply_resolve_of_ne {s : Session} {generation : Nat} (h : generation ≠ s.generation)
    (c : Conversion) : s.apply (.resolve generation c) = .error (.stale generation s.generation) :=
  if_pos h

/-- A transition that renews the session is always applied, and no other changes the generation. -/
theorem generation_advance (s : Session) (t : Transition) :
    (s.advance t).generation = s.generation + if t.renews then 1 else 0 := by
  cases h : s.apply t with
  | error e =>
      rw [advance_of_error h]
      cases t with
      | resolve => rfl
      | renderFailed => rfl
      | _ => cases h
  | ok s' =>
      rw [advance_of_ok h]
      cases apply_eq_ok_iff.1 h <;> rfl

theorem text_advance {s : Session} {t : Transition} (ht : t.renews = false) :
    (s.advance t).text = s.text := by
  cases h : s.apply t with
  | error e => rw [advance_of_error h]
  | ok s' =>
      rw [advance_of_ok h]
      cases apply_eq_ok_iff.1 h with
      | resolve => rfl
      | renderFailed => rfl
      | _ => cases ht

/-! ## Runs -/

/-- The transitions of a history that are applied, in order. -/
def applied (s : Session) : List Transition → List Transition
  | [] => []
  | t :: ts =>
    match s.apply t with
    | .ok next => t :: applied next ts
    | .error _ => applied s ts

/-- What becomes of each transition of a history. -/
def outcomes (s : Session) : List Transition → List (Except TransitionError Session)
  | [] => []
  | t :: ts => s.apply t :: outcomes (s.advance t) ts

theorem run_concat (s : Session) (ts : List Transition) (t : Transition) :
    s.run (ts ++ [t]) = (s.run ts).advance t :=
  s.run_append ts [t]

theorem applied_append (s : Session) (ts us : List Transition) :
    s.applied (ts ++ us) = s.applied ts ++ (s.run ts).applied us := by
  induction ts generalizing s with
  | nil => rfl
  | cons t ts ih =>
      rw [List.cons_append, applied, applied]
      cases h : s.apply t with
      | ok next =>
          simp only [ih, List.cons_append]
          rw [run, run, List.foldl_cons, advance_of_ok h]
      | error e =>
          simp only [ih]
          rw [run, run, List.foldl_cons, advance_of_error h]

theorem applied_concat_of_ok {s s' : Session} {ts : List Transition} {t : Transition}
    (h : (s.run ts).apply t = .ok s') : s.applied (ts ++ [t]) = s.applied ts ++ [t] := by
  rw [applied_append, applied, h]
  rfl

theorem applied_concat_of_error {s : Session} {ts : List Transition} {t : Transition}
    {e : TransitionError} (h : (s.run ts).apply t = .error e) :
    s.applied (ts ++ [t]) = s.applied ts := by
  rw [applied_append, applied, h]
  exact List.append_nil _

/-- What holds at first and is kept by every transition that is applied holds of every history. -/
theorem applied_induction {P : List Transition → Session → Prop} (nil : P [] initial)
    (snoc : ∀ (applied : List Transition) (s s' : Session) (t : Transition), P applied s →
      Applies s t s' → P (applied ++ [t]) s') (ts : List Transition) :
    P (initial.applied ts) (initial.run ts) := by
  induction ts using List.reverseRecOn with
  | nil => exact nil
  | append_singleton ts t ih =>
      rw [run_concat]
      cases h : (initial.run ts).apply t with
      | ok s' =>
          rw [applied_concat_of_ok h, advance_of_ok h]
          exact snoc _ _ _ _ ih (apply_eq_ok_iff.1 h)
      | error e =>
          rw [applied_concat_of_error h, advance_of_error h]
          exact ih

/-- The generation counts the transitions that renew the session. -/
theorem generation_run (s : Session) (ts : List Transition) :
    (s.run ts).generation = s.generation + ts.countP Transition.renews := by
  induction ts using List.reverseRecOn with
  | nil => rfl
  | append_singleton ts t ih =>
      rw [run_concat, generation_advance, ih, List.countP_append, List.countP_singleton]
      omega

theorem text_run {s : Session} {ts : List Transition} (h : ∀ t ∈ ts, t.renews = false) :
    (s.run ts).text = s.text := by
  induction ts using List.reverseRecOn with
  | nil => rfl
  | append_singleton ts t ih =>
      rw [run_concat, text_advance (h t (by simp))]
      exact ih fun u hu => h u (List.mem_append_left _ hu)

/-! ## What has been applied -/

/-- The history ends with the result of the text begun last, which nothing has replaced. -/
def EndsDelivered (applied : List Transition) (d : Description) (c : Conversion) : Prop :=
  ∃ before between : List Transition,
    applied = before ++ .begin d ::
      (between ++ [.resolve (initial.run (before ++ [.begin d])).generation c]) ∧
    ∀ t ∈ between, t.renews = false

/-- How a session stands to the transitions that made it. -/
structure IsRecorded (applied : List Transition) (s : Session) : Prop where
  run_eq : initial.run applied = s
  last : ∀ before t, applied = before ++ [t] → Applies (initial.run before) t s
  loading : s.phase = .loading → ∃ before d, applied = before ++ [.begin d]
  ready : s.phase = .ready → ∃ d c, EndsDelivered applied d c
  generation_le : ∀ g c, .resolve g c ∈ applied → g ≤ s.generation
  unresolved : s.phase = .loading → ∀ c, .resolve s.generation c ∉ applied
  once : ∀ g, applied.countP (Transition.resolves g) ≤ 1

namespace IsRecorded

variable {applied : List Transition} {s s' : Session} {t : Transition}

theorem nil : IsRecorded [] initial where
  run_eq := rfl
  last before t h := by simp at h
  loading h := nomatch h
  ready h := nomatch h
  generation_le g c h := nomatch h
  unresolved h := nomatch h
  once g := Nat.zero_le 1

theorem last_concat (h : IsRecorded applied s) (ht : Applies s t s') (before : List Transition)
    (u : Transition) (he : applied ++ [t] = before ++ [u]) : Applies (initial.run before) u s' := by
  obtain ⟨rfl, hu⟩ := List.append_inj' he rfl
  cases hu
  exact h.run_eq ▸ ht

theorem run_concat (h : IsRecorded applied s) (ht : Applies s t s') :
    initial.run (applied ++ [t]) = s' := by
  rw [Session.run_concat, h.run_eq, advance_of_ok (apply_eq_ok_iff.2 ht)]

theorem concat_of_not_resolves (h : IsRecorded applied s) (ht : Applies s t s')
    (hgeneration : s.generation ≤ s'.generation) (hresolves : ∀ g, t.resolves g = false)
    (hloading : s'.phase = .loading → (∃ d, t = .begin d) ∧ s'.generation = s.generation + 1)
    (hready : s'.phase ≠ .ready) : IsRecorded (applied ++ [t]) s' := by
  have hmem : ∀ g c, Transition.resolve g c ∈ applied ++ [t] → .resolve g c ∈ applied := by
    intro g c hg
    rcases List.mem_append.1 hg with hg | hg
    · exact hg
    · have := hresolves g
      rw [← List.mem_singleton.1 hg] at this
      simp [Transition.resolves] at this
  refine ⟨h.run_concat ht, h.last_concat ht, ?_, fun hphase => absurd hphase hready, ?_, ?_, ?_⟩
  · intro hphase
    obtain ⟨⟨d, rfl⟩, -⟩ := hloading hphase
    exact ⟨_, d, rfl⟩
  · exact fun g c hg => Nat.le_trans (h.generation_le g c (hmem g c hg)) hgeneration
  · intro hphase c hc
    have hle := h.generation_le _ c (hmem _ c hc)
    have := (hloading hphase).2
    omega
  · intro g
    rw [List.countP_append, List.countP_singleton, hresolves]
    exact h.once g

/-- The one result of a generation comes while its session is loading. -/
theorem concat_resolve (h : IsRecorded applied s) (hphase : s.phase = .loading) (c : Conversion) :
    IsRecorded (applied ++ [.resolve s.generation c])
      ⟨.ready c.diagram, s.text, s.generation, c.fullResponse, c.fallback⟩ where
  run_eq := h.run_concat (.resolve c hphase)
  last := h.last_concat (.resolve c hphase)
  loading h := nomatch h
  ready _ := by
    obtain ⟨before, d, rfl⟩ := h.loading hphase
    refine ⟨d, c, before, [], ?_, nofun⟩
    rw [h.run_eq]
    simp
  generation_le g c' hg := by
    rcases List.mem_append.1 hg with hg | hg
    · exact h.generation_le g c' hg
    · cases List.mem_singleton.1 hg
      exact Nat.le_refl _
  unresolved h := nomatch h
  once g := by
    rw [List.countP_append, List.countP_singleton]
    split
    · rename_i hg
      obtain ⟨_, heq⟩ := Transition.resolves_eq_true_iff.1 hg
      cases heq
      have hnone : applied.countP (Transition.resolves s.generation) = 0 := by
        rw [List.countP_eq_zero]
        intro t ht hres
        obtain ⟨c', rfl⟩ := Transition.resolves_eq_true_iff.1 hres
        exact h.unresolved hphase c' ht
      omega
    · exact h.once g

theorem concat (h : IsRecorded applied s) (ht : Applies s t s') :
    IsRecorded (applied ++ [t]) s' := by
  cases ht with
  | begin d =>
      exact h.concat_of_not_resolves (.begin d) (Nat.le_succ _) (fun _ => rfl)
        (fun _ => ⟨⟨d, rfl⟩, rfl⟩) nofun
  | reject text reason =>
      exact h.concat_of_not_resolves (.reject text reason) (Nat.le_succ _) (fun _ => rfl) nofun
        nofun
  | resolve c hphase => exact h.concat_resolve hphase c
  | renderFailed message hphase =>
      exact h.concat_of_not_resolves (.renderFailed message hphase) (Nat.le_refl _) (fun _ => rfl)
        nofun nofun
  | clear => exact h.concat_of_not_resolves .clear (Nat.le_succ _) (fun _ => rfl) nofun nofun

theorem eq_of_endsDelivered (h : IsRecorded applied s) {d : Description} {c : Conversion}
    (hd : EndsDelivered applied d c) :
    s = ⟨.ready c.diagram, d.text, s.generation, c.fullResponse, c.fallback⟩ := by
  obtain ⟨before, between, rfl, hbetween⟩ := hd
  have hlast := h.last (before ++ .begin d :: between) _
    (by rw [List.append_assoc, List.cons_append])
  have htext : (initial.run (before ++ .begin d :: between)).text = d.text := by
    rw [run_append]
    exact text_run hbetween
  generalize initial.run (before ++ .begin d :: between) = s₀ at hlast htext
  generalize (initial.run (before ++ [.begin d])).generation = g at hlast
  cases hlast with
  | resolve c hphase => rw [htext]

end IsRecorded

theorem isRecorded_applied (ts : List Transition) :
    IsRecorded (initial.applied ts) (initial.run ts) :=
  applied_induction .nil (fun _ _ _ _ h ht => h.concat ht) ts

/-! ## Late results -/

/-- A transition of a history, or a result put in between. -/
inductive Placed where
  | own (t : Transition)
  | extra (generation : Nat) (conversion : Conversion)

namespace Placed

def transition : Placed → Transition
  | own t => t
  | extra generation conversion => .resolve generation conversion

def own? : Placed → Option Transition
  | own t => some t
  | extra _ _ => none

end Placed

/-- Every result put in between belongs to another generation than the session that it meets. -/
def ExtrasAreStale (s : Session) : List Placed → Prop
  | [] => True
  | .own t :: xs => ExtrasAreStale (s.advance t) xs
  | .extra generation conversion :: xs =>
    generation ≠ s.generation ∧ ExtrasAreStale (s.advance (.resolve generation conversion)) xs

/-- What becomes of the transitions of the history itself. -/
def ownOutcomes (s : Session) : List Placed → List (Except TransitionError Session)
  | [] => []
  | .own t :: xs => s.apply t :: ownOutcomes (s.advance t) xs
  | .extra generation conversion :: xs =>
    ownOutcomes (s.advance (.resolve generation conversion)) xs

/-- Stale results change nothing for the transitions around them. -/
theorem run_insert_stale {s : Session} {xs : List Placed} (h : ExtrasAreStale s xs) :
    s.run (xs.map Placed.transition) = s.run (xs.filterMap Placed.own?) ∧
      ownOutcomes s xs = s.outcomes (xs.filterMap Placed.own?) := by
  induction xs generalizing s with
  | nil => exact ⟨rfl, rfl⟩
  | cons x xs ih =>
      cases x with
      | own t =>
          obtain ⟨hrun, houtcomes⟩ := ih h
          exact ⟨hrun, congrArg (s.apply t :: ·) houtcomes⟩
      | extra generation conversion =>
          obtain ⟨hne, hrest⟩ := h
          have hstale := advance_of_error (apply_resolve_of_ne hne conversion)
          obtain ⟨hrun, houtcomes⟩ := ih hrest
          rw [hstale] at hrun houtcomes
          constructor
          · rw [List.map_cons, run, List.foldl_cons]
            exact hstale.symm ▸ hrun
          · rw [ownOutcomes, hstale]
            exact houtcomes

/-! ## Timely results -/

/-- No result of a history is applied late, twice or to another text than its own. -/
structure IsTimely (ts : List Transition) : Prop where
  ready_iff : (initial.run ts).phase = .ready ↔ ∃ d c, EndsDelivered (initial.applied ts) d c
  shown : ∀ d c, EndsDelivered (initial.applied ts) d c →
    initial.run ts =
      ⟨.ready c.diagram, d.text, (initial.run ts).generation, c.fullResponse, c.fallback⟩
  resolved_once : ∀ g, (initial.applied ts).countP (Transition.resolves g) ≤ 1
  /-- The counter of generations does not pass the length of the history. -/
  generation_le : (initial.run ts).generation ≤ ts.length
  stale_inserted : ∀ xs : List Placed, xs.filterMap Placed.own? = ts → ExtrasAreStale initial xs →
    initial.run (xs.map Placed.transition) = initial.run ts ∧
      ownOutcomes initial xs = initial.outcomes ts

theorem isTimely (ts : List Transition) : IsTimely ts where
  ready_iff := by
    refine ⟨(isRecorded_applied ts).ready, fun ⟨d, c, h⟩ => ?_⟩
    rw [(isRecorded_applied ts).eq_of_endsDelivered h]
    rfl
  shown d c h := (isRecorded_applied ts).eq_of_endsDelivered h
  resolved_once := (isRecorded_applied ts).once
  generation_le := by
    rw [generation_run, initial, Nat.zero_add]
    exact List.countP_le_length
  stale_inserted xs hxs h := hxs ▸ run_insert_stale h

end Session

end Flowchart
