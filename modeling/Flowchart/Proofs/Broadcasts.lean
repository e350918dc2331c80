import Flowchart.Proofs.Histories
import Flowchart.Proofs.Overlaps

/-!
# What subscribers see

Every section of a task offers one transition to the controller. A transition that is applied is
sent as one snapshot, and one that fails is not sent. So the snapshots that were sent are the
stages of the history that the sections make together, none left out, and the last one shows the
session as it is.
-/

namespace Flowchart

/-- What may be sent next after a snapshot. -/
inductive Snapshot.Precedes (a b : Snapshot) : Prop
  | renewed (hgeneration : b.generation = a.generation + 1)
  | resolved (hgeneration : b.generation = a.generation) (hbefore : a.phase = .loading)
      (hafter : b.phase = .ready)
  | renderFailed (hgeneration : b.generation = a.generation) (hbefore : a.phase = .ready)
      (hafter : b.phase = .failed)

theorem Snapshot.Precedes.generation_le {a b : Snapshot} (h : a.Precedes b) :
    a.generation ≤ b.generation ∧ b.generation ≤ a.generation + 1 := by
  cases h <;> omega

namespace Session

theorem Applies.precedes {s s' : Session} {t : Transition} (h : Applies s t s') :
    s.snapshot.Precedes s'.snapshot := by
  cases h with
  | begin d => exact .renewed rfl
  | reject text reason => exact .renewed rfl
  | resolve c hphase => exact .resolved rfl hphase rfl
  | renderFailed message hphase => exact .renderFailed rfl hphase rfl
  | clear => exact .renewed rfl

/-- The sessions that a history goes through, one for each transition that is applied. -/
def stages (s : Session) : List Transition → List Session
  | [] => []
  | t :: ts =>
    match s.apply t with
    | .ok next => next :: next.stages ts
    | .error _ => s.stages ts

theorem length_stages (s : Session) (ts : List Transition) :
    (s.stages ts).length = (s.applied ts).length := by
  induction ts generalizing s with
  | nil => rfl
  | cons t ts ih =>
      rw [stages, applied]
      cases s.apply t with
      | ok next => exact congrArg Nat.succ (ih next)
      | error e => exact ih s

theorem isChain_stages (s : Session) (ts : List Transition) :
    List.IsChain Snapshot.Precedes ((s :: s.stages ts).map snapshot) := by
  induction ts generalizing s with
  | nil => exact .singleton _
  | cons t ts ih =>
      rw [stages]
      cases h : s.apply t with
      | ok next => exact List.isChain_cons_cons.2 ⟨(apply_eq_ok_iff.1 h).precedes, ih next⟩
      | error e => exact ih s

theorem getLastD_stages (s : Session) (ts : List Transition) :
    (s.stages ts).getLastD s = s.run ts := by
  induction ts generalizing s with
  | nil => rfl
  | cons t ts ih =>
      rw [stages, run, List.foldl_cons]
      cases h : s.apply t with
      | ok next =>
          rw [advance_of_ok h]
          exact List.getLastD_cons.trans (ih next)
      | error e =>
          rw [advance_of_error h]
          exact ih s

end Session

namespace Controller

def offerAll (c : Controller) (ts : List Transition) : Controller :=
  ts.foldl offer c

theorem offer_of_ok {c : Controller} {t : Transition} {s : Session}
    (h : c.session.apply t = .ok s) : c.offer t = ⟨c.classifier, s, s.snapshot :: c.sent⟩ := by
  rw [offer, commit, h]
  rfl

theorem offer_of_error {c : Controller} {t : Transition} {e : TransitionError}
    (h : c.session.apply t = .error e) : c.offer t = c := by
  rw [offer, commit, h]
  rfl

theorem session_offerAll (c : Controller) (ts : List Transition) :
    (c.offerAll ts).session = c.session.run ts := by
  induction ts generalizing c with
  | nil => rfl
  | cons t ts ih =>
      rw [offerAll, List.foldl_cons, Session.run, List.foldl_cons, ← session_offer]
      exact ih (c.offer t)

/-- What is sent are the stages of the history, the latest first. -/
theorem sent_offerAll (c : Controller) (ts : List Transition) :
    (c.offerAll ts).sent = ((c.session.stages ts).map Session.snapshot).reverse ++ c.sent := by
  induction ts generalizing c with
  | nil => rfl
  | cons t ts ih =>
      have hrest : (c.offerAll (t :: ts)).sent = ((c.offer t).offerAll ts).sent := rfl
      rw [hrest, ih, Session.stages]
      cases h : c.session.apply t with
      | ok s =>
          rw [offer_of_ok h]
          simp
      | error e => rw [offer_of_error h]

end Controller

namespace Tasks

/-! ## Sections as transitions -/

/-- The transition that a section offers. -/
def Event.transition? (t : Tasks) : Event → Option Transition
  | submit text => some (.submit t.controller.classifier text)
  | regenerate => some .clear
  | resubmit task =>
    match t.running.lookup task with
    | some (.withdrawn text) => some (.submit t.controller.classifier text)
    | _ => none
  | answer task reply =>
    match t.running.lookup task with
    | some (.generating ticket) => some (.resolve ticket.generation (.ofReply reply))
    | _ => none
  | clear => some .clear
  | reportRenderError message => some (.renderFailed message)

theorem controller_submitSection (t : Tasks) (task : Nat) (text : Text) :
    (t.submitSection task text).controller =
      t.controller.offer (.submit t.controller.classifier text) := by
  rw [← Controller.fst_submit]
  unfold submitSection
  split <;> simp_all

/-- Every section offers one transition, and changes the controller in no other way. -/
theorem Step.offers {t t' : Tasks} {e : Event} (h : Step t e t') :
    ∃ tr, e.transition? t = some tr ∧ t'.controller = t.controller.offer tr := by
  cases h with
  | submit text =>
      exact ⟨_, rfl, controller_submitSection { t with started := t.started + 1 } t.started text⟩
  | regenerate => exact ⟨_, rfl, rfl⟩
  | @resubmit task text hlookup =>
      refine ⟨.submit t.controller.classifier text, by simp [Event.transition?, hlookup], ?_⟩
      rw [resubmit_eq hlookup]
      exact (t.drop task).controller_submitSection task text
  | @answer task ticket reply hlookup =>
      refine ⟨.resolve ticket.generation (.ofReply reply), by simp [Event.transition?, hlookup], ?_⟩
      rw [answer_eq hlookup]
      rfl
  | clear => exact ⟨_, rfl, rfl⟩
  | @reportRenderError _ message hreport =>
      refine ⟨_, rfl, ?_⟩
      unfold Tasks.reportRenderError Controller.reportRenderError at hreport
      rw [Controller.offer]
      cases hcommit : t.controller.commit (.renderFailed message) with
      | ok next =>
          rw [hcommit] at hreport
          cases hreport
          rfl
      | error e =>
          rw [hcommit] at hreport
          cases hreport
  | @refuseRenderError message e hreport =>
      refine ⟨_, rfl, ?_⟩
      unfold Tasks.reportRenderError Controller.reportRenderError at hreport
      rw [Controller.offer]
      cases hcommit : t.controller.commit (.renderFailed message) with
      | ok next =>
          rw [hcommit] at hreport
          cases hreport
      | error e => rfl

/-- The run offers the transitions in this order. -/
inductive Offers (t : Tasks) : List Event → List Transition → Tasks → Prop
  | nil : Offers t [] [] t
  | snoc {t' t'' : Tasks} {es : List Event} {ts : List Transition} {e : Event} {tr : Transition}
      (h : Offers t es ts t') (he : Step t' e t'') (htr : e.transition? t' = some tr) :
      Offers t (es ++ [e]) (ts ++ [tr]) t''

theorem Run.exists_offers {t t' : Tasks} {es : List Event} (h : Run t es t') :
    ∃ ts, Offers t es ts t' := by
  induction h with
  | nil => exact ⟨[], .nil⟩
  | snoc _ he ih =>
      obtain ⟨ts, hoffers⟩ := ih
      obtain ⟨tr, htr, -⟩ := he.offers
      exact ⟨_, hoffers.snoc he htr⟩

theorem Offers.controller_eq {t t' : Tasks} {es : List Event} {ts : List Transition}
    (h : Offers t es ts t') : t'.controller = t.controller.offerAll ts := by
  induction h with
  | nil => rfl
  | @snoc _ _ _ _ _ tr _ he htr ih =>
      obtain ⟨tr', htr', hcontroller⟩ := he.offers
      cases htr.symm.trans htr'
      rw [hcontroller, ih]
      exact (List.foldl_concat _ _ _ _).symm

/-! ## What is sent -/

/-- What a section sends: the snapshot of the transition that it applies, or nothing where the
transition fails. -/
inductive Sends (c : Controller) (tr : Transition) (c' : Controller) : Prop
  | applied {s : Session} (happly : c.session.apply tr = .ok s) (hsession : c'.session = s)
      (hsent : c'.sent = s.snapshot :: c.sent)
  | failed {e : TransitionError} (happly : c.session.apply tr = .error e)
      (hcontroller : c' = c)

theorem Step.sends {t t' : Tasks} {e : Event} (h : Step t e t') :
    ∃ tr, e.transition? t = some tr ∧ Sends t.controller tr t'.controller := by
  obtain ⟨tr, htr, hcontroller⟩ := h.offers
  refine ⟨tr, htr, ?_⟩
  rw [hcontroller]
  cases happly : t.controller.session.apply tr with
  | ok s =>
      rw [Controller.offer_of_ok happly]
      exact .applied happly rfl rfl
  | error e => exact .failed happly (Controller.offer_of_error happly)

/-- What subscribers have been sent in a run, and what the next section sends. -/
structure Broadcasts (classifier : Classifier) (es : List Event) (t : Tasks) : Prop where
  latest_eq : t.controller.latest = t.controller.snapshot
  sends : ∀ e t', Step t e t' →
    ∃ tr, e.transition? t = some tr ∧ Sends t.controller tr t'.controller
  /-- The snapshots that were sent are the stages of the history. -/
  history : ∃ ts, Offers (initial classifier) es ts t ∧
    t.controller.session = Session.initial.run ts ∧
    t.controller.sent.reverse = (Session.initial.stages ts).map Session.snapshot ∧
    t.controller.sent.length = (Session.initial.applied ts).length
  isChain : List.IsChain Snapshot.Precedes
    (Session.initial.snapshot :: t.controller.sent.reverse)
  generation_le : List.Pairwise (fun a b : Snapshot => a.generation ≤ b.generation)
    (Session.initial.snapshot :: t.controller.sent.reverse)

theorem Offers.latest_eq {classifier : Classifier} {es : List Event} {ts : List Transition}
    {t : Tasks} (h : Offers (initial classifier) es ts t) :
    t.controller.latest = t.controller.snapshot := by
  have hsent : t.controller.sent = ((Session.initial.stages ts).map Session.snapshot).reverse := by
    rw [h.controller_eq, Controller.sent_offerAll]
    exact List.append_nil _
  have hsession : t.controller.session = Session.initial.run ts := by
    rw [h.controller_eq, Controller.session_offerAll]
    rfl
  rw [Controller.latest, hsent, Controller.snapshot, hsession, ← Session.getLastD_stages,
    List.headD_eq_head?_getD, List.head?_reverse, List.getLast?_map, List.getLastD_eq_getLast?]
  cases (Session.initial.stages ts).getLast? <;> rfl

/-- Subscribers see the history of the session, none of it left out and nothing else. -/
theorem broadcasts_of_run {classifier : Classifier} {es : List Event} {t : Tasks}
    (h : Run (initial classifier) es t) : Broadcasts classifier es t := by
  obtain ⟨ts, hoffers⟩ := h.exists_offers
  have hsession : t.controller.session = Session.initial.run ts := by
    rw [hoffers.controller_eq, Controller.session_offerAll]
    rfl
  have hsent : t.controller.sent.reverse = (Session.initial.stages ts).map Session.snapshot := by
    rw [hoffers.controller_eq, Controller.sent_offerAll]
    simp [initial, Controller.initial]
  have hchain : List.IsChain Snapshot.Precedes
      (Session.initial.snapshot :: t.controller.sent.reverse) := by
    rw [hsent]
    exact Session.isChain_stages Session.initial ts
  constructor
  case latest_eq => exact hoffers.latest_eq
  case sends => exact fun e t' he => he.sends
  case history =>
    refine ⟨ts, hoffers, hsession, hsent, ?_⟩
    rw [← List.length_reverse, hsent, List.length_map, Session.length_stages]
  case isChain => exact hchain
  case generation_le =>
    exact List.IsChain.pairwise (hchain.imp fun _ _ hab => hab.generation_le.1)

/-- A stale answer and a report outside a shown diagram are not sent. -/
theorem broadcasts_of_stale_answer :
    let classifier : Classifier := ⟨["sort".toList]⟩
    let asked := ((initial classifier).submit "sort a".toList).submit "sort b".toList
    let reply : Reply := .ok "flowchart TD\nA --> B".toList
    let answered := (asked.answer 0 (.error .timeout)).answer 1 reply
    let es : List Event := [.submit "sort a".toList, .submit "sort b".toList,
      .answer 0 (.error .timeout), .reportRenderError [], .answer 1 reply]
    answered.controller.sent.map Snapshot.phase = [.ready, .loading, .loading] ∧
      answered.controller.sent.map Snapshot.generation = [2, 2, 1] ∧
      Broadcasts classifier es answered := by
  intro classifier asked reply answered es
  have hasked : Run (initial classifier) [.submit "sort a".toList, .submit "sort b".toList] asked :=
    (Run.nil.snoc (.submit _)).snoc (.submit _)
  obtain ⟨first, hfirst⟩ : ∃ ticket, asked.running.lookup 0 = some (.generating ticket) := ⟨_, rfl⟩
  have hstale := hasked.snoc (.answer (.error .timeout) hfirst)
  obtain ⟨e, hrefused⟩ : ∃ e, (asked.answer 0 (.error .timeout)).reportRenderError [] = .error e :=
    ⟨_, rfl⟩
  have hreported := hstale.snoc (.refuseRenderError hrefused)
  obtain ⟨second, hsecond⟩ : ∃ ticket,
      (asked.answer 0 (.error .timeout)).running.lookup 1 = some (.generating ticket) := ⟨_, rfl⟩
  have hrun : Run (initial classifier) es answered := hreported.snoc (.answer reply hsecond)
  exact ⟨by decide +kernel, by decide +kernel, broadcasts_of_run hrun⟩

end Tasks

end Flowchart
