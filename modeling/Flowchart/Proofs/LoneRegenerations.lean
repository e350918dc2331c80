import Flowchart.Proofs.StoredTexts

/-!
# A regeneration by itself

A regeneration clears the session and submits its text again. Where no other operation goes on in
between, the text comes through from every state: a text that was accepted is converted once more,
with one call, and a text that was turned down is turned down again, without a call. Late answers to
earlier tasks make no difference.
-/

namespace Flowchart

namespace Controller

/-- What the two sections of a regeneration make of a controller, and the ticket that they give. -/
def regenerated (c : Controller) : Controller × Option Ticket :=
  c.withdraw.1.submit c.withdraw.2

theorem regenerated_cases (c : Controller) :
    (∃ d : Description, d.text = c.session.text ∧
      Transition.submit c.classifier c.session.text = .begin d ∧
        c.regenerated.1.session =
            ⟨.loading, c.session.text, c.session.generation + 2, none, none⟩ ∧
          c.regenerated.2 = some ⟨c.session.generation + 2, d⟩) ∨
      ∃ reason, Transition.submit c.classifier c.session.text = .reject c.session.text reason ∧
        c.regenerated.1.session =
            ⟨.failed reason, c.session.text, c.session.generation + 2, none, none⟩ ∧
          c.regenerated.2 = none := by
  rcases c.withdraw.1.submit_cases c.withdraw.2 with
    ⟨d, hd, hsession, hticket⟩ | ⟨reason, hreason, hsession, hticket⟩
  · have htext : d.text = c.session.text := Transition.text_of_submit hd
    rw [htext] at hsession
    exact .inl ⟨d, htext, hd, hsession, hticket⟩
  · exact .inr ⟨reason, hreason, hsession, hticket⟩

/-- A session that was regenerated waits for the ticket, or has failed. -/
theorem exists_ticket_of_regenerated {c : Controller}
    (h : c.regenerated.1.session.phase = .loading) :
    ∃ ticket, c.regenerated.2 = some ticket ∧
      ticket.generation = c.regenerated.1.session.generation := by
  rcases c.regenerated_cases with ⟨d, -, -, hsession, hticket⟩ | ⟨reason, -, hsession, -⟩
  · exact ⟨_, hticket, by rw [hsession]⟩
  · rw [hsession] at h
    cases h

theorem session_regenerated {c : Controller} (h : c.session.IsJudged c.classifier) :
    c.regenerated.1.session = ⟨c.session.state.refusal?.elim .loading .failed, c.session.text,
      c.session.generation + 2, none, none⟩ := by
  rcases c.regenerated_cases with ⟨d, -, hd, hsession, -⟩ | ⟨reason, hreason, hsession, -⟩
  · rw [hsession, h.refusal?_eq_none hd]
    rfl
  · rw [hsession, h.refusal?_eq_some hreason]
    rfl

theorem session_resolve_regenerated {c : Controller} {ticket : Ticket}
    (h : c.regenerated.2 = some ticket) (reply : Reply) :
    (c.regenerated.1.resolve ticket reply).session =
      ⟨.ready (Conversion.ofReply reply).diagram, c.session.text, c.session.generation + 2,
        (Conversion.ofReply reply).fullResponse, (Conversion.ofReply reply).fallback⟩ := by
  rcases c.regenerated_cases with ⟨d, -, -, hsession, hticket⟩ | ⟨reason, -, -, hticket⟩
  · cases h.symm.trans hticket
    rw [session_resolve (by rw [hsession]) (by rw [hsession]; rfl), hsession]
  · cases h.symm.trans hticket

/-- Each of the two sections sends its snapshot. -/
theorem sent_regenerated (c : Controller) :
    c.regenerated.1.sent = c.regenerated.1.snapshot :: c.clear.snapshot :: c.sent := by
  have hregenerated : c.regenerated.1 = c.clear.offer (.submit c.classifier c.session.text) :=
    c.clear.fst_submit _
  rw [hregenerated]
  rcases Transition.submit_cases c.classifier c.session.text with ⟨d, hd⟩ | ⟨reason, hreason⟩
  · rw [hd]
    rfl
  · rw [hreason]
    rfl

end Controller

theorem Tasks.running_submitSection (t : Tasks) (task : Nat) (text : Text) :
    (t.submitSection task text).running = t.running ++
      ((t.controller.submit text).2.map fun ticket => (task, .generating ticket)).toList := by
  unfold submitSection
  split <;> simp_all

namespace Switchboard

/-! ## Runs with nothing in between -/

/-- The tasks run as they do without single conversions, and what bounds their generation there
bounds it here. -/
theorem Run.exists_tasks {b b' : Switchboard} {ops : List (Asker × Text)} (h : Run b ops b') :
    ∃ es, Tasks.Run b.tasks es b'.tasks := by
  induction h with
  | nil => exact ⟨[], .nil⟩
  | snoc _ he ih =>
      obtain ⟨es, hrun⟩ := ih
      cases he with
      | tasks h => exact ⟨_, hrun.snoc h⟩
      | receive h =>
          rw [(receive_cases h _).1]
          exact ⟨es, hrun⟩
      | ask h => exact ⟨es, hrun⟩
      | askSingle h => exact ⟨es, hrun⟩
      | finish h => exact ⟨es, hrun⟩

/-- How far a regeneration has come. -/
inductive Stage where
  | withdrawn
  | submitted
  | asked
  | answered

/-- A new task regenerates and no other operation goes on, but answers to earlier tasks may come in
at any point. -/
inductive Regenerates (b : Switchboard) : Stage → Switchboard → Prop
  | withdraw {b' : Switchboard} (he : Step b (.tasks .regenerate) b') : Regenerates b .withdrawn b'
  | submit {b' b'' : Switchboard} (h : Regenerates b .withdrawn b')
      (he : Step b' (.tasks (.resubmit b.tasks.started)) b'') : Regenerates b .submitted b''
  | ask {b' b'' : Switchboard} (h : Regenerates b .submitted b')
      (he : Step b' (.ask (.task b.tasks.started)) b'') : Regenerates b .asked b''
  | answer {b' b'' : Switchboard} {reply : Reply} (h : Regenerates b .asked b')
      (he : Step b' (.tasks (.answer b.tasks.started reply)) b'') : Regenerates b .answered b''
  | late {b' b'' : Switchboard} {stage : Stage} {task : Nat} {reply : Reply}
      (h : Regenerates b stage b') (hother : task ≠ b.tasks.started)
      (he : Step b' (.tasks (.answer task reply)) b'') : Regenerates b stage b''

/-! ## Where the task stands -/

/-- Where a task stands and which reply it has, with the controller and the client meanwhile. -/
structure Standing where
  state? : Option TaskState
  reply? : Option Reply
  controller : Controller
  client : Client

/-- If the session is loading, it waits for this task. -/
def Standing.IsAwaited (p : Standing) : Prop :=
  p.controller.session.phase = .loading → ∃ ticket, p.state? = some (.generating ticket) ∧
    ticket.generation = p.controller.session.generation

/-- The task with the number stands there. -/
structure Finds (b : Switchboard) (n : Nat) (p : Standing) : Prop where
  valid : b.tasks.IsValid
  mem_running_iff : ∀ state, (n, state) ∈ b.tasks.running ↔ p.state? = some state
  mem_replies_iff : ∀ reply, (.task n, reply) ∈ b.replies ↔ p.reply? = some reply
  controller_eq : b.tasks.controller = p.controller
  client_eq : b.client = p.client

section

variable {b b' : Switchboard} {n : Nat} {p : Standing}

theorem Finds.lookup (h : b.Finds n p) {state : TaskState} (hstate : p.state? = some state) :
    b.tasks.running.lookup n = some state :=
  h.valid.numbered.lookup_of_mem ((h.mem_running_iff state).2 hstate)

theorem Finds.state?_eq (h : b.Finds n p) {state : TaskState}
    (hlookup : b.tasks.running.lookup n = some state) : p.state? = some state :=
  (h.mem_running_iff state).1 (Tasks.mem_of_lookup hlookup)

theorem Finds.notMem (h : b.Finds n p) (hstate : p.state? = none) :
    n ∉ b.tasks.running.map Prod.fst := by
  intro hmem
  obtain ⟨⟨_, state⟩, hentry, rfl⟩ := List.mem_map.1 hmem
  cases hstate.symm.trans ((h.mem_running_iff state).1 hentry)

theorem Finds.exists_resubmit (h : b.Finds n p) {text : Text}
    (hstate : p.state? = some (.withdrawn text)) : ∃ b', Step b (.tasks (.resubmit n)) b' :=
  ⟨_, .tasks (.resubmit (h.lookup hstate)) nofun⟩

theorem Finds.exists_ask (h : b.Finds n p) {ticket : Ticket}
    (hstate : p.state? = some (.generating ticket)) (hreply : p.reply? = none) :
    ∃ b', Step b (.ask (.task n)) b' := by
  refine ⟨_, .ask (h.lookup hstate) fun hmem => ?_⟩
  obtain ⟨⟨_, reply⟩, hentry, rfl⟩ := List.mem_map.1 hmem
  cases hreply.symm.trans ((h.mem_replies_iff reply).1 hentry)

theorem Finds.exists_answer (h : b.Finds n p) {ticket : Ticket} {reply : Reply}
    (hstate : p.state? = some (.generating ticket)) (hreply : p.reply? = some reply) :
    ∃ b', Step b (.tasks (.answer n reply)) b' := by
  refine ⟨_, .tasks (.answer reply (h.lookup hstate)) ?_⟩
  rintro _ _ ⟨⟩
  exact (h.mem_replies_iff reply).2 hreply

/-- An answer to another task is stale and changes nothing for this one. -/
theorem Finds.late (h : b.Finds n p) (hp : p.IsAwaited) {task : Nat} {reply : Reply}
    (hother : task ≠ n) (he : Step b (.tasks (.answer task reply)) b') : b'.Finds n p := by
  cases he with
  | tasks he hreply =>
      have hvalid := he.isValid h.valid
      cases he with
      | @answer _ ticket _ hlookup =>
          have hmem : (task, ticket) ∈ b.tasks.flights :=
            Tasks.mem_flights_iff.2 (Tasks.mem_of_lookup hlookup)
          have hstale : ticket.generation ≠ b.tasks.controller.session.generation := by
            intro hgeneration
            have hphase := h.valid.sound.loading_iff.2 ⟨_, hmem, hgeneration⟩
            obtain ⟨own, hown, hsame⟩ := hp (h.controller_eq ▸ hphase)
            rw [← h.controller_eq] at hsame
            have hflight : (n, own) ∈ b.tasks.flights :=
              Tasks.mem_flights_iff.2 ((h.mem_running_iff _).2 hown)
            have heq := h.valid.sound.eq_of_generation_eq hmem hflight
              (hgeneration.trans hsame.symm)
            exact hother (congrArg Prod.fst heq)
          constructor
          case valid => exact hvalid
          case mem_running_iff =>
            intro state
            rw [Tasks.answer_eq hlookup, ← h.mem_running_iff]
            exact List.mem_filter.trans (and_iff_left (by simpa using hother.symm))
          case mem_replies_iff =>
            intro reply'
            rw [← h.mem_replies_iff]
            exact List.mem_filter.trans (and_iff_left (by simpa [Event.ends] using hother.symm))
          case controller_eq => rw [(h.valid.answer hmem reply).2 hstale, h.controller_eq]
          case client_eq => exact h.client_eq

/-! ### One section after another -/

theorem finds_withdrawn (hb : b.tasks.IsValid)
    (hnone : .task b.tasks.started ∉ b.replies.map Prod.fst)
    (he : Step b (.tasks .regenerate) b') :
    b'.Finds b.tasks.started ⟨some (.withdrawn b.tasks.controller.session.text), none,
      b.tasks.controller.clear, b.client⟩ := by
  cases he with
  | tasks he hreply =>
      have hvalid := he.isValid hb
      cases he with
      | regenerate =>
          constructor
          case valid => exact hvalid
          case mem_running_iff =>
            intro state
            have hnew : (b.tasks.started, state) ∉ b.tasks.running :=
              fun h => hb.numbered.started_notMem (List.mem_map_of_mem h)
            rw [Tasks.regenerate, List.mem_append, or_iff_right hnew, List.mem_singleton]
            simp [Controller.withdraw, eq_comm]
          case mem_replies_iff =>
            refine fun reply => iff_of_false (fun h => hnone ?_) (Option.some_ne_none reply).symm
            exact List.mem_map_of_mem (List.mem_filter.1 h).1
          case controller_eq => rfl
          case client_eq => rfl

theorem Finds.resubmit {text : Text} {c : Controller} {client : Client}
    (h : b.Finds n ⟨some (.withdrawn text), none, c, client⟩)
    (he : Step b (.tasks (.resubmit n)) b') :
    b'.Finds n ⟨(c.submit text).2.map .generating, none, (c.submit text).1, client⟩ := by
  cases he with
  | tasks he hreply =>
      have hvalid := he.isValid h.valid
      cases he with
      | resubmit hlookup =>
          cases h.state?_eq hlookup
          constructor
          case valid => exact hvalid
          case mem_running_iff =>
            intro state
            have hgone : (n, state) ∉ (b.tasks.drop n).running :=
              fun h => b.tasks.notMem_drop n (List.mem_map_of_mem h)
            have hdrop : (b.tasks.drop n).controller = c := h.controller_eq
            rw [Tasks.resubmit_eq hlookup, Tasks.running_submitSection, List.mem_append,
              or_iff_right hgone, hdrop]
            cases (c.submit text).2 <;> simp [eq_comm]
          case mem_replies_iff =>
            intro reply
            rw [← h.mem_replies_iff]
            exact List.mem_filter.trans (and_iff_left rfl)
          case controller_eq =>
            have hdrop : (b.tasks.drop n).controller = c := h.controller_eq
            rw [Tasks.resubmit_eq hlookup, Tasks.controller_submitSection, hdrop,
              Controller.fst_submit]
          case client_eq => exact h.client_eq

theorem Finds.ask {ticket : Ticket} {c : Controller} {client : Client}
    (h : b.Finds n ⟨some (.generating ticket), none, c, client⟩)
    (he : Step b (.ask (.task n)) b') :
    b'.Finds n ⟨some (.generating ticket), some client.next, c,
      (client.generate (Prompt.build ticket.description)).2⟩ := by
  cases he with
  | ask hlookup hnone =>
      cases h.state?_eq hlookup
      constructor
      case valid => exact h.valid
      case mem_running_iff => exact h.mem_running_iff
      case mem_replies_iff =>
        intro reply
        have hold : (.task n, reply) ∉ b.replies := fun h => hnone (List.mem_map_of_mem h)
        rw [Switchboard.ask, List.mem_append, or_iff_right hold, List.mem_singleton, h.client_eq,
          Client.generate_fst]
        simp [eq_comm]
      case controller_eq => exact h.controller_eq
      case client_eq => rw [Switchboard.ask, h.client_eq]

theorem Finds.answer {ticket : Ticket} {reply reply' : Reply} {c : Controller} {client : Client}
    (h : b.Finds n ⟨some (.generating ticket), some reply, c, client⟩)
    (he : Step b (.tasks (.answer n reply')) b') :
    b'.Finds n ⟨none, none, c.resolve ticket reply, client⟩ := by
  cases he with
  | tasks he hreply =>
      have hvalid := he.isValid h.valid
      cases (h.mem_replies_iff _).1 (hreply n _ rfl)
      cases he with
      | answer reply hlookup =>
          cases h.state?_eq hlookup
          constructor
          case valid => exact hvalid
          case mem_running_iff =>
            intro state
            refine iff_of_false (fun hmem => b.tasks.notMem_drop n ?_) nofun
            rw [Tasks.answer_eq hlookup] at hmem
            exact List.mem_map_of_mem hmem
          case mem_replies_iff =>
            refine fun reply' => iff_of_false (fun hmem => ?_) nofun
            simpa [Event.ends] using (List.mem_filter.1 hmem).2
          case controller_eq =>
            have hcontroller : b.tasks.controller = c := h.controller_eq
            rw [Tasks.answer_eq hlookup, hcontroller]
          case client_eq => exact h.client_eq

/-- Where a regeneration stands at a stage, if it gets there. -/
def standing? (b : Switchboard) : Stage → Option Standing
  | .withdrawn =>
    some ⟨some (.withdrawn b.tasks.controller.session.text), none, b.tasks.controller.clear,
      b.client⟩
  | .submitted =>
    let submitted := b.tasks.controller.regenerated
    some ⟨submitted.2.map .generating, none, submitted.1, b.client⟩
  | .asked =>
    let submitted := b.tasks.controller.regenerated
    submitted.2.map fun ticket =>
      ⟨some (.generating ticket), some b.client.next, submitted.1,
        (b.client.generate (Prompt.build ticket.description)).2⟩
  | .answered =>
    let submitted := b.tasks.controller.regenerated
    submitted.2.map fun ticket =>
      ⟨none, none, submitted.1.resolve ticket b.client.next,
        (b.client.generate (Prompt.build ticket.description)).2⟩

theorem isAwaited_of_standing? {stage : Stage} (h : b.standing? stage = some p) : p.IsAwaited := by
  cases stage with
  | withdrawn =>
      cases h
      exact nofun
  | submitted =>
      cases h
      intro hphase
      obtain ⟨ticket, hticket, hgeneration⟩ := Controller.exists_ticket_of_regenerated hphase
      exact ⟨ticket, by rw [hticket]; rfl, hgeneration⟩
  | asked =>
      obtain ⟨ticket, hticket, rfl⟩ := Option.map_eq_some_iff.1 h
      intro hphase
      obtain ⟨ticket', hticket', hgeneration⟩ := Controller.exists_ticket_of_regenerated hphase
      cases hticket.symm.trans hticket'
      exact ⟨ticket, rfl, hgeneration⟩
  | answered =>
      obtain ⟨ticket, hticket, rfl⟩ := Option.map_eq_some_iff.1 h
      intro hphase
      rw [Controller.session_resolve_regenerated hticket] at hphase
      cases hphase

/-! ## Stages -/

/-- What every run keeps up for the regenerations to come. -/
structure IsSteady (b : Switchboard) : Prop where
  valid : b.tasks.IsValid
  judged : b.tasks.controller.session.IsJudged b.tasks.controller.classifier
  notMem : .task b.tasks.started ∉ b.replies.map Prod.fst

theorem Run.isSteady {classifier : Classifier} {client : Client} {ops : List (Asker × Text)}
    (h : Run (initial classifier client) ops b) : b.IsSteady := by
  obtain ⟨es, hrun⟩ := h.exists_tasks
  constructor
  case valid => exact hrun.isValid (Tasks.isValid_initial classifier)
  case judged => exact hrun.isJudged (Session.isJudged_initial classifier)
  case notMem =>
    -- A reply was asked for, by an operation that has a number already.
    intro hmem
    have hb := h.isAccounted
    obtain ⟨⟨_, d⟩, hm, heq⟩ := List.mem_map.1 (hb.mem_asked _ hmem)
    obtain ⟨text, hop, -⟩ := mem_questions_iff.1 ((hb.mem_questions_iff _).2 (.inl hm))
    have hbegun := hb.hasBegun _ hop
    cases heq
    exact Nat.lt_irrefl _ hbegun

theorem Regenerates.finds {stage : Stage} (hb : b.IsSteady) (h : Regenerates b stage b') :
    ∃ p, b.standing? stage = some p ∧ b'.Finds b.tasks.started p := by
  induction h with
  | withdraw he => exact ⟨_, rfl, finds_withdrawn hb.valid hb.notMem he⟩
  | submit _ he ih =>
      obtain ⟨p, hp, hfinds⟩ := ih
      cases hp
      exact ⟨_, rfl, hfinds.resubmit he⟩
  | ask _ he ih =>
      obtain ⟨p, hp, hfinds⟩ := ih
      cases hp
      cases hticket : b.tasks.controller.regenerated.2 with
      | none =>
          rw [hticket] at hfinds
          cases he with
          | ask hlookup => cases hfinds.state?_eq hlookup
      | some ticket =>
          rw [hticket] at hfinds
          exact ⟨_, by rw [standing?, hticket]; rfl, hfinds.ask he⟩
  | answer _ he ih =>
      obtain ⟨p, hp, hfinds⟩ := ih
      obtain ⟨ticket, hticket, rfl⟩ := Option.map_eq_some_iff.1 hp
      exact ⟨_, by rw [standing?, hticket]; rfl, hfinds.answer he⟩
  | late _ hother he ih =>
      obtain ⟨p, hp, hfinds⟩ := ih
      exact ⟨p, hp, hfinds.late (isAwaited_of_standing? hp) hother he⟩

/-- Until the reply is brought back, nothing is done to the session but the two sections. -/
theorem Regenerates.controller_eq {stage : Stage} (hb : b.IsSteady) (h : Regenerates b stage b')
    (hstage : stage = .submitted ∨ stage = .asked) :
    b'.tasks.controller = b.tasks.controller.regenerated.1 := by
  obtain ⟨p, hp, hfinds⟩ := h.finds hb
  rcases hstage with rfl | rfl
  · cases hp
    exact hfinds.controller_eq
  · obtain ⟨ticket, -, rfl⟩ := Option.map_eq_some_iff.1 hp
    exact hfinds.controller_eq

/-- Once the text is accepted, the service is asked about it, and the reply is brought back. -/
structure Converts (b : Switchboard) (d : Description) : Prop where
  text_eq : d.text = b.tasks.controller.session.text
  /-- The prompt that is sent reads back as the text. -/
  description?_prompt :
    Prompt.description? (Prompt.build d) = some b.tasks.controller.session.text
  submitted : ∀ b', Regenerates b .submitted b' →
    b'.tasks.controller.session.phase = .loading ∧ b'.client = b.client ∧
      ∃ b'', Step b' (.ask (.task b.tasks.started)) b''
  asked : ∀ b', Regenerates b .asked b' →
    b'.tasks.controller.session.phase = .loading ∧
      b'.client.prompts = b.client.prompts ++ [Prompt.build d] ∧
        ∃ b'', Step b' (.tasks (.answer b.tasks.started b.client.next)) b''
  answered : ∀ b', Regenerates b .answered b' →
    Tasks.Shows b'.tasks.controller.session b.client.next ∧
      b'.client.prompts = b.client.prompts ++ [Prompt.build d] ∧
        b.tasks.started ∉ b'.tasks.running.map Prod.fst

/-- Once the text is turned down, the regeneration is over, without a call. -/
structure Fails (b : Switchboard) (reason : FailureReason) : Prop where
  ends : ∀ stage b', Regenerates b stage b' → stage = .withdrawn ∨ stage = .submitted
  submitted : ∀ b', Regenerates b .submitted b' →
    b'.tasks.controller.session.state = .failed reason ∧ b'.client = b.client ∧
      b.tasks.started ∉ b'.tasks.running.map Prod.fst

/-- What a regeneration by itself makes of the text of the session. -/
structure Restores (b : Switchboard) : Prop where
  begins : ∃ b', Step b (.tasks .regenerate) b'
  resubmits : ∀ b', Regenerates b .withdrawn b' →
    ∃ b'', Step b' (.tasks (.resubmit b.tasks.started)) b''
  /-- After its two sections, the text is there again. -/
  kept : ∀ stage b', stage ≠ .withdrawn → Regenerates b stage b' →
    b'.tasks.controller.session.text = b.tasks.controller.session.text ∧
      b'.tasks.controller.session.generation = b.tasks.controller.session.generation + 2
  /-- Two snapshots are sent before there is a reply. -/
  sent : ∀ stage b', stage = .submitted ∨ stage = .asked → Regenerates b stage b' →
    b'.tasks.controller.sent =
      Session.snapshot ⟨b.tasks.controller.session.state.refusal?.elim .loading .failed,
          b.tasks.controller.session.text, b.tasks.controller.session.generation + 2, none, none⟩ ::
        Session.snapshot ⟨.idle, [], b.tasks.controller.session.generation + 1, none, none⟩ ::
          b.tasks.controller.sent
  accepted : b.tasks.controller.session.state.refusal? = none → ∃ d, Converts b d
  refused : ∀ reason, b.tasks.controller.session.state.refusal? = some reason → Fails b reason

theorem converts (hb : b.IsSteady) {ticket : Ticket}
    (hticket : b.tasks.controller.regenerated.2 = some ticket)
    (htext : ticket.description.text = b.tasks.controller.session.text)
    (hphase : b.tasks.controller.regenerated.1.session.phase = .loading) :
    Converts b ticket.description := by
  constructor
  case text_eq => exact htext
  case description?_prompt => rw [Prompt.description?_build, htext]
  case submitted =>
    intro b' h
    obtain ⟨p, hp, hfinds⟩ := h.finds hb
    rw [standing?, hticket] at hp
    cases hp
    exact ⟨hfinds.controller_eq ▸ hphase, hfinds.client_eq, hfinds.exists_ask rfl rfl⟩
  case asked =>
    intro b' h
    obtain ⟨p, hp, hfinds⟩ := h.finds hb
    rw [standing?, hticket] at hp
    cases hp
    refine ⟨hfinds.controller_eq ▸ hphase, ?_, hfinds.exists_answer rfl rfl⟩
    rw [hfinds.client_eq, Client.prompts_generate]
  case answered =>
    intro b' h
    obtain ⟨p, hp, hfinds⟩ := h.finds hb
    rw [standing?, hticket] at hp
    cases hp
    refine ⟨?_, ?_, hfinds.notMem rfl⟩
    · rw [hfinds.controller_eq, Controller.session_resolve_regenerated hticket]
      exact ⟨rfl, rfl, rfl⟩
    · rw [hfinds.client_eq, Client.prompts_generate]

theorem fails (hb : b.IsSteady) {reason : FailureReason}
    (hticket : b.tasks.controller.regenerated.2 = none)
    (hstate : b.tasks.controller.regenerated.1.session.state = .failed reason) :
    Fails b reason := by
  constructor
  case ends =>
    intro stage b' h
    obtain ⟨p, hp, -⟩ := h.finds hb
    cases stage with
    | withdrawn => exact .inl rfl
    | submitted => exact .inr rfl
    | asked =>
        rw [standing?, hticket] at hp
        cases hp
    | answered =>
        rw [standing?, hticket] at hp
        cases hp
  case submitted =>
    intro b' h
    obtain ⟨p, hp, hfinds⟩ := h.finds hb
    rw [standing?, hticket] at hp
    cases hp
    exact ⟨hfinds.controller_eq ▸ hstate, hfinds.client_eq, hfinds.notMem rfl⟩

end

/-- From every state that a run leads to, a regeneration by itself restores the text. -/
theorem restores_of_run {classifier : Classifier} {client : Client} {ops : List (Asker × Text)}
    {b : Switchboard} (h : Run (initial classifier client) ops b) : Restores b := by
  have hb := h.isSteady
  have hsession := Controller.session_regenerated hb.judged
  constructor
  case begins => exact ⟨_, .tasks .regenerate nofun⟩
  case resubmits =>
    intro b' h
    obtain ⟨p, hp, hfinds⟩ := h.finds hb
    cases hp
    exact hfinds.exists_resubmit rfl
  case kept =>
    intro stage b' hstage h
    cases stage with
    | withdrawn => exact absurd rfl hstage
    | submitted =>
        rw [h.controller_eq hb (.inl rfl), hsession]
        exact ⟨rfl, rfl⟩
    | asked =>
        rw [h.controller_eq hb (.inr rfl), hsession]
        exact ⟨rfl, rfl⟩
    | answered =>
        obtain ⟨p, hp, hfinds⟩ := h.finds hb
        obtain ⟨ticket, hticket, rfl⟩ := Option.map_eq_some_iff.1 hp
        rw [hfinds.controller_eq, Controller.session_resolve_regenerated hticket]
        exact ⟨rfl, rfl⟩
  case sent =>
    intro stage b' hstage h
    rw [h.controller_eq hb hstage, Controller.sent_regenerated, Controller.snapshot, hsession]
    rfl
  case accepted =>
    intro haccepted
    obtain ⟨d, hd⟩ := hb.judged.accepted haccepted
    rcases b.tasks.controller.regenerated_cases with
      ⟨d, htext, -, hloading, hticket⟩ | ⟨reason, hreason, -, -⟩
    · exact ⟨d, converts hb hticket htext (by rw [hloading]; rfl)⟩
    · cases hd.symm.trans hreason
  case refused =>
    intro reason hrefused
    rcases b.tasks.controller.regenerated_cases with
      ⟨d, -, hd, -, -⟩ | ⟨reason', hreason, hfailed, hticket⟩
    · cases hd.symm.trans (hb.judged.refused reason hrefused)
    · cases hreason.symm.trans (hb.judged.refused reason hrefused)
      exact fails hb hticket (by rw [hfailed])

/-- The diagram could not be drawn, and an answer that was superseded comes in while the text is
converted again. -/
theorem restores_of_renderFailed :
    let classifier : Classifier := ⟨["sort".toList]⟩
    let client : Client := .ofReplies (.ok "flowchart TD\nA --> B".toList) [.error .timeout]
    let message : Text := "no canvas".toList
    ∃ ops b b', Run (initial classifier client) ops b ∧
      b.tasks.controller.session.state = .failed (.renderFailed message) ∧
        Regenerates b .answered b' ∧ b'.tasks.controller.session.text = " sort ".toList ∧
          b'.tasks.controller.session.phase = .ready ∧ b'.client.calls = b.client.calls + 1 ∧
            Restores b := by
  intro classifier client message
  let sort : Description := ⟨"sort".toList, by decide⟩
  let spaced : Description := ⟨" sort ".toList, by decide⟩
  have hfirst := ((Run.nil (b := initial classifier client)).snoc
    (.tasks (.submit "sort".toList) nofun)).snoc
      (@Step.ask _ 0 ⟨1, sort⟩ (by decide +kernel) (by decide +kernel))
  have hsecond := (hfirst.snoc (.tasks (.submit " sort ".toList) nofun)).snoc
    (@Step.ask _ 1 ⟨2, spaced⟩ (by decide +kernel) (by decide +kernel))
  have hready := hsecond.snoc
    (.tasks (@Tasks.Step.answer _ 1 ⟨2, spaced⟩ (.error .timeout) (by decide +kernel))
      (by rintro _ _ ⟨⟩; exact .tail _ (.head _)))
  have hrun := hready.snoc (.tasks (@Tasks.Step.reportRenderError _ _ message rfl) nofun)
  have withdraw {ops : List (Asker × Text)} {b : Switchboard}
      (_ : Run (initial classifier client) ops b) :
      Regenerates b .withdrawn { b with tasks := b.tasks.regenerate, replies := _ } :=
    .withdraw (.tasks .regenerate nofun)
  have hwithdrawn := withdraw hrun
  have hsubmitted := hwithdrawn.submit
    (.tasks (@Tasks.Step.resubmit _ 2 " sort ".toList (by decide +kernel)) nofun)
  have hasked := hsubmitted.ask (@Step.ask _ 2 ⟨4, spaced⟩ (by decide +kernel) (by decide +kernel))
  have hlate := @Regenerates.late _ _ _ _ 0 _ hasked (by decide)
    (.tasks (@Tasks.Step.answer _ 0 ⟨1, sort⟩ (.ok "flowchart TD\nA --> B".toList)
      (by decide +kernel)) (by rintro _ _ ⟨⟩; exact .head _))
  have hanswered := hlate.answer
    (.tasks (@Tasks.Step.answer _ 2 ⟨4, spaced⟩ (.error .timeout) (by decide +kernel))
      (by rintro _ _ ⟨⟩; exact .head _))
  exact ⟨_, _, _, hrun, rfl, hanswered, by decide +kernel, by decide +kernel, by decide +kernel,
    restores_of_run hrun⟩

end Switchboard

end Flowchart
