import Flowchart.Http.Routes
import Flowchart.Proofs.Regenerations

/-!
# What the service is asked

The tasks of the controller and single conversions share one client, and their sections, calls and
answers come in any order. Every operation whose text is accepted makes one call, with the prompt
for that text, and no other operation makes any. Whether the answer is stale makes no difference.
-/

namespace Flowchart

/-- What asks the service: a task of the controller, or a single conversion. -/
inductive Asker where
  | task (number : Nat)
  | single (number : Nat)
  deriving DecidableEq

namespace Asker

/-- Blank text is not worth a call. The classifier has a say in the tasks only. -/
def admits (classifier : Classifier) (text : Text) : Asker → Bool
  | task _ => !(Text.trim text).isEmpty && classifier.accepts text
  | single _ => !(Text.trim text).isEmpty

/-- What the service is asked for, if it is asked. -/
def question? (classifier : Classifier) (text : Text) (asker : Asker) : Option Description :=
  if asker.admits classifier text then Description.ofText? text else none

end Asker

theorem Description.ofText?_eq_some_iff {text : Text} {d : Description} :
    ofText? text = some d ↔ d.text = text := by
  constructor
  · exact text_of_ofText?
  · rintro rfl
    exact dif_neg d.notBlank

theorem Transition.submit_eq_begin_iff {classifier : Classifier} {text : Text} {d : Description} :
    submit classifier text = .begin d ↔ d.text = text ∧ classifier.accepts text = true := by
  constructor
  · intro h
    have htext := text_of_submit h
    refine ⟨htext, ?_⟩
    rw [submit, Description.ofText?_eq_some_iff.2 htext] at h
    by_contra haccepts
    simp [haccepts] at h
  · rintro ⟨htext, haccepts⟩
    simp [submit, Description.ofText?_eq_some_iff.2 htext, haccepts]

namespace Asker

variable {classifier : Classifier} {text : Text} {d : Description}

theorem text_of_question? {asker : Asker} (h : asker.question? classifier text = some d) :
    d.text = text ∧ asker.admits classifier text = true := by
  unfold question? at h
  split at h
  · rename_i hadmits
    exact ⟨Description.text_of_ofText? h, hadmits⟩
  · cases h

theorem question?_task_eq_some_iff {number : Nat} :
    (task number).question? classifier text = some d ↔
      Transition.submit classifier text = .begin d := by
  rw [Transition.submit_eq_begin_iff]
  constructor
  · intro h
    obtain ⟨htext, hadmits⟩ := text_of_question? h
    rw [admits, Bool.and_eq_true] at hadmits
    exact ⟨htext, hadmits.2⟩
  · rintro ⟨rfl, haccepts⟩
    have hadmits : (task number).admits classifier d.text = true := by
      simp [admits, haccepts, d.notBlank]
    rw [question?, if_pos hadmits, Description.ofText?_eq_some_iff]

theorem question?_single_eq_some_iff {number : Nat} :
    (single number).question? classifier text = some d ↔ Description.ofText? text = some d := by
  rw [Description.ofText?_eq_some_iff]
  constructor
  · exact fun h => (text_of_question? h).1
  · rintro rfl
    have hadmits : (single number).admits classifier d.text = true := by
      simp [admits, d.notBlank]
    rw [question?, if_pos hadmits, Description.ofText?_eq_some_iff]

theorem isSome_question? (asker : Asker) :
    (asker.question? classifier text).isSome = asker.admits classifier text := by
  cases hadmits : asker.admits classifier text with
  | false => simp [question?, hadmits]
  | true =>
      have hne : Text.trim text ≠ [] := by
        cases asker <;> simp_all [admits]
      have hsome : Description.ofText? text = some ⟨text, hne⟩ :=
        Description.ofText?_eq_some_iff.2 rfl
      simp [question?, hadmits, hsome]

end Asker

/-! ## What tasks are going to ask -/

namespace Tasks

/-- The text of the operation that begins with a section, if one does. -/
def Event.begins? (t : Tasks) : Event → Option Text
  | submit text => some text
  | regenerate => some t.controller.session.text
  | _ => none

/-- The task waits for an answer to this question, or is going to submit a text that leads to it. -/
inductive Owes (t : Tasks) (n : Nat) (d : Description) : Prop
  | generating {ticket : Ticket} (h : (n, .generating ticket) ∈ t.running)
      (hd : ticket.description = d)
  | withdrawn {text : Text} (h : (n, .withdrawn text) ∈ t.running)
      (hd : Transition.submit t.controller.classifier text = .begin d)

/-- The question that a task in this state has before it. -/
def AsksFor (classifier : Classifier) (d : Description) : TaskState → Prop
  | .generating ticket => ticket.description = d
  | .withdrawn text => Transition.submit classifier text = .begin d

section

variable {t t' : Tasks} {n task : Nat} {state : TaskState} {d : Description}

theorem owes_iff_exists : t.Owes n d ↔
    ∃ state, (n, state) ∈ t.running ∧ AsksFor t.controller.classifier d state := by
  constructor
  · intro h
    cases h with
    | generating h hd => exact ⟨_, h, hd⟩
    | withdrawn h hd => exact ⟨_, h, hd⟩
  · rintro ⟨state, h, hd⟩
    cases state with
    | generating ticket => exact .generating h hd
    | withdrawn text => exact .withdrawn h hd

theorem IsNumbered.owes_iff (ht : t.IsNumbered) (h : (n, state) ∈ t.running) :
    t.Owes n d ↔ AsksFor t.controller.classifier d state := by
  rw [owes_iff_exists]
  constructor
  · rintro ⟨state', h', hd⟩
    exact ht.eq_of_mem h' h ▸ hd
  · exact fun hd => ⟨state, h, hd⟩

theorem owes_congr (hclassifier : t'.controller.classifier = t.controller.classifier)
    (hrunning : t'.running = t.running) : t'.Owes n d ↔ t.Owes n d := by
  rw [owes_iff_exists, owes_iff_exists, hclassifier, hrunning]

theorem owes_append_iff (hclassifier : t'.controller.classifier = t.controller.classifier)
    (hrunning : t'.running = t.running ++ [(task, state)]) :
    t'.Owes n d ↔ t.Owes n d ∨ n = task ∧ AsksFor t.controller.classifier d state := by
  rw [owes_iff_exists, owes_iff_exists, hclassifier, hrunning]
  constructor
  · rintro ⟨state', h, hd⟩
    rcases List.mem_append.1 h with h | h
    · exact .inl ⟨state', h, hd⟩
    · cases List.mem_singleton.1 h
      exact .inr ⟨rfl, hd⟩
  · rintro (⟨state', h, hd⟩ | ⟨rfl, hd⟩)
    · exact ⟨state', List.mem_append_left _ h, hd⟩
    · exact ⟨state, List.mem_append_right _ (List.mem_singleton_self _), hd⟩

theorem owes_drop_iff : (t.drop task).Owes n d ↔ t.Owes n d ∧ n ≠ task := by
  rw [owes_iff_exists, owes_iff_exists]
  constructor
  · rintro ⟨state, h, hd⟩
    obtain ⟨h, hne⟩ := List.mem_filter.1 h
    exact ⟨⟨state, h, hd⟩, by simpa using hne⟩
  · rintro ⟨⟨state, h, hd⟩, hne⟩
    exact ⟨state, List.mem_filter.2 ⟨h, by simpa using hne⟩, hd⟩

theorem owes_submitSection_iff {text : Text} :
    (t.submitSection task text).Owes n d ↔ t.Owes n d ∨
      n = task ∧ Transition.submit t.controller.classifier text = .begin d := by
  have hclassifier : (t.submitSection task text).controller.classifier =
      t.controller.classifier := by
    rw [controller_submitSection, Controller.classifier_offer]
  rcases t.submitSection_cases task text with
    ⟨d', hd', -, hrunning⟩ | ⟨reason, hreason, -, hrunning⟩
  · rw [owes_append_iff hclassifier hrunning, hd', AsksFor, Transition.begin.injEq]
  · rw [owes_congr hclassifier hrunning, hreason]
    simp

theorem owes_resubmit_iff (ht : t.IsNumbered) {text : Text}
    (hlookup : t.running.lookup task = some (.withdrawn text)) :
    (t.resubmit task).Owes n d ↔ t.Owes n d := by
  have howes : t.Owes task d ↔ Transition.submit t.controller.classifier text = .begin d :=
    ht.owes_iff (mem_of_lookup hlookup)
  have hdrop : (t.drop task).controller.classifier = t.controller.classifier := rfl
  rw [resubmit_eq hlookup, owes_submitSection_iff, owes_drop_iff, hdrop, ← howes]
  constructor
  · rintro (⟨h, -⟩ | ⟨rfl, h⟩)
    · exact h
    · exact h
  · intro h
    by_cases hn : n = task
    · exact .inr ⟨hn, hn ▸ h⟩
    · exact .inl ⟨h, hn⟩

theorem owes_answer_iff {ticket : Ticket} {reply : Reply}
    (hlookup : t.running.lookup task = some (.generating ticket)) :
    (t.answer task reply).Owes n d ↔ t.Owes n d ∧ n ≠ task := by
  have hclassifier := (Step.answer reply hlookup).classifier_eq
  have hrunning : (t.answer task reply).running = (t.drop task).running := by
    rw [answer_eq hlookup]
  rw [owes_congr (t := t.drop task) hclassifier hrunning, owes_drop_iff]

/-- A section adds the question of the operation that it begins, and an answer settles one. -/
theorem Step.owes_iff {e : Event} (ht : t.IsNumbered) (h : Step t e t') :
    t'.Owes n d ↔ (t.Owes n d ∧ ∀ reply, e ≠ .answer n reply) ∨
      ∃ text, e.begins? t = some text ∧ n = t.started ∧
        Transition.submit t.controller.classifier text = .begin d := by
  have hclassifier := h.classifier_eq
  cases h with
  | submit text =>
      have hnext : Owes { t with started := t.started + 1 } n d ↔ t.Owes n d := owes_congr rfl rfl
      rw [Tasks.submit, owes_submitSection_iff, hnext]
      simp [Event.begins?]
  | regenerate =>
      rw [owes_append_iff hclassifier rfl]
      simp [Event.begins?, AsksFor, Controller.withdraw]
  | resubmit hlookup =>
      rw [owes_resubmit_iff ht hlookup]
      simp [Event.begins?]
  | answer reply hlookup =>
      rw [owes_answer_iff hlookup]
      simp [Event.begins?, eq_comm]
  | clear =>
      rw [owes_congr (t := t) hclassifier rfl]
      simp [Event.begins?]
  | reportRenderError hreport =>
      rw [owes_congr hclassifier (running_reportRenderError hreport).2.2.2.1]
      simp [Event.begins?]
  | refuseRenderError hreport => simp [Event.begins?]

end

end Tasks

/-! ## Single conversions -/

namespace Http

def Request.IsConversion (r : Request) : Prop :=
  Route.ofPath? r.path = some .convert ∧ Route.convert.accepts r.method = true

instance (r : Request) : Decidable r.IsConversion :=
  inferInstanceAs (Decidable (_ ∧ _))

/-- The text that the body holds, if it can be read. -/
def Request.algorithmText? (r : Request) : Option Text :=
  match r.read (.record textField none (.orNull .text)) with
  | .ok text? => text?
  | .error _ => none

theorem convert_cases (r : Request) :
    (∃ d, Description.ofText? (r.algorithmText?.getD []) = some d ∧
        convert r = .waiting (.single d)) ∨
      Description.ofText? (r.algorithmText?.getD []) = none ∧
        convert r = .answered (.ofError 400 textRequired) := by
  have hconvert : convert r = (Description.ofText? (r.algorithmText?.getD [])).elim
      (.answered (.ofError 400 textRequired)) fun d => .waiting (.single d) := by
    unfold convert Request.algorithmText?
    rcases r.read (.record textField none (.orNull .text)) with e | _ | text
    · rfl
    · rfl
    · dsimp only [Option.getD_some]
      cases Description.ofText? text <;> rfl
  rw [hconvert]
  cases Description.ofText? (r.algorithmText?.getD []) with
  | none => exact .inr ⟨rfl, rfl⟩
  | some d => exact .inl ⟨d, rfl, rfl⟩

/-- The session has no part in a single conversion. -/
theorem receive_of_isConversion {r : Request} (h : r.IsConversion) (c : Controller) :
    receive c r = (c, (convert r).forMethod r.method) := by
  unfold receive
  rw [h.1]
  simp [h.2, Route.receive]

end Http

/-! ## The shared client -/

/-- The tasks and the single conversions, with the client that they share. -/
structure Switchboard where
  tasks : Tasks
  /-- The single conversions that have not ended, by number. -/
  singles : List (Nat × Description)
  received : Nat
  client : Client
  /-- The replies that the client has given and that have not been brought back. -/
  replies : List (Asker × Reply)
  /-- Who asked the client, and what. -/
  asked : List (Asker × Description)

namespace Switchboard

def initial (classifier : Classifier) (client : Client) : Switchboard :=
  ⟨.initial classifier, [], 0, client, [], []⟩

def receive (b : Switchboard) (r : Http.Request) : Switchboard :=
  let received := Http.receive b.tasks.controller r
  { b with
    tasks := { b.tasks with controller := received.1 }
    singles :=
      match received.2 with
      | .waiting call => b.singles ++ [(b.received, call.description)]
      | .answered _ => b.singles
    received := b.received + 1 }

def ask (b : Switchboard) (asker : Asker) (d : Description) : Switchboard :=
  let made := b.client.generate (Prompt.build d)
  { b with
    client := made.2
    replies := b.replies ++ [(asker, made.1)]
    asked := b.asked ++ [(asker, d)] }

/-- What happens without interruption. -/
inductive Event where
  | tasks (e : Tasks.Event)
  | receive (r : Http.Request)
  | ask (asker : Asker)
  | finish (number : Nat)

/-- Whether the asker brings back its reply. -/
def Event.ends (asker : Asker) : Event → Bool
  | tasks (.answer task _) => asker == .task task
  | finish number => asker == .single number
  | _ => false

/-- The operation that begins, with the text that it is about. -/
def Event.operation? (b : Switchboard) : Event → Option (Asker × Text)
  | tasks e => (e.begins? b.tasks).map fun text => (.task b.tasks.started, text)
  | receive r => some (.single b.received, r.algorithmText?.getD [])
  | _ => none

/-- The service is asked by those that stand before their call. A task goes on with the reply that
it was given. -/
inductive Step (b : Switchboard) : Event → Switchboard → Prop
  | tasks {e : Tasks.Event} {t' : Tasks} (h : Tasks.Step b.tasks e t')
      (hreply : ∀ task reply, e = .answer task reply → (.task task, reply) ∈ b.replies) :
      Step b (.tasks e)
        { b with tasks := t', replies := b.replies.filter fun r => !(Event.tasks e).ends r.1 }
  | receive {r : Http.Request} (h : r.IsConversion) : Step b (.receive r) (b.receive r)
  | ask {task : Nat} {ticket : Ticket}
      (h : b.tasks.running.lookup task = some (.generating ticket))
      (hnone : .task task ∉ b.replies.map Prod.fst) :
      Step b (.ask (.task task)) (b.ask (.task task) ticket.description)
  | askSingle {number : Nat} {d : Description} (h : (number, d) ∈ b.singles)
      (hnone : .single number ∉ b.replies.map Prod.fst) :
      Step b (.ask (.single number)) (b.ask (.single number) d)
  | finish {number : Nat} {reply : Reply} (h : (.single number, reply) ∈ b.replies) :
      Step b (.finish number)
        { b with
          singles := b.singles.filter (·.1 != number)
          replies := b.replies.filter fun r => !(Event.finish number).ends r.1 }

/-- A run, with the operations that began in it. -/
inductive Run (b : Switchboard) : List (Asker × Text) → Switchboard → Prop
  | nil : Run b [] b
  | snoc {b' b'' : Switchboard} {ops : List (Asker × Text)} {e : Event} (h : Run b ops b')
      (he : Step b' e b'') : Run b (ops ++ (e.operation? b').toList) b''

/-- The asker has the question before it or waits for the reply. -/
def Owes (b : Switchboard) : Asker → Description → Prop
  | .task n, d => b.tasks.Owes n d
  | .single n, d => (n, d) ∈ b.singles

/-- The number was given out. -/
def HasBegun (b : Switchboard) : Asker → Prop
  | .task n => n < b.tasks.started
  | .single n => n < b.received

/-- Every operation has ended. -/
structure IsQuiet (b : Switchboard) : Prop where
  running : b.tasks.running = []
  singles : b.singles = []

theorem IsQuiet.not_owes {b : Switchboard} (h : b.IsQuiet) (asker : Asker) (d : Description) :
    ¬b.Owes asker d := by
  cases asker with
  | task n =>
      intro howes
      cases howes with
      | generating hmem => cases h.running ▸ hmem
      | withdrawn hmem => cases h.running ▸ hmem
  | single n =>
      intro howes
      cases (h.singles ▸ howes : (n, d) ∈ [])

section

variable {b b' : Switchboard} {e : Event}

theorem prompts_ask (b : Switchboard) (asker : Asker) (d : Description) :
    (b.ask asker d).client.prompts = b.client.prompts ++ [Prompt.build d] :=
  b.client.prompts_generate _

theorem owes_ask {asker asker' : Asker} {d d' : Description} :
    (b.ask asker d).Owes asker' d' ↔ b.Owes asker' d' := by
  cases asker' <;> exact Iff.rfl

theorem hasBegun_ask {asker asker' : Asker} {d : Description} :
    (b.ask asker d).HasBegun asker' ↔ b.HasBegun asker' := by
  cases asker' <;> exact Iff.rfl

theorem replies_ask (b : Switchboard) (asker : Asker) (d : Description) :
    (b.ask asker d).replies.map Prod.fst = b.replies.map Prod.fst ++ [asker] := by
  simp [ask]

theorem asked_ask (b : Switchboard) (asker : Asker) (d : Description) :
    (b.ask asker d).asked.map Prod.fst = b.asked.map Prod.fst ++ [asker] := by
  simp [ask]

/-! ## What a step does -/

theorem receive_cases {r : Http.Request} (h : r.IsConversion) (b : Switchboard) :
    (b.receive r).tasks = b.tasks ∧
      ((∃ d, Description.ofText? (r.algorithmText?.getD []) = some d ∧
          (b.receive r).singles = b.singles ++ [(b.received, d)]) ∨
        Description.ofText? (r.algorithmText?.getD []) = none ∧
          (b.receive r).singles = b.singles) := by
  unfold receive
  rw [Http.receive_of_isConversion h]
  refine ⟨rfl, ?_⟩
  rcases Http.convert_cases r with ⟨d, hd, hconvert⟩ | ⟨hnone, hconvert⟩
  · exact .inl ⟨d, hd, by rw [hconvert]; rfl⟩
  · exact .inr ⟨hnone, by rw [hconvert]; rfl⟩

theorem Step.classifier_eq (h : Step b e b') :
    b'.tasks.controller.classifier = b.tasks.controller.classifier := by
  cases h with
  | tasks h => exact h.classifier_eq
  | receive h => rw [(receive_cases h b).1]
  | ask h => rfl
  | askSingle h => rfl
  | finish h => rfl

theorem Step.isNumbered (hb : b.tasks.IsNumbered) (h : Step b e b') : b'.tasks.IsNumbered := by
  cases h with
  | tasks h => exact h.isNumbered hb
  | receive h => exact (receive_cases h b).1 ▸ hb
  | ask h => exact hb
  | askSingle h => exact hb
  | finish h => exact hb

theorem Step.hasBegun (h : Step b e b') {asker : Asker} (hasker : b.HasBegun asker) :
    b'.HasBegun asker := by
  cases h with
  | tasks h =>
      cases asker with
      | task n => exact Nat.lt_of_lt_of_le hasker (Tasks.started_le_of_step h)
      | single n => exact hasker
  | receive h =>
      cases asker with
      | task n => exact hasker
      | single n => exact Nat.lt_succ_of_lt hasker
  | ask h => exact hasker
  | askSingle h => exact hasker
  | finish h => exact hasker

theorem Step.hasBegun_operation (h : Step b e b') {op : Asker × Text}
    (hop : e.operation? b = some op) : ¬b.HasBegun op.1 ∧ b'.HasBegun op.1 := by
  cases h with
  | @tasks e t' h =>
      obtain ⟨text, htext, rfl⟩ := Option.map_eq_some_iff.1 hop
      refine ⟨Nat.lt_irrefl _, ?_⟩
      cases h with
      | submit text =>
          change b.tasks.started < (b.tasks.submit text).started
          rw [Tasks.submit, Tasks.started_submitSection]
          exact Nat.lt_succ_self _
      | regenerate => exact Nat.lt_succ_self _
      | resubmit => cases htext
      | answer => cases htext
      | clear => cases htext
      | reportRenderError => cases htext
      | refuseRenderError => cases htext
  | receive h =>
      cases hop
      exact ⟨Nat.lt_irrefl _, Nat.lt_succ_self _⟩
  | ask h => cases hop
  | askSingle h => cases hop
  | finish h => cases hop

theorem Event.ends_task_eq_false_iff {e : Tasks.Event} {n : Nat} :
    (tasks e).ends (.task n) = false ↔ ∀ reply, e ≠ .answer n reply := by
  cases e with
  | answer task reply =>
      constructor
      · rintro h _ ⟨⟩
        simp [ends] at h
      · intro h
        simpa [ends] using fun heq : n = task => h reply (heq ▸ rfl)
  | _ => simp [ends]

theorem owes_receive_iff {r : Http.Request} (h : r.IsConversion) {asker : Asker}
    {d : Description} :
    (b.receive r).Owes asker d ↔ b.Owes asker d ∨
      asker = .single b.received ∧ Description.ofText? (r.algorithmText?.getD []) = some d := by
  obtain ⟨htasks, hsingles⟩ := receive_cases h b
  cases asker with
  | task n =>
      rw [Owes, htasks]
      simp [Owes]
  | single n =>
      rcases hsingles with ⟨d', hd', hsingles⟩ | ⟨hnone, hsingles⟩
      · rw [Owes, hsingles, hd', List.mem_append, List.mem_singleton]
        simp [Owes, eq_comm]
      · rw [Owes, hsingles, hnone]
        simp [Owes]

/-- A step adds the question of the operation that begins, and takes away that of the asker that
ends. -/
theorem Step.owes_iff (hb : b.tasks.IsNumbered) (h : Step b e b') {asker : Asker}
    {d : Description} :
    b'.Owes asker d ↔ (b.Owes asker d ∧ e.ends asker = false) ∨
      ∃ text, e.operation? b = some (asker, text) ∧
        asker.question? b.tasks.controller.classifier text = some d := by
  cases h with
  | @tasks e t' h =>
      cases asker with
      | task n =>
          simp only [Owes, Tasks.Step.owes_iff hb h, Event.ends_task_eq_false_iff, Event.operation?,
            Option.map_eq_some_iff, Prod.mk.injEq, Asker.task.injEq,
            Asker.question?_task_eq_some_iff]
          refine or_congr_right ⟨?_, ?_⟩
          · rintro ⟨text, htext, rfl, hd⟩
            exact ⟨text, ⟨text, htext, rfl, rfl⟩, hd⟩
          · rintro ⟨text, ⟨_, htext, rfl, rfl⟩, hd⟩
            exact ⟨_, htext, rfl, hd⟩
      | single n =>
          have hends : (Event.tasks e).ends (.single n) = false := by
            cases e <;> simp [Event.ends]
          simp [Owes, hends, Event.operation?]
  | @receive r h =>
      rw [owes_receive_iff h]
      refine or_congr (by simp [Event.ends]) ⟨?_, ?_⟩
      · rintro ⟨rfl, hd⟩
        exact ⟨_, rfl, Asker.question?_single_eq_some_iff.2 hd⟩
      · rintro ⟨_, ⟨⟩, hd⟩
        exact ⟨rfl, Asker.question?_single_eq_some_iff.1 hd⟩
  | ask h => cases asker <;> simp [Owes, Switchboard.ask, Event.ends, Event.operation?]
  | askSingle h => cases asker <;> simp [Owes, Switchboard.ask, Event.ends, Event.operation?]
  | finish h => cases asker <;> simp [Owes, Event.ends, Event.operation?]

theorem mem_map_filter_ends {replies : List (Asker × Reply)} {asker : Asker} :
    asker ∈ (replies.filter fun r => !e.ends r.1).map Prod.fst ↔
      asker ∈ replies.map Prod.fst ∧ e.ends asker = false := by
  constructor
  · intro hasker
    obtain ⟨r, hr, rfl⟩ := List.mem_map.1 hasker
    obtain ⟨hr, hend⟩ := List.mem_filter.1 hr
    exact ⟨List.mem_map_of_mem hr, by simpa using hend⟩
  · rintro ⟨hasker, hend⟩
    obtain ⟨r, hr, rfl⟩ := List.mem_map.1 hasker
    exact List.mem_map_of_mem (List.mem_filter.2 ⟨hr, by simpa using hend⟩)

/-- A step is a call, or leaves the client alone and takes away the reply that is brought back. -/
theorem Step.asks_or (h : Step b e b') :
    (∃ asker d, e = .ask asker ∧ b' = b.ask asker d ∧ b.Owes asker d ∧
        asker ∉ b.replies.map Prod.fst) ∨
      b'.client = b.client ∧ b'.asked = b.asked ∧
        b'.replies = b.replies.filter (fun r => !e.ends r.1) ∧
        ∀ asker, e.ends asker = true → asker ∈ b.replies.map Prod.fst := by
  cases h with
  | @tasks e t' h hreply =>
      refine .inr ⟨rfl, rfl, rfl, fun asker hends => ?_⟩
      cases e with
      | answer task reply =>
          rw [Event.ends, beq_iff_eq] at hends
          exact hends ▸ List.mem_map_of_mem (hreply task reply rfl)
      | _ => cases hends
  | receive h => exact .inr ⟨rfl, rfl, List.filter_true _ |>.symm, nofun⟩
  | ask h hnone => exact .inl ⟨_, _, rfl, rfl, .generating (Tasks.mem_of_lookup h) rfl, hnone⟩
  | askSingle h hnone => exact .inl ⟨_, _, rfl, rfl, h, hnone⟩
  | finish h =>
      refine .inr ⟨rfl, rfl, rfl, fun asker hends => ?_⟩
      rw [Event.ends, beq_iff_eq] at hends
      exact hends ▸ List.mem_map_of_mem h

end

/-! ## Every call has its operation -/

/-- What the operations are to ask the service. -/
def questions (classifier : Classifier) (ops : List (Asker × Text)) : List (Asker × Description) :=
  ops.filterMap fun op => (op.1.question? classifier op.2).map fun d => (op.1, d)

section

variable {classifier : Classifier} {client : Client} {ops : List (Asker × Text)}
  {b b' : Switchboard} {e : Event}

theorem mem_questions_iff {asker : Asker} {d : Description} :
    (asker, d) ∈ questions classifier ops ↔
      ∃ text, (asker, text) ∈ ops ∧ asker.question? classifier text = some d := by
  rw [questions, List.mem_filterMap]
  constructor
  · rintro ⟨⟨a, text⟩, hmem, h⟩
    obtain ⟨d', hd', he⟩ := Option.map_eq_some_iff.1 h
    cases he
    exact ⟨text, hmem, hd'⟩
  · rintro ⟨text, hmem, h⟩
    exact ⟨(asker, text), hmem, by rw [h]; rfl⟩

theorem mem_questions_append_iff {op? : Option (Asker × Text)} {asker : Asker} {d : Description} :
    (asker, d) ∈ questions classifier (ops ++ op?.toList) ↔
      (asker, d) ∈ questions classifier ops ∨
        ∃ text, op? = some (asker, text) ∧ asker.question? classifier text = some d := by
  simp only [mem_questions_iff, List.mem_append, Option.mem_toList, or_and_right, exists_or]

theorem length_questions :
    (questions classifier ops).length = ops.countP fun op => op.1.admits classifier op.2 := by
  rw [questions, List.length_filterMap_eq_countP]
  simp only [Option.isSome_map, Asker.isSome_question?]

theorem nodup_questions (h : (ops.map Prod.fst).Nodup) :
    ((questions classifier ops).map Prod.fst).Nodup := by
  refine h.sublist ?_
  induction ops with
  | nil => exact List.Sublist.refl _
  | cons op ops ih =>
      have hrest := ih (List.nodup_cons.1 h).2
      rw [questions, List.filterMap_cons]
      cases op.1.question? classifier op.2 with
      | none => exact hrest.cons _
      | some d => exact hrest.cons_cons _

/-- Who has asked and who is still to ask, counted against the operations. -/
structure IsAccounted (classifier : Classifier) (client : Client) (ops : List (Asker × Text))
    (b : Switchboard) : Prop where
  classifier_eq : b.tasks.controller.classifier = classifier
  numbered : b.tasks.IsNumbered
  prompts_eq : b.client.prompts = client.prompts ++ b.asked.map fun m => Prompt.build m.2
  operations : (ops.map Prod.fst).Nodup
  hasBegun : ∀ op ∈ ops, b.HasBegun op.1
  asked : (b.asked.map Prod.fst).Nodup
  /-- A reply was asked for. -/
  mem_asked : ∀ asker ∈ b.replies.map Prod.fst, asker ∈ b.asked.map Prod.fst
  /-- Whoever has asked and not ended holds the reply. -/
  mem_replies : ∀ m ∈ b.asked, ∀ d, b.Owes m.1 d → m.1 ∈ b.replies.map Prod.fst
  mem_questions_iff : ∀ m, m ∈ questions classifier ops ↔ m ∈ b.asked ∨ b.Owes m.1 m.2

theorem isAccounted_initial (classifier : Classifier) (client : Client) :
    IsAccounted classifier client [] (initial classifier client) where
  classifier_eq := rfl
  numbered := ⟨nofun, List.nodup_nil⟩
  prompts_eq := (List.append_nil _).symm
  operations := List.nodup_nil
  hasBegun := nofun
  asked := List.nodup_nil
  mem_asked := nofun
  mem_replies := nofun
  mem_questions_iff m := by
    have hquiet : (initial classifier client).IsQuiet := ⟨rfl, rfl⟩
    refine iff_of_false (by simp [questions]) ?_
    rintro (hm | hm)
    · cases hm
    · exact hquiet.not_owes _ _ hm

theorem IsAccounted.eq_of_mem (h : IsAccounted classifier client ops b) {asker : Asker}
    {d d' : Description} (hd : (asker, d) ∈ questions classifier ops)
    (hd' : (asker, d') ∈ questions classifier ops) : d = d' :=
  congrArg Prod.snd (List.inj_on_of_nodup_map (nodup_questions h.operations) hd hd' rfl)

theorem IsAccounted.ask (h : IsAccounted classifier client ops b) {asker : Asker}
    {d : Description} (howes : b.Owes asker d) (hnone : asker ∉ b.replies.map Prod.fst) :
    IsAccounted classifier client ops (b.ask asker d) where
  classifier_eq := h.classifier_eq
  numbered := h.numbered
  prompts_eq := by
    rw [prompts_ask, h.prompts_eq, Switchboard.ask, List.map_append, List.append_assoc]
    rfl
  operations := h.operations
  hasBegun op hop := hasBegun_ask.2 (h.hasBegun op hop)
  asked := by
    refine nodup_map_append_singleton h.asked fun hmem => ?_
    obtain ⟨m, hm, rfl⟩ := List.mem_map.1 hmem
    exact hnone (h.mem_replies m hm d howes)
  mem_asked asker' hasker' := by
    rw [replies_ask, List.mem_append] at hasker'
    rw [asked_ask, List.mem_append]
    exact hasker'.imp_left (h.mem_asked asker')
  mem_replies m hm d' howes' := by
    rw [replies_ask, List.mem_append, List.mem_singleton]
    rcases List.mem_append.1 hm with hm | hm
    · exact .inl (h.mem_replies m hm d' (owes_ask.1 howes'))
    · exact .inr (congrArg Prod.fst (List.mem_singleton.1 hm))
  mem_questions_iff m := by
    have hasked : (b.ask asker d).asked = b.asked ++ [(asker, d)] := rfl
    rw [h.mem_questions_iff, owes_ask, hasked, List.mem_append, List.mem_singleton]
    constructor
    · exact fun hm => hm.imp_left .inl
    · rintro ((hm | rfl) | hm)
      · exact .inl hm
      · exact .inr howes
      · exact .inr hm

theorem IsAccounted.notMem (h : IsAccounted classifier client ops b) (he : Step b e b')
    {op : Asker × Text} (hop : e.operation? b = some op) : op.1 ∉ ops.map Prod.fst := by
  intro hmem
  obtain ⟨op', hop', heq⟩ := List.mem_map.1 hmem
  exact (he.hasBegun_operation hop).1 (heq ▸ h.hasBegun op' hop')

/-- The one that ends holds a reply, so it has asked. -/
theorem IsAccounted.mem_questions_iff_of_ends (h : IsAccounted classifier client ops b)
    (hends : ∀ asker, e.ends asker = true → asker ∈ b.replies.map Prod.fst)
    {asker : Asker} {d : Description} :
    (asker, d) ∈ questions classifier ops ↔
      (asker, d) ∈ b.asked ∨ b.Owes asker d ∧ e.ends asker = false := by
  have hiff : (asker, d) ∈ questions classifier ops ↔ (asker, d) ∈ b.asked ∨ b.Owes asker d :=
    h.mem_questions_iff _
  constructor
  · intro hd
    rcases hiff.1 hd with hm | howes
    · exact .inl hm
    cases hend : e.ends asker with
    | false => exact .inr ⟨howes, rfl⟩
    | true =>
        obtain ⟨⟨_, d'⟩, hm, rfl⟩ := List.mem_map.1 (h.mem_asked asker (hends asker hend))
        have heq := h.eq_of_mem hd ((h.mem_questions_iff _).2 (.inl hm))
        exact .inl (heq ▸ hm)
  · rintro (hm | ⟨howes, -⟩)
    · exact hiff.2 (.inl hm)
    · exact hiff.2 (.inr howes)

theorem IsAccounted.step (h : IsAccounted classifier client ops b) (he : Step b e b') :
    IsAccounted classifier client (ops ++ (e.operation? b).toList) b' := by
  rcases he.asks_or with
    ⟨asker, d, rfl, rfl, howes, hnone⟩ | ⟨hclient, hasked, hreplies, hends⟩
  · have hop : (Event.ask asker).operation? b = none := rfl
    rw [hop, Option.toList_none, List.append_nil]
    exact h.ask howes hnone
  have howes : ∀ {asker d}, b'.Owes asker d ↔ (b.Owes asker d ∧ e.ends asker = false) ∨
      ∃ text, e.operation? b = some (asker, text) ∧ asker.question? classifier text = some d :=
    h.classifier_eq ▸ he.owes_iff h.numbered
  constructor
  case classifier_eq => exact he.classifier_eq.trans h.classifier_eq
  case numbered => exact he.isNumbered h.numbered
  case prompts_eq => rw [hclient, hasked, h.prompts_eq]
  case operations =>
    cases hop : e.operation? b with
    | none => simpa using h.operations
    | some op => exact nodup_map_append_singleton h.operations (h.notMem he hop)
  case hasBegun =>
    intro op hop
    rcases List.mem_append.1 hop with hop | hop
    · exact he.hasBegun (h.hasBegun op hop)
    · exact (he.hasBegun_operation (Option.mem_toList.1 hop)).2
  case asked => exact hasked ▸ h.asked
  case mem_asked =>
    intro asker hasker
    rw [hreplies, mem_map_filter_ends] at hasker
    exact hasked ▸ h.mem_asked asker hasker.1
  case mem_replies =>
    intro m hm d hd
    rw [hasked] at hm
    rw [hreplies, mem_map_filter_ends]
    rcases howes.1 hd with ⟨hd, hend⟩ | ⟨text, hop, -⟩
    · exact ⟨h.mem_replies m hm d hd, hend⟩
    · obtain ⟨text', hop', -⟩ :=
        Switchboard.mem_questions_iff.1 ((h.mem_questions_iff m).2 (.inl hm))
      exact (h.notMem he hop (List.mem_map.2 ⟨_, hop', rfl⟩)).elim
  case mem_questions_iff =>
    rintro ⟨asker, d⟩
    rw [mem_questions_append_iff, h.mem_questions_iff_of_ends hends, hasked, howes, or_assoc]

theorem Run.isAccounted (h : Run (initial classifier client) ops b) :
    IsAccounted classifier client ops b := by
  induction h with
  | nil => exact isAccounted_initial classifier client
  | snoc _ he ih => exact ih.step he

/-! ## Every run can be completed -/

theorem Run.trans {b'' : Switchboard} {ops' : List (Asker × Text)} (h : Run b ops b')
    (h' : Run b' ops' b'') : Run b (ops ++ ops') b'' := by
  induction h' with
  | nil => rwa [List.append_nil]
  | snoc _ he ih =>
      rw [← List.append_assoc]
      exact ih.snoc he

theorem exists_run_answer {task : Nat} {ticket : Ticket}
    (h : b.tasks.running.lookup task = some (.generating ticket)) :
    ∃ b', Run b [] b' ∧ b'.tasks.running = (b.tasks.drop task).running ∧
      b'.singles = b.singles := by
  -- With a reply at hand, one step is left.
  have answered {b : Switchboard} (h : b.tasks.running.lookup task = some (.generating ticket))
      (hreply : .task task ∈ b.replies.map Prod.fst) :
      ∃ b', Run b [] b' ∧ b'.tasks.running = (b.tasks.drop task).running ∧
        b'.singles = b.singles := by
    obtain ⟨⟨_, reply⟩, hmem, rfl⟩ := List.mem_map.1 hreply
    have hstep := Step.tasks (.answer reply h) (by rintro _ _ ⟨⟩; exact hmem)
    refine ⟨_, Run.nil.snoc hstep, ?_, rfl⟩
    rw [Tasks.answer_eq h]
  by_cases hreply : .task task ∈ b.replies.map Prod.fst
  · exact answered h hreply
  · have hasked : .task task ∈ (b.ask (.task task) ticket.description).replies.map Prod.fst := by
      simp [replies_ask]
    obtain ⟨b', hrun, hrunning, hsingles⟩ :=
      @answered (b.ask (.task task) ticket.description) h hasked
    exact ⟨b', (Run.nil.snoc (.ask h hreply)).trans hrun, hrunning, hsingles⟩

theorem exists_run_task (hb : b.tasks.IsNumbered) {task : Nat} {state : TaskState}
    (h : b.tasks.running.lookup task = some state) :
    ∃ b', Run b [] b' ∧ b'.tasks.running = (b.tasks.drop task).running ∧
      b'.singles = b.singles := by
  cases state with
  | generating ticket => exact exists_run_answer h
  | withdrawn text =>
      have hstep := Step.tasks (b := b) (.resubmit h) nofun
      have hdropped := (b.tasks.drop task).submitSection_cases task text
      rw [← Tasks.resubmit_eq h] at hdropped
      rcases hdropped with ⟨d, -, -, hrunning⟩ | ⟨reason, -, -, hrunning⟩
      · have hmem : (task, (⟨b.tasks.controller.session.generation + 1, d⟩ : Ticket)) ∈
            (b.tasks.resubmit task).flights := by
          rw [Tasks.mem_flights_iff, hrunning]
          exact List.mem_append_right _ (List.mem_singleton_self _)
        have hlookup := Tasks.lookup_of_mem_flights (hstep.isNumbered hb) hmem
        obtain ⟨b', hrun, hrunning', hsingles⟩ := exists_run_answer hlookup
        refine ⟨b', (Run.nil.snoc hstep).trans hrun, ?_, hsingles⟩
        rw [hrunning', Tasks.drop, hrunning]
        simp [Tasks.drop]
      · exact ⟨_, Run.nil.snoc hstep, hrunning, rfl⟩

theorem exists_run_single {number : Nat} {d : Description} (h : (number, d) ∈ b.singles) :
    ∃ b', Run b [] b' ∧ b'.tasks = b.tasks ∧
      b'.singles = b.singles.filter (·.1 != number) := by
  have finished {b : Switchboard} (hreply : .single number ∈ b.replies.map Prod.fst) :
      ∃ b', Run b [] b' ∧ b'.tasks = b.tasks ∧
        b'.singles = b.singles.filter (·.1 != number) := by
    obtain ⟨⟨_, reply⟩, hmem, rfl⟩ := List.mem_map.1 hreply
    exact ⟨_, Run.nil.snoc (.finish hmem), rfl, rfl⟩
  by_cases hreply : .single number ∈ b.replies.map Prod.fst
  · exact finished hreply
  · have hasked : .single number ∈ (b.ask (.single number) d).replies.map Prod.fst := by
      simp [replies_ask]
    obtain ⟨b', hrun, htasks, hsingles⟩ := finished hasked
    exact ⟨b', (Run.nil.snoc (.askSingle h hreply)).trans hrun, htasks, hsingles⟩

theorem Run.isNumbered (hb : b.tasks.IsNumbered) (h : Run b ops b') : b'.tasks.IsNumbered := by
  induction h with
  | nil => exact hb
  | snoc _ he ih => exact he.isNumbered ih

/-- No operation has to begin for the others to end. -/
theorem exists_run_isQuiet {b : Switchboard} (hb : b.tasks.IsNumbered) :
    ∃ b', Run b [] b' ∧ b'.IsQuiet := by
  cases hrunning : b.tasks.running with
  | cons entry rest =>
      have hlookup : b.tasks.running.lookup entry.1 = some entry.2 := by
        rw [hrunning, List.lookup_cons_self]
      obtain ⟨b', hrun, hrunning', hsingles⟩ := exists_run_task hb hlookup
      have hlt : b'.tasks.running.length + b'.singles.length <
          b.tasks.running.length + b.singles.length := by
        rw [hsingles, hrunning', Tasks.drop, hrunning, List.filter_cons_of_neg (by simp)]
        exact Nat.add_lt_add_right (Nat.lt_succ_of_le (List.length_filter_le _ _)) _
      obtain ⟨b'', hrun', hquiet⟩ := exists_run_isQuiet (hrun.isNumbered hb)
      exact ⟨b'', hrun.trans hrun', hquiet⟩
  | nil =>
      cases hsingles : b.singles with
      | nil => exact ⟨b, .nil, hrunning, hsingles⟩
      | cons entry rest =>
          have hmem : (entry.1, entry.2) ∈ b.singles := hsingles ▸ List.mem_cons_self
          obtain ⟨b', hrun, htasks, hsingles'⟩ := exists_run_single hmem
          have hlt : b'.tasks.running.length + b'.singles.length <
              b.tasks.running.length + b.singles.length := by
            rw [htasks, hsingles', hsingles, List.filter_cons_of_neg (by simp)]
            exact Nat.add_lt_add_left (Nat.lt_succ_of_le (List.length_filter_le _ _)) _
          obtain ⟨b'', hrun', hquiet⟩ := exists_run_isQuiet (hrun.isNumbered hb)
          exact ⟨b'', hrun.trans hrun', hquiet⟩
termination_by b.tasks.running.length + b.singles.length

/-- The calls of a run, set against its operations. -/
structure Accounts (classifier : Classifier) (client : Client) (ops : List (Asker × Text))
    (b : Switchboard) : Prop where
  prompts_eq : b.client.prompts = client.prompts ++ b.asked.map fun m => Prompt.build m.2
  /-- Each prompt that was sent reads back as the text that was asked about. -/
  description?_prompts : (b.client.prompts.drop client.prompts.length).map Prompt.description? =
    b.asked.map fun m => some m.2.text
  /-- Each operation has a number of its own. -/
  nodup_operations : (ops.map Prod.fst).Nodup
  /-- No one asks twice. -/
  nodup : (b.asked.map Prod.fst).Nodup
  /-- Only an operation whose text is admitted asks, and it asks about that text. -/
  exists_operation : ∀ m ∈ b.asked,
    ∃ text, (m.1, text) ∈ ops ∧ m.1.admits classifier text = true ∧ m.2.text = text
  /-- In the end, each of them has. -/
  mem_asked : b.IsQuiet → ∀ op ∈ ops, op.1.admits classifier op.2 = true →
    ∃ d : Description, d.text = op.2 ∧ (op.1, d) ∈ b.asked
  calls_eq : b.IsQuiet →
    b.client.calls = client.calls + ops.countP fun op => op.1.admits classifier op.2
  /-- Whatever is under way can be brought to its end. -/
  exists_isQuiet : ∃ b', Run b [] b' ∧ b'.IsQuiet

/-- However tasks and single conversions overlap, every accepted text costs one call. -/
theorem accounts_of_run (h : Run (initial classifier client) ops b) :
    Accounts classifier client ops b := by
  have hb := h.isAccounted
  have hquiet : b.IsQuiet → ∀ m, m ∈ b.asked ↔ m ∈ questions classifier ops := by
    intro hquiet m
    rw [hb.mem_questions_iff]
    exact (or_iff_left (hquiet.not_owes m.1 m.2)).symm
  constructor
  case prompts_eq => exact hb.prompts_eq
  case description?_prompts =>
    rw [hb.prompts_eq, List.drop_left, List.map_map]
    refine List.map_congr_left fun m _ => ?_
    rw [Function.comp_apply, Prompt.description?_build]
  case nodup_operations => exact hb.operations
  case nodup => exact hb.asked
  case exists_operation =>
    intro m hm
    obtain ⟨text, hop, hd⟩ := mem_questions_iff.1 ((hb.mem_questions_iff m).2 (.inl hm))
    obtain ⟨htext, hadmits⟩ := Asker.text_of_question? hd
    exact ⟨text, hop, hadmits, htext⟩
  case mem_asked =>
    intro hq op hop hadmits
    rw [← Asker.isSome_question?] at hadmits
    obtain ⟨d, hd⟩ := Option.isSome_iff_exists.1 hadmits
    exact ⟨d, (Asker.text_of_question? hd).1,
      (hquiet hq _).2 (mem_questions_iff.2 ⟨op.2, hop, hd⟩)⟩
  case calls_eq =>
    intro hq
    have hperm : b.asked.Perm (questions classifier ops) :=
      (List.perm_ext_iff_of_nodup hb.asked.of_map (nodup_questions hb.operations).of_map).2
        (hquiet hq)
    rw [Client.calls, hb.prompts_eq, List.length_append, List.length_map, hperm.length_eq,
      length_questions, Client.calls]
  case exists_isQuiet => exact exists_run_isQuiet hb.numbered

end

/-- A request that the classifier would turn down is asked about, a submission is not, and what was
superseded costs its one call. -/
theorem accounts_of_superseded :
    let classifier : Classifier := ⟨["sort".toList]⟩
    let first : Reply := .ok "flowchart TD\nA --> B".toList
    let client : Client := .ofReplies first [.error .timeout]
    let request : Http.Request := ⟨"POST".toList, "/convert".toList,
      some "application/json".toList, Text.encodeUtf8 "\x7b\"algorithmText\":\" tea\"\x7d".toList⟩
    let ops := [(Asker.task 0, " sort ".toList), (.single 0, request.algorithmText?.getD []),
      (.task 1, "tea".toList)]
    ∃ b, Run (initial classifier client) ops b ∧ b.IsQuiet ∧ b.client.calls = 2 ∧
      b.asked.map (fun m => (m.1, m.2.text)) =
        [(.single 0, " tea".toList), (.task 0, " sort ".toList)] ∧
      Accounts classifier client ops b := by
  intro classifier first client request ops
  have hconversion : request.IsConversion := by decide +kernel
  let sort : Description := ⟨" sort ".toList, by decide⟩
  let tea : Description := ⟨" tea".toList, by decide⟩
  have hsubmitted := (Run.nil (b := initial classifier client)).snoc
    (.tasks (.submit " sort ".toList) nofun)
  have hreceived := hsubmitted.snoc (.receive hconversion)
  have hasked := hreceived.snoc (@Step.askSingle _ 0 tea (by decide +kernel) (by decide +kernel))
  have hrejected := hasked.snoc (.tasks (.submit "tea".toList) nofun)
  have hlate := hrejected.snoc (@Step.ask _ 0 ⟨1, sort⟩ (by decide +kernel) (by decide +kernel))
  have hstale := hlate.snoc (.tasks
    (@Tasks.Step.answer _ 0 ⟨1, sort⟩ (.error .timeout) (by decide +kernel))
    (by rintro _ _ ⟨⟩; exact .tail _ (.head _)))
  have hended := hstale.snoc (@Step.finish _ 0 first (.head _))
  have hrun := Eq.subst (motive := fun log => Run (initial classifier client) log _) (b := ops)
    (by decide +kernel) hended
  exact ⟨_, hrun, ⟨by decide +kernel, by decide +kernel⟩, by decide +kernel, by decide +kernel,
    accounts_of_run hrun⟩

end Switchboard

end Flowchart
