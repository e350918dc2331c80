import Flowchart.Proofs.AcceptedCharts
import Flowchart.Proofs.FencedReplies
import Flowchart.Proofs.Requests
import Flowchart.Proofs.SpelledCharts

/-!
# What is delivered

Whatever the service replies, a conversion gives a diagram with statements and says where it comes
from. A fallback always passes the check, and a repaired answer does when the labels and the shapes
on its lines do. Whatever runs side by side, the session shows and the routes answer no diagram but
the conversion of a reply that has come.
-/

namespace Flowchart

/-! ## Drawable texts -/

/-- The text passes the check, and there is a node in it. -/
def Text.IsDrawable (s : Text) : Prop := ∃ summary, check s = .ok summary ∧ summary.nodes ≠ []

instance (s : Text) : Decidable s.IsDrawable :=
  decidable_of_iff ((check s).toOption.any (!·.nodes.isEmpty)) (by
    cases h : check s <;> simp [Text.IsDrawable, Except.toOption, h])

theorem Check.Records.nodes_ne_nil {d : Direction} {summary : Summary} {ns : List Node}
    {es : List Edge} (h : Records ⟨d, [], []⟩ summary ns es) (hns : ns ≠ []) :
    summary.nodes ≠ [] := by
  obtain ⟨n, hn⟩ := List.exists_mem_of_ne_nil ns hns
  have hmem := (h.keys.2 n.id).2 (List.mem_map_of_mem hn)
  intro he
  rw [he] at hmem
  cases hmem

/-- What passes the check with a line behind the root line declares a node. -/
theorem isOk_iff_isDrawable_joinLines (d : Direction) {ps : List Layout} (hne : ps ≠ [])
    (hps : ∀ p ∈ ps, p.IsRaw ∧ p.IsSettledLine) :
    (check (Text.joinLines (Chart.rootLine d :: ps.map Layout.text))).isOk = true ↔
      (Text.joinLines (Chart.rootLine d :: ps.map Layout.text)).IsDrawable := by
  have hnodes : ps.flatMap Layout.nodes ≠ [] := by
    cases ps with
    | nil => exact absurd rfl hne
    | cons p ps => nofun
  constructor
  · intro hok
    cases hcheck : check (Text.joinLines (Chart.rootLine d :: ps.map Layout.text)) with
    | error e =>
        rw [hcheck] at hok
        cases hok
    | ok summary =>
        exact ⟨summary, hcheck,
          ((check_joinLines_eq_ok_iff d hps).1 hcheck).2.nodes_ne_nil hnodes⟩
  · rintro ⟨summary, hcheck, -⟩
    rw [hcheck]
    rfl

namespace Diagram

/-- A diagram is a root line and chains of canonical nodes and arrows. With a statement in it, it
passes the check exactly when its labels are strict and its shapes agree, and there is a node in it
then. -/
theorem exists_layouts (diagram : Diagram) (h : diagram.statements ≠ []) :
    ∃ d, ∃ ps : List Layout, (∀ p ∈ ps, p.IsRaw) ∧
      diagram.text = Text.joinLines (Chart.rootLine d :: ps.map Layout.text) ∧
        ((check diagram.text).isOk = true ↔ diagram.text.IsDrawable) ∧
          (diagram.text.IsDrawable ↔
            (∀ p ∈ ps, p.IsStrict) ∧ Node.Agree (ps.flatMap Layout.nodes)) := by
  obtain ⟨source, hsource⟩ := diagram.repaired
  obtain ⟨d, ps, hps, hx⟩ := exists_repair_eq source
  rw [hsource] at hx
  have hne : ps ≠ [] := by
    rintro rfl
    refine h ?_
    rw [statements, hx, Layout.lines_joinLines d fun p hp => (hps p hp).2]
    rfl
  have hdrawable := isOk_iff_isDrawable_joinLines d hne hps
  refine ⟨d, ps, fun p hp => (hps p hp).1, hx, ?_, ?_⟩
  · rw [hx, hdrawable]
  · rw [hx, ← hdrawable, isOk_check_joinLines_iff d hps]

end Diagram

namespace Fallback

private def indented (first : SpelledNode) (links : List (EdgeText × SpelledNode)) : SpelledLine :=
  ⟨[⟨"    ".toList, first, links, []⟩], none⟩

private def declaration (id : String) (shape : Shape) (label : String) (quoted : Bool) :
    SpelledLine :=
  indented (.shaped id.toList (.canonical shape) quoted label.toList) []

private def edge (source target : String) : SpelledLine :=
  indented (.bare source.toList) [(.plain [' '] "-->".toList [' '], .bare target.toList)]

private def lines : Fallback → List SpelledLine
  | minimal =>
    [declaration "Start" .terminal "Start" false,
      declaration "Process" .process "Process Algorithm" true,
      declaration "End" .terminal "End" false,
      edge "Start" "Process",
      edge "Process" "End"]
  | detailed =>
    [declaration "Start" .terminal "Start" false,
      declaration "Input" .input "Read Input" false,
      declaration "Process" .process "Process Algorithm" false,
      declaration "Output" .output "Show Result" false,
      declaration "End" .terminal "End" false,
      edge "Start" "Input",
      edge "Input" "Process",
      edge "Process" "Output",
      edge "Output" "End"]

/-- A fallback as it is spelled. -/
def spelling (kind : Fallback) : SpelledChart :=
  ⟨⟨[], "flowchart".toList, [' '], "TD".toList, []⟩, .topDown, ⟨[], none⟩, kind.lines⟩

theorem text_spelling (kind : Fallback) : kind.spelling.text = kind.source := by
  cases kind <;> decide +kernel

theorem isClean_chart (kind : Fallback) : kind.spelling.chart.IsClean := by
  cases kind <;> decide +kernel

theorem text_diagram (kind : Fallback) : kind.diagram.text = kind.spelling.chart.render := by
  have hz : kind.spelling.IsSpelling := by
    cases kind <;> decide +kernel
  have hm : ∀ s ∈ kind.spelling.chart.statements, s.isMistakable = false := by
    cases kind <;> decide +kernel
  have hrepair := SpelledChart.repair_text_eq_render_chart hz kind.isClean_chart hm
  rw [text_spelling] at hrepair
  simp only [diagram, Diagram.ofText, hrepair]

theorem statements_diagram_ne_nil (kind : Fallback) : kind.diagram.statements ≠ [] := by
  rw [Diagram.statements, text_diagram, Chart.lines_render kind.isClean_chart.1]
  cases kind <;> exact List.cons_ne_nil _ _

theorem isDrawable_diagram (kind : Fallback) : kind.diagram.text.IsDrawable := by
  have hnodes : kind.spelling.chart.nodes ≠ [] := by
    cases kind <;> exact List.cons_ne_nil _ _
  obtain ⟨summary, hcheck⟩ := Chart.exists_check_render kind.isClean_chart
  rw [text_diagram]
  refine ⟨summary, hcheck, ?_⟩
  exact ((Chart.check_render_eq_ok_iff kind.isClean_chart).1 hcheck).nodes_ne_nil hnodes

theorem forError_eq_minimal_iff {e : GenerationError} :
    forError e = .minimal ↔ e ≠ .emptyResponse := by
  rw [forError, GenerationError.isEmptyResponse]
  split <;> simp_all

end Fallback

/-! ## Conversions -/

/-- What a conversion gives for a reply. -/
structure Conversion.Delivers (c : Conversion) (reply : Reply) : Prop where
  statements_ne_nil : c.diagram.statements ≠ []
  fallback_eq_none_iff : c.fallback = none ↔
    ∃ raw, reply = .ok raw ∧ (Diagram.ofText (extract raw)).statements ≠ []
  repaired : c.fallback = none → ∀ raw, reply = .ok raw → c.diagram = .ofText (extract raw)
  /-- The minimal fallback is for errors other than an empty response. -/
  replaced : ∀ kind, c.fallback = some kind → c.diagram = kind.diagram ∧
    c.diagram.text.IsDrawable ∧ (kind = .minimal ↔ ∃ e, reply = .error e ∧ e ≠ .emptyResponse)
  fullResponse_eq_some_iff : ∀ raw, c.fullResponse = some raw ↔ reply = .ok raw
  /-- A diagram is drawable if its labels and shapes are in order, and there is nothing else for
  which the check turns it down. -/
  exists_isDrawable_iff : ∃ d, ∃ ps : List Layout, (∀ p ∈ ps, p.IsRaw) ∧
    c.diagram.text = Text.joinLines (Chart.rootLine d :: ps.map Layout.text) ∧
      ((check c.diagram.text).isOk = true ↔ c.diagram.text.IsDrawable) ∧
        (c.diagram.text.IsDrawable ↔
          (∀ p ∈ ps, p.IsStrict) ∧ Node.Agree (ps.flatMap Layout.nodes))

namespace Conversion

/-- A fallback stands in where no statement has come. -/
theorem delivers_ofFallback {kind : Fallback} {raw? : Option Text} {reply : Reply}
    (hnone : ¬ ∃ raw, reply = .ok raw ∧ (Diagram.ofText (extract raw)).statements ≠ [])
    (hkind : kind = .minimal ↔ ∃ e, reply = .error e ∧ e ≠ .emptyResponse)
    (hraw : ∀ raw, raw? = some raw ↔ reply = .ok raw) :
    (ofFallback kind raw?).Delivers reply where
  statements_ne_nil := kind.statements_diagram_ne_nil
  fallback_eq_none_iff := iff_of_false (Option.some_ne_none kind) hnone
  repaired h := absurd h (Option.some_ne_none kind)
  replaced _ h := by
    cases h
    exact ⟨rfl, kind.isDrawable_diagram, hkind⟩
  fullResponse_eq_some_iff := hraw
  exists_isDrawable_iff := kind.diagram.exists_layouts kind.statements_diagram_ne_nil

theorem delivers_ofText {raw : Text} (h : (Diagram.ofText (extract raw)).statements ≠ []) :
    Delivers ⟨.ofText (extract raw), some raw, none⟩ (.ok raw) where
  statements_ne_nil := h
  fallback_eq_none_iff := iff_of_true rfl ⟨raw, rfl, h⟩
  repaired _ _ hraw := by
    cases hraw
    rfl
  replaced _ hkind := by cases hkind
  fullResponse_eq_some_iff _ := by simp
  exists_isDrawable_iff := (Diagram.ofText (extract raw)).exists_layouts h

theorem delivers_ofReply (reply : Reply) : (ofReply reply).Delivers reply := by
  cases reply with
  | error e =>
      refine delivers_ofFallback ?_ ?_ (by simp)
      · rintro ⟨raw, h, -⟩
        cases h
      · simp [Fallback.forError_eq_minimal_iff]
  | ok raw =>
      by_cases hempty : (Diagram.ofText (extract raw)).statements = []
      · have hreply : ofReply (.ok raw) = ofFallback .detailed (some raw) := by
          simp [ofReply, hempty]
        rw [hreply]
        refine delivers_ofFallback ?_ (by simp) (by simp)
        rintro ⟨raw', h, hstatements⟩
        cases h
        exact hstatements hempty
      · have hreply : ofReply (.ok raw) = ⟨.ofText (extract raw), some raw, none⟩ := by
          simp [ofReply, hempty]
        rw [hreply]
        exact delivers_ofText hempty

/-- The slashes of the label are cleaned away nowhere, and the check turns the diagram down. -/
theorem not_isDrawable_ofReply :
    ¬ (ofReply (.ok "A[[foo] --> x||(/bar/)]".toList)).diagram.text.IsDrawable := by
  decide +kernel

end Conversion

/-! ## What the controller shows -/

/-- A snapshot with a diagram shows what is delivered for one of the replies. -/
structure Snapshot.IsBacked (replies : List Reply) (s : Snapshot) : Prop where
  blank : s.phase ≠ .ready → s.diagram = []
  backed : s.phase = .ready → ∃ reply ∈ replies, ∃ c : Conversion, c.Delivers reply ∧
    s.diagram = c.diagram.text ∧ s.fullResponse = c.fullResponse ∧ s.fallback = c.fallback

/-- So do the session and every snapshot that was sent. -/
structure Controller.IsBacked (replies : List Reply) (c : Controller) : Prop where
  snapshot : c.snapshot.IsBacked replies
  sent : ∀ s ∈ c.sent, s.IsBacked replies

/-- A result that the transition brings is the conversion of one of the replies. -/
def Transition.IsBacked (replies : List Reply) (t : Transition) : Prop :=
  ∀ g c, t = .resolve g c → ∃ reply ∈ replies, c = .ofReply reply

/-- The replies that a client still gives. -/
def Client.replies (client : Client) : List Reply := client.next :: client.later

variable {replies replies' : List Reply}

theorem Snapshot.IsBacked.mono {s : Snapshot} (h : s.IsBacked replies)
    (hsub : replies ⊆ replies') : s.IsBacked replies' := by
  refine ⟨h.blank, fun hready => ?_⟩
  obtain ⟨reply, hreply, hshown⟩ := h.backed hready
  exact ⟨reply, hsub hreply, hshown⟩

theorem Session.Applies.isBacked {s s' : Session} {t : Transition} (h : Applies s t s')
    (ht : t.IsBacked replies) : s'.snapshot.IsBacked replies := by
  cases h with
  | resolve c hphase =>
      obtain ⟨reply, hreply, rfl⟩ := ht _ c rfl
      exact ⟨fun hne => absurd rfl hne, fun _ =>
        ⟨reply, hreply, _, Conversion.delivers_ofReply reply, rfl, rfl, rfl⟩⟩
  | _ => exact ⟨fun _ => rfl, nofun⟩

namespace Controller.IsBacked

variable {c : Controller}

theorem mono (h : c.IsBacked replies) (hsub : replies ⊆ replies') : c.IsBacked replies' :=
  ⟨h.snapshot.mono hsub, fun s hs => (h.sent s hs).mono hsub⟩

theorem initial (classifier : Classifier) : (Controller.initial classifier).IsBacked [] :=
  ⟨⟨fun _ => rfl, nofun⟩, nofun⟩

theorem offer (h : c.IsBacked replies) {t : Transition} (ht : t.IsBacked replies) :
    (c.offer t).IsBacked replies := by
  unfold Controller.offer commit
  cases happly : c.session.apply t with
  | error e => exact h
  | ok s =>
      have hshown := (Session.apply_eq_ok_iff.1 happly).isBacked ht
      exact ⟨hshown, List.forall_mem_cons.2 ⟨hshown, h.sent⟩⟩

theorem submit (h : c.IsBacked replies) (text : Text) : (c.submit text).1.IsBacked replies := by
  rw [Controller.fst_submit]
  refine h.offer fun g conversion he => ?_
  rcases Transition.submit_cases c.classifier text with ⟨d, hd⟩ | ⟨reason, hd⟩
  · cases hd.symm.trans he
  · cases hd.symm.trans he

theorem resolve (h : c.IsBacked replies) (ticket : Ticket) {reply : Reply}
    (hreply : reply ∈ replies) : (c.resolve ticket reply).IsBacked replies :=
  h.offer fun g conversion he => by
    cases he
    exact ⟨reply, hreply, rfl⟩

theorem clear (h : c.IsBacked replies) : c.clear.IsBacked replies :=
  h.offer nofun

theorem reportRenderError (h : c.IsBacked replies) {message : Text} {next : Controller}
    (hreport : c.reportRenderError message = .ok next) : next.IsBacked replies := by
  have hoffer : next = c.offer (.renderFailed message) := by
    rw [Controller.offer, show c.commit (.renderFailed message) = .ok next from hreport]
  rw [hoffer]
  exact h.offer fun _ _ he => by cases he

end Controller.IsBacked

namespace Tasks

/-- The reply that the service gives in a section, if it gives one. -/
def Event.reply? : Event → Option Reply
  | answer _ reply => some reply
  | _ => none

theorem isBacked_submitSection {t : Tasks} (h : t.controller.IsBacked replies) (task : Nat)
    (text : Text) : (t.submitSection task text).controller.IsBacked replies := by
  have hsubmit := h.submit text
  unfold submitSection
  split <;> simp_all

theorem Step.isBacked {t t' : Tasks} {e : Event} (he : Step t e t')
    (h : t.controller.IsBacked replies) (hreply : ∀ reply ∈ e.reply?, reply ∈ replies) :
    t'.controller.IsBacked replies := by
  cases he with
  | submit text => exact isBacked_submitSection (t := { t with started := t.started + 1 }) h _ text
  | regenerate => exact h.clear
  | @resubmit task text hlookup =>
      rw [Tasks.resubmit, hlookup]
      exact isBacked_submitSection (t := t.drop task) h task text
  | @answer task ticket reply hlookup =>
      rw [Tasks.answer, hlookup]
      exact h.resolve ticket (hreply reply rfl)
  | clear => exact h.clear
  | @reportRenderError _ message hreport =>
      unfold Tasks.reportRenderError at hreport
      cases hcontroller : t.controller.reportRenderError message with
      | error e =>
          rw [hcontroller] at hreport
          cases hreport
      | ok next =>
          rw [hcontroller] at hreport
          cases hreport
          exact h.reportRenderError hcontroller
  | refuseRenderError hreport => exact h

/-- However sections overlap, what is shown was answered. -/
theorem Run.isBacked {classifier : Classifier} {es : List Event} {t : Tasks}
    (h : Run (initial classifier) es t) : t.controller.IsBacked (es.filterMap Event.reply?) := by
  induction h with
  | nil => exact .initial classifier
  | @snoc t' t'' es e h he ih =>
      rw [List.filterMap_append]
      refine he.isBacked (ih.mono (List.subset_append_left _ _)) fun reply hreply => ?_
      exact List.mem_append_right _ (List.mem_filterMap.2 ⟨e, List.mem_singleton_self e, hreply⟩)

end Tasks

/-! ## What the routes answer -/

namespace Http

/-- A response to a request says that all is well, or has in it what is delivered for one of the
replies, or turns the request down. Without a body are the answers to those who ask for the headers,
and to requests that no route takes. -/
inductive Response.IsBacked (replies : List Reply) (r : Request) : Response → Prop
  | unrouted (h : Route.ofPath? r.path = none) : IsBacked replies r (.empty 404)
  | unaccepted {route : Route} (hroute : Route.ofPath? r.path = some route)
      (h : route.accepts r.method = false) : IsBacked replies r (.empty 405)
  | refusal {status : Nat} {message : Text} (h : status = 400 ∨ status = 409) :
      IsBacked replies r (.ofError status message)
  | health : IsBacked replies r ((ofText "ok".toList).forMethod r.method)
  | session {response : Response} {s : Snapshot} (h : s.IsBacked replies)
      (hshown : response.Shows r.method s) : IsBacked replies r response
  | conversion {response : Response} {reply : Reply} {c : Conversion} (hreply : reply ∈ replies)
      (h : c.Delivers reply) (hgiven : response.Gives c) : IsBacked replies r response

theorem Response.IsBacked.mono {r : Request} {response : Response}
    (h : response.IsBacked replies r) (hsub : replies ⊆ replies') :
    response.IsBacked replies' r := by
  cases h with
  | unrouted h => exact .unrouted h
  | unaccepted hroute h => exact .unaccepted hroute h
  | refusal h => exact .refusal h
  | health => exact .health
  | session h hshown => exact .session (h.mono hsub) hshown
  | conversion hreply h hgiven => exact .conversion (hsub hreply) h hgiven

/-- The controller behind the routes, and the requests that wait for the service, with their
calls. -/
structure Traffic where
  controller : Controller
  waiting : List (Request × Call)

namespace Traffic

def initial (classifier : Classifier) : Traffic := ⟨.initial classifier, []⟩

/-- One section of a request, with the reply that it brings and the response that it ends with.
Whatever else has been received in the meantime, a request that waits goes on with its reply. -/
inductive Step (t : Traffic) : Option Reply → Option (Request × Response) → Traffic → Prop
  | answered {r : Request} {c : Controller} {response : Response}
      (h : receive t.controller r = (c, .answered response)) :
      Step t none (some (r, response)) ⟨c, t.waiting⟩
  | asked {r : Request} {c : Controller} {call : Call}
      (h : receive t.controller r = (c, .waiting call)) :
      Step t none none ⟨c, (r, call) :: t.waiting⟩
  | replied {r : Request} {call : Call} (h : (r, call) ∈ t.waiting) (reply : Reply) :
      Step t (some reply) (some (r, (call.finish t.controller reply).2))
        ⟨(call.finish t.controller reply).1, t.waiting.erase (r, call)⟩

inductive Run (t : Traffic) : List Reply → List (Request × Response) → Traffic → Prop
  | nil : Run t [] [] t
  | snoc {replies : List Reply} {answers : List (Request × Response)} {t' t'' : Traffic}
      {reply? : Option Reply} {answer? : Option (Request × Response)} (h : Run t replies answers t')
      (he : Step t' reply? answer? t'') :
      Run t (replies ++ reply?.toList) (answers ++ answer?.toList) t''

end Traffic

/-- Nothing is answered at once but what the replies before it back. -/
def Receipt.IsBacked (replies : List Reply) (r : Request) : Receipt → Prop
  | answered response => response.IsBacked replies r
  | waiting _ => r.method = "POST".toList

section

variable {c : Controller} {r : Request} (h : c.IsBacked replies)

include h

theorem isBacked_ofSnapshot (hpost : r.method = "POST".toList) :
    (Response.ofSnapshot c).IsBacked replies r :=
  .session h.snapshot (hpost ▸ Response.shows_ofSnapshot c "POST".toList)

theorem isBacked_submit (hpost : r.method = "POST".toList) (text : Text) :
    (submit c text).1.IsBacked replies ∧ (submit c text).2.IsBacked replies r := by
  have hsubmit := h.submit text
  unfold submit
  generalize c.submit text = out at hsubmit
  obtain ⟨next, ticket⟩ := out
  cases ticket with
  | none => exact ⟨hsubmit, isBacked_ofSnapshot hsubmit hpost⟩
  | some ticket => exact ⟨hsubmit, hpost⟩

theorem isBacked_submitBody (hpost : r.method = "POST".toList) :
    (submitBody c r).1.IsBacked replies ∧ (submitBody c r).2.IsBacked replies r := by
  unfold submitBody
  split
  · exact ⟨h, Response.IsBacked.refusal (.inl rfl)⟩
  · exact isBacked_submit h hpost _

theorem isBacked_reportRenderError (hpost : r.method = "POST".toList) :
    (reportRenderError c r).1.IsBacked replies ∧
      (reportRenderError c r).2.IsBacked replies r := by
  unfold reportRenderError
  split
  · exact ⟨h, Response.IsBacked.refusal (.inl rfl)⟩
  · split
    · exact ⟨h, Response.IsBacked.refusal (.inr rfl)⟩
    · rename_i next hreport
      have hnext := h.reportRenderError hreport
      exact ⟨hnext, isBacked_ofSnapshot hnext hpost⟩

omit h in
theorem isBacked_convert (hpost : r.method = "POST".toList) :
    (convert r).IsBacked replies r := by
  unfold convert
  dsimp only
  split
  · exact Response.IsBacked.refusal (.inl rfl)
  · exact hpost

theorem Route.isBacked_receive {route : Route} (haccepts : route.accepts r.method = true) :
    (route.receive c r).1.IsBacked replies ∧
      ((route.receive c r).2.forMethod r.method).IsBacked replies r := by
  cases hquery : route.isQuery with
  | true =>
      cases route with
      | health => exact ⟨h, .health⟩
      | session => exact ⟨h, .session h.snapshot (Response.shows_ofSnapshot c r.method)⟩
      | _ => cases hquery
  | false =>
      have hpost := Route.eq_post_of_accepts hquery haccepts
      rw [hpost, Receipt.forMethod_post]
      cases route with
      | convert => exact ⟨h, isBacked_convert hpost⟩
      | submit => exact isBacked_submitBody h hpost
      | regenerate => exact isBacked_submit h.clear hpost c.withdraw.2
      | clear => exact ⟨h.clear, isBacked_ofSnapshot h.clear hpost⟩
      | renderError => exact isBacked_reportRenderError h hpost
      | _ => cases hquery

theorem isBacked_receive (r : Request) :
    (receive c r).1.IsBacked replies ∧ (receive c r).2.IsBacked replies r := by
  unfold receive
  cases hroute : Route.ofPath? r.path with
  | none => exact ⟨h, Response.IsBacked.unrouted hroute⟩
  | some route =>
      cases haccepts : route.accepts r.method with
      | false => simpa [haccepts] using ⟨h, Response.IsBacked.unaccepted hroute haccepts⟩
      | true => simpa [haccepts] using Route.isBacked_receive h haccepts

theorem Call.isBacked_finish (call : Call) (hpost : r.method = "POST".toList) {reply : Reply}
    (hreply : reply ∈ replies) :
    (call.finish c reply).1.IsBacked replies ∧ (call.finish c reply).2.IsBacked replies r := by
  cases call with
  | submitted ticket =>
      have hnext := h.resolve ticket hreply
      exact ⟨hnext, isBacked_ofSnapshot hnext hpost⟩
  | single description =>
      exact ⟨h, .conversion hreply (Conversion.delivers_ofReply reply) (Response.gives_ofJson _)⟩

end

namespace Traffic

/-- Only what is posted waits. -/
structure IsBacked (replies : List Reply) (t : Traffic) : Prop where
  controller : t.controller.IsBacked replies
  posted : ∀ m ∈ t.waiting, m.1.method = "POST".toList

theorem Step.isBacked {t t' : Traffic} {reply? : Option Reply}
    {answer? : Option (Request × Response)} (he : Step t reply? answer? t')
    (h : t.IsBacked replies) (hreply : ∀ reply ∈ reply?, reply ∈ replies) :
    t'.IsBacked replies ∧ ∀ m ∈ answer?, m.2.IsBacked replies m.1 := by
  cases he with
  | @answered r c response hreceive =>
      have := isBacked_receive h.controller r
      rw [hreceive] at this
      refine ⟨⟨this.1, h.posted⟩, fun _ hanswer => ?_⟩
      cases hanswer
      exact this.2
  | @asked r c call hreceive =>
      have := isBacked_receive h.controller r
      rw [hreceive] at this
      exact ⟨⟨this.1, List.forall_mem_cons.2 ⟨this.2, h.posted⟩⟩, nofun⟩
  | @replied r call hcall reply =>
      obtain ⟨hnext, hfinished⟩ :=
        call.isBacked_finish h.controller (h.posted _ hcall) (hreply reply rfl)
      refine ⟨⟨hnext, fun m hm => h.posted m (List.mem_of_mem_erase hm)⟩, fun _ hanswer => ?_⟩
      cases hanswer
      exact hfinished

/-- Whatever requests are under way, what is answered has come from the service. -/
theorem Run.isBacked {classifier : Classifier} {answers : List (Request × Response)} {t : Traffic}
    (h : Run (initial classifier) replies answers t) :
    t.IsBacked replies ∧ ∀ m ∈ answers, m.2.IsBacked replies m.1 := by
  induction h with
  | nil => exact ⟨⟨.initial classifier, nofun⟩, nofun⟩
  | @snoc replies answers t' t'' reply? answer? h he ih =>
      have hsub := List.subset_append_left replies reply?.toList
      obtain ⟨hnext, hlast⟩ := he.isBacked ⟨ih.1.controller.mono hsub, ih.1.posted⟩
        fun reply hreply => List.mem_append_right _ (Option.mem_toList.2 hreply)
      refine ⟨hnext, fun m hm => ?_⟩
      rcases List.mem_append.1 hm with hm | hm
      · exact (ih.2 m hm).mono hsub
      · exact hlast m (Option.mem_toList.1 hm)

end Traffic

/-! ## Requests one after another -/

theorem replies_answering (client : Client) (question? : Option Description) :
    (answering client question?).replies ⊆ client.replies := by
  cases question? with
  | none => exact List.Subset.refl _
  | some d =>
      unfold answering Client.generate Client.replies
      cases client.later <;> simp

namespace Backend

/-- A request that is handled on its own is received, and goes on with the next reply if it has to
wait. -/
theorem exists_run_handle {b : Backend} {t : Traffic} {answers : List (Request × Response)}
    (h : t.Run replies answers ⟨b.controller, []⟩) (r : Request) :
    ∃ later, later ⊆ b.client.replies ∧ t.Run (replies ++ later)
      (answers ++ [(r, (b.handle r).2)]) ⟨(b.handle r).1.controller, []⟩ := by
  unfold handle
  generalize hreceive : receive b.controller r = out
  obtain ⟨c, receipt⟩ := out
  cases receipt with
  | answered response => exact ⟨[], nofun, h.snoc (.answered hreceive)⟩
  | waiting call =>
      have hasked := h.snoc (.asked hreceive)
      have hreplied := hasked.snoc (.replied List.mem_cons_self b.client.next)
      refine ⟨[b.client.next], by simp [Client.replies], ?_⟩
      simp only [await, Client.generate_fst]
      simpa using hreplied

theorem exists_run_after (classifier : Classifier) (client : Client) (rs : List Request) :
    ∃ replies answers, replies ⊆ client.replies ∧
      ((initial classifier client).after rs).client.replies ⊆ client.replies ∧
        Traffic.Run (.initial classifier) replies answers
          ⟨((initial classifier client).after rs).controller, []⟩ := by
  induction rs using List.reverseRecOn with
  | nil => exact ⟨[], [], nofun, List.Subset.refl _, .nil⟩
  | append_singleton rs r ih =>
      obtain ⟨replies, answers, hreplies, hclient, hrun⟩ := ih
      obtain ⟨later, hlater, hnext⟩ := exists_run_handle hrun r
      have hsub := List.append_subset.2 ⟨hreplies, List.Subset.trans hlater hclient⟩
      rw [after_concat]
      refine ⟨_, _, hsub, ?_, hnext⟩
      rw [client_handle]
      exact List.Subset.trans (replies_answering _ _) hclient

/-- What is answered has come from the replies of the client. -/
theorem isBacked_handle (classifier : Classifier) (client : Client) (rs : List Request)
    (r : Request) :
    (((initial classifier client).after rs).handle r).1.controller.IsBacked client.replies ∧
      (((initial classifier client).after rs).handle r).2.IsBacked client.replies r := by
  obtain ⟨replies, answers, hreplies, hclient, hrun⟩ := exists_run_after classifier client rs
  obtain ⟨later, hlater, hnext⟩ := exists_run_handle hrun r
  have hsub := List.append_subset.2 ⟨hreplies, List.Subset.trans hlater hclient⟩
  obtain ⟨hbacked, hanswers⟩ := hnext.isBacked
  exact ⟨hbacked.controller.mono hsub, (hanswers (r, _) (by simp)).mono hsub⟩

end Backend

end Http

/-! ## Deliveries -/

/-- Every conversion delivers. In every run of the controller, and of the routes with requests side
by side or one after another, nothing is shown or answered but what was delivered for a reply. -/
theorem delivers_in_runs (classifier : Classifier) (client : Client) (d : Description) :
    (client.convert d).1.Delivers client.next ∧
      (∀ (es : List Tasks.Event) (t : Tasks), Tasks.Run (.initial classifier) es t →
        t.controller.IsBacked (es.filterMap Tasks.Event.reply?)) ∧
      (∀ (replies : List Reply) (answers : List (Http.Request × Http.Response)) (t : Http.Traffic),
        Http.Traffic.Run (.initial classifier) replies answers t →
          t.controller.IsBacked replies ∧ ∀ m ∈ answers, m.2.IsBacked replies m.1) ∧
      ∀ (rs : List Http.Request) (r : Http.Request),
        (((Http.Backend.initial classifier client).after rs).handle r).2.IsBacked
          client.replies r := by
  refine ⟨?_, fun _ _ h => h.isBacked, fun _ _ _ h => ⟨h.isBacked.1.controller, h.isBacked.2⟩,
    fun rs r => (Http.Backend.isBacked_handle classifier client rs r).2⟩
  have hconvert : (client.convert d).1 = .ofReply client.next :=
    congrArg Conversion.ofReply (client.generate_fst _)
  rw [hconvert]
  exact Conversion.delivers_ofReply client.next

/-- An answer with a diagram is shown, and a fallback stands in for one that did not come. -/
theorem delivers_in_runs_sort :
    let classifier : Classifier := ⟨["sort".toList]⟩
    let reply : Reply := .ok "flowchart TD\nA --> B".toList
    let client : Client := .ofReplies reply [.error .timeout]
    let d : Description := ⟨"sort".toList, by decide⟩
    let tasks := ((Tasks.initial classifier).submit "sort a".toList).answer 0 reply
    let r : Http.Request := ⟨"POST".toList, "/convert".toList, some "application/json".toList,
      Text.encodeUtf8 "[\"sort\"]".toList⟩
    let response : Http.Response := .ofJson 200 (Http.conversionJson (.ofReply (.error .timeout)))
    (client.convert d).1.Delivers reply ∧
      Tasks.Run (.initial classifier) [.submit "sort a".toList, .answer 0 reply] tasks ∧
      tasks.controller.session.phase = .ready ∧ tasks.controller.IsBacked [reply] ∧
        Http.Traffic.Run (.initial classifier) [.error .timeout] [(r, response)]
            (.initial classifier) ∧ response.IsBacked [.error .timeout] r := by
  intro classifier reply client d tasks r response
  obtain ⟨hconverted, hshown, hanswered, -⟩ := delivers_in_runs classifier client d
  have hsubmitted : Tasks.Run (.initial classifier) [.submit "sort a".toList] _ :=
    Tasks.Run.nil.snoc (.submit _)
  obtain ⟨ticket, hticket⟩ : ∃ ticket, ((Tasks.initial classifier).submit
      "sort a".toList).running.lookup 0 = some (.generating ticket) := ⟨_, rfl⟩
  have htasks : Tasks.Run (.initial classifier) [.submit "sort a".toList, .answer 0 reply] tasks :=
    hsubmitted.snoc (.answer reply hticket)
  have hreceive : Http.receive (.initial classifier) r =
      (.initial classifier, .waiting (.single d)) := by
    have hroute : Http.Route.ofPath? r.path = some .convert := by decide +kernel
    have haccepts : Http.Route.convert.accepts r.method = true := by decide +kernel
    have hconvert : Http.convert r = .waiting (.single d) := by decide +kernel
    simp only [Http.receive, hroute, haccepts, if_true, Http.Route.receive, hconvert,
      Http.Receipt.forMethod]
  have hasked : Http.Traffic.Run (.initial classifier) [] []
      ⟨.initial classifier, [(r, .single d)]⟩ := Http.Traffic.Run.nil.snoc (.asked hreceive)
  have htraffic : Http.Traffic.Run (.initial classifier) [.error .timeout] [(r, response)]
      (.initial classifier) := by
    have := hasked.snoc (.replied List.mem_cons_self (.error .timeout))
    rw [List.erase_cons_head] at this
    exact this
  exact ⟨hconverted, htasks, by decide +kernel, hshown _ _ htasks, htraffic,
    (hanswered _ _ _ htraffic).2 (r, response) List.mem_cons_self⟩

end Flowchart
