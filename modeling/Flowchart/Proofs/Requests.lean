import Flowchart.Http.Backend
import Flowchart.Proofs.Histories
import Flowchart.Proofs.Overlaps
import Flowchart.Proofs.ServedTexts

/-!
# Requests as transitions

Whatever is sent to the backend, its session is the one that the transitions of the requests make.
A submission begins and is resolved with the next reply of the service, a regeneration clears
first, and a request that asks nothing of the session takes at most a reply from the service. The
routes below `/session` answer with the snapshot of that session.
-/

namespace Flowchart

namespace Http

/-! ## What requests ask for -/

/-- What a request asks of the session. -/
inductive Demand where
  | submit (text : Text)
  | regenerate
  | clear
  | reportRenderError (message : Text)

namespace Demand

/-- A demand is posted, and a body that it needs can be read. A missing field is an empty text. -/
def ofRequest? (r : Request) : Option Demand :=
  if r.method = "POST".toList then
    if r.path = "/session/submit".toList then
      (r.read (.record "algorithmText".toList [] .text)).toOption.map submit
    else if r.path = "/session/regenerate".toList then some regenerate
    else if r.path = "/session/clear".toList then some clear
    else if r.path = "/session/render-error".toList then
      (r.read (.record "message".toList [] .text)).toOption.map reportRenderError
    else none
  else none

/-- A text that is accepted is begun and then resolved with the reply of the service. -/
def submission (classifier : Classifier) (s : Session) (reply : Reply) (text : Text) :
    List Transition :=
  match Transition.submit classifier text with
  | .begin d => [.begin d, .resolve (s.advance (.begin d)).generation (.ofReply reply)]
  | t => [t]

/-- The transitions of a demand, given the reply that the service has next. -/
def transitions (classifier : Classifier) (s : Session) (reply : Reply) : Demand → List Transition
  | submit text => submission classifier s reply text
  | regenerate => .clear :: submission classifier (s.advance .clear) reply s.text
  | clear => [.clear]
  | reportRenderError message => [.renderFailed message]

/-- The description that the service is asked for, if the text is accepted. -/
def question? (classifier : Classifier) (text : Text) : Option Description :=
  match Transition.submit classifier text with
  | .begin d => some d
  | _ => none

end Demand

/-- The text of a single conversion. A body that cannot be read has none. -/
def Request.conversionText (r : Request) : Text :=
  match r.read (.record "algorithmText".toList none (.orNull .text)) with
  | .ok (some text) => text
  | _ => []

namespace Request

def transitions (r : Request) (classifier : Classifier) (s : Session) (reply : Reply) :
    List Transition :=
  match Demand.ofRequest? r with
  | some demand => demand.transitions classifier s reply
  | none => []

/-- The description that the service is asked for, if it is asked at all. Single conversions ask
the same service. -/
def question? (r : Request) (classifier : Classifier) (s : Session) : Option Description :=
  match Demand.ofRequest? r with
  | some (.submit text) => Demand.question? classifier text
  | some .regenerate => Demand.question? classifier s.text
  | some _ => none
  | none =>
    if r.method = "POST".toList ∧ r.path = "/convert".toList then
      Description.ofText? r.conversionText
    else none

end Request

/-- The client behind a question. -/
def answering (client : Client) : Option Description → Client
  | none => client
  | some d => (client.generate (Prompt.build d)).2

/-- The transitions of requests that are handled one after another. -/
def history (classifier : Classifier) (s : Session) (client : Client) :
    List Request → List Transition
  | [] => []
  | r :: rs =>
    r.transitions classifier s client.next ++
      history classifier (s.run (r.transitions classifier s client.next))
        (answering client (r.question? classifier s)) rs

/-- The backend behind requests that are handled one after another. -/
def Backend.after (b : Backend) (rs : List Request) : Backend :=
  rs.foldl (fun b r => (b.handle r).1) b

/-! ## One request -/

theorem Response.status_forMethod (response : Response) (method : Text) :
    (response.forMethod method).status = response.status := by
  unfold forMethod
  split <;> rfl

theorem Receipt.forMethod_post (receipt : Receipt) :
    receipt.forMethod "POST".toList = receipt := by
  cases receipt <;> rfl

theorem Route.eq_post_of_accepts {route : Route} {method : Text} (hquery : route.isQuery = false)
    (h : route.accepts method = true) : method = "POST".toList := by
  rw [accepts, hquery] at h
  exact beq_iff_eq.1 h

/-- The demand that is posted to a route, if any is. -/
def Route.demand? (r : Request) : Route → Option Demand
  | submit => (r.read (.record textField [] .text)).toOption.map .submit
  | regenerate => some .regenerate
  | clear => some .clear
  | renderError => (r.read (.record messageField [] .text)).toOption.map .reportRenderError
  | _ => none

theorem Route.ofPath?_eq_some {path : Text} {route : Route} (h : ofPath? path = some route) :
    path = route.path := by
  have := List.find?_some h
  exact (beq_iff_eq.1 this).symm

theorem Route.ofPath?_path (route : Route) : ofPath? route.path = some route := by
  cases route <;> decide

namespace Backend

/-- What a backend makes of a request. -/
inductive Serves (b : Backend) (r : Request) : Backend → Response → Prop
  /-- The session is left alone. -/
  | aside {response : Response} (hdemand : Demand.ofRequest? r = none)
      (hstatus : response.status ≠ 409)
      (hsession : response.status = 200 → "/session".toList <+: r.path →
        response = (Response.ofSnapshot b.controller).forMethod r.method) :
      Serves b r
        ⟨b.controller,
          answering b.client (r.question? b.controller.classifier b.controller.session)⟩
        response
  /-- The transitions of a demand are made. -/
  | done {demand : Demand} {c : Controller} (hdemand : Demand.ofRequest? r = some demand)
      (hclassifier : c.classifier = b.controller.classifier)
      (hsession : c.session = b.controller.session.run
        (demand.transitions b.controller.classifier b.controller.session b.client.next))
      (hreport : ∀ message e, demand = .reportRenderError message →
        b.controller.session.apply (.renderFailed message) ≠ .error e) :
      Serves b r
        ⟨c, answering b.client (r.question? b.controller.classifier b.controller.session)⟩
        (.ofSnapshot c)
  /-- A diagram that is not shown cannot have failed to be drawn. -/
  | refused {message : Text} {e : TransitionError}
      (hdemand : Demand.ofRequest? r = some (.reportRenderError message))
      (happly : b.controller.session.apply (.renderFailed message) = .error e) :
      Serves b r b (.ofError 409 e.message)

/-- A submission waits for its reply, if it is accepted. -/
theorem await_submit (c : Controller) (client : Client) (text : Text) :
    ∃ c' : Controller,
      Backend.await ⟨(submit c text).1, client⟩ (submit c text).2 =
          (⟨c', answering client (Demand.question? c.classifier text)⟩, .ofSnapshot c') ∧
        c'.classifier = c.classifier ∧
        c'.session = c.session.run (Demand.submission c.classifier c.session client.next text) := by
  unfold submit Controller.submit Demand.question? Demand.submission
  rcases Transition.submit_cases c.classifier text with ⟨d, h⟩ | ⟨reason, h⟩
  · simp only [h]
    refine ⟨(c.offer (.begin d)).resolve ⟨(c.offer (.begin d)).session.generation, d⟩ client.next,
      ?_, ?_, ?_⟩
    · simp only [await, Call.finish, Client.generate_fst]
      rfl
    · rw [Controller.resolve, Controller.classifier_offer, Controller.classifier_offer]
    · rw [Controller.resolve, Controller.session_offer, Controller.session_offer]
      rfl
  · simp only [h]
    exact ⟨c.offer (.reject text reason), rfl, c.classifier_offer _, c.session_offer _⟩

/-! ### The routes -/

section Routes

variable {b : Backend} {r : Request}

theorem ofRequest?_of_path {route : Route} (hpost : r.method = "POST".toList)
    (hpath : r.path = route.path) : Demand.ofRequest? r = route.demand? r := by
  unfold Demand.ofRequest?
  rw [if_pos hpost, hpath]
  cases route <;> rfl

theorem ofRequest?_of_ofPath? (h : Route.ofPath? r.path = none) : Demand.ofRequest? r = none := by
  have hne : ∀ route : Route, r.path ≠ route.path := by
    rintro route he
    rw [he, Route.ofPath?_path] at h
    cases h
  have hsubmit : r.path ≠ "/session/submit".toList := hne .submit
  have hregenerate : r.path ≠ "/session/regenerate".toList := hne .regenerate
  have hclear : r.path ≠ "/session/clear".toList := hne .clear
  have hreport : r.path ≠ "/session/render-error".toList := hne .renderError
  unfold Demand.ofRequest?
  rw [if_neg hsubmit, if_neg hregenerate, if_neg hclear, if_neg hreport, ite_self]

theorem method_of_ofRequest? {demand : Demand} (h : Demand.ofRequest? r = some demand) :
    r.method = "POST".toList := by
  by_contra hmethod
  rw [Demand.ofRequest?, if_neg hmethod] at h
  cases h

theorem question?_of_method (h : r.method ≠ "POST".toList) (classifier : Classifier) (s : Session) :
    r.question? classifier s = none := by
  rw [Request.question?, Demand.ofRequest?, if_neg h]
  exact if_neg fun hpost => h hpost.1

/-- A request that is turned down. -/
theorem Serves.turnedDown {response : Response} (hdemand : Demand.ofRequest? r = none)
    (hquestion : r.question? b.controller.classifier b.controller.session = none) {status : Nat}
    (hstatus : response.status = status) (hne : status ≠ 200 ∧ status ≠ 409) :
    Serves b r b response := by
  rw [← hstatus] at hne
  have h := Serves.aside (b := b) hdemand hne.2 fun h => absurd h hne.1
  rw [hquestion] at h
  exact h

/-- A query asks nothing of the session. -/
theorem Serves.queried {response : Response} (hmethod : r.method ≠ "POST".toList)
    (hstatus : response.status = 200)
    (hsession : "/session".toList <+: r.path → response = .ofSnapshot b.controller) :
    Serves b r b (response.forMethod r.method) := by
  have hne : (response.forMethod r.method).status ≠ 409 := by
    rw [Response.status_forMethod, hstatus]
    decide
  have h := Serves.aside (b := b) (if_neg hmethod) hne fun _ h =>
    congrArg (·.forMethod r.method) (hsession h)
  rw [question?_of_method hmethod] at h
  exact h

theorem serves_convert (hpost : r.method = "POST".toList) (hpath : r.path = Route.convert.path) :
    Serves b r (b.await (convert r)).1 (b.await (convert r)).2 := by
  have hdemand : Demand.ofRequest? r = none := ofRequest?_of_path hpost hpath
  have hquestion : r.question? b.controller.classifier b.controller.session =
      Description.ofText? r.conversionText := by
    rw [Request.question?, hdemand]
    exact if_pos ⟨hpost, hpath⟩
  have hconvert : convert r = match Description.ofText? r.conversionText with
      | none => .answered (.ofError 400 textRequired)
      | some d => .waiting (.single d) := rfl
  rw [hconvert]
  cases htext : Description.ofText? r.conversionText with
  | none =>
      exact .turnedDown hdemand (hquestion.trans htext) rfl (by decide : 400 ≠ 200 ∧ 400 ≠ 409)
  | some d =>
      have hoff : ¬ "/session".toList <+: r.path := by
        rw [hpath]
        decide
      let response : Response := .ofJson 200 (conversionJson (.ofReply b.client.next))
      have hstatus : response.status ≠ 409 := (by decide : 200 ≠ 409)
      have h := Serves.aside (b := b) hdemand hstatus fun _ h => absurd h hoff
      rw [hquestion, htext] at h
      simp only [await, Call.finish, Client.generate_fst]
      exact h

theorem serves_submit (hpost : r.method = "POST".toList) (hpath : r.path = Route.submit.path) :
    Serves b r (await ⟨(submitBody b.controller r).1, b.client⟩ (submitBody b.controller r).2).1
      (await ⟨(submitBody b.controller r).1, b.client⟩ (submitBody b.controller r).2).2 := by
  have hdemand : Demand.ofRequest? r =
      (r.read (.record textField [] .text)).toOption.map .submit := ofRequest?_of_path hpost hpath
  unfold submitBody
  cases hread : r.read (.record textField [] .text) with
  | error e =>
      rw [hread] at hdemand
      refine .turnedDown hdemand ?_ rfl (by decide : 400 ≠ 200 ∧ 400 ≠ 409)
      rw [Request.question?, hdemand]
      refine if_neg fun h => ?_
      rw [hpath] at h
      exact absurd h.2 (by decide)
  | ok text =>
      rw [hread] at hdemand
      obtain ⟨c', hawait, hclassifier, hsession⟩ := await_submit b.controller b.client text
      have h := Serves.done (b := b) hdemand hclassifier hsession nofun
      rw [Request.question?, hdemand] at h
      simp only [hawait]
      exact h

theorem serves_regenerate (hpost : r.method = "POST".toList)
    (hpath : r.path = Route.regenerate.path) :
    Serves b r (await ⟨(regenerate b.controller).1, b.client⟩ (regenerate b.controller).2).1
      (await ⟨(regenerate b.controller).1, b.client⟩ (regenerate b.controller).2).2 := by
  have hdemand : Demand.ofRequest? r = some .regenerate := ofRequest?_of_path hpost hpath
  obtain ⟨c', hawait, hclassifier, hsession⟩ :=
    await_submit b.controller.withdraw.1 b.client b.controller.withdraw.2
  have hcleared : b.controller.withdraw.1.session = b.controller.session.advance .clear :=
    b.controller.session_offer .clear
  have hkept : b.controller.withdraw.1.classifier = b.controller.classifier :=
    b.controller.classifier_offer .clear
  rw [hcleared, hkept] at hsession
  rw [hkept] at hawait hclassifier
  have h := Serves.done (b := b) hdemand hclassifier hsession nofun
  rw [Request.question?, hdemand] at h
  rw [regenerate, hawait]
  exact h

theorem serves_clear (hpost : r.method = "POST".toList) (hpath : r.path = Route.clear.path) :
    Serves b r ⟨b.controller.clear, b.client⟩ (.ofSnapshot b.controller.clear) := by
  have hdemand : Demand.ofRequest? r = some .clear := ofRequest?_of_path hpost hpath
  have h := Serves.done (b := b) hdemand (b.controller.classifier_offer .clear)
    (b.controller.session_offer .clear) nofun
  rw [Request.question?, hdemand] at h
  exact h

theorem serves_renderError (hpost : r.method = "POST".toList)
    (hpath : r.path = Route.renderError.path) :
    Serves b r
      (await ⟨(reportRenderError b.controller r).1, b.client⟩
        (reportRenderError b.controller r).2).1
      (await ⟨(reportRenderError b.controller r).1, b.client⟩
        (reportRenderError b.controller r).2).2 := by
  have hdemand : Demand.ofRequest? r =
      (r.read (.record messageField [] .text)).toOption.map .reportRenderError :=
    ofRequest?_of_path hpost hpath
  unfold reportRenderError
  cases hread : r.read (.record messageField [] .text) with
  | error e =>
      rw [hread] at hdemand
      refine .turnedDown hdemand ?_ rfl (by decide : 400 ≠ 200 ∧ 400 ≠ 409)
      rw [Request.question?, hdemand]
      refine if_neg fun h => ?_
      rw [hpath] at h
      exact absurd h.2 (by decide)
  | ok message =>
      rw [hread] at hdemand
      have hcommit : b.controller.reportRenderError message =
          b.controller.commit (.renderFailed message) := rfl
      simp only [hcommit, Controller.commit]
      cases happly : b.controller.session.apply (.renderFailed message) with
      | error e => exact .refused hdemand happly
      | ok s =>
          have hreport : ∀ m e, Demand.reportRenderError message = .reportRenderError m →
              b.controller.session.apply (.renderFailed m) ≠ .error e := by
            rintro m e h herror
            cases h
            cases happly.symm.trans herror
          have h := Serves.done (b := b)
            (c := { b.controller with session := s, sent := s.snapshot :: b.controller.sent })
            hdemand rfl (Session.advance_of_ok happly).symm hreport
          rw [Request.question?, hdemand] at h
          exact h

theorem Route.accepts_post (route : Route) :
    route.accepts "POST".toList = !route.isQuery := by
  cases route <;> decide

theorem serves_of_not_accepts {route : Route} (hpath : r.path = route.path)
    (h : route.accepts r.method = false) : Serves b r b (.empty 405) := by
  by_cases hpost : r.method = "POST".toList
  · rw [hpost, Route.accepts_post, Bool.not_eq_false'] at h
    have hdemand : Demand.ofRequest? r = none := by
      rw [ofRequest?_of_path hpost hpath]
      cases route <;> first | rfl | cases h
    refine .turnedDown hdemand ?_ rfl (by decide : 405 ≠ 200 ∧ 405 ≠ 409)
    rw [Request.question?, hdemand]
    refine if_neg fun hconvert => ?_
    rw [hpath] at hconvert
    cases route with
    | health => exact absurd hconvert.2 (by decide)
    | session => exact absurd hconvert.2 (by decide)
    | _ => cases h
  · exact .turnedDown (if_neg hpost) (question?_of_method hpost _ _) rfl
      (by decide : 405 ≠ 200 ∧ 405 ≠ 409)

theorem serves_query {route : Route} (hpath : r.path = route.path) (hquery : route.isQuery = true)
    (h : route.accepts r.method = true) :
    Serves b r
      (await ⟨(route.receive b.controller r).1, b.client⟩
        ((route.receive b.controller r).2.forMethod r.method)).1
      (await ⟨(route.receive b.controller r).1, b.client⟩
        ((route.receive b.controller r).2.forMethod r.method)).2 := by
  have hmethod : r.method ≠ "POST".toList := by
    intro hpost
    rw [hpost, Route.accepts_post, hquery] at h
    cases h
  cases route with
  | health =>
      refine Serves.queried hmethod rfl fun h => ?_
      rw [hpath] at h
      exact absurd h (by decide)
  | session =>
      exact Serves.queried hmethod rfl fun _ => rfl
  | _ => cases hquery

/-- Every request is served. -/
theorem handle_serves (b : Backend) (r : Request) : Serves b r (b.handle r).1 (b.handle r).2 := by
  unfold handle receive
  cases hroute : Route.ofPath? r.path with
  | none =>
      have hconvert : r.path ≠ "/convert".toList := by
        intro h
        rw [h] at hroute
        exact absurd hroute (by decide)
      have hdemand := ofRequest?_of_ofPath? hroute
      refine .turnedDown hdemand ?_ rfl (by decide : 404 ≠ 200 ∧ 404 ≠ 409)
      rw [Request.question?, hdemand]
      exact if_neg fun h => hconvert h.2
  | some route =>
      have hpath := Route.ofPath?_eq_some hroute
      cases haccepts : route.accepts r.method with
      | false =>
          simp only [haccepts, Bool.false_eq_true, if_false]
          exact serves_of_not_accepts hpath haccepts
      | true =>
          simp only [haccepts, if_true]
          cases hquery : route.isQuery with
          | true => exact serves_query hpath hquery haccepts
          | false =>
              have hpost := Route.eq_post_of_accepts hquery haccepts
              rw [hpost, Receipt.forMethod_post]
              cases route with
              | convert => exact serves_convert hpost hpath
              | submit => exact serves_submit hpost hpath
              | regenerate => exact serves_regenerate hpost hpath
              | clear => exact serves_clear hpost hpath
              | renderError => exact serves_renderError hpost hpath
              | _ => cases hquery

end Routes

/-! ## Requests one after another -/

theorem session_handle (b : Backend) (r : Request) :
    (b.handle r).1.controller.session = b.controller.session.run
      (r.transitions b.controller.classifier b.controller.session b.client.next) := by
  have h := b.handle_serves r
  generalize b.handle r = out at h
  obtain ⟨b', response⟩ := out
  unfold Request.transitions
  cases h with
  | aside hdemand =>
      rw [hdemand]
      rfl
  | done hdemand hclassifier hsession =>
      rw [hdemand]
      exact hsession
  | refused hdemand happly =>
      rw [hdemand]
      exact (Session.advance_of_error happly).symm

theorem classifier_handle (b : Backend) (r : Request) :
    (b.handle r).1.controller.classifier = b.controller.classifier := by
  have h := b.handle_serves r
  generalize b.handle r = out at h
  obtain ⟨b', response⟩ := out
  cases h with
  | aside => rfl
  | done hdemand hclassifier => exact hclassifier
  | refused => rfl

theorem client_handle (b : Backend) (r : Request) :
    (b.handle r).1.client =
      answering b.client (r.question? b.controller.classifier b.controller.session) := by
  have h := b.handle_serves r
  generalize b.handle r = out at h
  obtain ⟨b', response⟩ := out
  cases h with
  | aside => rfl
  | done => rfl
  | refused hdemand =>
      rw [Request.question?, hdemand]
      rfl

theorem after_concat (b : Backend) (rs : List Request) (r : Request) :
    b.after (rs ++ [r]) = ((b.after rs).handle r).1 :=
  List.foldl_concat _ _ _ _

/-- The session follows the transitions of the requests, from wherever it stands. -/
theorem session_after (b : Backend) (rs : List Request) :
    (b.after rs).controller.session = b.controller.session.run
      (history b.controller.classifier b.controller.session b.client rs) := by
  induction rs generalizing b with
  | nil => rfl
  | cons r rs ih =>
      have hafter : b.after (r :: rs) = (b.handle r).1.after rs := rfl
      rw [hafter, ih, classifier_handle, client_handle, session_handle, history,
        Session.run_append]

/-- A backend answers a request, which takes its session from `s` to `s'`. -/
structure Refines (b : Backend) (r : Request) (b' : Backend) (response : Response)
    (s s' : Session) : Prop where
  before : b.controller.session = s
  after : b'.controller.session = s'
  shown : response.status = 200 → "/session".toList <+: r.path →
    response.Shows r.method s'.snapshot
  kept : Demand.ofRequest? r = none ∨ response.status = 400 ∨ response.status = 409 →
    b'.controller = b.controller
  conflict_iff : response.status = 409 ↔ ∃ message e,
    Demand.ofRequest? r = some (.reportRenderError message) ∧
      s.apply (.renderFailed message) = .error e
  answered : ∀ demand, Demand.ofRequest? r = some demand →
    response.status = 200 ∨ response.status = 409
  queried : r.path = "/session".toList → r.method = "GET".toList ∨ r.method = "HEAD".toList →
    response.status = 200

theorem status_handle_session {b : Backend} {r : Request} (hpath : r.path = "/session".toList)
    (hmethod : r.method = "GET".toList ∨ r.method = "HEAD".toList) :
    (b.handle r).2.status = 200 := by
  have hroute : Route.ofPath? r.path = some .session := by
    rw [hpath]
    decide
  have haccepts : Route.session.accepts r.method = true := by
    rcases hmethod with hmethod | hmethod
    · rw [hmethod]
      decide
    · rw [hmethod]
      decide
  simp only [handle, receive, hroute, haccepts, if_true]
  exact (Response.ofSnapshot b.controller).status_forMethod r.method

theorem Serves.refines {b b' : Backend} {r : Request} {response : Response}
    (h : Serves b r b' response)
    (hqueried : r.path = "/session".toList → r.method = "GET".toList ∨ r.method = "HEAD".toList →
      response.status = 200) :
    Refines b r b' response b.controller.session b'.controller.session := by
  cases h with
  | aside hdemand hstatus hsession =>
      refine ⟨rfl, rfl, fun h hpath => ?_, fun _ => rfl, ⟨fun h => absurd h hstatus, ?_⟩, ?_,
        hqueried⟩
      · rw [hsession h hpath]
        exact Response.shows_ofSnapshot b.controller r.method
      · rintro ⟨message, e, h, -⟩
        rw [hdemand] at h
        cases h
      · intro demand h
        rw [hdemand] at h
        cases h
  | @done demand c hdemand hclassifier hsession hreport =>
      have hstatus : (Response.ofSnapshot c).status = 200 := rfl
      refine ⟨rfl, rfl, fun _ _ => ?_, ?_, ⟨fun h => ?_, ?_⟩, fun _ _ => .inl rfl,
        hqueried⟩
      · rw [method_of_ofRequest? hdemand]
        exact Response.shows_ofSnapshot c "POST".toList
      · rintro (h | h | h)
        · rw [hdemand] at h
          cases h
        · cases h
        · cases h
      · cases h
      · rintro ⟨message, e, h, happly⟩
        rw [hdemand] at h
        cases h
        exact absurd happly (hreport message e rfl)
  | @refused message e hdemand happly =>
      refine ⟨rfl, rfl, nofun, fun _ => rfl, ⟨fun _ => ⟨message, e, hdemand, happly⟩, fun _ => rfl⟩,
        fun _ _ => .inr rfl, hqueried⟩

/-- Whatever has been requested, the next request is answered as the transitions say. -/
theorem refines_after (classifier : Classifier) (client : Client) (rs : List Request)
    (r : Request) :
    Refines ((initial classifier client).after rs) r
      (((initial classifier client).after rs).handle r).1
      (((initial classifier client).after rs).handle r).2
      (Session.initial.run (history classifier .initial client rs))
      (Session.initial.run (history classifier .initial client (rs ++ [r]))) := by
  have hbefore := session_after (initial classifier client) rs
  have hafter := session_after (initial classifier client) (rs ++ [r])
  rw [after_concat] at hafter
  have h := (((initial classifier client).after rs).handle_serves r).refines status_handle_session
  rw [hbefore, hafter] at h
  exact h

end Backend

end Http

end Flowchart
