import Flowchart.Session

/-!
# The controller

The controller keeps the session and sends a snapshot to its subscribers for every transition
that is applied. Each function here is one section that runs without interruption. A submission
that is accepted gives a ticket, with which the result is brought back later.
-/

namespace Flowchart

/-- A conversion that was started: the generation it was started under, and its description. -/
structure Ticket where
  generation : Nat
  description : Description
  deriving DecidableEq

structure Controller where
  classifier : Classifier
  session : Session
  /-- The snapshots sent so far, the latest first. -/
  sent : List Snapshot

namespace Controller

def initial (classifier : Classifier) : Controller :=
  ⟨classifier, .initial, []⟩

def snapshot (c : Controller) : Snapshot :=
  c.session.snapshot

/-- What a subscriber sees. Before anything is sent, that is the snapshot of a fresh session. -/
def latest (c : Controller) : Snapshot :=
  c.sent.headD Session.initial.snapshot

def commit (c : Controller) (t : Transition) : Except TransitionError Controller :=
  (c.session.apply t).map fun next =>
    { c with session := next, sent := next.snapshot :: c.sent }

/-- Applies a transition if that is possible. -/
def offer (c : Controller) (t : Transition) : Controller :=
  match c.commit t with
  | .ok next => next
  | .error _ => c

theorem session_offer (c : Controller) (t : Transition) :
    (c.offer t).session = c.session.advance t := by
  unfold offer commit Session.advance
  cases c.session.apply t <;> rfl

def submit (c : Controller) (text : Text) : Controller × Option Ticket :=
  let t := Transition.submit c.classifier text
  let next := c.offer t
  match t with
  | .begin d => (next, some ⟨next.session.generation, d⟩)
  | _ => (next, none)

def resolve (c : Controller) (ticket : Ticket) (reply : Reply) : Controller :=
  c.offer (.resolve ticket.generation (.ofReply reply))

def clear (c : Controller) : Controller :=
  c.offer .clear

/-- Clears the session and keeps its text, to be submitted again. -/
def withdraw (c : Controller) : Controller × Text :=
  (c.clear, c.session.text)

def reportRenderError (c : Controller) (message : Text) : Except TransitionError Controller :=
  c.commit (.renderFailed message)

end Controller

end Flowchart
