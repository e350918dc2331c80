import Flowchart.Controller

/-!
# Tasks

Submissions and regenerations run side by side. A task stands between two of its sections: it
waits for the answer of the service, or it has withdrawn a text and not submitted it yet. Tasks
may go on in any order.
-/

namespace Flowchart

inductive TaskState where
  | generating (ticket : Ticket)
  | withdrawn (text : Text)
  deriving DecidableEq

structure Tasks where
  controller : Controller
  /-- The tasks that have not ended, by number. -/
  running : List (Nat × TaskState)
  started : Nat
  /-- The descriptions that the service was asked for, in order. -/
  calls : List Description

namespace Tasks

def initial (classifier : Classifier) : Tasks :=
  ⟨.initial classifier, [], 0, []⟩

def isRunning (t : Tasks) (task : Nat) : Bool :=
  (t.running.lookup task).isSome

def drop (t : Tasks) (task : Nat) : Tasks :=
  { t with running := t.running.filter (·.1 != task) }

/-- The section in which a task submits its text. The task ends there unless the text is
accepted. -/
def submitSection (t : Tasks) (task : Nat) (text : Text) : Tasks :=
  match t.controller.submit text with
  | (controller, some ticket) =>
    { t with
      controller := controller
      running := t.running ++ [(task, .generating ticket)]
      calls := t.calls ++ [ticket.description] }
  | (controller, none) => { t with controller := controller }

def submit (t : Tasks) (text : Text) : Tasks :=
  { t with started := t.started + 1 }.submitSection t.started text

/-- The section in which a new task withdraws the text of the session. -/
def regenerate (t : Tasks) : Tasks :=
  let withdrawn := t.controller.withdraw
  { t with
    controller := withdrawn.1
    running := t.running ++ [(t.started, .withdrawn withdrawn.2)]
    started := t.started + 1 }

/-- The section in which a task submits the text that it withdrew. -/
def resubmit (t : Tasks) (task : Nat) : Tasks :=
  match t.running.lookup task with
  | some (.withdrawn text) => (t.drop task).submitSection task text
  | _ => t

/-- The section in which a task brings back its result and ends. -/
def answer (t : Tasks) (task : Nat) (reply : Reply) : Tasks :=
  match t.running.lookup task with
  | some (.generating ticket) =>
    { t.drop task with controller := t.controller.resolve ticket reply }
  | _ => t

def clear (t : Tasks) : Tasks :=
  { t with controller := t.controller.clear }

def reportRenderError (t : Tasks) (message : Text) : Except TransitionError Tasks :=
  (t.controller.reportRenderError message).map fun controller =>
    { t with controller := controller }

end Tasks

end Flowchart
