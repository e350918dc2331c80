import Flowchart.Controller.Tasks

/-!
# The gate

Tasks run on one thread with a scripted service. Where there is a gate, a call takes its reply at
once and then waits for a release. A release lets the call that has waited longest go on, or is
kept, once, for the next call.
-/

namespace Flowchart

structure Gate where
  tasks : Tasks
  client : Client
  gated : Bool
  permit : Bool
  /-- The calls that wait, the longest-waiting first. -/
  waiting : List (Nat × Reply)

namespace Gate

def initial (classifier : Classifier) (client : Client) (gated : Bool) : Gate :=
  ⟨.initial classifier, client, gated, false, []⟩

/-- Lets a task that waits for the service make its call. -/
def call (g : Gate) (task : Nat) : Gate :=
  match g.tasks.running.lookup task with
  | some (.generating ticket) =>
    let made := g.client.generate (Prompt.build ticket.description)
    if g.gated && !g.permit then
      { g with client := made.2, waiting := g.waiting ++ [(task, made.1)] }
    else
      { g with client := made.2, permit := false, tasks := g.tasks.answer task made.1 }
  | _ => g

def submit (g : Gate) (text : Text) : Gate :=
  { g with tasks := g.tasks.submit text }.call g.tasks.started

def regenerate (g : Gate) : Gate :=
  { g with tasks := g.tasks.regenerate.resubmit g.tasks.started }.call g.tasks.started

def release (g : Gate) : Gate :=
  match g.waiting with
  | [] => { g with permit := true }
  | (task, reply) :: rest => { g with tasks := g.tasks.answer task reply, waiting := rest }

def clear (g : Gate) : Gate :=
  { g with tasks := g.tasks.clear }

def reportRenderError (g : Gate) (message : Text) : Except TransitionError Gate :=
  (g.tasks.reportRenderError message).map fun tasks => { g with tasks := tasks }

/-- The tasks up to the number that ran before and have ended since, or were started since and
have ended. -/
def endedSince (before after : Gate) : List Nat :=
  (List.range after.tasks.started).filter fun task =>
    (before.tasks.isRunning task || before.tasks.started ≤ task) && !after.tasks.isRunning task

end Gate

end Flowchart
