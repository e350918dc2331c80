import Flowchart.Classifier
import Flowchart.Conversion

/-!
# Sessions

A session follows one description through its conversion. A transition gives the next session or
an error and never changes the current one. Each submission and each clearing raises the
generation, so a result that was started under an older generation is known to be stale.
-/

namespace Flowchart

inductive FailureReason where
  | emptyInput
  | notAnAlgorithm
  /-- The diagram was delivered and could not be drawn. -/
  | renderFailed (message : Text)
  deriving DecidableEq, Repr

def FailureReason.message : FailureReason → Text
  | emptyInput => "Please enter an algorithm description.".toList
  | notAnAlgorithm =>
    "This doesn't appear to be an algorithm description. ".toList ++
      "Please describe a process, procedure, or algorithm with steps, conditions, ".toList ++
      "or technical terms.".toList
  | renderFailed message => "Error rendering diagram: ".toList ++ message

/-- Where a session stands. -/
inductive Phase where
  | idle
  | loading
  | ready
  | failed
  deriving DecidableEq, Repr

def Phase.name : Phase → Text
  | idle => "idle".toList
  | loading => "loading".toList
  | ready => "ready".toList
  | failed => "failed".toList

inductive SessionState where
  | idle
  | loading
  | ready (diagram : Diagram)
  | failed (reason : FailureReason)
  deriving DecidableEq

def SessionState.phase : SessionState → Phase
  | idle => .idle
  | loading => .loading
  | ready _ => .ready
  | failed _ => .failed

inductive Transition where
  /-- Accepted text: a conversion starts. -/
  | begin (description : Description)
  | reject (text : Text) (reason : FailureReason)
  /-- The conversion that was started under the generation is there. -/
  | resolve (generation : Nat) (conversion : Conversion)
  | renderFailed (message : Text)
  | clear
  deriving DecidableEq

/-- Blank text and text that the classifier turns down are rejected. -/
def Transition.submit (classifier : Classifier) (text : Text) : Transition :=
  match Description.ofText? text with
  | none => .reject text .emptyInput
  | some d => if classifier.accepts text then .begin d else .reject text .notAnAlgorithm

inductive TransitionError where
  | stale (started current : Nat)
  /-- Only a session that is loading takes a result. -/
  | resolveOutside (phase : Phase)
  /-- Only a diagram that is there can fail to be drawn. -/
  | renderFailedOutside (phase : Phase)
  deriving DecidableEq, Repr

def TransitionError.message : TransitionError → Text
  | stale started current =>
    "stale result (started at generation ".toList ++ Nat.toDigits 10 started ++
      ", session is at ".toList ++ Nat.toDigits 10 current ++ [')']
  | resolveOutside phase => "cannot apply resolve while ".toList ++ phase.name
  | renderFailedOutside phase => "cannot apply render_failed while ".toList ++ phase.name

structure Session where
  state : SessionState
  text : Text
  /-- No transition raises it by more than one, so it is bounded by their number. -/
  generation : Nat
  fullResponse : Option Text
  fallback : Option Fallback
  deriving DecidableEq

/-- A session as it is shown. -/
structure Snapshot where
  phase : Phase
  text : Text
  diagram : Text
  error : Option Text
  fullResponse : Option Text
  fallback : Option Fallback
  generation : Nat
  deriving DecidableEq, Repr

namespace Session

def initial : Session :=
  ⟨.idle, [], 0, none, none⟩

instance : Inhabited Session := ⟨initial⟩

def phase (s : Session) : Phase :=
  s.state.phase

def diagram? (s : Session) : Option Diagram :=
  match s.state with
  | .ready d => some d
  | _ => none

def error? (s : Session) : Option FailureReason :=
  match s.state with
  | .failed reason => some reason
  | _ => none

def apply (s : Session) : Transition → Except TransitionError Session
  | .begin d => .ok ⟨.loading, d.text, s.generation + 1, none, none⟩
  | .reject text reason => .ok ⟨.failed reason, text, s.generation + 1, none, none⟩
  | .resolve generation conversion =>
    if generation ≠ s.generation then .error (.stale generation s.generation)
    else if s.phase ≠ .loading then .error (.resolveOutside s.phase)
    else
      .ok ⟨.ready conversion.diagram, s.text, s.generation, conversion.fullResponse,
        conversion.fallback⟩
  | .renderFailed message =>
    if s.phase ≠ .ready then .error (.renderFailedOutside s.phase)
    else .ok ⟨.failed (.renderFailed message), s.text, s.generation, none, none⟩
  | .clear => .ok { initial with generation := s.generation + 1 }

/-- A transition that cannot be applied leaves the session as it was. -/
def advance (s : Session) (t : Transition) : Session :=
  match s.apply t with
  | .ok next => next
  | .error _ => s

def run (s : Session) (ts : List Transition) : Session :=
  ts.foldl advance s

theorem run_append (s : Session) (ts us : List Transition) :
    s.run (ts ++ us) = (s.run ts).run us :=
  List.foldl_append

def snapshot (s : Session) : Snapshot where
  phase := s.phase
  text := s.text
  diagram := s.diagram?.elim [] Diagram.text
  error := s.error?.map FailureReason.message
  fullResponse := s.fullResponse
  fallback := s.fallback
  generation := s.generation

end Session

end Flowchart
