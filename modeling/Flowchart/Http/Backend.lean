import Flowchart.Http.Routes

/-!
# The backend

The session and the client of the service, used by one request after another: each one waits for
its reply before the next one is received.
-/

namespace Flowchart.Http

structure Backend where
  controller : Controller
  client : Client

namespace Backend

def initial (classifier : Classifier) (client : Client) : Backend :=
  ⟨.initial classifier, client⟩

/-- Makes the call that a request waits for. -/
def await (b : Backend) : Receipt → Backend × Response
  | .answered response => (b, response)
  | .waiting call =>
    let made := b.client.generate call.prompt
    let finished := call.finish b.controller made.1
    (⟨finished.1, made.2⟩, finished.2)

def handle (b : Backend) (r : Request) : Backend × Response :=
  let received := receive b.controller r
  { b with controller := received.1 }.await received.2

end Backend

end Flowchart.Http
