import Flowchart.Text.Blank

/-!
# Generation

One call of the generation service takes a prompt and gives a text or an error. A scripted client
gives its replies in order and repeats the last one for ever.
-/

namespace Flowchart

inductive GenerationError where
  | missingCredential
  | transport (detail : Text)
  | timeout
  | status (code : Nat) (body : Text)
  | malformed (detail : Text)
  | emptyResponse
  deriving DecidableEq, Repr

namespace GenerationError

def message : GenerationError → Text
  | missingCredential => "no API credential configured (set GEMINI_API_KEY)".toList
  | transport detail => "request to the generation service failed: ".toList ++ detail
  | timeout => "generation service timed out".toList
  | status code body =>
    "generation service returned HTTP ".toList ++ Nat.toDigits 10 code ++ ": ".toList ++ body
  | malformed detail => "malformed generation response: ".toList ++ detail
  | emptyResponse => "generation service returned no text".toList

/-- The service answered, and there was nothing to draw. -/
def isEmptyResponse (e : GenerationError) : Bool :=
  e == emptyResponse

end GenerationError

abbrev Reply := Except GenerationError Text

/-- The replies still to come, and the prompts sent so far. -/
structure Client where
  next : Reply
  later : List Reply
  prompts : List Text

namespace Client

def ofReplies (first : Reply) (rest : List Reply) : Client :=
  ⟨first, rest, []⟩

def calls (c : Client) : Nat :=
  c.prompts.length

def generate (c : Client) (prompt : Text) : Reply × Client :=
  let prompts := c.prompts ++ [prompt]
  match c.later with
  | [] => (c.next, ⟨c.next, [], prompts⟩)
  | reply :: rest => (c.next, ⟨reply, rest, prompts⟩)

theorem generate_fst (c : Client) (prompt : Text) : (c.generate prompt).1 = c.next := by
  unfold generate
  cases c.later <;> rfl

theorem prompts_generate (c : Client) (prompt : Text) :
    (c.generate prompt).2.prompts = c.prompts ++ [prompt] := by
  unfold generate
  cases c.later <;> rfl

end Client

end Flowchart
