import Flowchart.Conversion
import Flowchart.Proofs.JsonFields
import Flowchart.Proofs.Words
import Flowchart.Service

/-!
# How the service divides its answer

The service may give its answer in any number of parts, with or without texts, and may give more
candidates than one. Only the texts of the first candidate, one after the other, make a difference,
to what a call returns and to the conversion.
-/

namespace Flowchart.Service

open Json.Reader (Reads)

/-! ## Bodies -/

def Part.toJson (p : Part) : Json :=
  .object [("text".toList, .ofOption .string p.text)]

def Content.toJson (c : Content) : Json :=
  .object [("parts".toList, .array (c.parts.map Part.toJson))]

def Candidate.toJson (c : Candidate) : Json :=
  .object [("content".toList, .ofOption Content.toJson c.content)]

/-- The body that gives the candidates, without anything else. -/
def bodyOf (candidates : List Candidate) : Bytes :=
  Text.encodeUtf8
    (Json.object [("candidates".toList, .array (candidates.map Candidate.toJson))]).render

theorem reads_readPart (p : Part) : Reads readPart p.toJson p := by
  obtain ⟨text⟩ := p
  cases text with
  | none => exact (Json.Reader.reads_orNull_null.map Part.mk).record _ _
  | some t => exact (((Json.Reader.reads_text t).orNull (by simp)).map Part.mk).record _ _

theorem reads_readContent (c : Content) : Reads readContent c.toJson c := by
  have hparts := Json.Reader.reads_list_map reads_readPart c.parts
  exact (hparts.map Content.mk).record _ _

theorem reads_readCandidate (c : Candidate) : Reads readCandidate c.toJson c := by
  obtain ⟨content⟩ := c
  cases content with
  | none => exact (Json.Reader.reads_orNull_null.map Candidate.mk).record _ _
  | some content =>
      exact (((reads_readContent content).orNull (by simp [Content.toJson])).map
        Candidate.mk).record _ _

/-- The body is read as those candidates. -/
def Holds (body : Bytes) (candidates : List Candidate) : Prop :=
  readCandidates.run (Text.encodeUtf8 (Text.decodeUtf8Lossy body)) = .ok candidates

theorem holds_bodyOf (candidates : List Candidate) : Holds (bodyOf candidates) candidates := by
  have hlist := Json.Reader.reads_list_map reads_readCandidate candidates
  rw [Holds, bodyOf, Text.decodeUtf8Lossy_encodeUtf8]
  exact (hlist.record _ _).run

/-! ## Answers -/

/-- The texts that the first candidate has, in one piece. -/
def givenText : List Candidate → Text
  | ⟨some content⟩ :: _ => (content.parts.filterMap Part.text).flatten
  | _ => []

theorem Content.text_eq_flatten (c : Content) :
    c.text = (c.parts.filterMap Part.text).flatten := by
  obtain ⟨parts⟩ := c
  unfold Content.text
  induction parts with
  | nil => rfl
  | cons part parts ih =>
      obtain ⟨text⟩ := part
      cases text with
      | none => exact ih
      | some t => exact congrArg (t ++ ·) ih

theorem answerText_eq_givenText (candidates : List Candidate) :
    answerText candidates = givenText candidates := by
  cases candidates with
  | nil => rfl
  | cons candidate candidates =>
      obtain ⟨content⟩ := candidate
      cases content with
      | none => rfl
      | some content => exact content.text_eq_flatten

/-- Blank parts and parts without a text add nothing but blanks. -/
theorem isBlanks_givenText_iff (candidates : List Candidate) : (givenText candidates).IsBlanks ↔
    ∀ candidate ∈ candidates.head?, ∀ content ∈ candidate.content, ∀ part ∈ content.parts,
      ∀ t ∈ part.text, t.IsBlanks := by
  cases candidates with
  | nil => simp [givenText, Text.IsBlanks]
  | cons candidate candidates =>
      obtain ⟨content⟩ := candidate
      cases content with
      | none => simp [givenText, Text.IsBlanks]
      | some content =>
          simp only [givenText, Text.IsBlanks, List.mem_flatten, List.mem_filterMap,
            List.head?_cons, Option.mem_def, Option.some.injEq, forall_eq']
          grind

theorem replyOfCandidates_of_isBlanks {candidates : List Candidate}
    (h : (givenText candidates).IsBlanks) :
    replyOfCandidates candidates = .error .emptyResponse := by
  rw [Text.isBlanks_iff_trim_eq_nil, ← answerText_eq_givenText] at h
  rw [replyOfCandidates, if_pos (List.isEmpty_iff.2 h)]

theorem replyOfCandidates_of_not_isBlanks {candidates : List Candidate}
    (h : ¬ (givenText candidates).IsBlanks) :
    replyOfCandidates candidates = .ok (givenText candidates) := by
  rw [Text.isBlanks_iff_trim_eq_nil, ← answerText_eq_givenText] at h
  rw [replyOfCandidates, if_neg (mt List.isEmpty_iff.1 h), answerText_eq_givenText]

theorem replyOfCandidates_congr {candidates others : List Candidate}
    (h : givenText others = givenText candidates) :
    replyOfCandidates candidates = replyOfCandidates others := by
  rw [replyOfCandidates, replyOfCandidates, answerText_eq_givenText, answerText_eq_givenText, h]

/-- The request for a prompt is made, and a success with those candidates comes of it. -/
def Gives (settings : ServiceSettings) (exchange : Request → Exchange) (prompt : Text)
    (candidates : List Candidate) : Prop :=
  ∃ request status body, Service.request settings prompt = .ok request ∧
    exchange request = .answered status body ∧ isSuccess status = true ∧ Holds body candidates

theorem call_of_gives {settings : ServiceSettings} {exchange : Request → Exchange} {prompt : Text}
    {candidates : List Candidate} (h : Gives settings exchange prompt candidates) :
    call settings exchange prompt = replyOfCandidates candidates := by
  obtain ⟨request, status, body, hrequest, hexchange, hsuccess, hholds⟩ := h
  rw [call, hrequest]
  simp only [hexchange, replyOfExchange, if_pos hsuccess, replyOfBody]
  rw [hholds]

theorem gives_bodyOf {settings : ServiceSettings} {prompt : Text} {request : Request} {status : Nat}
    (hrequest : Service.request settings prompt = .ok request) (hstatus : isSuccess status = true)
    (candidates : List Candidate) :
    Gives settings (fun _ => .answered status (bodyOf candidates)) prompt candidates :=
  ⟨request, status, bodyOf candidates, hrequest, rfl, hstatus, holds_bodyOf candidates⟩

/-- The conversion of a description by the service. -/
def convert (settings : ServiceSettings) (exchange : Request → Exchange) (d : Description) :
    Conversion :=
  .ofReply (call settings exchange (Prompt.build d))

/-- A success is judged by the text that its first candidate has in all. Unless that is blank, the
call returns it, and a conversion is the one of a client that answers with it in one piece. -/
structure HidesDivision (candidates : List Candidate) : Prop where
  /-- Every success with a body for the candidates gives them. -/
  gives : ∀ settings prompt request status, Service.request settings prompt = .ok request →
    isSuccess status = true →
    Gives settings (fun _ => .answered status (bodyOf candidates)) prompt candidates
  answers : ∀ settings exchange prompt, Gives settings exchange prompt candidates →
    ¬ (givenText candidates).IsBlanks →
    call settings exchange prompt = .ok (givenText candidates)
  converts : ∀ settings exchange d, Gives settings exchange (Prompt.build d) candidates →
    ¬ (givenText candidates).IsBlanks →
    convert settings exchange d = ((Client.ofReplies (.ok (givenText candidates)) []).convert d).1
  fails : ∀ settings exchange prompt, Gives settings exchange prompt candidates →
    (givenText candidates).IsBlanks →
    call settings exchange prompt = .error .emptyResponse
  fallsBack : ∀ settings exchange d, Gives settings exchange (Prompt.build d) candidates →
    (givenText candidates).IsBlanks →
    convert settings exchange d = ⟨Fallback.detailed.diagram, none, some .detailed⟩
  isBlanks_iff : (givenText candidates).IsBlanks ↔
    ∀ candidate ∈ candidates.head?, ∀ content ∈ candidate.content, ∀ part ∈ content.parts,
      ∀ t ∈ part.text, t.IsBlanks
  /-- Neither the division nor a later candidate makes a difference. -/
  alike : ∀ others, givenText others = givenText candidates →
    ∀ settings settings' exchange exchange' prompt, Gives settings exchange prompt candidates →
    Gives settings' exchange' prompt others →
    call settings exchange prompt = call settings' exchange' prompt

theorem hidesDivision (candidates : List Candidate) : HidesDivision candidates where
  gives := fun _ _ _ _ hrequest hstatus => gives_bodyOf hrequest hstatus candidates
  answers := fun _ _ _ hgives hne => by
    rw [call_of_gives hgives, replyOfCandidates_of_not_isBlanks hne]
  converts := fun _ _ d hgives hne => by
    rw [convert, call_of_gives hgives, replyOfCandidates_of_not_isBlanks hne, Client.convert_fst,
      Client.ofReplies]
  fails := fun _ _ _ hgives hblank => by
    rw [call_of_gives hgives, replyOfCandidates_of_isBlanks hblank]
  fallsBack := fun _ _ _ hgives hblank => by
    have hkind : Fallback.forError .emptyResponse = .detailed := rfl
    rw [convert, call_of_gives hgives, replyOfCandidates_of_isBlanks hblank, Conversion.ofReply,
      hkind, Conversion.ofFallback]
  isBlanks_iff := isBlanks_givenText_iff candidates
  alike := fun _ halike _ _ _ _ _ hgives hothers => by
    rw [call_of_gives hgives, call_of_gives hothers, replyOfCandidates_congr halike]

end Flowchart.Service
