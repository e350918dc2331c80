import Flowchart.Http.Routes
import Flowchart.Proofs.JsonFields

/-!
# Snapshots and conversions as they are served

A response that shows a snapshot can be read by anyone who knows the names of its fields. Each field
is given back as it was, and a request for the headers gets these without a text. So the diagram of
a single conversion can be read from its response.
-/

namespace Flowchart

namespace Json

/-- A string from a table of names. -/
def Reader.oneOf (table : List (Text × α)) : Reader α := fun s => do
  let (name, rest) ← text s
  match table.lookup name with
  | some a => return (a, rest)
  | none => throw .mismatch

theorem Reader.reads_oneOf {table : List (Text × α)} {name : Text} {a : α}
    (h : table.lookup name = some a) : Reads (oneOf table) (.string name) a := by
  intro s hs
  simp only [oneOf, reads_text name s hs, bind, Except.bind, h]
  rfl

/-- The text is an object that has the field, with this value. -/
def HasField (body : Text) (name : String) (read : Reader α) (a : α) : Prop :=
  ∀ default, (Reader.record name.toList default read).run (Text.encodeUtf8 body) = .ok a

theorem Reader.Reads.hasField {read : Reader α} {json : Json} {a : α}
    {fields : List (Text × Json)} {name : String} (h : Reads read json a)
    (hnames : (fields.map Prod.fst).Nodup) (hmem : (name.toList, json) ∈ fields) :
    HasField (Json.object fields).render name read a :=
  fun default => (h.field hnames hmem default).run

theorem Reader.reads_orNull_ofOption {read : Reader α} {toJson : α → Json}
    (h : ∀ a, Reads read (toJson a) a) (hne : ∀ a, toJson a ≠ .null) (a : Option α) :
    Reads (orNull read) (Json.ofOption toJson a) a := by
  cases a with
  | none => exact reads_orNull_null
  | some a => exact (h a).orNull (hne a)

end Json

open Json (HasField)
open Json.Reader (reads_nat reads_oneOf reads_orNull_ofOption reads_text)

def Phase.table : List (Text × Phase) :=
  [("idle".toList, idle), ("loading".toList, loading), ("ready".toList, ready),
    ("failed".toList, failed)]

def Fallback.table : List (Text × Fallback) :=
  [("minimal".toList, minimal), ("detailed".toList, detailed)]

/-- Every field of the snapshot can be read from the text. -/
structure Snapshot.IsGivenBy (s : Snapshot) (body : Text) : Prop where
  phase : HasField body "state" (.oneOf Phase.table) s.phase
  text : HasField body "algorithmText" .text s.text
  diagram : HasField body "mermaidCode" .text s.diagram
  error : HasField body "error" (.orNull .text) s.error
  fullResponse : HasField body "fullResponse" (.orNull .text) s.fullResponse
  fallback : HasField body "fallback" (.orNull (.oneOf Fallback.table)) s.fallback
  generation : HasField body "generation" .nat s.generation

namespace Http

theorem isGivenBy_snapshotJson (s : Snapshot) : s.IsGivenBy (snapshotJson s).render := by
  have hphase : Phase.table.lookup s.phase.name = some s.phase := by
    cases s.phase <;> decide
  have hfallback (f : Fallback) : Fallback.table.lookup f.name = some f := by
    cases f <;> decide
  have hnames : ["state".toList, "algorithmText".toList, "mermaidCode".toList, "error".toList,
      "fullResponse".toList, "fallback".toList, "generation".toList].Nodup := by
    decide
  have htexts := reads_orNull_ofOption reads_text (by simp)
  have hfallbacks := reads_orNull_ofOption (fun f => reads_oneOf (hfallback f)) (by simp)
  constructor
  case phase => exact (reads_oneOf hphase).hasField hnames (by simp)
  case text => exact (reads_text s.text).hasField hnames (by simp)
  case diagram => exact (reads_text s.diagram).hasField hnames (by simp)
  case error => exact (htexts s.error).hasField hnames (by simp)
  case fullResponse => exact (htexts s.fullResponse).hasField hnames (by simp)
  case fallback => exact (hfallbacks s.fallback).hasField hnames (by simp)
  case generation => exact (reads_nat s.generation).hasField hnames (by simp)

/-- The response has the headers of a snapshot and, unless only they were asked for, its text. -/
structure Response.Shows (response : Response) (method : Text) (s : Snapshot) : Prop where
  status_eq : response.status = 200
  contentType_eq : response.contentType = some "application/json".toList
  body_eq_nil : method = "HEAD".toList → response.body = []
  isGivenBy : method ≠ "HEAD".toList → s.IsGivenBy response.body
  /-- Nothing stands in the text besides. -/
  body_eq_render : method ≠ "HEAD".toList → response.body = (snapshotJson s).render

theorem Response.shows_ofSnapshot (c : Controller) (method : Text) :
    ((ofSnapshot c).forMethod method).Shows method c.snapshot := by
  unfold forMethod
  by_cases hmethod : method = "HEAD".toList
  · rw [if_pos (beq_iff_eq.2 hmethod)]
    exact ⟨rfl, rfl, fun _ => rfl, fun h => absurd hmethod h, fun h => absurd hmethod h⟩
  · rw [if_neg (mt beq_iff_eq.1 hmethod)]
    exact ⟨rfl, rfl, fun h => absurd h hmethod, fun _ => isGivenBy_snapshotJson c.snapshot,
      fun _ => rfl⟩

/-- The diagram of a conversion can be read from the response. -/
structure Response.Gives (response : Response) (c : Conversion) : Prop where
  status_eq : response.status = 200
  contentType_eq : response.contentType = some "application/json".toList
  diagram : HasField response.body "mermaidCode" .text c.diagram.text
  body_eq_render : response.body = (conversionJson c).render

theorem exists_conversionJson (c : Conversion) : ∃ fields,
    conversionJson c = .object (("mermaidCode".toList, .string c.diagram.text) :: fields) ∧
      (fields.map Prod.fst).Sublist ["fullResponse".toList, "fallback".toList] := by
  refine ⟨(c.fullResponse.toList.map fun t => ("fullResponse".toList, .string t)) ++
    if c.isFallback then [("fallback".toList, .bool true)] else [], rfl, ?_⟩
  cases c.fullResponse with
  | none =>
      cases c.isFallback with
      | false => exact List.nil_sublist _
      | true => exact .cons _ (List.Sublist.refl _)
  | some t =>
      cases c.isFallback with
      | false => exact .cons_cons _ (List.nil_sublist _)
      | true => exact List.Sublist.refl _

theorem Response.gives_ofJson (c : Conversion) : (ofJson 200 (conversionJson c)).Gives c := by
  refine ⟨rfl, rfl, ?_, rfl⟩
  obtain ⟨fields, hfields, hsublist⟩ := exists_conversionJson c
  have hnames : ["mermaidCode".toList, "fullResponse".toList, "fallback".toList].Nodup := by
    decide
  rw [ofJson, hfields]
  exact (reads_text c.diagram.text).hasField
    (hnames.sublist (hsublist.cons_cons "mermaidCode".toList)) List.mem_cons_self

end Http

end Flowchart
