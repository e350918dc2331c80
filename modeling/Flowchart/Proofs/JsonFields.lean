import Flowchart.Proofs.SkippedValues

/-!
# Fields of JSON objects

A reader that wants one field of an object finds it wherever it stands among the others, which are
passed over.
-/

namespace Flowchart.Json

open Text (encodeUtf8)

namespace Reader

variable {α : Type} {read : Reader α} {json : Json} {a : α} {name key : Text} {s : Bytes}

theorem fieldsFuel_writtenEntries (f : Text × Json) (fields : List (Text × Json)) (default : α)
    (fuel : Nat) (found : Option α) :
    fieldsFuel name default read fuel true found
        (writtenEntries (fieldEntries (f :: fields)) ++ s) =
      fieldsFuel name default read fuel false found
        (nextEntries (fieldEntries (f :: fields)) ++ s) := by
  have hwritten : writtenEntries (fieldEntries (f :: fields)) ++ s = writtenName f.1 ++
      (encodeUtf8 f.2.render ++ nextEntries (fieldEntries fields) ++ s) := by
    simp [writtenEntries, fieldEntries]
  have hnext : nextEntries (fieldEntries (f :: fields)) ++ s =
      byte ',' :: (writtenEntries (fieldEntries (f :: fields)) ++ s) := by
    simp [writtenEntries, nextEntries, fieldEntries]
  rw [hnext, hwritten, writtenName_append]
  cases fuel <;> rfl

/-- Behind its name a field is read or passed over. -/
theorem fieldsFuel_name (default : α) (fuel : Nat) {found : Option α}
    (hfound : ¬(key = name ∧ found.isSome = true)) (s : Bytes) :
    fieldsFuel name default read (fuel + 1) false found (byte ',' :: (writtenName key ++ s)) =
      if key = name then
        read s >>= fun r => fieldsFuel name default read fuel false (some r.1) r.2
      else skipValue s >>= fieldsFuel name default read fuel false found := by
  rw [writtenName_append]
  change (readString _ >>= _) = _
  rw [readString_escaped]
  change (if key = name ∧ found.isSome = true then _ else _) = _
  rw [if_neg hfound]
  rfl

theorem fieldsFuel_other (hkey : key ≠ name) (hs : endsNumber s = true) (default : α) (fuel : Nat)
    (found : Option α) :
    fieldsFuel name default read (fuel + 1) false found
        (byte ',' :: (writtenName key ++ (encodeUtf8 json.render ++ s))) =
      fieldsFuel name default read fuel false found s := by
  rw [fieldsFuel_name default fuel fun h => hkey h.1, if_neg hkey, skipValue_render json hs]
  rfl

theorem fieldsFuel_nextEntries {fields : List (Text × Json)} (h : ∀ f ∈ fields, f.1 ≠ name)
    (hs : endsNumber s = true) (default : α) (fuel : Nat) (found : Option α) :
    fieldsFuel name default read (fuel + fields.length) false found
        (nextEntries (fieldEntries fields) ++ s) =
      fieldsFuel name default read fuel false found s := by
  induction fields with
  | nil => rfl
  | cons f fields ih =>
      obtain ⟨hf, h⟩ := List.forall_mem_cons.1 h
      have hsplit : nextEntries (fieldEntries (f :: fields)) ++ s =
          byte ',' :: (writtenName f.1 ++
            (encodeUtf8 f.2.render ++ (nextEntries (fieldEntries fields) ++ s))) := by
        simp [nextEntries, fieldEntries]
      rw [hsplit, List.length_cons, ← Nat.add_assoc,
        fieldsFuel_other hf (endsNumber_nextEntries hs _), ih h]

theorem Reads.fieldsFuel_wanted (h : Reads read json a) (hs : endsNumber s = true) (default : α)
    (fuel : Nat) :
    fieldsFuel name default read (fuel + 1) false none
        (byte ',' :: (writtenName name ++ (encodeUtf8 json.render ++ s))) =
      fieldsFuel name default read fuel false (some a) s := by
  rw [fieldsFuel_name default fuel (by simp), if_pos rfl, h s hs]
  rfl

theorem length_le_writtenEntries (fields : List (Text × Json)) :
    fields.length ≤ (writtenEntries (fieldEntries fields)).length + 1 := by
  have hnext (fields : List (Text × Json)) :
      fields.length ≤ (nextEntries (fieldEntries fields)).length := by
    induction fields with
    | nil => exact Nat.le_refl 0
    | cons f fields ih =>
        simp only [fieldEntries, List.map_cons, nextEntries, List.flatMap_cons, List.length_append,
          List.length_cons] at ih ⊢
        omega
  cases fields with
  | nil => exact Nat.zero_le _
  | cons f fields =>
      have := hnext fields
      simp only [fieldEntries, List.map_cons, writtenEntries, List.length_append,
        List.length_cons] at this ⊢
      omega

/-- A field is found wherever it stands among others. -/
theorem Reads.field {fields : List (Text × Json)} (h : Reads read json a)
    (hnames : (fields.map Prod.fst).Nodup) (hmem : (name, json) ∈ fields) (default : α) :
    Reads (record name default read) (.object fields) a := by
  intro s _
  obtain ⟨before, after, hfields⟩ := List.append_of_mem hmem
  rw [hfields, List.map_append, List.map_cons, List.nodup_append, List.nodup_cons] at hnames
  obtain ⟨-, ⟨hname, -⟩, hdisjoint⟩ := hnames
  have hbefore : ∀ f ∈ before, f.1 ≠ name := fun f hf =>
    hdisjoint f.1 (List.mem_map_of_mem hf) name List.mem_cons_self
  have hafter : ∀ f ∈ after, f.1 ≠ name := fun f hf he =>
    hname (List.mem_map.2 ⟨f, hf, he⟩)
  have hclosing := endsNumber_closing .brace s
  have hends := endsNumber_nextEntries hclosing (fieldEntries after)
  have hsplit : nextEntries (fieldEntries fields) ++ Bracket.brace.closing :: s =
      nextEntries (fieldEntries before) ++ byte ',' :: (writtenName name ++
        (encodeUtf8 json.render ++
          (nextEntries (fieldEntries after) ++ Bracket.brace.closing :: s))) := by
    simp [hfields, nextEntries, fieldEntries]
  -- each field takes one step, the closing bracket another, and each has a byte of its own
  obtain ⟨fuel, hfuel⟩ : ∃ fuel, (writtenEntries (fieldEntries fields) ++
      Bracket.brace.closing :: s).length + 1 = fuel + 1 + after.length + 1 + before.length := by
    have hlength := length_le_writtenEntries fields
    rw [hfields, List.length_append, List.length_cons, ← hfields] at hlength
    refine ⟨(writtenEntries (fieldEntries fields)).length + 1 - (before.length +
      (after.length + 1)) + s.length, ?_⟩
    rw [List.length_append, List.length_cons]
    omega
  have hrecord : record name default read (encodeUtf8 (object fields).render ++ s) =
      fieldsFuel name default read (fuel + 1 + after.length + 1 + before.length) true none
        (writtenEntries (fieldEntries fields) ++ Bracket.brace.closing :: s) := by
    rw [encodeUtf8_object, ← hfuel]
    rfl
  obtain ⟨f, rest, hcons⟩ := List.exists_cons_of_ne_nil (List.ne_nil_of_mem hmem)
  rw [hrecord, hcons, fieldsFuel_writtenEntries, ← hcons, hsplit,
    fieldsFuel_nextEntries hbefore rfl, h.fieldsFuel_wanted hends,
    fieldsFuel_nextEntries hafter hclosing]
  rfl

/-- A record of one field. -/
theorem Reads.record (h : Reads read json a) (name : Text) (default : α) :
    Reads (record name default read) (.object [(name, json)]) a :=
  h.field (by simp) (List.mem_singleton_self _) default

end Reader

end Flowchart.Json
