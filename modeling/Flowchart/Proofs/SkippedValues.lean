import Flowchart.Proofs.JsonTexts

/-!
# JSON that is passed over

What is written can be skipped without being understood: a string because it could be read, a number
by its digits, and an array or an object because its values can be skipped. This takes no more steps
than there are bytes.
-/

namespace Flowchart.Json

open Text (encodeUtf8 encodeUtf8_append)

/-! ## Strings that are not wanted -/

def StringState.skipped : StringState → SkipState
  | plain => .plain
  | escape => .escape
  | code _ left _ => .code left
  | half _ => .plain
  | halfEscape _ => .escape

theorem exists_of_prepend {bytes all rest : Bytes} {read : Except ReadError (Bytes × Bytes)}
    (h : prepend bytes read = .ok (all, rest)) : ∃ more, read = .ok (more, rest) := by
  cases read with
  | error e => cases h
  | ok r =>
      cases h
      exact ⟨r.1, rfl⟩

theorem skipString_code_zero {b : UInt8} {d : Nat} (h : hexValue? b = some d) (s : Bytes) :
    skipString (.code 0) (b :: s) = skipString .plain s := by
  simp [skipString, h]

theorem skipString_code_succ {b : UInt8} {d : Nat} (h : hexValue? b = some d) (left : Nat)
    (s : Bytes) : skipString (.code (left + 1)) (b :: s) = skipString (.code left) s := by
  simp [skipString, h]

/-- Behind this byte the reader goes on to the same end, and the skipper goes on like it. -/
inductive StringState.GoesOn (state : StringState) (b : UInt8) (s rest : Bytes) : Prop
  | of_read {state' : StringState} {bytes : Bytes}
      (h : readStringBytes state' s = .ok (bytes, rest))
      (hskip : skipString state.skipped (b :: s) = skipString state'.skipped s) :
      GoesOn state b s rest

section

variable {state : StringState} {b : UInt8} {s bytes rest : Bytes}

theorem StringState.GoesOn.of_prepend {state' : StringState} {more : Bytes}
    (h : prepend more (readStringBytes state' s) = .ok (bytes, rest))
    (hskip : skipString state.skipped (b :: s) = skipString state'.skipped s) :
    state.GoesOn b s rest := by
  obtain ⟨_, hread⟩ := exists_of_prepend h
  exact .of_read hread hskip

theorem StringState.GoesOn.of_code {high : Option Nat} {left value : Nat}
    (h : readStringBytes (.code high left value) (b :: s) = .ok (bytes, rest)) :
    (code high left value).GoesOn b s rest := by
  rw [readStringBytes] at h
  split at h
  · cases h
  rename_i d hvalue
  cases left with
  | succ left => exact .of_read h (skipString_code_succ hvalue left s)
  | zero =>
      have hskip := skipString_code_zero hvalue s
      cases high with
      | none =>
          dsimp only at h
          split at h
          · cases h
          split at h
          · exact .of_read h hskip
          · exact .of_prepend h hskip
      | some high =>
          dsimp only at h
          split at h
          · exact .of_prepend h hskip
          · cases h

theorem skipString_cons (h : readStringBytes state (b :: s) = .ok (bytes, rest)) :
    skipString state.skipped (b :: s) = .ok rest ∨ state.GoesOn b s rest := by
  cases state with
  | plain =>
      rw [readStringBytes] at h
      split at h
      · cases h
        left
        rw [StringState.skipped, skipString, if_pos ‹_›]
      right
      split at h
      · refine .of_read h ?_
        change skipString .plain (b :: s) = skipString .escape s
        rw [skipString, if_neg ‹_›, if_pos ‹_›]
      split at h
      · cases h
      · refine .of_prepend h ?_
        change skipString .plain (b :: s) = skipString .plain s
        rw [skipString, if_neg ‹_›, if_neg ‹_›, if_neg ‹_›]
  | escape =>
      right
      rw [readStringBytes] at h
      split at h
      · refine .of_read h ?_
        change skipString .escape (b :: s) = skipString (.code 3) s
        rw [skipString, if_pos ‹_›]
      split at h
      · rename_i hescape
        refine .of_prepend h ?_
        change skipString .escape (b :: s) = skipString .plain s
        rw [skipString, if_neg ‹_›, hescape]
        rfl
      · cases h
  | code high left value => exact .inr (.of_code h)
  | half high =>
      right
      rw [readStringBytes] at h
      split at h
      · rename_i hbackslash
        refine .of_read h ?_
        change skipString .plain (b :: s) = skipString .escape s
        rw [skipString, if_neg (by rw [beq_iff_eq.1 hbackslash]; decide), if_pos hbackslash]
      · cases h
  | halfEscape high =>
      right
      rw [readStringBytes] at h
      split at h
      · refine .of_read h ?_
        change skipString .escape (b :: s) = skipString (.code 3) s
        rw [skipString, if_pos ‹_›]
      · cases h

end

/-- A string that can be read can be skipped. -/
theorem skipString_of_readStringBytes {state : StringState} {s bytes rest : Bytes}
    (h : readStringBytes state s = .ok (bytes, rest)) : skipString state.skipped s = .ok rest := by
  induction s generalizing state bytes with
  | nil => cases state <;> cases h
  | cons b s ih =>
      rcases skipString_cons h with hend | ⟨hread, hskip⟩
      · exact hend
      · exact hskip.trans (ih hread)

theorem skipString_escaped (t : Text) (s : Bytes) :
    skipString .plain (encodeUtf8 (t.flatMap escapeChar) ++ byte '"' :: s) = .ok s :=
  skipString_of_readStringBytes (readStringBytes_escaped t s)

/-! ## Values that are not wanted -/

def Bracket.opening : Bracket → UInt8
  | .square => byte '['
  | .brace => byte '\x7b'

/-- Reads past what stands before a value in brackets. -/
def Bracket.skipLead : Bracket → Bytes → Except ReadError Bytes
  | .square, s => .ok s
  | .brace, s => skipName s

/-- Values behind the first one, each with what stands before it. -/
def nextEntries (entries : List (Bytes × Json)) : Bytes :=
  entries.flatMap fun e => byte ',' :: (e.1 ++ encodeUtf8 e.2.render)

def writtenEntries : List (Bytes × Json) → Bytes
  | [] => []
  | e :: entries => e.1 ++ encodeUtf8 e.2.render ++ nextEntries entries

/-- No more steps are needed for the value than it has bytes. -/
def IsSkipped (json : Json) : Prop :=
  ∃ k ≤ (encodeUtf8 json.render).length, ∀ fuel opened s, endsNumber s = true →
    skipFuel (fuel + k) opened false (encodeUtf8 json.render ++ s) = skipFuel fuel opened true s

/-- The value can be passed over behind what stands before it, and neither looks like the end. -/
structure Bracket.Admits (bracket : Bracket) (e : Bytes × Json) : Prop where
  skipLead : ∀ s, bracket.skipLead (e.1 ++ s) = .ok s
  exists_cons : ∀ s, ∃ b rest, e.1 ++ (encodeUtf8 e.2.render ++ s) = b :: rest ∧
    isBlankByte b = false ∧ b ≠ bracket.closing
  isSkipped : IsSkipped e.2

theorem endsNumber_closing (bracket : Bracket) (s : Bytes) :
    endsNumber (bracket.closing :: s) = true := by
  cases bracket <;> rfl

theorem endsNumber_nextEntries {s : Bytes} (hs : endsNumber s = true)
    (entries : List (Bytes × Json)) : endsNumber (nextEntries entries ++ s) = true := by
  cases entries with
  | nil => exact hs
  | cons e entries => rfl

theorem Bracket.skipFuel_comma (bracket : Bracket) (fuel : Nat) (opened : List Bracket)
    (s : Bytes) : skipFuel (fuel + 1) (bracket :: opened) true (byte ',' :: s) =
      bracket.skipLead s >>= skipFuel fuel (bracket :: opened) false := by
  cases bracket <;> rfl

theorem Bracket.skipFuel_opening (bracket : Bracket) {b : UInt8} (hblank : isBlankByte b = false)
    (hb : b ≠ bracket.closing) (fuel : Nat) (opened : List Bracket) (s : Bytes) :
    skipFuel (fuel + 1) opened false (bracket.opening :: b :: s) =
      bracket.skipLead (b :: s) >>= skipFuel fuel (bracket :: opened) false := by
  have hskip : skipBlanks (bracket.opening :: b :: s) = bracket.opening :: b :: s := by
    cases bracket <;> rfl
  have hne : (b == bracket.closing) = false := beq_false_of_ne hb
  rw [skipFuel, hskip]
  cases bracket with
  | square =>
      rw [closing] at hne
      simp only [skipBlanks_cons hblank, hne]
      rfl
  | brace =>
      rw [closing] at hne
      simp only [skipBlanks_cons hblank, hne]
      rfl

section

variable {bracket : Bracket} {entries : List (Bytes × Json)}

theorem skipFuel_nextEntries (h : ∀ e ∈ entries, bracket.Admits e) :
    ∃ k ≤ (nextEntries entries).length + 1, ∀ fuel opened s,
      skipFuel (fuel + k) (bracket :: opened) true (nextEntries entries ++ bracket.closing :: s) =
        skipFuel fuel opened true s := by
  induction entries with
  | nil => exact ⟨1, by simp, fun fuel opened s => by cases bracket <;> rfl⟩
  | cons e entries ih =>
      obtain ⟨he, h⟩ := List.forall_mem_cons.1 h
      obtain ⟨k, hk, hvalue⟩ := he.isSkipped
      obtain ⟨l, hl, hrest⟩ := ih h
      have hsplit : nextEntries (e :: entries) =
          byte ',' :: (e.1 ++ encodeUtf8 e.2.render) ++ nextEntries entries := rfl
      refine ⟨l + k + 1, ?_, fun fuel opened s => ?_⟩
      · simp only [hsplit, List.length_append, List.length_cons]
        omega
      rw [hsplit, List.append_assoc, List.cons_append, ← Nat.add_assoc, ← Nat.add_assoc,
        bracket.skipFuel_comma, List.append_assoc, he.skipLead]
      have hends := endsNumber_nextEntries (endsNumber_closing bracket s) entries
      exact (hvalue _ _ _ hends).trans (hrest fuel opened s)

/-- An array or an object can be passed over if its values can. -/
theorem isSkipped_of_entries {json : Json} (h : ∀ e ∈ entries, bracket.Admits e)
    (hrender : ∀ s, encodeUtf8 json.render ++ s =
      bracket.opening :: (writtenEntries entries ++ bracket.closing :: s)) : IsSkipped json := by
  have hlength : (encodeUtf8 json.render).length = (writtenEntries entries).length + 2 := by
    rw [← List.append_nil (encodeUtf8 _), hrender]
    simp
  cases entries with
  | nil =>
      refine ⟨1, by omega, fun fuel opened s _ => ?_⟩
      rw [hrender]
      cases bracket <;> rfl
  | cons e entries =>
      obtain ⟨he, h⟩ := List.forall_mem_cons.1 h
      obtain ⟨k, hk, hvalue⟩ := he.isSkipped
      obtain ⟨l, hl, hrest⟩ := skipFuel_nextEntries h
      refine ⟨l + k + 1, ?_, fun fuel opened s _ => ?_⟩
      · rw [hlength]
        simp only [writtenEntries, List.length_append]
        omega
      obtain ⟨b, rest, hcons, hblank, hb⟩ :=
        he.exists_cons (nextEntries entries ++ bracket.closing :: s)
      have hwritten : writtenEntries (e :: entries) ++ bracket.closing :: s = b :: rest := by
        rw [← hcons, writtenEntries, List.append_assoc, List.append_assoc]
      rw [hrender, hwritten, ← Nat.add_assoc, ← Nat.add_assoc, bracket.skipFuel_opening hblank hb,
        ← hcons, he.skipLead]
      have hends := endsNumber_nextEntries (endsNumber_closing bracket s) entries
      exact (hvalue _ _ _ hends).trans (hrest fuel opened s)

end

/-! ### Names and values -/

/-- The name of a field with its colon. -/
def writtenName (name : Text) : Bytes :=
  encodeUtf8 (renderString name) ++ [byte ':']

theorem writtenName_append (name : Text) (s : Bytes) :
    writtenName name ++ s =
      byte '"' :: (encodeUtf8 (name.flatMap escapeChar) ++ byte '"' :: byte ':' :: s) := by
  rw [writtenName, List.append_assoc, Reader.encodeUtf8_renderString]
  rfl

theorem skipName_writtenName (name : Text) (s : Bytes) :
    skipName (writtenName name ++ s) = .ok s := by
  rw [writtenName_append, skipName, skipBlanks_cons (by decide)]
  change (skipString .plain _ >>= _) = _
  rw [skipString_escaped]
  rfl

theorem encodeUtf8_array (items : List Json) (s : Bytes) :
    encodeUtf8 (array items).render ++ s = Bracket.square.opening ::
      (writtenEntries (items.map ([], ·)) ++ Bracket.square.closing :: s) := by
  have hitems : encodeUtf8 (renderItems items) = writtenEntries (items.map ([], ·)) := by
    cases items with
    | nil => rfl
    | cons item items =>
        rw [Reader.encodeUtf8_renderItems]
        simp [writtenEntries, nextEntries, Reader.nextItems, List.flatMap_map]
  rw [render, ← hitems, encodeUtf8_append, List.append_assoc]
  rfl

def fieldEntries (fields : List (Text × Json)) : List (Bytes × Json) :=
  fields.map fun f => (writtenName f.1, f.2)

theorem encodeUtf8_renderFields (fields : List (Text × Json)) :
    encodeUtf8 (renderFields fields) = writtenEntries (fieldEntries fields) := by
  have hlast (f : Text × Json) : encodeUtf8 (renderString f.1 ++ ':' :: f.2.render) =
      writtenName f.1 ++ encodeUtf8 f.2.render := by
    rw [encodeUtf8_append, encodeUtf8_cons (by decide), writtenName, List.append_assoc]
    rfl
  cases fields with
  | nil => rfl
  | cons f fields =>
      induction fields generalizing f with
      | nil => exact (hlast f).trans (List.append_nil _).symm
      | cons g fields ih =>
          have hcons : renderFields (f :: g :: fields) =
              renderString f.1 ++ ':' :: f.2.render ++ ',' :: renderFields (g :: fields) := rfl
          rw [hcons, encodeUtf8_append, hlast, encodeUtf8_cons (by decide), ih]
          rfl

theorem encodeUtf8_object (fields : List (Text × Json)) (s : Bytes) :
    encodeUtf8 (object fields).render ++ s = Bracket.brace.opening ::
      (writtenEntries (fieldEntries fields) ++ Bracket.brace.closing :: s) := by
  have hrender : encodeUtf8 (object fields).render =
      Bracket.brace.opening :: (encodeUtf8 (renderFields fields) ++ [Bracket.brace.closing]) := by
    rw [render, List.cons_append, encodeUtf8_cons (by decide), encodeUtf8_append]
    rfl
  rw [hrender, encodeUtf8_renderFields, List.cons_append, List.append_assoc]
  rfl

theorem digitByte_isScalar : ∀ k < 10, let b := UInt8.ofNat (k + 48)
    (b == byte '[') = false ∧ (b == byte '\x7b') = false ∧ (b == byte '"') = false ∧
      (b == byte '-') = false := by
  decide

theorem isSkipped_number (n : Nat) : IsSkipped (.number n) := by
  obtain ⟨k, hk, rest, hdigits⟩ := exists_encodeUtf8_toDigits n
  obtain ⟨hsquare, hbrace, hquote, hminus⟩ := digitByte_isScalar k hk
  refine ⟨1, by simp [render, hdigits], fun fuel opened s hs => ?_⟩
  have hread := readNumeral_toDigits n hs
  rw [hdigits, List.cons_append] at hread
  have hscalar : skipScalar (.ofNat (k + 48)) (rest ++ s) = .ok s := by
    simp only [skipScalar, hquote, hminus, isDigitByte_ofNat k hk, skipNumeral, hread]
    rfl
  rw [render, hdigits, List.cons_append, skipFuel, skipBlanks_cons (digitByte_starts k hk).1]
  simp only [hsquare, hbrace, hscalar]
  rfl

/-- Whatever is written can be skipped. -/
theorem isSkipped (json : Json) : IsSkipped json := by
  cases json with
  | null => exact ⟨1, by decide, fun _ _ _ _ => rfl⟩
  | bool b =>
      cases b with
      | true => exact ⟨1, by decide, fun _ _ _ _ => rfl⟩
      | false => exact ⟨1, by decide, fun _ _ _ _ => rfl⟩
  | number n => exact isSkipped_number n
  | string t =>
      have hwritten := Reader.encodeUtf8_renderString t
      refine ⟨1, ?_, fun fuel opened s _ => ?_⟩
      · rw [render, ← List.append_nil (encodeUtf8 _), hwritten]
        simp
      rw [render, hwritten, skipFuel, skipBlanks_cons (by decide)]
      change (skipString .plain _ >>= _) = _
      rw [skipString_escaped]
      rfl
  | array items =>
      refine isSkipped_of_entries (fun e he => ?_) (encodeUtf8_array items)
      obtain ⟨item, hitem, rfl⟩ := List.mem_map.1 he
      refine ⟨fun _ => rfl, fun s => ?_, isSkipped item⟩
      obtain ⟨b, rest, hrender, hblank, hend, -⟩ := exists_encodeUtf8_render item
      exact ⟨b, rest ++ s, by rw [List.nil_append, hrender, List.cons_append], hblank, hend⟩
  | object fields =>
      refine isSkipped_of_entries (fun e he => ?_) (encodeUtf8_object fields)
      obtain ⟨⟨name, json⟩, hf, rfl⟩ := List.mem_map.1 he
      exact ⟨skipName_writtenName name,
        fun s => ⟨_, _, writtenName_append name _, by decide, by decide⟩, isSkipped json⟩
termination_by json
decreasing_by
  · have := List.sizeOf_lt_of_mem hitem
    simp only [array.sizeOf_spec]
    omega
  · have := List.sizeOf_lt_of_mem hf
    simp only [object.sizeOf_spec, Prod.mk.sizeOf_spec] at this ⊢
    omega

theorem skipValue_render (json : Json) {s : Bytes} (hs : endsNumber s = true) :
    skipValue (encodeUtf8 json.render ++ s) = .ok s := by
  obtain ⟨k, hk, hskip⟩ := isSkipped json
  have hfuel : (encodeUtf8 json.render ++ s).length + 1 =
      (encodeUtf8 json.render).length - k + s.length + 1 + k := by
    rw [List.length_append]
    omega
  rw [skipValue, hfuel, hskip _ _ s hs]
  rfl

end Flowchart.Json
