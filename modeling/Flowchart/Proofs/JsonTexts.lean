import Flowchart.Json.Reader
import Flowchart.Json.Value
import Flowchart.Proofs.Encodings
import Mathlib.Data.List.Forall2

/-!
# Values that are written and read as JSON

A reader and a value fit each other if the reader takes the value off the front of any text in
which a number would not go on. So strings and numbers are read back whatever they are, and the
readers of lists and of optional values fit where those of their parts do.
-/

namespace Flowchart.Json

open Text (encodeUtf8 encodeUtf8_append)

theorem byte_eq_ofNat (c : Char) : byte c = .ofNat c.toNat :=
  rfl

theorem encodeUtf8_cons {c : Char} (hc : c.toNat < 128) (t : Text) :
    encodeUtf8 (c :: t) = byte c :: encodeUtf8 t := by
  have hchar : String.utf8EncodeChar c = [byte c] := if_pos (Nat.le_of_lt_succ hc)
  rw [encodeUtf8, List.flatMap_cons, hchar]
  rfl

/-! ## Strings -/

/-- What a string is read as behind more of its bytes. -/
def prepend (bytes : Bytes) (read : Except ReadError (Bytes × Bytes)) :
    Except ReadError (Bytes × Bytes) :=
  read.map fun r => (bytes ++ r.1, r.2)

theorem prepend_nil (read : Except ReadError (Bytes × Bytes)) : prepend [] read = read := by
  cases read <;> rfl

theorem prepend_append (bytes more : Bytes) (read : Except ReadError (Bytes × Bytes)) :
    prepend (bytes ++ more) read = prepend bytes (prepend more read) := by
  cases read with
  | error e => rfl
  | ok r => exact congrArg Except.ok (Prod.ext (List.append_assoc bytes more r.1) rfl)

/-- A byte that stands for itself in a string. -/
def isPlainByte (b : UInt8) : Bool :=
  b != byte '"' && b != byte '\\' && !(b < 0x20)

theorem isPlainByte_ofNat {n : Nat} (hn : n < 256) (hquote : n ≠ 34) (hbackslash : n ≠ 92)
    (hcontrol : 0x20 ≤ n) : isPlainByte (.ofNat n) = true := by
  have hne {b : UInt8} (hb : n ≠ b.toNat) : UInt8.ofNat n ≠ b := by
    intro h
    rw [← h, Text.toNat_ofNat_of_lt hn] at hb
    exact hb rfl
  have hle : ¬ UInt8.ofNat n < 0x20 := by
    rw [UInt8.not_lt, Text.le_ofNat_iff hn]
    exact hcontrol
  simp only [isPlainByte, Bool.and_eq_true, bne_iff_ne, Bool.not_eq_true', decide_eq_false_iff_not]
  exact ⟨⟨hne hquote, hne hbackslash⟩, hle⟩

theorem readStringBytes_plain {bytes : Bytes} (h : ∀ b ∈ bytes, isPlainByte b = true) (s : Bytes) :
    readStringBytes .plain (bytes ++ s) = prepend bytes (readStringBytes .plain s) := by
  induction bytes with
  | nil => exact (prepend_nil _).symm
  | cons b bytes ih =>
      have hb := h b (by simp)
      simp only [isPlainByte, Bool.and_eq_true, bne_iff_ne, Bool.not_eq_true',
        decide_eq_false_iff_not] at hb
      obtain ⟨⟨hquote, hbackslash⟩, hcontrol⟩ := hb
      rw [List.cons_append, readStringBytes, if_neg (by simpa using hquote),
        if_neg (by simpa using hbackslash), if_neg hcontrol, ih fun b hb => h b (by simp [hb])]
      exact (prepend_append [b] bytes _).symm

/-- A code that is no part of a pair. -/
theorem readStringBytes_code {b₁ b₂ b₃ b₄ : UInt8} {d₁ d₂ d₃ d₄ n : Nat}
    (h₁ : hexValue? b₁ = some d₁) (h₂ : hexValue? b₂ = some d₂) (h₃ : hexValue? b₃ = some d₃)
    (h₄ : hexValue? b₄ = some d₄) (hn : ((d₁ * 16 + d₂) * 16 + d₃) * 16 + d₄ = n)
    (hlow : isLowSurrogate n = false) (hhigh : isHighSurrogate n = false) (s : Bytes) :
    readStringBytes (.code none 3 0) (b₁ :: b₂ :: b₃ :: b₄ :: s) =
      prepend (utf8Of n) (readStringBytes .plain s) := by
  simp only [readStringBytes, h₁, h₂, h₃, h₄, Nat.zero_mul, Nat.zero_add, hn, hlow, hhigh]
  rfl

theorem hexValue?_digitChar : ∀ d < 16, hexValue? (byte (Nat.digitChar d)) = some d := by
  decide

theorem encodeUtf8_hexDigits : ∀ n < 0x20, encodeUtf8 (hexDigits n) =
    [byte '0', byte '0', byte (Nat.digitChar (n / 16)), byte (Nat.digitChar (n % 16))] := by
  decide

theorem readStringBytes_hexDigits {n : Nat} (hn : n < 0x20) (s : Bytes) :
    readStringBytes .plain (encodeUtf8 ('\\' :: 'u' :: hexDigits n) ++ s) =
      prepend (utf8Of n) (readStringBytes .plain s) := by
  have hlow : isLowSurrogate n = false := by
    simp only [isLowSurrogate, Bool.and_eq_false_iff, decide_eq_false_iff_not]
    omega
  have hhigh : isHighSurrogate n = false := by
    simp only [isHighSurrogate, Bool.and_eq_false_iff, decide_eq_false_iff_not]
    omega
  have hcode := readStringBytes_code (hexValue?_digitChar 0 (by omega))
    (hexValue?_digitChar 0 (by omega)) (hexValue?_digitChar (n / 16) (by omega))
    (hexValue?_digitChar (n % 16) (by omega)) (n := n) (by omega) hlow hhigh s
  have hdigits : encodeUtf8 ('\\' :: 'u' :: hexDigits n) =
      byte '\\' :: byte 'u' :: encodeUtf8 (hexDigits n) := rfl
  rw [hdigits, encodeUtf8_hexDigits n hn]
  exact hcode

theorem isPlainByte_of_mem_encodeChar {c : Char} (hquote : c ≠ '"') (hbackslash : c ≠ '\\')
    (hcontrol : ¬ c.toNat < 0x20) : ∀ b ∈ String.utf8EncodeChar c, isPlainByte b = true := by
  have hval : c.val.toNat = c.toNat := rfl
  have hne {d : Char} (hd : c ≠ d) : c.toNat ≠ d.toNat := fun h => hd (Char.toNat_inj.1 h)
  have hlong {n : Nat} (h : 128 ≤ n) (hn : n < 256) : isPlainByte (.ofNat n) = true :=
    isPlainByte_ofNat hn (by omega) (by omega) (by omega)
  intro b hb
  simp only [String.utf8EncodeChar, hval] at hb
  split at hb
  · rw [List.mem_singleton.1 hb]
    exact isPlainByte_ofNat (by omega) (hne hquote) (hne hbackslash) (by omega)
  split at hb
  · simp only [List.mem_cons, List.not_mem_nil, or_false] at hb
    rcases hb with rfl | rfl <;> exact hlong (by omega) (by omega)
  split at hb
  · simp only [List.mem_cons, List.not_mem_nil, or_false] at hb
    rcases hb with rfl | rfl | rfl <;> exact hlong (by omega) (by omega)
  · simp only [List.mem_cons, List.not_mem_nil, or_false] at hb
    rcases hb with rfl | rfl | rfl | rfl <;> exact hlong (by omega) (by omega)

theorem readStringBytes_escapeChar (c : Char) (s : Bytes) :
    readStringBytes .plain (encodeUtf8 (escapeChar c) ++ s) =
      prepend (String.utf8EncodeChar c) (readStringBytes .plain s) := by
  unfold escapeChar
  split
  · rfl
  · rfl
  · rfl
  · rfl
  · rfl
  · rfl
  · rfl
  rename_i hquote hbackslash _ _ _ _ _
  split
  · rename_i hcontrol
    rw [readStringBytes_hexDigits hcontrol, utf8Of, Char.ofNat_toNat]
  · rename_i hcontrol
    rw [encodeUtf8, List.flatMap_singleton]
    exact readStringBytes_plain (isPlainByte_of_mem_encodeChar hquote hbackslash hcontrol) s

theorem readStringBytes_escaped (t : Text) (s : Bytes) :
    readStringBytes .plain (encodeUtf8 (t.flatMap escapeChar) ++ byte '"' :: s) =
      .ok (encodeUtf8 t, s) := by
  induction t with
  | nil => rfl
  | cons c t ih =>
      rw [List.flatMap_cons, encodeUtf8_append, List.append_assoc, readStringBytes_escapeChar, ih]
      rfl

theorem readString_escaped (t : Text) (s : Bytes) :
    readString (encodeUtf8 (t.flatMap escapeChar) ++ byte '"' :: s) = .ok (t, s) := by
  simp only [readString, readStringBytes_escaped, Text.decodeUtf8?_encodeUtf8]

/-! ## Numbers -/

/-- A number that stands in front does not go on here. -/
def endsNumber (s : Bytes) : Bool :=
  s.head?.all fun b => !(isDigitByte b || b == byte '.' || b == byte 'e' || b == byte 'E')

theorem endsNumber_cons {b : UInt8} {s : Bytes} (h : endsNumber (b :: s) = true) :
    isDigitByte b = false ∧ b ≠ byte '.' ∧ b ≠ byte 'e' ∧ b ≠ byte 'E' := by
  simpa [endsNumber, and_assoc] using h

theorem skipBlanks_cons {b : UInt8} (hb : isBlankByte b = false) (s : Bytes) :
    skipBlanks (b :: s) = b :: s :=
  List.dropWhile_cons_of_neg (by simp [hb])

theorem exists_byte_eq_of_isDigit {c : Char} (h : c.isDigit = true) :
    ∃ k < 10, c.toNat = k + 48 ∧ byte c = .ofNat (k + 48) := by
  obtain ⟨hlow, hhigh⟩ := Char.isDigit_iff_toNat.1 h
  have hlow : 48 ≤ c.toNat := hlow
  have hhigh : c.toNat ≤ 57 := hhigh
  have hcode : c.toNat = c.toNat - 48 + 48 := (Nat.sub_add_cancel hlow).symm
  exact ⟨c.toNat - 48, by omega, hcode, by rw [byte_eq_ofNat, ← hcode]⟩

theorem digitByte_starts : ∀ k < 10, isBlankByte (.ofNat (k + 48)) = false ∧
    UInt8.ofNat (k + 48) ≠ byte ']' ∧ UInt8.ofNat (k + 48) ≠ byte 'n' := by
  decide

theorem isDigitByte_ofNat : ∀ k < 10, isDigitByte (.ofNat (k + 48)) = true := by
  decide

theorem toNat_digitByte_sub : ∀ k < 10, (UInt8.ofNat (k + 48) - byte '0').toNat = k := by
  decide

theorem encodeUtf8_of_isDigit {t : Text} (h : ∀ c ∈ t, c.isDigit = true) :
    encodeUtf8 t = t.map byte := by
  induction t with
  | nil => rfl
  | cons c t ih =>
      obtain ⟨k, hk, hcode, -⟩ := exists_byte_eq_of_isDigit (h c (by simp))
      rw [encodeUtf8_cons (by omega), ih fun c hc => h c (by simp [hc]), List.map_cons]

theorem isDigit_toDigits (n : Nat) : ∀ c ∈ Nat.toDigits 10 n, c.isDigit = true :=
  fun _ hc => Nat.isDigit_of_mem_toDigits (by omega) (by omega) hc

theorem encodeUtf8_toDigits (n : Nat) :
    encodeUtf8 (Nat.toDigits 10 n) = (Nat.toDigits 10 n).map byte :=
  encodeUtf8_of_isDigit (isDigit_toDigits n)

theorem exists_encodeUtf8_toDigits (n : Nat) :
    ∃ k < 10, ∃ rest, encodeUtf8 (Nat.toDigits 10 n) = .ofNat (k + 48) :: rest := by
  obtain ⟨c, digits, hdigits⟩ := List.exists_cons_of_ne_nil (Nat.toDigits_ne_nil (n := n) (b := 10))
  have hc : c ∈ Nat.toDigits 10 n := hdigits ▸ List.mem_cons_self
  obtain ⟨k, hk, -, hbyte⟩ := exists_byte_eq_of_isDigit (isDigit_toDigits n c hc)
  exact ⟨k, hk, digits.map byte, by rw [encodeUtf8_toDigits, hdigits, List.map_cons, hbyte]⟩

theorem digitsValue_encodeUtf8_toDigits (n : Nat) :
    digitsValue (encodeUtf8 (Nat.toDigits 10 n)) = n := by
  have hfold (t : Text) (ht : ∀ c ∈ t, c.isDigit = true) (m : Nat) :
      (t.map byte).foldl (fun n b => n * 10 + (b - byte '0').toNat) m =
        Nat.ofDigitChars 10 t m := by
    induction t generalizing m with
    | nil => rfl
    | cons c t ih =>
        obtain ⟨k, hk, hcode, hbyte⟩ := exists_byte_eq_of_isDigit (ht c (by simp))
        have hdigit : c.toNat - '0'.toNat = k := by
          rw [hcode]
          exact Nat.add_sub_cancel k 48
        rw [List.map_cons, List.foldl_cons, hbyte, toNat_digitByte_sub k hk,
          ih fun c hc => ht c (by simp [hc]), Nat.ofDigitChars_cons, hdigit, Nat.mul_comm]
  rw [encodeUtf8_toDigits, digitsValue, hfold _ (isDigit_toDigits n),
    Nat.ofDigitChars_toDigits (by omega) (by omega)]

/-- A zero is the first digit of nothing but itself. -/
theorem head?_toDigits_ne {n : Nat} (hn : n ≠ 0) : (Nat.toDigits 10 n).head? ≠ some '0' := by
  induction n using Nat.strongRecOn with
  | ind n ih =>
      by_cases hlt : n < 10
      · have hdigit : ∀ k < 10, k ≠ 0 → Nat.digitChar k ≠ '0' := by decide
        rw [Nat.toDigits_of_lt_base hlt]
        simpa using hdigit n hlt hn
      · have hne : Nat.toDigits 10 (n / 10) ≠ [] := Nat.toDigits_ne_nil
        rw [Nat.toDigits_of_base_le (by omega) (by omega), List.head?_append_of_ne_nil _ hne]
        exact ih (n / 10) (by omega) (by omega)

theorem readDigits_append {digits s : Bytes} (hne : digits ≠ [])
    (h : ∀ b ∈ digits, isDigitByte b = true) (hs : endsNumber s = true) :
    readDigits (digits ++ s) = .ok (digits, s) := by
  have htake : (digits ++ s).takeWhile isDigitByte = digits := by
    rw [List.takeWhile_append_of_pos h]
    cases s with
    | nil => exact List.append_nil _
    | cons b s =>
        rw [List.takeWhile_cons_of_neg (by simp [(endsNumber_cons hs).1]), List.append_nil]
  simp only [readDigits, htake, List.drop_left, List.isEmpty_eq_false_iff.2 hne]
  rfl

/-- Neither a fraction nor an exponent follows. -/
theorem readNumeral_append {digits s : Bytes} (hne : digits ≠ [])
    (h : ∀ b ∈ digits, isDigitByte b = true)
    (hzero : digits.head? = some (byte '0') → digits.length ≤ 1) (hs : endsNumber s = true) :
    readNumeral (digits ++ s) = .ok (⟨digits, [], false, []⟩, s) := by
  have hlead : (digits.head? == some (byte '0') && decide (1 < digits.length)) = false := by
    simpa using hzero
  have hfraction : readFraction s = .ok ([], s) := by
    cases s with
    | nil => rfl
    | cons b s =>
        obtain ⟨-, hpoint, -, -⟩ := endsNumber_cons hs
        simp [readFraction, hpoint]
  have hexponent : readExponent s = .ok ((false, []), s) := by
    cases s with
    | nil => rfl
    | cons b s =>
        obtain ⟨-, -, hlower, hupper⟩ := endsNumber_cons hs
        simp [readExponent, hlower, hupper]
  simp only [readNumeral, readDigits_append hne h hs, bind, Except.bind, hlead, hfraction,
    hexponent]
  rfl

theorem readNumeral_toDigits (n : Nat) {s : Bytes} (hs : endsNumber s = true) :
    readNumeral (encodeUtf8 (Nat.toDigits 10 n) ++ s) =
      .ok (⟨encodeUtf8 (Nat.toDigits 10 n), [], false, []⟩, s) := by
  rw [encodeUtf8_toDigits]
  refine readNumeral_append (by simp [Nat.toDigits_ne_nil]) ?_ ?_ hs
  · intro b hb
    obtain ⟨c, hc, rfl⟩ := List.mem_map.1 hb
    obtain ⟨k, hk, -, hbyte⟩ := exists_byte_eq_of_isDigit (isDigit_toDigits n c hc)
    rw [hbyte, isDigitByte_ofNat k hk]
  · intro hzero
    obtain ⟨c, hc, hbyte⟩ := Option.map_eq_some_iff.1 (List.head?_map ▸ hzero)
    have hmem : c ∈ Nat.toDigits 10 n := List.mem_of_mem_head? hc
    obtain ⟨k, hk, hcode, hc'⟩ := exists_byte_eq_of_isDigit (isDigit_toDigits n c hmem)
    have hk0 : k = 0 := by
      rw [← toNat_digitByte_sub k hk, ← hc', hbyte]
      rfl
    have hchar : c = '0' := Char.toNat_inj.1 (by rw [hcode, hk0]; rfl)
    by_cases hn : n = 0
    · rw [hn]
      decide
    · exact absurd (hchar ▸ hc) (head?_toDigits_ne hn)

/-! ## Values -/

/-- The byte at the front of a value is no blank and ends no list, and only a null begins like
one. -/
theorem exists_encodeUtf8_render (json : Json) : ∃ b rest, encodeUtf8 json.render = b :: rest ∧
    isBlankByte b = false ∧ b ≠ byte ']' ∧ (json ≠ .null → b ≠ byte 'n') := by
  cases json with
  | null => exact ⟨byte 'n', _, rfl, by decide, by decide, fun h => absurd rfl h⟩
  | bool b =>
      cases b with
      | true => exact ⟨byte 't', _, rfl, by decide, by decide, fun _ => by decide⟩
      | false => exact ⟨byte 'f', _, rfl, by decide, by decide, fun _ => by decide⟩
  | number n =>
      obtain ⟨k, hk, rest, hdigits⟩ := exists_encodeUtf8_toDigits n
      obtain ⟨hblank, hend, hnull⟩ := digitByte_starts k hk
      exact ⟨_, rest, hdigits, hblank, hend, fun _ => hnull⟩
  | string t => exact ⟨byte '"', _, rfl, by decide, by decide, fun _ => by decide⟩
  | array items => exact ⟨byte '[', _, rfl, by decide, by decide, fun _ => by decide⟩
  | object fields => exact ⟨byte '\x7b', _, rfl, by decide, by decide, fun _ => by decide⟩

namespace Reader

variable {α : Type} {read : Reader α} {json : Json} {a : α}

/-- The reader takes the value off the front of any text that ends it. -/
def Reads (read : Reader α) (json : Json) (a : α) : Prop :=
  ∀ s, endsNumber s = true → read (encodeUtf8 json.render ++ s) = .ok (a, s)

theorem Reads.exists_cons (h : Reads read json a) {s : Bytes} (hs : endsNumber s = true) :
    ∃ b rest, encodeUtf8 json.render ++ s = b :: rest ∧ skipBlanks (b :: rest) = b :: rest ∧
      b ≠ byte ']' ∧ (json ≠ .null → b ≠ byte 'n') ∧ read (b :: rest) = .ok (a, s) := by
  obtain ⟨b, rest, hrender, hblank, hend, hnull⟩ := exists_encodeUtf8_render json
  have hcons : encodeUtf8 json.render ++ s = b :: (rest ++ s) := by rw [hrender, List.cons_append]
  exact ⟨b, rest ++ s, hcons, skipBlanks_cons hblank _, hend, hnull, hcons ▸ h s hs⟩

theorem Reads.run (h : Reads read json a) : read.run (encodeUtf8 json.render) = .ok a := by
  have hread := h [] rfl
  rw [List.append_nil] at hread
  rw [Reader.run, hread]
  rfl

theorem Reads.map {β : Type} (h : Reads read json a) (f : α → β) :
    Reads (fun s => (read s).map fun r => (f r.1, r.2)) json (f a) := by
  intro s hs
  simp only [h s hs]
  rfl

theorem encodeUtf8_renderString (t : Text) (s : Bytes) :
    encodeUtf8 (renderString t) ++ s =
      byte '"' :: (encodeUtf8 (t.flatMap escapeChar) ++ byte '"' :: s) := by
  rw [renderString, encodeUtf8_append, List.append_assoc]
  rfl

theorem reads_text (t : Text) : Reads text (.string t) t := by
  intro s _
  rw [render, encodeUtf8_renderString]
  exact readString_escaped t s

/-- A natural number, without a fraction or an exponent. -/
def nat : Reader Nat := fun s => do
  let (numeral, rest) ← readNumeral (skipBlanks s)
  if numeral.fraction.isEmpty && numeral.exponent.isEmpty then
    return (digitsValue numeral.whole, rest)
  else throw .mismatch

theorem reads_nat (n : Nat) : Reads nat (.number n) n := by
  intro s hs
  obtain ⟨b, rest, hrender, hblank, -⟩ := exists_encodeUtf8_render (.number n)
  have hskip : skipBlanks (encodeUtf8 (Nat.toDigits 10 n) ++ s) =
      encodeUtf8 (Nat.toDigits 10 n) ++ s := by
    rw [← render, hrender]
    exact skipBlanks_cons hblank _
  rw [render, nat, hskip, readNumeral_toDigits n hs]
  exact congrArg (fun m => Except.ok (m, s)) (digitsValue_encodeUtf8_toDigits n)

theorem reads_orNull_null : Reads (orNull read) .null none :=
  fun _ _ => rfl

theorem Reads.orNull (h : Reads read json a) (hne : json ≠ .null) :
    Reads (orNull read) json (some a) := by
  intro s hs
  obtain ⟨b, rest, hcons, hskip, -, hnull, hread⟩ := h.exists_cons hs
  rw [hcons, Reader.orNull, hskip]
  simp only [beq_iff_eq, if_neg (hnull hne), hread]
  rfl

/-! ## Lists -/

/-- The items behind the first one, as they are written. -/
def nextItems (items : List Json) : Bytes :=
  items.flatMap fun item => byte ',' :: encodeUtf8 item.render

theorem encodeUtf8_renderItems (item : Json) (items : List Json) :
    encodeUtf8 (renderItems (item :: items)) = encodeUtf8 item.render ++ nextItems items := by
  induction items generalizing item with
  | nil => exact (List.append_nil _).symm
  | cons next items ih =>
      rw [renderItems, encodeUtf8_append]
      · exact congrArg (encodeUtf8 item.render ++ byte ',' :: ·) (ih next)
      · simp

theorem length_le_nextItems (items : List Json) : items.length ≤ (nextItems items).length := by
  induction items with
  | nil => exact Nat.le_refl 0
  | cons item items ih =>
      rw [nextItems, List.flatMap_cons, ← nextItems, List.length_append, List.length_cons,
        List.length_cons]
      omega

theorem endsNumber_nextItems (items : List Json) (s : Bytes) :
    endsNumber (nextItems items ++ byte ']' :: s) = true := by
  cases items <;> rfl

theorem Reads.itemsFuel_first (h : Reads read json a) (fuel : Nat) {s : Bytes}
    (hs : endsNumber s = true) :
    itemsFuel read (fuel + 1) true (encodeUtf8 json.render ++ s) =
      (itemsFuel read fuel false s).map fun r => (a :: r.1, r.2) := by
  obtain ⟨b, rest, hcons, hskip, hend, -, hread⟩ := h.exists_cons hs
  rw [hcons, itemsFuel, hskip]
  simp only [beq_iff_eq, if_neg hend]
  change (read (b :: rest) >>= _) = _
  rw [hread]
  change (itemsFuel read fuel false s >>= _) = _
  cases itemsFuel read fuel false s <;> rfl

theorem Reads.itemsFuel_next (h : Reads read json a) (fuel : Nat) {s : Bytes}
    (hs : endsNumber s = true) :
    itemsFuel read (fuel + 1) false (byte ',' :: (encodeUtf8 json.render ++ s)) =
      (itemsFuel read fuel false s).map fun r => (a :: r.1, r.2) := by
  obtain ⟨b, rest, hcons, hskip, hend, -, hread⟩ := h.exists_cons hs
  have hcomma : skipBlanks (byte ',' :: b :: rest) = byte ',' :: b :: rest := rfl
  rw [hcons, itemsFuel, hcomma]
  have hmore : ((b :: rest).head? == some (byte ']')) = false := by simpa using hend
  simp only [hskip, hmore]
  change (read (b :: rest) >>= _) = _
  rw [hread]
  change (itemsFuel read fuel false s >>= _) = _
  cases itemsFuel read fuel false s <;> rfl

theorem itemsFuel_nextItems {items : List Json} {as : List α}
    (h : List.Forall₂ (Reads read) items as) (fuel : Nat) (hfuel : items.length < fuel)
    (s : Bytes) :
    itemsFuel read fuel false (nextItems items ++ byte ']' :: s) = .ok (as, s) := by
  induction h generalizing fuel with
  | nil =>
      obtain ⟨fuel, rfl⟩ := Nat.exists_eq_succ_of_ne_zero (Nat.ne_of_gt hfuel)
      rfl
  | @cons item a items as h _ ih =>
      obtain ⟨fuel, rfl⟩ := Nat.exists_eq_succ_of_ne_zero (Nat.ne_of_gt (Nat.zero_lt_of_lt hfuel))
      have hsplit : nextItems (item :: items) ++ byte ']' :: s =
          byte ',' :: (encodeUtf8 item.render ++ (nextItems items ++ byte ']' :: s)) := by
        rw [nextItems, List.flatMap_cons, ← nextItems, List.append_assoc, List.cons_append]
      rw [hsplit, Nat.succ_eq_add_one, h.itemsFuel_next fuel (endsNumber_nextItems items s),
        ih fuel (Nat.lt_of_succ_lt_succ hfuel)]
      rfl

theorem reads_list {items : List Json} {as : List α} (h : List.Forall₂ (Reads read) items as) :
    Reads (list read) (.array items) as := by
  intro s _
  have hrender : encodeUtf8 (Json.array items).render ++ s =
      byte '[' :: (encodeUtf8 (renderItems items) ++ byte ']' :: s) := by
    rw [render, encodeUtf8_append, List.append_assoc]
    rfl
  rw [hrender]
  cases h with
  | nil => rfl
  | @cons item a items as h hitems =>
      have hlength := length_le_nextItems items
      -- every item behind the first one has a comma of its own, so the bytes are steps enough
      have hrest := itemsFuel_nextItems hitems
        (encodeUtf8 item.render ++ (nextItems items ++ byte ']' :: s)).length (by simp; omega) s
      rw [encodeUtf8_renderItems, List.append_assoc]
      refine (h.itemsFuel_first _ (endsNumber_nextItems items s)).trans ?_
      rw [hrest]
      rfl

theorem reads_list_map {toJson : α → Json} (h : ∀ a, Reads read (toJson a) a) (as : List α) :
    Reads (list read) (.array (as.map toJson)) as :=
  reads_list (List.forall₂_map_left_iff.2 (List.forall₂_same.2 fun a _ => h a))

end Reader

end Flowchart.Json
