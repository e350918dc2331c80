import Flowchart.Text.Utf8

/-!
# Text that is written and read as UTF-8

The first byte of a character gives the bounds of the second, and a character is read back from its
own bytes whatever follows them. So a text is read back from its bytes, and nothing in it is
replaced.
-/

namespace Flowchart.Text

/-- The codes of two bytes leave out those of one. -/
theorem leadByte?_two : ∀ k < 30,
    leadByte? (.ofNat (k + 194)) = some (k + 2, 0x80, 0xbf, 0) := by
  decide

/-- The codes of three bytes leave out those of two, and the surrogates. -/
theorem leadByte?_three : ∀ k < 16, leadByte? (.ofNat (k + 224)) =
    some (k, if k = 0 then 0xa0 else 0x80, if k = 13 then 0x9f else 0xbf, 1) := by
  decide

/-- The codes of four bytes leave out those of three, and end before a bound. -/
theorem leadByte?_four : ∀ k < 5, leadByte? (.ofNat (k + 240)) =
    some (k, if k = 0 then 0x90 else 0x80, if k = 4 then 0x8f else 0xbf, 2) := by
  decide

theorem toNat_ofNat_of_lt {n : Nat} (h : n < 256) : (UInt8.ofNat n).toNat = n :=
  UInt8.toNat_ofNat_of_lt' h

theorem le_ofNat_iff {low : UInt8} {n : Nat} (h : n < 256) : low ≤ .ofNat n ↔ low.toNat ≤ n := by
  rw [UInt8.le_iff_toNat_le, toNat_ofNat_of_lt h]

theorem ofNat_le_iff {high : UInt8} {n : Nat} (h : n < 256) : .ofNat n ≤ high ↔ n ≤ high.toNat := by
  rw [UInt8.le_iff_toNat_le, toNat_ofNat_of_lt h]

theorem within_iff {low high : UInt8} {k : Nat} (hk : k < 64) :
    (decide (low ≤ .ofNat (k + 128)) && decide (.ofNat (k + 128) ≤ high)) = true ↔
      low.toNat ≤ k + 128 ∧ k + 128 ≤ high.toNat := by
  rw [Bool.and_eq_true, decide_eq_true_iff, decide_eq_true_iff, le_ofNat_iff (by omega),
    ofNat_le_iff (by omega)]

theorem toNat_sub_of_lt {k : Nat} (hk : k < 64) : (UInt8.ofNat (k + 128) - 0x80).toNat = k := by
  rw [UInt8.toNat_sub_of_le _ _ ((le_ofNat_iff (by omega)).2 (Nat.le_add_left 128 k)),
    toNat_ofNat_of_lt (by omega)]
  exact Nat.add_sub_cancel k 128

theorem readTail_last {low high : UInt8} {k : Nat} (hk : k < 64)
    (hwithin : low.toNat ≤ k + 128 ∧ k + 128 ≤ high.toNat) (code : Nat) (s : Bytes) :
    readTail code low high 0 (.ofNat (k + 128) :: s) = (some (Char.ofNat (code * 64 + k)), s) := by
  rw [readTail, if_pos ((within_iff hk).2 hwithin), toNat_sub_of_lt hk]

theorem readTail_next {low high : UInt8} {k : Nat} (hk : k < 64)
    (hwithin : low.toNat ≤ k + 128 ∧ k + 128 ≤ high.toNat) (code n : Nat) (s : Bytes) :
    readTail code low high (n + 1) (.ofNat (k + 128) :: s) =
      readTail (code * 64 + k) 0x80 0xbf n s := by
  rw [readTail, if_pos ((within_iff hk).2 hwithin), toNat_sub_of_lt hk]

theorem within_tail {k : Nat} (hk : k < 64) :
    (0x80 : UInt8).toNat ≤ k + 128 ∧ k + 128 ≤ (0xbf : UInt8).toNat :=
  ⟨Nat.le_add_left 128 k, Nat.add_le_add_right (Nat.le_of_lt_succ hk) 128⟩

/-! ## Characters by their number of bytes -/

theorem readUtf8_one {n : Nat} (hn : n < 128) (s : Bytes) :
    readUtf8 (.ofNat n :: s) = some (Char.ofNat n) :: readUtf8 s := by
  have hlt : UInt8.ofNat n < 0x80 := by
    rw [UInt8.lt_iff_toNat_lt, toNat_ofNat_of_lt (by omega)]
    exact hn
  rw [readUtf8, if_pos hlt, toNat_ofNat_of_lt (by omega)]

theorem readUtf8_lead {b code n : Nat} {low high : UInt8} (hb : 128 ≤ b) (hlt : b < 256)
    (hlead : leadByte? (.ofNat b) = some (code, low, high, n)) (s : Bytes) :
    readUtf8 (.ofNat b :: s) =
      (readTail code low high n s).1 :: readUtf8 (readTail code low high n s).2 := by
  have hnot : ¬ UInt8.ofNat b < 0x80 := by
    rw [UInt8.not_lt, le_ofNat_iff hlt]
    exact hb
  rw [readUtf8, if_neg hnot, hlead]

theorem readUtf8_two {k l : Nat} (hk : k < 30) (hl : l < 64) (s : Bytes) :
    readUtf8 (.ofNat (k + 194) :: .ofNat (l + 128) :: s) =
      some (Char.ofNat ((k + 2) * 64 + l)) :: readUtf8 s := by
  rw [readUtf8_lead (by omega) (by omega) (leadByte?_two k hk), readTail_last hl (within_tail hl)]

theorem readUtf8_three {k l m : Nat} (hk : k < 16) (hl : l < 64) (hm : m < 64)
    (hfirst : k = 0 → 32 ≤ l) (hsurrogate : k = 13 → l < 32) (s : Bytes) :
    readUtf8 (.ofNat (k + 224) :: .ofNat (l + 128) :: .ofNat (m + 128) :: s) =
      some (Char.ofNat ((k * 64 + l) * 64 + m)) :: readUtf8 s := by
  have hwithin : (if k = 0 then 0xa0 else 0x80 : UInt8).toNat ≤ l + 128 ∧
      l + 128 ≤ (if k = 13 then 0x9f else 0xbf : UInt8).toNat := by
    constructor <;> split <;> simp <;> omega
  rw [readUtf8_lead (by omega) (by omega) (leadByte?_three k hk), readTail_next hl hwithin,
    readTail_last hm (within_tail hm)]

theorem readUtf8_four {k l m n : Nat} (hk : k < 5) (hl : l < 64) (hm : m < 64) (hn : n < 64)
    (hfirst : k = 0 → 16 ≤ l) (hlast : k = 4 → l < 16) (s : Bytes) :
    readUtf8 (.ofNat (k + 240) :: .ofNat (l + 128) :: .ofNat (m + 128) :: .ofNat (n + 128) :: s) =
      some (Char.ofNat (((k * 64 + l) * 64 + m) * 64 + n)) :: readUtf8 s := by
  have hwithin : (if k = 0 then 0x90 else 0x80 : UInt8).toNat ≤ l + 128 ∧
      l + 128 ≤ (if k = 4 then 0x8f else 0xbf : UInt8).toNat := by
    constructor <;> split <;> simp <;> omega
  rw [readUtf8_lead (by omega) (by omega) (leadByte?_four k hk), readTail_next hl hwithin,
    readTail_next hm (within_tail hm), readTail_last hn (within_tail hn)]

theorem readUtf8_encodeChar (c : Char) (s : Bytes) :
    readUtf8 (String.utf8EncodeChar c ++ s) = some c :: readUtf8 s := by
  have hvalid : c.toNat < 0xd800 ∨ 0xdfff < c.toNat ∧ c.toNat < 0x110000 := c.valid
  have hchar {n : Nat} (h : n = c.toNat) :
      some (Char.ofNat n) :: readUtf8 s = some c :: readUtf8 s := by
    rw [h, Char.ofNat_toNat]
  have hval : c.val.toNat = c.toNat := rfl
  simp only [String.utf8EncodeChar, hval]
  split
  · exact (readUtf8_one (by omega) s).trans (hchar rfl)
  split
  · -- two bytes begin with 194, since smaller codes have one byte
    have hfirst : c.toNat / 64 % 32 + 192 = c.toNat / 64 - 2 + 194 := by omega
    rw [hfirst]
    exact (readUtf8_two (by omega) (by omega) s).trans (hchar (by omega))
  split
  · exact (readUtf8_three (by omega) (by omega) (by omega) (by omega) (by omega) s).trans
      (hchar (by omega))
  · exact (readUtf8_four (by omega) (by omega) (by omega) (by omega) (by omega) (by omega) s).trans
      (hchar (by omega))

theorem readUtf8_encodeUtf8 (t : Text) : readUtf8 (encodeUtf8 t) = t.map some := by
  induction t with
  | nil => rw [encodeUtf8, List.flatMap_nil, readUtf8, List.map_nil]
  | cons c t ih =>
      rw [encodeUtf8, List.flatMap_cons, readUtf8_encodeChar, List.map_cons]
      exact congrArg _ ih

theorem decodeUtf8?_encodeUtf8 (t : Text) : decodeUtf8? (encodeUtf8 t) = some t := by
  rw [decodeUtf8?, readUtf8_encodeUtf8]
  induction t with
  | nil => rfl
  | cons c t ih => simp [List.mapM_cons, ih]

theorem decodeUtf8Lossy_encodeUtf8 (t : Text) : decodeUtf8Lossy (encodeUtf8 t) = t := by
  rw [decodeUtf8Lossy, readUtf8_encodeUtf8, List.map_map]
  exact List.map_id t

theorem encodeUtf8_append (t u : Text) : encodeUtf8 (t ++ u) = encodeUtf8 t ++ encodeUtf8 u :=
  List.flatMap_append

end Flowchart.Text
