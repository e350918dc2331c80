import Flowchart.Text.Blank

/-!
# UTF-8

Bytes are read one character at a time. An ill-formed part is as long as it could still have been
the beginning of a character.
-/

namespace Flowchart

abbrev Bytes := List UInt8

namespace Text

def encodeUtf8 (s : Text) : Bytes :=
  s.flatMap String.utf8EncodeChar

/-- What the first byte of a longer character says: its own bits, the bounds of the second byte,
and how many bytes follow that one. -/
def leadByte? (b : UInt8) : Option (Nat × UInt8 × UInt8 × Nat) :=
  if 0xc2 ≤ b && b ≤ 0xdf then some ((b - 0xc0).toNat, 0x80, 0xbf, 0)
  else if b == 0xe0 then some (0, 0xa0, 0xbf, 1)
  else if b == 0xed then some (0xd, 0x80, 0x9f, 1)
  else if 0xe1 ≤ b && b ≤ 0xef then some ((b - 0xe0).toNat, 0x80, 0xbf, 1)
  else if b == 0xf0 then some (0, 0x90, 0xbf, 2)
  else if 0xf1 ≤ b && b ≤ 0xf3 then some ((b - 0xf0).toNat, 0x80, 0xbf, 2)
  else if b == 0xf4 then some (4, 0x80, 0x8f, 2)
  else none

/-- Reads the bytes behind the first one. The bounds hold for the next byte, and those after it
are in the common range. -/
def readTail (code : Nat) (low high : UInt8) : Nat → Bytes → Option Char × Bytes
  | _, [] => (none, [])
  | n, b :: s =>
    if low ≤ b && b ≤ high then
      let code := code * 64 + (b - 0x80).toNat
      match n with
      | 0 => (some (Char.ofNat code), s)
      | n + 1 => readTail code 0x80 0xbf n s
    else (none, b :: s)

theorem length_readTail (code : Nat) (low high : UInt8) (n : Nat) (s : Bytes) :
    (readTail code low high n s).2.length ≤ s.length := by
  induction s generalizing code low high n with
  | nil => simp [readTail]
  | cons b s ih =>
    unfold readTail
    split
    · cases n with
      | zero => simp
      | succ n => exact Nat.le_succ_of_le (ih ..)
    · exact Nat.le_refl _

/-- The characters, with nothing in the place of each part that is ill-formed. -/
def readUtf8 : Bytes → List (Option Char)
  | [] => []
  | b :: s =>
    if b < 0x80 then some (Char.ofNat b.toNat) :: readUtf8 s
    else
      match leadByte? b with
      | none => none :: readUtf8 s
      | some (code, low, high, n) =>
        (readTail code low high n s).1 :: readUtf8 (readTail code low high n s).2
termination_by s => s.length
decreasing_by
  · simp
  · simp
  · have := length_readTail code low high n s
    simp
    omega

def decodeUtf8? (s : Bytes) : Option Text :=
  (readUtf8 s).mapM id

/-- The replacement character stands for each part that is ill-formed. -/
def decodeUtf8Lossy (s : Bytes) : Text :=
  (readUtf8 s).map (·.getD '\ufffd')

end Text

end Flowchart
