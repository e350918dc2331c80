import Flowchart.Text.Utf8

/-!
# Scalars of JSON text

Readers take bytes and give what is left of them. A text that is not JSON is told apart from JSON
that says something of another type.
-/

namespace Flowchart.Json

inductive ReadError where
  | malformed
  | mismatch
  deriving DecidableEq, Repr

abbrev Reader (α : Type) := Bytes → Except ReadError (α × Bytes)

def byte (c : Char) : UInt8 :=
  c.toUInt8

def isBlankByte (b : UInt8) : Bool :=
  b == 0x20 || b == 0x09 || b == 0x0a || b == 0x0d

def skipBlanks (s : Bytes) : Bytes :=
  s.dropWhile isBlankByte

def isDigitByte (b : UInt8) : Bool :=
  byte '0' ≤ b && b ≤ byte '9'

def hexValue? (b : UInt8) : Option Nat :=
  if isDigitByte b then some (b - byte '0').toNat
  else if byte 'a' ≤ b && b ≤ byte 'f' then some ((b - byte 'a').toNat + 10)
  else if byte 'A' ≤ b && b ≤ byte 'F' then some ((b - byte 'A').toNat + 10)
  else none

def afterWord? (word : Text) (s : Bytes) : Option Bytes :=
  let bytes := word.map byte
  if bytes.isPrefixOf s then some (s.drop bytes.length) else none

/-! ## Strings -/

/-- What the character behind a backslash stands for, unless it begins a code. -/
def simpleEscape? (b : UInt8) : Option UInt8 :=
  if b == byte '"' || b == byte '\\' || b == byte '/' then some b
  else if b == byte 'b' then some 0x08
  else if b == byte 'f' then some 0x0c
  else if b == byte 'n' then some 0x0a
  else if b == byte 'r' then some 0x0d
  else if b == byte 't' then some 0x09
  else none

def isHighSurrogate (n : Nat) : Bool :=
  0xd800 ≤ n && n ≤ 0xdbff

def isLowSurrogate (n : Nat) : Bool :=
  0xdc00 ≤ n && n ≤ 0xdfff

inductive StringState where
  | plain
  | escape
  /-- Inside a code: how many digits are to come, and the value so far. The second code of a pair
  knows the first one. -/
  | code (high : Option Nat) (left value : Nat)
  /-- A first half of a pair has been read, and a backslash has to follow. -/
  | half (high : Nat)
  /-- The backslash has followed. -/
  | halfEscape (high : Nat)

def utf8Of (n : Nat) : Bytes :=
  String.utf8EncodeChar (Char.ofNat n)

/-- The bytes of a string up to its closing quote, and what follows that. -/
def readStringBytes : StringState → Reader Bytes
  | _, [] => .error .malformed
  | state, b :: s =>
    let push (bytes : Bytes) (next : Except ReadError (Bytes × Bytes)) :=
      next.map fun r => (bytes ++ r.1, r.2)
    match state with
    | .plain =>
      if b == byte '"' then .ok ([], s)
      else if b == byte '\\' then readStringBytes .escape s
      else if b < 0x20 then .error .malformed
      else push [b] (readStringBytes .plain s)
    | .escape =>
      if b == byte 'u' then readStringBytes (.code none 3 0) s
      else
        match simpleEscape? b with
        | some c => push [c] (readStringBytes .plain s)
        | none => .error .malformed
    | .code high left value =>
      match hexValue? b with
      | none => .error .malformed
      | some d =>
        let value := value * 16 + d
        match left, high with
        | left + 1, high => readStringBytes (.code high left value) s
        | 0, none =>
          if isLowSurrogate value then .error .malformed
          else if isHighSurrogate value then readStringBytes (.half value) s
          else push (utf8Of value) (readStringBytes .plain s)
        | 0, some high =>
          if isLowSurrogate value then
            push (utf8Of (0x10000 + (high - 0xd800) * 0x400 + (value - 0xdc00)))
              (readStringBytes .plain s)
          else .error .malformed
    | .half high =>
      if b == byte '\\' then readStringBytes (.halfEscape high) s else .error .malformed
    | .halfEscape high =>
      if b == byte 'u' then readStringBytes (.code (some high) 3 0) s else .error .malformed

/-- A string from behind its opening quote. Its bytes have to be well-formed. -/
def readString : Reader Text := fun s =>
  match readStringBytes .plain s with
  | .error e => .error e
  | .ok (bytes, rest) =>
    match Text.decodeUtf8? bytes with
    | some t => .ok (t, rest)
    | none => .error .malformed

inductive SkipState where
  | plain
  | escape
  | code (left : Nat)

/-- What follows a string whose value is not wanted: neither its bytes nor its codes have to stand
for characters. -/
def skipString : SkipState → Bytes → Except ReadError Bytes
  | _, [] => .error .malformed
  | .plain, b :: s =>
    if b == byte '"' then .ok s
    else if b == byte '\\' then skipString .escape s
    else if b < 0x20 then .error .malformed
    else skipString .plain s
  | .escape, b :: s =>
    if b == byte 'u' then skipString (.code 3) s
    else if (simpleEscape? b).isSome then skipString .plain s
    else .error .malformed
  | .code left, b :: s =>
    if (hexValue? b).isNone then .error .malformed
    else
      match left with
      | 0 => skipString .plain s
      | left + 1 => skipString (.code left) s

/-! ## Numbers -/

/-- A number as it is written, without its sign. -/
structure Numeral where
  whole : Bytes
  fraction : Bytes
  exponentNegative : Bool
  exponent : Bytes

def digitsValue (s : Bytes) : Nat :=
  s.foldl (fun n b => n * 10 + (b - byte '0').toNat) 0

/-- One or more digits. -/
def readDigits : Reader Bytes := fun s =>
  let digits := s.takeWhile isDigitByte
  if digits.isEmpty then .error .malformed else .ok (digits, s.drop digits.length)

def readFraction : Reader Bytes
  | b :: s => if b == byte '.' then readDigits s else .ok ([], b :: s)
  | [] => .ok ([], [])

def readExponent : Reader (Bool × Bytes)
  | b :: s =>
    if b == byte 'e' || b == byte 'E' then
      let negative := s.head? == some (byte '-')
      let signed := negative || s.head? == some (byte '+')
      (readDigits (if signed then s.drop 1 else s)).map fun r => ((negative, r.1), r.2)
    else .ok ((false, []), b :: s)
  | [] => .ok ((false, []), [])

/-- A leading zero stands alone before the point. -/
def readNumeral : Reader Numeral := fun s => do
  let (whole, s) ← readDigits s
  if whole.head? == some (byte '0') && 1 < whole.length then throw .malformed
  let (fraction, s) ← readFraction s
  let ((negative, exponent), s) ← readExponent s
  return (⟨whole, fraction, negative, exponent⟩, s)

/-- The value of as many digits as sixty-four bits hold, and how many are left over. -/
def leadingDigits (value : Nat) : Bytes → Nat × Nat
  | [] => (value, 0)
  | b :: s =>
    let next := value * 10 + (b - byte '0').toNat
    if next < 0x10000000000000000 then leadingDigits next s else (value, s.length + 1)

/-- Whether a number is too large for a double. Digits beyond sixty-four bits count for their
places only. -/
def Numeral.overflows (n : Numeral) : Bool :=
  let (value, dropped) := leadingDigits 0 n.whole
  let (value, unread) := leadingDigits value n.fraction
  let exponent := digitsValue n.exponent
  let scale : Int :=
    (if n.exponentNegative then -(exponent : Int) else exponent) + dropped -
      ((n.fraction.length : Int) - unread)
  value != 0 && (308 < scale ||
    (0 ≤ scale && Nat.pow 2 1024 - Nat.pow 2 970 ≤ value * Nat.pow 10 scale.toNat))

end Flowchart.Json
