import Flowchart.Json.Scalar

/-!
# Reading typed values from JSON text

A reader knows the type it wants. A record may be given as an object, whose unknown fields are
skipped at any depth, or as an array of its fields. A missing field has its default.
-/

namespace Flowchart.Json

inductive Bracket where
  | square
  | brace

def Bracket.closing : Bracket → UInt8
  | square => byte ']'
  | brace => byte '}'

/-- Reads past a name and its colon. -/
def skipName (s : Bytes) : Except ReadError Bytes :=
  match skipBlanks s with
  | [] => .error .malformed
  | b :: s =>
    if b == byte '"' then do
      match skipBlanks (← skipString .plain s) with
      | [] => .error .malformed
      | b :: s => if b == byte ':' then .ok s else .error .malformed
    else .error .malformed

def skipNumeral (s : Bytes) : Except ReadError Bytes :=
  (readNumeral s).map (·.2)

def skipWord (word : Text) (s : Bytes) : Except ReadError Bytes :=
  match afterWord? word s with
  | some s => .ok s
  | none => .error .malformed

/-- Reads past a value that is neither an array nor an object. -/
def skipScalar (b : UInt8) (s : Bytes) : Except ReadError Bytes :=
  if b == byte '"' then skipString .plain s
  else if b == byte '-' then skipNumeral s
  else if isDigitByte b then skipNumeral (b :: s)
  else if b == byte 'n' then skipWord "ull".toList s
  else if b == byte 't' then skipWord "rue".toList s
  else if b == byte 'f' then skipWord "alse".toList s
  else .error .malformed

/-- Reads past the rest of a value, given the brackets that are open and whether a value has just
ended. Each step takes a byte, so as many steps as bytes are enough. -/
def skipFuel : Nat → List Bracket → Bool → Bytes → Except ReadError Bytes
  | 0, _, _, _ => .error .malformed
  | fuel + 1, opened, true, s =>
    match opened with
    | [] => .ok s
    | bracket :: outer =>
      match skipBlanks s with
      | [] => .error .malformed
      | b :: s =>
        if b == bracket.closing then skipFuel fuel outer true s
        else if b == byte ',' then
          match bracket with
          | .square => skipFuel fuel opened false s
          | .brace => do skipFuel fuel opened false (← skipName s)
        else .error .malformed
  | fuel + 1, opened, false, s =>
    match skipBlanks s with
    | [] => .error .malformed
    | b :: s =>
      if b == byte '[' then
        match skipBlanks s with
        | [] => .error .malformed
        | c :: rest =>
          if c == byte ']' then skipFuel fuel opened true rest
          else skipFuel fuel (.square :: opened) false s
      else if b == byte '{' then
        match skipBlanks s with
        | [] => .error .malformed
        | c :: rest =>
          if c == byte '}' then skipFuel fuel opened true rest
          else do skipFuel fuel (.brace :: opened) false (← skipName s)
      else do skipFuel fuel opened true (← skipScalar b s)

def skipValue (s : Bytes) : Except ReadError Bytes :=
  skipFuel (s.length + 1) [] false s

/-- What is wrong with a value of another type: a scalar has to be well-formed, while an array or
an object is not looked into. -/
def wrongType (s : Bytes) : ReadError :=
  match skipBlanks s with
  | [] => .malformed
  | b :: s =>
    let malformedIf (bad : Bool) : ReadError := if bad then .malformed else .mismatch
    if b == byte '[' || b == byte '{' then .mismatch
    else if b == byte '"' then malformedIf (readString s).toOption.isNone
    else if b == byte '-' then malformedIf ((readNumeral s).toOption.all (·.1.overflows))
    else if isDigitByte b then malformedIf ((readNumeral (b :: s)).toOption.all (·.1.overflows))
    else malformedIf (skipScalar b s).toOption.isNone

namespace Reader

def text : Reader Text := fun s =>
  match skipBlanks s with
  | b :: rest => if b == byte '"' then readString rest else .error (wrongType s)
  | [] => .error (wrongType s)

/-- A null stands for an absent value. -/
def orNull (read : Reader α) : Reader (Option α) := fun s =>
  match skipBlanks s with
  | b :: rest =>
    if b == byte 'n' then (skipWord "ull".toList rest).map fun rest => (none, rest)
    else (read s).map fun r => (some r.1, r.2)
  | [] => .error .malformed

/-- The items of an array behind its first bracket or behind one of its items. -/
def itemsFuel (read : Reader α) : Nat → Bool → Reader (List α)
  | 0, _, _ => .error .malformed
  | fuel + 1, first, s =>
    match skipBlanks s with
    | [] => .error .malformed
    | b :: rest =>
      if b == byte ']' then .ok ([], rest)
      else do
        let start ←
          if first then pure (b :: rest)
          else if b == byte ',' then
            if (skipBlanks rest).head? == some (byte ']') then throw .malformed else pure rest
          else throw .malformed
        let (item, behind) ← read start
        let (items, behind) ← itemsFuel read fuel false behind
        return (item :: items, behind)

def list (read : Reader α) : Reader (List α) := fun s =>
  match skipBlanks s with
  | b :: rest =>
    if b == byte '[' then itemsFuel read (rest.length + 1) true rest else .error (wrongType s)
  | [] => .error (wrongType s)

/-- The rest of an array that holds the field, if anything. -/
def recordItems (default : α) (read : Reader α) : Reader α := fun s =>
  match skipBlanks s with
  | [] => .error .malformed
  | b :: rest =>
    if b == byte ']' then .ok (default, rest)
    else do
      let (value, behind) ← read s
      match skipBlanks behind with
      | [] => throw .malformed
      | b :: rest => if b == byte ']' then return (value, rest) else throw .malformed

/-- The rest of an object whose field may have been found. A second value for the field is an
error before it is read. -/
def fieldsFuel (name : Text) (default : α) (read : Reader α) : Nat → Bool → Option α → Reader α
  | 0, _, _, _ => .error .malformed
  | fuel + 1, first, found, s =>
    match skipBlanks s with
    | [] => .error .malformed
    | b :: rest =>
      if b == byte '}' then .ok (found.getD default, rest)
      else do
        let start ←
          if first then pure (b :: rest)
          else if b == byte ',' then pure (skipBlanks rest)
          else throw .malformed
        let quoted ←
          match start with
          | c :: quoted => if c == byte '"' then pure quoted else throw .malformed
          | [] => throw .malformed
        let (key, behind) ← readString quoted
        if key = name ∧ found.isSome then throw .mismatch
        let value ←
          match skipBlanks behind with
          | c :: value => if c == byte ':' then pure value else throw .malformed
          | [] => throw .malformed
        if key = name then
          let (a, behind) ← read value
          fieldsFuel name default read fuel false (some a) behind
        else
          fieldsFuel name default read fuel false found (← skipValue value)

/-- A record of one field. -/
def record (name : Text) (default : α) (read : Reader α) : Reader α := fun s =>
  match skipBlanks s with
  | b :: rest =>
    if b == byte '[' then recordItems default read rest
    else if b == byte '{' then fieldsFuel name default read (rest.length + 1) true none rest
    else .error (wrongType s)
  | [] => .error (wrongType s)

/-- Reads a whole text: only blanks may follow the value. -/
def run (read : Reader α) (s : Bytes) : Except ReadError α := do
  let (a, rest) ← read s
  if (skipBlanks rest).isEmpty then return a else throw .malformed

end Reader

end Flowchart.Json
