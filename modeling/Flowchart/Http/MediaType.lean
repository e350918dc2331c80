import Flowchart.Text.Blank

/-!
# Media types

A media type is a type and a subtype, which may end in a suffix behind a plus sign, and parameters.
-/

namespace Flowchart

structure MediaType where
  kind : Text
  subtype : Text
  suffix : Option Text
  deriving DecidableEq, Repr

namespace MediaType

def isTokenChar (c : Char) : Bool :=
  c.isAlphanum || "!#$%&'+-.^_`|~".toList.contains c

/-- The characters that stand inside quotes. -/
def isVisible (c : Char) : Bool :=
  0x20 ≤ c.toNat && c.toNat < 0x7f

/-- What follows a quoted value: spaces, then the end or another parameter. -/
def afterQuoted? (s : Text) : Option Text :=
  match s.dropWhile (· == ' ') with
  | [] => some []
  | ';' :: rest => some rest
  | _ => none

/-- What follows a value, from behind the equals sign. A quoted value is not empty. -/
def afterValue? : Text → Option Text
  | '"' :: _ :: s =>
    match s.dropWhile (· != '"') with
    | _ :: rest => afterQuoted? rest
    | [] => none
  | s =>
    match s.dropWhile isTokenChar with
    | [] => some []
    | ';' :: rest => if (s.head? == some ';') then none else some rest
    | _ => none

/-- Parameters are a name and a value each. Spaces may come before the name. -/
def areParameters : Nat → Text → Bool
  | 0, _ => false
  | fuel + 1, s =>
    match s.dropWhile (· == ' ') with
    | [] => true
    | c :: rest =>
      isTokenChar c &&
        match rest.dropWhile isTokenChar with
        | '=' :: value => (afterValue? value).any (areParameters fuel)
        | _ => false

/-- The subtype and the suffix behind the last plus sign that is not its first character. -/
def splitSuffix (s : Text) : Text × Option Text :=
  let suffix := (s.reverse.takeWhile (· != '+')).reverse
  if s.length ≤ suffix.length + 1 then (s, none)
  else (s.take (s.length - suffix.length - 1), some suffix)

def ofText? (s : Text) : Option MediaType :=
  let kind := s.takeWhile (· != '/')
  let subtype := (s.drop (kind.length + 1)).takeWhile (· != ';')
  let parameters := s.drop (kind.length + 1 + subtype.length + 1)
  if s.all isVisible && s.contains '/' && !kind.isEmpty && kind.all isTokenChar &&
      !subtype.isEmpty && subtype.all isTokenChar &&
      areParameters (parameters.length + 1) parameters then
    let parts := splitSuffix (subtype.map Char.toLower)
    some ⟨kind.map Char.toLower, parts.1, parts.2⟩
  else none

def isJson (m : MediaType) : Bool :=
  m.kind == "application".toList &&
    (m.subtype == "json".toList || m.suffix == some "json".toList)

end MediaType

end Flowchart
