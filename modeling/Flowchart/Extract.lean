import Flowchart.Direction
import Flowchart.Text.Replace
import Flowchart.Text.WordClass

/-!
# The chart inside a reply

A reply may wrap the chart in a fenced block and in prose. The first fence wins, a fence that is
never closed reaches to the end, and text before the first root declaration is dropped.
-/

namespace Flowchart

/-- The text before the first occurrence and the text behind it. -/
def Text.cut? (needle : Text) : Text → Option (Text × Text)
  | [] => if needle.isEmpty then some ([], []) else none
  | c :: s =>
    match Text.after? needle (c :: s) with
    | some rest => some ([], rest)
    | none => (Text.cut? needle s).map fun r => (c :: r.1, r.2)

theorem Text.eq_append_of_cut? {needle s before rest : Text}
    (h : Text.cut? needle s = some (before, rest)) : s = before ++ needle ++ rest := by
  induction s generalizing before with
  | nil =>
    simp only [Text.cut?] at h
    split at h
    · rename_i he
      cases h
      simpa using he
    · cases h
  | cons c s ih =>
    unfold Text.cut? at h
    split at h
    · rename_i ha
      cases h
      simpa using Text.after?_eq_some_iff.1 ha
    · obtain ⟨⟨b, r⟩, hr, he⟩ := Option.map_eq_some_iff.1 h
      cases he
      simp [ih hr]

namespace Extract

def fence : Text := ['\x60', '\x60', '\x60']

def isTagChar (c : Char) : Bool :=
  c.isAlphanum || c == '_' || c == '+' || c == '-'

def isPadding (c : Char) : Bool :=
  c == ' ' || c == '\t'

/-- Drops the language tag behind a fence, which only counts when the line ends with it. -/
def dropTag (s : Text) : Text :=
  match (s.dropWhile isTagChar).dropWhile isPadding with
  | '\n' :: rest => rest
  | '\r' :: '\n' :: rest => rest
  | _ => s

def candidate (raw : Text) : Text :=
  let text := Text.trim raw
  match Text.cut? fence text with
  | none => text
  | some (_, behind) =>
    let inside := dropTag behind
    match Text.cut? fence inside with
    | some (block, _) => Text.trim block
    | none => Text.trim inside

/-- The text behind a word, which is given in small letters and found in any case. -/
def afterWord? (word s : Text) : Option Text :=
  if (s.take word.length).map Char.toLower = word then some (s.drop word.length) else none

/-- Whether the text behind the keyword goes on with padding and the code of a direction that
ends a word. -/
def continuesRoot (s : Text) : Bool :=
  match s.dropWhile isPadding with
  | a :: b :: rest =>
    s.head?.any isPadding && (Direction.ofText? [a, b]).isSome && !rest.head?.any Text.isWordChar
  | _ => false

def beginsRoot (s : Text) : Bool :=
  (afterWord? "flowchart".toList s).any continuesRoot ||
    (afterWord? "graph".toList s).any continuesRoot

/-- The text from the first root declaration on. The keyword begins a word. -/
def fromRoot? (insideWord : Bool) : Text → Option Text
  | [] => none
  | c :: s =>
    if !insideWord && beginsRoot (c :: s) then some (c :: s) else fromRoot? (Text.isWordChar c) s

theorem suffix_of_fromRoot? {insideWord : Bool} {s t : Text}
    (h : fromRoot? insideWord s = some t) : t <:+ s := by
  induction s generalizing insideWord with
  | nil => cases h
  | cons c s ih =>
    unfold fromRoot? at h
    split at h
    · cases h
      exact List.suffix_refl _
    · exact (ih h).trans (List.suffix_cons c s)

end Extract

def extract (raw : Text) : Text :=
  let text := Extract.candidate raw
  Text.trim ((Extract.fromRoot? false text).getD text)

end Flowchart
