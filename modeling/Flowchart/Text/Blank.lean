/-!
# Blanks, trimming and words

A text is the list of its characters. Blanks separate words, and trimming removes them from both
ends.
-/

namespace Flowchart

abbrev Text := List Char

namespace Text

/-- The characters with the White_Space property. -/
def isBlank (c : Char) : Bool :=
  let n := c.toNat
  (9 ≤ n && n ≤ 13) || n == 0x20 || n == 0x85 || n == 0xa0 || n == 0x1680 ||
    (0x2000 ≤ n && n ≤ 0x200a) || n == 0x2028 || n == 0x2029 || n == 0x202f || n == 0x205f ||
    n == 0x3000

def trimEndBy (p : Char → Bool) (s : Text) : Text :=
  (s.reverse.dropWhile p).reverse

def trimBy (p : Char → Bool) (s : Text) : Text :=
  trimEndBy p (s.dropWhile p)

def trim (s : Text) : Text :=
  trimBy isBlank s

/-- Drops the last character if it is in the class. -/
def dropLastIf (p : Char → Bool) (s : Text) : Text :=
  if s.getLast?.any p then s.dropLast else s

/-- Puts a character in front of the first piece. -/
def extendFirst (c : Char) : List Text → List Text
  | [] => [[c]]
  | piece :: pieces => (c :: piece) :: pieces

theorem extendFirst_ne_nil (c : Char) (pieces : List Text) : extendFirst c pieces ≠ [] := by
  cases pieces <;> simp [extendFirst]

/-- The pieces between the characters of a class: one more piece than separators. -/
def splitBy (p : Char → Bool) : Text → List Text
  | [] => [[]]
  | c :: s => if p c then [] :: splitBy p s else extendFirst c (splitBy p s)

theorem splitBy_ne_nil (p : Char → Bool) (s : Text) : splitBy p s ≠ [] := by
  cases s with
  | nil => simp [splitBy]
  | cons c s =>
    unfold splitBy
    split
    · simp
    · exact extendFirst_ne_nil c _

theorem splitBy_append_of_none {p : Char → Bool} {w s : Text} (hw : ∀ c ∈ w, p c = false) :
    splitBy p (w ++ s) = match splitBy p s with
      | [] => [w]
      | piece :: pieces => (w ++ piece) :: pieces := by
  induction w with
  | nil =>
    cases h : splitBy p s with
    | nil => exact absurd h (splitBy_ne_nil p s)
    | cons piece pieces => simpa using h
  | cons c w ih =>
    have hc : p c = false := hw c (by simp)
    rw [List.cons_append, splitBy, if_neg (by simp [hc]), ih fun d hd => hw d (by simp [hd])]
    cases splitBy p s <;> rfl

/-- The maximal runs of characters that are not blank. -/
def words (s : Text) : List Text :=
  (splitBy isBlank s).filter (!·.isEmpty)

def joinWith (sep : Char) : List Text → Text
  | [] => []
  | [piece] => piece
  | piece :: pieces => piece ++ sep :: joinWith sep pieces

theorem joinWith_splitBy (sep : Char) (s : Text) :
    joinWith sep (splitBy (· == sep) s) = s := by
  induction s with
  | nil => rfl
  | cons c s ih =>
    have hne := splitBy_ne_nil (· == sep) s
    unfold splitBy
    cases hs : splitBy (· == sep) s with
    | nil => exact absurd hs hne
    | cons piece pieces =>
      rw [hs] at ih
      split
      · rename_i hc
        simp only [beq_iff_eq] at hc
        simp [joinWith, ih, hc]
      · cases pieces with
        | nil => simpa [extendFirst, joinWith] using ih
        | cons next rest => simpa [extendFirst, joinWith] using ih

/-- Whether the text occurs somewhere inside another one. -/
def occursIn (needle : Text) : Text → Bool
  | [] => needle.isEmpty
  | c :: s => needle.isPrefixOf (c :: s) || occursIn needle s

end Text

end Flowchart
