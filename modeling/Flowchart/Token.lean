import Flowchart.Segment
import Flowchart.Text.WordClass

/-!
# Tokens of free text

The text between shapes is read as words, arrows, joins and pipe labels. An arrow is a run of
strokes, dots and heads with enough strokes in it; a shorter run stays inside its word.
-/

namespace Flowchart

inductive Token where
  | space
  | word (w : Text)
  | arrow (a : Text)
  /-- The `&` between several nodes at one end of an edge. -/
  | join
  /-- What stands between two pipes. -/
  | label (l : Text)
  deriving DecidableEq, Repr

namespace Token

def render : Token → Text
  | space => [' ']
  | word w => w
  | arrow a => a
  | join => ['&']
  | label l => '|' :: l ++ ['|']

def renderAll (ts : List Token) : Text :=
  ts.flatMap render

theorem renderAll_cons (t : Token) (ts : List Token) :
    renderAll (t :: ts) = t.render ++ renderAll ts :=
  List.flatMap_cons

theorem renderAll_append (ts us : List Token) :
    renderAll (ts ++ us) = renderAll ts ++ renderAll us :=
  List.flatMap_append

def isArrowChar (c : Char) : Bool :=
  c == '-' || c == '=' || c == '.' || c == '<' || c == '>'

def isStroke (c : Char) : Bool :=
  c == '-' || c == '='

/-- Two strokes make an arrow, and so does one with a head. -/
def isArrow (run : Text) : Bool :=
  2 ≤ run.countP isStroke || (1 ≤ run.countP isStroke && run.contains '>')

/-- Whether the arrow opens a label (`A -- yes --> B`) rather than finishing an edge. -/
def opensLabel (a : Text) : Bool :=
  a == ['-', '-'] || a == ['=', '=']

def arrowRun (s : Text) : Text :=
  s.takeWhile isArrowChar

def startsArrow (s : Text) : Bool :=
  isArrow (arrowRun s)

/-- A circle or cross right behind the strokes is the head of the arrow, unless a word begins
with it. -/
def headLength (run rest : Text) : Nat :=
  match rest with
  | [] => 0
  | c :: s =>
    if run.getLast?.any isStroke && (c == 'o' || c == 'x') &&
        !s.head?.any (fun d => Text.isAlphanumeric d || d == '_')
    then 1
    else 0

/-- The length of the arrow that starts here. -/
def arrowLength? (s : Text) : Option Nat :=
  let run := arrowRun s
  if isArrow run then some (run.length + headLength run (s.drop run.length)) else none

/-- The rest of a word and what follows it. A word ends at a blank, a pipe, a join or an arrow. -/
def wordRest : Text → Text × Text
  | [] => ([], [])
  | c :: s =>
    if Text.isBlank c || c == '&' || c == '|' || startsArrow (c :: s) then ([], c :: s)
    else (c :: (wordRest s).1, (wordRest s).2)

theorem wordRest_append (s : Text) : (wordRest s).1 ++ (wordRest s).2 = s := by
  induction s with
  | nil => rfl
  | cons c s ih =>
    unfold wordRest
    split
    · rfl
    · simpa using ih

theorem length_wordRest (s : Text) : (wordRest s).2.length ≤ s.length := by
  have := congrArg List.length (wordRest_append s)
  rw [List.length_append] at this
  omega

theorem length_dropWhile_le (p : Char → Bool) (s : Text) : (s.dropWhile p).length ≤ s.length :=
  (List.dropWhile_sublist p).length_le

theorem pos_of_arrowLength? {s : Text} {n : Nat} (h : arrowLength? s = some n) : 0 < n := by
  unfold arrowLength? at h
  dsimp only at h
  split at h
  · rename_i ha
    cases h
    have : arrowRun s ≠ [] := by
      intro he
      rw [he] at ha
      exact absurd ha (by decide)
    have := List.length_pos_iff.2 this
    omega
  · cases h

def lex : Text → List Token
  | [] => []
  | c :: s =>
    if Text.isBlank c then space :: lex (s.dropWhile Text.isBlank)
    else if c = '|' then
      match _h : Segment.untilPipe? s with
      | some (l, rest) => label l :: lex rest
      | none => word (c :: (wordRest s).1) :: lex (wordRest s).2
    else
      match _h : arrowLength? (c :: s) with
      | some n => arrow ((c :: s).take n) :: lex ((c :: s).drop n)
      | none =>
        if c = '&' then join :: lex s
        else word (c :: (wordRest s).1) :: lex (wordRest s).2
termination_by s => s.length
decreasing_by
  · exact Nat.lt_succ_of_le (length_dropWhile_le Text.isBlank s)
  · exact Nat.lt_succ_of_lt (Segment.length_lt_of_untilPipe? _h)
  · exact Nat.lt_succ_of_le (length_wordRest s)
  · rw [List.length_drop]
    exact Nat.sub_lt (Nat.succ_pos _) (pos_of_arrowLength? _h)
  · exact Nat.lt_succ_self _
  · exact Nat.lt_succ_of_le (length_wordRest s)

end Token

end Flowchart
