import Flowchart.Chart

/-!
# Segments of a line

A line is read as free text and shapes. A shape is an opening delimiter glued to an identifier,
and its extent is found by matching delimiters, so a label may hold delimiters of its own. The
label is kept as it stands. A pipe label is free text whatever it holds.
-/

namespace Flowchart

inductive Segment where
  | text (t : Text)
  | node (n : ShapedNode)
  deriving DecidableEq, Repr

namespace Segment

def render : Segment → Text
  | text t => t
  | node n => n.render

def renderAll (l : List Segment) : Text :=
  l.flatMap render

/-- The text up to the next pipe and the text behind that pipe. -/
def untilPipe? : Text → Option (Text × Text)
  | [] => none
  | c :: s => if c = '|' then some ([], s) else (untilPipe? s).map fun r => (c :: r.1, r.2)

theorem eq_append_of_untilPipe? {s label rest : Text} (h : untilPipe? s = some (label, rest)) :
    s = label ++ '|' :: rest ∧ '|' ∉ label := by
  induction s generalizing label with
  | nil => simp [untilPipe?] at h
  | cons c s ih =>
    unfold untilPipe? at h
    split at h
    · simp_all
    · obtain ⟨⟨l, r⟩, hr, he⟩ := Option.map_eq_some_iff.1 h
      cases he
      obtain ⟨h₁, h₂⟩ := ih hr
      rename_i hc
      exact ⟨by simp [h₁], by simp [h₂, Ne.symm hc]⟩

theorem length_lt_of_untilPipe? {s label rest : Text} (h : untilPipe? s = some (label, rest)) :
    rest.length < s.length := by
  rw [(eq_append_of_untilPipe? h).1, List.length_append, List.length_cons]
  omega

/-- Drops the innermost open delimiter that the closer fits, and those inside it. -/
def closeWith (c : Char) : List Char → Option (List Char)
  | [] => none
  | closer :: outer => if closer = c then some outer else closeWith c outer

/-- The interior up to the delimiter that closes the outermost of the open ones, given by their
closers, innermost first. A closer that fits none of them is part of the interior. -/
def closedInterior? (closers : List Char) : Text → Option (Text × Text)
  | [] => none
  | c :: s =>
    if isOpener c then (closedInterior? (closerOf c :: closers) s).map fun r => (c :: r.1, r.2)
    else if isCloser c then
      match closeWith c closers with
      | none => (closedInterior? closers s).map fun r => (c :: r.1, r.2)
      | some [] => some ([], s)
      | some outer => (closedInterior? outer s).map fun r => (c :: r.1, r.2)
    else (closedInterior? closers s).map fun r => (c :: r.1, r.2)

def beginsArrow (a b : Char) : Bool :=
  (a == '-' && b == '-') || (a == '=' && b == '=') || (a == '-' && b == '>')

/-- The text before the first arrow, and the text from there on. -/
def untilArrow : Text → Text × Text
  | [] => ([], [])
  | [c] => ([c], [])
  | a :: b :: s =>
    if beginsArrow a b then ([], a :: b :: s)
    else (a :: (untilArrow (b :: s)).1, (untilArrow (b :: s)).2)

/-- Interior and rest of a shape, from behind its opening delimiter. A shape that is never closed
ends before the first arrow in it. -/
def shapeInterior (opener : Char) (s : Text) : Text × Text :=
  match closedInterior? [closerOf opener] s with
  | some r => r
  | none => untilArrow s

/-- Takes an inner delimiter off the front, and its closer off the end if it is there. -/
def peel? (opener : Char) (isEnd : Char → Bool) : Text → Option Text
  | [] => none
  | c :: s => if c = opener then some (Text.dropLastIf isEnd s) else none

/-- What lies between two delimiters, both of which have to be there. -/
def between? (opener closer : Char) : Text → Option Text
  | [] => none
  | c :: s => if c = opener ∧ s.getLast? = some closer then some s.dropLast else none

/-- Decides the shape from its delimiter and the first character inside, and takes the inner
delimiters off the label. -/
def classifyInterior (opener : Char) (interior : Text) : Shape × Text :=
  let inner := Text.trim interior
  let read : Shape × Text :=
    if opener = '(' then
      (.terminal, ((peel? '[' (· == ']') inner).or (peel? '(' (· == ')') inner)).getD inner)
    else if opener = '{' then (.decision, (peel? '{' (· == '}') inner).getD inner)
    else
      match peel? '/' (fun c => c == '/' || c == '\\') inner with
      | some label => (.input, label)
      | none =>
        match peel? '\\' (fun c => c == '/' || c == '\\') inner with
        | some label => (.output, label)
        | none =>
          match between? '(' ')' inner with
          | some label => (.storage, label)
          | none => (.process, (peel? '[' (· == ']') inner).getD inner)
  (read.1, Text.trim read.2)

theorem length_closedInterior? {closers : List Char} {s interior rest : Text}
    (h : closedInterior? closers s = some (interior, rest)) :
    interior.length + 1 + rest.length = s.length := by
  induction s generalizing closers interior with
  | nil => simp [closedInterior?] at h
  | cons c s ih =>
    have step {closers' : List Char}
        (h : (closedInterior? closers' s).map (fun r => (c :: r.1, r.2)) = some (interior, rest)) :
        interior.length + 1 + rest.length = (c :: s).length := by
      obtain ⟨⟨i, r⟩, hr, he⟩ := Option.map_eq_some_iff.1 h
      cases he
      have := ih hr
      simp only [List.length_cons] at this ⊢
      omega
    unfold closedInterior? at h
    split at h
    · exact step h
    · split at h
      · split at h
        · exact step h
        · cases h
          simp [Nat.add_comm]
        · exact step h
      · exact step h

theorem untilArrow_append (s : Text) : (untilArrow s).1 ++ (untilArrow s).2 = s := by
  fun_induction untilArrow s with
  | case1 => rfl
  | case2 => rfl
  | case3 a b s h => rfl
  | case4 a b s h ih => simpa using ih

theorem length_shapeInterior (opener : Char) (s : Text) :
    (shapeInterior opener s).2.length ≤ s.length := by
  unfold shapeInterior
  split
  · rename_i r h
    have : r.1.length + 1 + r.2.length = s.length := length_closedInterior? h
    omega
  · have := congrArg List.length (untilArrow_append s)
    rw [List.length_append] at this
    omega

/-- Characters that an identifier glued to a delimiter does not reach across. -/
def stopsId (c : Char) : Bool :=
  Text.isBlank c || isOpener c || isCloser c || c == '|' || c == '&'

/-- The part before the first place where the character stands twice. -/
def untilDouble (c : Char) : Text → Text
  | [] => []
  | [a] => [a]
  | a :: b :: s => if a = c ∧ b = c then [] else a :: untilDouble c (b :: s)

/-- The identifier at the end of a text, both read backwards. It ends at the head of any arrow. -/
def gluedId (back : Text) : Text :=
  untilDouble '=' (untilDouble '-' ((back.takeWhile (!stopsId ·)).takeWhile (· != '>')))

def ofBack (back : Text) : List Segment :=
  if back.isEmpty then [] else [.text back.reverse]

/-- Reads the segments of a text behind free text that is given backwards. -/
def scanFrom (back : Text) : Text → List Segment
  | [] => ofBack back
  | c :: s =>
    if c = '|' then
      match _h : untilPipe? s with
      | some (label, rest) => scanFrom ('|' :: label.reverse ++ '|' :: back) rest
      | none => scanFrom (c :: back) s
    else if isOpener c = true ∧ gluedId back ≠ [] then
      let id := gluedId back
      let body := shapeInterior c s
      let read := classifyInterior c body.1
      ofBack (back.drop id.length) ++
        .node ⟨id.reverse, read.1, read.2⟩ :: scanFrom [] body.2
    else scanFrom (c :: back) s
termination_by s => s.length
decreasing_by
  · exact Nat.lt_succ_of_lt (length_lt_of_untilPipe? _h)
  · exact Nat.lt_succ_self _
  · exact Nat.lt_succ_of_le (length_shapeInterior c s)
  · exact Nat.lt_succ_self _

def scan (line : Text) : List Segment :=
  scanFrom [] line

end Segment

end Flowchart
