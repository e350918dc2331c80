import Flowchart.Proofs.Coverings

/-!
# The scanner by its places in a line

The scanner holds the characters of a line in an array and goes by places in it. Every read is
checked here, and a step that reads outside the array is none at all. There is always a step, it
advances, and all of them together give the segments of the line.
-/

namespace Flowchart.Segment

/-! ## Places in a line -/

/-- The characters from a place on, as the scanner sees them. -/
def suffix (chars : Array Char) (place : Nat) : Text :=
  chars.toList.drop place

theorem suffix_cons {chars : Array Char} {place : Nat} (h : place < chars.size) :
    suffix chars place = chars[place] :: suffix chars (place + 1) :=
  List.drop_eq_getElem_cons (by simpa using h)

theorem suffix_nil {chars : Array Char} {place : Nat} (h : chars.size ≤ place) :
    suffix chars place = [] :=
  List.drop_eq_nil_iff.2 (by simpa using h)

theorem length_suffix (chars : Array Char) (place : Nat) :
    (suffix chars place).length = chars.size - place := by
  rw [suffix, List.length_drop, Array.length_toList]

theorem suffix_add {chars : Array Char} {place : Nat} {t rest : Text}
    (h : suffix chars place = t ++ rest) : suffix chars (place + t.length) = rest := by
  have hdrop : suffix chars (place + t.length) = (suffix chars place).drop t.length :=
    List.drop_drop.symm
  rw [hdrop, h, List.drop_left]

theorem add_length_le {chars : Array Char} {place : Nat} {t rest : Text}
    (hplace : place ≤ chars.size) (h : suffix chars place = t ++ rest) :
    place + t.length ≤ chars.size := by
  have hlength := congrArg List.length h
  rw [length_suffix, List.length_append] at hlength
  omega

/-- The characters from one place up to another. -/
def slice? (chars : Array Char) (first last : Nat) : Option Text :=
  if first ≤ last ∧ last ≤ chars.size then some ((suffix chars first).take (last - first))
  else none

theorem slice?_eq_some {chars : Array Char} {first : Nat} {t rest : Text}
    (hfirst : first ≤ chars.size) (h : suffix chars first = t ++ rest) :
    slice? chars first (first + t.length) = some t := by
  rw [slice?, if_pos ⟨Nat.le_add_right _ _, add_length_le hfirst h⟩, Nat.add_sub_cancel_left, h,
    List.take_left]

/-! ## Searches -/

/-- The place of the first pipe from a place on. -/
def pipeFrom? (chars : Array Char) (place : Nat) : Option Nat :=
  ((suffix chars place).findIdx? (· == '|')).map (place + ·)

theorem findIdx?_pipe (s : Text) :
    s.findIdx? (· == '|') = (untilPipe? s).map fun r => r.1.length := by
  induction s with
  | nil => rfl
  | cons c s ih =>
      rw [List.findIdx?_cons, untilPipe?, ih]
      by_cases hc : c = '|'
      · simp [hc]
      · simp [hc, Function.comp_def]

theorem pipeFrom?_eq (chars : Array Char) (place : Nat) :
    pipeFrom? chars place =
      (untilPipe? (suffix chars place)).map fun r => place + r.1.length := by
  rw [pipeFrom?, findIdx?_pipe, Option.map_map, Function.comp_def]

/-- The place of the delimiter that closes the outermost of the open ones. The characters come with
their places, and the first of these is given. -/
def closerFrom? (closers : List Char) (place : Nat) : Text → Option Nat
  | [] => none
  | c :: s =>
    if isOpener c then closerFrom? (closerOf c :: closers) (place + 1) s
    else if isCloser c then
      match closeWith c closers with
      | none => closerFrom? closers (place + 1) s
      | some [] => some place
      | some outer => closerFrom? outer (place + 1) s
    else closerFrom? closers (place + 1) s

theorem closerFrom?_eq (closers : List Char) (place : Nat) (s : Text) :
    closerFrom? closers place s =
      (closedInterior? closers s).map fun r => place + r.1.length := by
  induction s generalizing closers place with
  | nil => rfl
  | cons c s ih =>
      have step (closers' : List Char) : closerFrom? closers' (place + 1) s =
          ((closedInterior? closers' s).map fun r => (c :: r.1, r.2)).map
            fun r => place + r.1.length := by
        rw [ih, Option.map_map]
        exact congrArg (Option.map · _) (funext fun r => Nat.add_right_comm place 1 r.1.length)
      rw [closerFrom?, closedInterior?]
      split
      · exact step _
      split
      · cases closeWith c closers with
        | none => exact step _
        | some outer =>
            cases outer with
            | nil => rfl
            | cons closer outer => exact step _
      · exact step _

/-- The place of the first arrow from a place on, where the line is read at that place and at the
next. -/
def arrowFrom? (chars : Array Char) (place : Nat) : Option (Option Nat) :=
  if place < chars.size - 1 then
    match chars[place]?, chars[place + 1]? with
    | some a, some b =>
      if beginsArrow a b then some (some place) else arrowFrom? chars (place + 1)
    | _, _ => none
  else some none
termination_by chars.size - place

theorem exists_arrowFrom? {chars : Array Char} {place : Nat} (h : place ≤ chars.size) :
    ∃ arrow, arrowFrom? chars place = some arrow ∧
      arrow.getD chars.size = place + (untilArrow (suffix chars place)).1.length := by
  fun_induction arrowFrom? chars place with
  | case1 place hlt a b hb ha harrow =>
      obtain ⟨hplace, rfl⟩ := Array.getElem?_eq_some_iff.1 ha
      obtain ⟨hnext, rfl⟩ := Array.getElem?_eq_some_iff.1 hb
      refine ⟨some place, rfl, ?_⟩
      rw [suffix_cons hplace, suffix_cons hnext, untilArrow, if_pos harrow]
      rfl
  | case2 place hlt a b hb ha harrow ih =>
      obtain ⟨hplace, rfl⟩ := Array.getElem?_eq_some_iff.1 ha
      obtain ⟨hnext, rfl⟩ := Array.getElem?_eq_some_iff.1 hb
      obtain ⟨arrow, hfound, hlast⟩ := ih hnext.le
      refine ⟨arrow, hfound, ?_⟩
      rw [suffix_cons hnext] at hlast
      rw [hlast, suffix_cons hplace, suffix_cons hnext, untilArrow, if_neg harrow,
        List.length_cons]
      omega
  | case3 place hlt hnone =>
      exact absurd (Array.getElem?_eq_getElem (by omega))
        (hnone _ chars[place + 1] (Array.getElem?_eq_getElem (by omega)))
  | case4 place hlt =>
      -- no arrow begins with the last character
      refine ⟨none, rfl, ?_⟩
      rcases Nat.eq_or_lt_of_le h with heq | hplace
      · rw [suffix_nil heq.ge, heq]
        rfl
      · rw [suffix_cons hplace, suffix_nil (by omega)]
        simp only [untilArrow, List.length_singleton, Option.getD_none]
        omega

/-- The place where the interior of a shape ends, and the place behind the shape. -/
def shapeEnd? (chars : Array Char) (place : Nat) : Option (Nat × Nat) := do
  let opener ← chars[place]?
  match closerFrom? [closerOf opener] (place + 1) (suffix chars (place + 1)) with
  | some last => some (last, last + 1)
  | none =>
    let arrow ← arrowFrom? chars (place + 1)
    some (arrow.getD chars.size, arrow.getD chars.size)

theorem exists_shapeEnd? {chars : Array Char} {place : Nat} (h : place < chars.size) :
    ∃ last next, shapeEnd? chars place = some (last, next) ∧ place < next ∧ next ≤ chars.size ∧
      slice? chars (place + 1) last =
        some (shapeInterior chars[place] (suffix chars (place + 1))).1 ∧
      suffix chars next = (shapeInterior chars[place] (suffix chars (place + 1))).2 := by
  unfold shapeEnd? shapeInterior
  rw [Array.getElem?_eq_getElem h, Option.bind_eq_bind, Option.bind_some, closerFrom?_eq]
  cases hclosed : closedInterior? [closerOf chars[place]] (suffix chars (place + 1)) with
  | some r =>
      obtain ⟨interior, rest⟩ := r
      have hsuffix : suffix chars (place + 1) = interior ++ closerOf chars[place] :: rest :=
        eq_append_closer hclosed rfl
      have hsplit : suffix chars (place + 1) = (interior ++ [closerOf chars[place]]) ++ rest := by
        rw [hsuffix, List.append_assoc, List.singleton_append]
      have hnext := suffix_add hsplit
      have hle := add_length_le h hsplit
      rw [List.length_append, List.length_singleton, ← Nat.add_assoc] at hnext hle
      refine ⟨place + 1 + interior.length, place + 1 + interior.length + 1, rfl, by omega, hle,
        slice?_eq_some h hsuffix, hnext⟩
  | none =>
      obtain ⟨arrow, hfound, hlast⟩ := exists_arrowFrom? (Nat.succ_le_of_lt h)
      have hsuffix := (untilArrow_append (suffix chars (place + 1))).symm
      have hle := add_length_le h hsuffix
      rw [Nat.succ_eq_add_one] at hlast
      refine ⟨arrow.getD chars.size, arrow.getD chars.size, ?_, by omega, by omega, ?_, ?_⟩
      · simp [hfound]
      · rw [hlast]
        exact slice?_eq_some h hsuffix
      · rw [hlast]
        exact suffix_add hsuffix

/-! ## Steps -/

/-- A place in a line, with the free text behind it and the segments in front of that text. -/
structure Cursor where
  place : Nat
  text : Text
  segments : List Segment

namespace Cursor

def start : Cursor :=
  ⟨0, [], []⟩

/-- Takes a number of characters off the end. -/
def splitOff? (t : Text) (n : Nat) : Option (Text × Text) :=
  if n ≤ t.length then some (t.splitAt (t.length - n)) else none

/-- Over a label and the pipes around it, of which the last is at the given place. -/
def passLabel? (chars : Array Char) (cursor : Cursor) (last : Nat) : Option Cursor := do
  let zone ← slice? chars cursor.place (last + 1)
  some { cursor with place := last + 1, text := cursor.text ++ zone }

/-- Over a shape, the identifier of which is taken off the free text. -/
def takeShape? (chars : Array Char) (cursor : Cursor) (opener : Char) : Option Cursor := do
  let (front, id) ← splitOff? cursor.text (gluedId cursor.text.reverse).length
  let (last, next) ← shapeEnd? chars cursor.place
  let interior ← slice? chars (cursor.place + 1) last
  some ⟨next, [], cursor.segments ++ ofBack front.reverse ++
    [.node (.ofInterior id opener interior)]⟩

def passChar (cursor : Cursor) (c : Char) : Cursor :=
  { cursor with place := cursor.place + 1, text := cursor.text ++ [c] }

def step? (chars : Array Char) (cursor : Cursor) : Option Cursor := do
  let c ← chars[cursor.place]?
  match if c = '|' then pipeFrom? chars (cursor.place + 1) else none with
  | some last => passLabel? chars cursor last
  | none =>
    if isOpener c = true ∧ gluedId cursor.text.reverse ≠ [] then takeShape? chars cursor c
    else some (passChar cursor c)

/-- The segments in front of a cursor and those that are read from there on. -/
def outcome (chars : Array Char) (cursor : Cursor) : List Segment :=
  cursor.segments ++ scanFrom cursor.text.reverse (suffix chars cursor.place)

/-- A step goes forward, not past the end, and changes nothing of what is read in all. -/
structure Advances (chars : Array Char) (cursor next : Cursor) : Prop where
  lt : cursor.place < next.place
  le : next.place ≤ chars.size
  outcome : next.outcome chars = cursor.outcome chars

theorem splitOff?_eq_some {t : Text} {n : Nat} (h : n ≤ t.length) :
    splitOff? t n = some ((t.reverse.drop n).reverse, (t.reverse.take n).reverse) := by
  rw [splitOff?, if_pos h, List.splitAt_eq, List.drop_reverse, List.take_reverse,
    List.reverse_reverse, List.reverse_reverse]

variable {chars : Array Char} {cursor : Cursor}

theorem exists_passLabel? {label rest : Text} (h : cursor.place < chars.size)
    (hpipe : chars[cursor.place] = '|')
    (hlabel : untilPipe? (suffix chars (cursor.place + 1)) = some (label, rest)) :
    ∃ next, passLabel? chars cursor (cursor.place + 1 + label.length) = some next ∧
      Advances chars cursor next := by
  obtain ⟨hsplit, hfree⟩ := eq_append_of_untilPipe? hlabel
  have hsuffix : suffix chars cursor.place = '|' :: label ++ ['|'] ++ rest := by
    rw [suffix_cons h, hpipe, hsplit]
    simp
  have hlast : cursor.place + 1 + label.length + 1 =
      cursor.place + ('|' :: label ++ ['|']).length := by
    simp
    omega
  refine ⟨⟨_, _, _⟩, by rw [passLabel?, hlast, slice?_eq_some h.le hsuffix]; rfl, ?_, ?_, ?_⟩
  · simp
  · exact add_length_le h.le hsuffix
  · rw [outcome, outcome, suffix_add hsuffix, hsuffix, isFree_label hfree, List.reverse_append]

theorem passChar_advances (h : cursor.place < chars.size)
    (hpipe : chars[cursor.place] = '|' → untilPipe? (suffix chars (cursor.place + 1)) = none)
    (hopener : ¬ (isOpener chars[cursor.place] = true ∧ gluedId cursor.text.reverse ≠ [])) :
    Advances chars cursor (passChar cursor chars[cursor.place]) where
  lt := Nat.lt_succ_self _
  le := h
  outcome := by
    rw [outcome, outcome, suffix_cons h, scanFrom_cons hpipe hopener, passChar,
      List.reverse_concat]

theorem exists_takeShape? (h : cursor.place < chars.size)
    (hopener : isOpener chars[cursor.place] = true ∧ gluedId cursor.text.reverse ≠ []) :
    ∃ next, takeShape? chars cursor chars[cursor.place] = some next ∧
      Advances chars cursor next := by
  obtain ⟨last, next, hend, hlt, hle, hslice, hrest⟩ := exists_shapeEnd? h
  have hprefix := gluedId_isPrefix cursor.text.reverse
  have hsplit := splitOff?_eq_some (t := cursor.text) (by simpa using hprefix.length_le)
  rw [← List.prefix_iff_eq_take.1 hprefix] at hsplit
  simp only [takeShape?, hsplit, hend, hslice, Option.bind_eq_bind, Option.bind_some]
  refine ⟨_, rfl, hlt, hle, ?_⟩
  rw [outcome, outcome, suffix_cons h, hrest, scanFrom_opener hopener]
  simp

theorem exists_step? (h : cursor.place < chars.size) :
    ∃ next, step? chars cursor = some next ∧ Advances chars cursor next := by
  rw [step?, Array.getElem?_eq_getElem h, Option.bind_eq_bind, Option.bind_some]
  split
  · rename_i last hlast
    split at hlast
    · rename_i hpipe
      rw [pipeFrom?_eq, Option.map_eq_some_iff] at hlast
      obtain ⟨⟨label, rest⟩, hlabel, rfl⟩ := hlast
      exact exists_passLabel? h hpipe hlabel
    · cases hlast
  · rename_i hlast
    have hlone (hpipe : chars[cursor.place] = '|') :
        untilPipe? (suffix chars (cursor.place + 1)) = none := by
      rwa [if_pos hpipe, pipeFrom?_eq, Option.map_eq_none_iff] at hlast
    split
    · rename_i hopener
      exact exists_takeShape? h hopener
    · rename_i hopener
      exact ⟨_, rfl, passChar_advances h hlone hopener⟩

/-! ## Runs -/

/-- The segments of a line, if that many steps are enough. -/
def run? (chars : Array Char) (n : Nat) (cursor : Cursor) : Option (List Segment) :=
  if cursor.place < chars.size then
    match n with
    | 0 => none
    | n + 1 => (step? chars cursor).bind (run? chars n)
  else some (cursor.segments ++ ofBack cursor.text.reverse)

theorem run?_eq_some {n : Nat} (h : chars.size - cursor.place ≤ n) :
    run? chars n cursor = some (cursor.outcome chars) := by
  induction n generalizing cursor with
  | zero =>
      have hend : chars.size ≤ cursor.place := by omega
      rw [run?, if_neg hend.not_gt, outcome, suffix_nil hend, scanFrom_nil]
  | succ n ih =>
      by_cases hend : cursor.place < chars.size
      · obtain ⟨next, hstep, hnext⟩ := exists_step? hend
        have hlt := hnext.lt
        -- one step less for what is left, which is shorter
        rw [run?, if_pos hend, hstep, Option.bind_some, ih (by omega), hnext.outcome]
      · rw [run?, if_neg hend, outcome, suffix_nil (not_lt.1 hend), scanFrom_nil]

end Cursor

/-- What a scan makes of a line. The segments are read from the pieces that it is divided into, no
two of free text stand side by side, and the nodes have identifiers. From any place in the line the
scanner gets to a later one that is not past the end, so that it reads the line in no more steps
than the line has characters. -/
structure Covers (line : Text) : Prop where
  divides : ∃ parts, parts.map Prod.fst = scan line ∧ parts.flatMap Prod.snd = line ∧
    Divides parts line
  apart : (scan line).IsChain Apart
  identifiers : ∀ n, .node n ∈ scan line → IsIdentifier n.id
  advances : ∀ cursor : Cursor, cursor.place < line.length →
    ∃ next, cursor.step? line.toArray = some next ∧ cursor.place < next.place ∧
      next.place ≤ line.length
  runs : Cursor.start.run? line.toArray line.length = some (scan line)

theorem scan_covers (line : Text) : Covers line where
  divides := by
    obtain ⟨parts, hparts, hdivides⟩ := exists_divides_scanFrom [] line
    exact ⟨parts, hparts, hdivides.flatMap_eq, hdivides⟩
  apart := isChain_scanFrom [] line
  identifiers := fun _ hn => isIdentifier_of_mem_scanFrom hn
  advances := by
    intro cursor h
    obtain ⟨next, hstep, hnext⟩ := Cursor.exists_step? (line.size_toArray.symm ▸ h)
    exact ⟨next, hstep, hnext.lt, by simpa using hnext.le⟩
  runs := Cursor.run?_eq_some (by simp)

end Flowchart.Segment
