import Flowchart.Proofs.Characters

/-!
# How the scanner reads a line

The scanner divides a line into characters of free text, labels between two pipes, and shapes from
the opening delimiter to the closer that ends it. Nothing of the line is lost, and the segments can
be made from these parts alone.
-/

namespace Flowchart

namespace Segment

/-- A part of a line. An identifier in front of a shape is free text here. -/
inductive Piece where
  | free (c : Char)
  | label (l : Text) (h : '|' ∉ l)
  /-- A shape that is not closed ends before an arrow or with the line. -/
  | shape (opener : Char) (h : isOpener opener = true) (interior : Text) (closed : Bool)
  deriving DecidableEq

namespace Piece

def text : Piece → Text
  | free c => [c]
  | label l _ => '|' :: l ++ ['|']
  | shape opener _ interior true => opener :: interior ++ [closerOf opener]
  | shape opener _ interior false => opener :: interior

end Piece

/-- Reads the parts of a text behind free text that is given backwards. -/
def piecesFrom (back : Text) : Text → List Piece
  | [] => []
  | c :: s =>
    if c = '|' then
      match h : untilPipe? s with
      | some (label, rest) =>
        .label label (eq_append_of_untilPipe? h).2 ::
          piecesFrom ('|' :: label.reverse ++ '|' :: back) rest
      | none => .free c :: piecesFrom (c :: back) s
    else if h : isOpener c = true ∧ gluedId back ≠ [] then
      let body := shapeInterior c s
      .shape c h.1 body.1 (closedInterior? [closerOf c] s).isSome :: piecesFrom [] body.2
    else .free c :: piecesFrom (c :: back) s
termination_by s => s.length
decreasing_by
  · exact Nat.lt_succ_of_lt (length_lt_of_untilPipe? h)
  · exact Nat.lt_succ_self _
  · exact Nat.lt_succ_of_le (length_shapeInterior c s)
  · exact Nat.lt_succ_self _

def pieces (line : Text) : List Piece :=
  piecesFrom [] line

/-- The segments that the parts make up. An identifier is taken off the free text where a shape
follows. -/
def ofPieces (back : Text) : List Piece → List Segment
  | [] => ofBack back
  | .free c :: ps => ofPieces (c :: back) ps
  | .label l _ :: ps => ofPieces ('|' :: l.reverse ++ '|' :: back) ps
  | .shape opener _ interior _ :: ps =>
    let id := gluedId back
    let read := classifyInterior opener interior
    ofBack (back.drop id.length) ++ .node ⟨id.reverse, read.1, read.2⟩ :: ofPieces [] ps

theorem ofPieces_piecesFrom (back s : Text) :
    ofPieces back (piecesFrom back s) = scanFrom back s := by
  fun_induction piecesFrom back s with
  | case1 back => rw [scanFrom_nil, ofPieces]
  | case2 back s label rest h ih => rw [ofPieces, ih, scanFrom_label h]
  | case3 back s h ih => rw [ofPieces, ih, scanFrom_pipe h]
  | case4 back c s hc h body ih => rw [ofPieces, ih, scanFrom_opener h, ShapedNode.ofInterior]
  | case5 back c s hc h ih => rw [ofPieces, ih, scanFrom_cons (absurd · hc) h]

/-- The segments of a line are made from its parts. -/
theorem scan_eq_ofPieces (line : Text) : scan line = ofPieces [] (pieces line) :=
  (ofPieces_piecesFrom [] line).symm

/-! ## Where a shape ends -/

theorem eq_append_of_closeWith {c : Char} {closers outer : List Char}
    (h : closeWith c closers = some outer) : ∃ inner, closers = inner ++ c :: outer := by
  induction closers with
  | nil => cases h
  | cons closer closers ih =>
      rw [closeWith] at h
      split at h
      · rename_i hc
        cases h
        exact ⟨[], by rw [hc, List.nil_append]⟩
      · obtain ⟨inner, rfl⟩ := ih h
        exact ⟨closer :: inner, rfl⟩

/-- The interior ends at the closer of the outermost delimiter. -/
theorem eq_append_closer {closers : List Char} {s interior rest : Text} {closer : Char}
    (h : closedInterior? closers s = some (interior, rest))
    (hcloser : closers.getLast? = some closer) : s = interior ++ closer :: rest := by
  induction s generalizing closers interior with
  | nil => cases h
  | cons c s ih =>
      have step {closers' : List Char} (hlast : closers'.getLast? = some closer)
          (h : (closedInterior? closers' s).map (fun r => (c :: r.1, r.2))
            = some (interior, rest)) :
          c :: s = interior ++ closer :: rest := by
        obtain ⟨⟨i, r⟩, hr, he⟩ := Option.map_eq_some_iff.1 h
        cases he
        rw [ih hr hlast, List.cons_append]
      rw [closedInterior?] at h
      split at h
      · refine step ?_ h
        rw [List.getLast?_cons, hcloser, Option.getD_some]
      split at h
      · split at h
        · exact step hcloser h
        · rename_i hclose
          obtain ⟨inner, rfl⟩ := eq_append_of_closeWith hclose
          rw [List.getLast?_concat] at hcloser
          cases hcloser
          cases h
          rfl
        · rename_i outer hne hclose
          obtain ⟨inner, rfl⟩ := eq_append_of_closeWith hclose
          refine step ?_ h
          rw [← hcloser, List.getLast?_append_of_ne_nil _ (by simp),
            List.getLast?_cons_of_ne_nil hne]
      · exact step hcloser h

theorem text_shape_append (opener : Char) (h : isOpener opener = true) (s : Text) :
    (Piece.shape opener h (shapeInterior opener s).1
        (closedInterior? [closerOf opener] s).isSome).text ++ (shapeInterior opener s).2 =
      opener :: s := by
  unfold shapeInterior
  cases hs : closedInterior? [closerOf opener] s with
  | none => simp [Piece.text, untilArrow_append]
  | some r =>
      have hinterior : s = r.1 ++ closerOf opener :: r.2 := eq_append_closer hs rfl
      simp [Piece.text, hinterior]

/-- The parts hold the line, and nothing else. -/
theorem text_piecesFrom (back s : Text) : (piecesFrom back s).flatMap Piece.text = s := by
  fun_induction piecesFrom back s with
  | case1 => rfl
  | case2 back s label rest h ih =>
      have hs := (eq_append_of_untilPipe? h).1
      rw [List.flatMap_cons, ih, Piece.text]
      simp [hs]
  | case3 back s h ih => rw [List.flatMap_cons, ih]; rfl
  | case4 back c s hc h body ih => rw [List.flatMap_cons, ih, text_shape_append]
  | case5 back c s hc h ih => rw [List.flatMap_cons, ih]; rfl

theorem text_pieces (line : Text) : (pieces line).flatMap Piece.text = line :=
  text_piecesFrom [] line

end Segment

end Flowchart
