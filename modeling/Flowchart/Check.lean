import Flowchart.Ident
import Flowchart.Label
import Flowchart.Line
import Flowchart.Text.Quoted
import Flowchart.Text.Replace

/-!
# The strict check

A reader of its own for charts in their one exact form. It reports what a chart contains, or the
first thing on the first line that is out of form.
-/

namespace Flowchart

/-- What is wrong with a line. -/
inductive Fault where
  | invalidDirection (code : Text)
  | unsupported (text : Text)
  | invalidId (name : Text) (defect : Ident.Defect)
  | nonCanonicalShape (token : Text)
  | emptyNodeLabel (token : Text)
  | emptyEdgeLabel (line : Text)
  | illegalLabelChar (label : Text) (c : Char)
  | quotationMark
  | conflictingShape (id : Text) (existing new : Shape)
  deriving DecidableEq, Repr

inductive CheckError where
  | missingHeader
  | onLine (number : Nat) (fault : Fault)
  deriving DecidableEq, Repr

def Fault.message (number : Nat) (fault : Fault) : Text :=
  let place := " on line ".toList ++ Nat.toDigits 10 number
  match fault with
  | invalidDirection code =>
    "invalid flowchart direction".toList ++ place ++ ": ".toList ++ code ++
      " (expected TD/TB/LR/RL/BT)".toList
  | unsupported text => "unsupported flowchart syntax".toList ++ place ++ ": ".toList ++ text
  | invalidId name defect =>
    "invalid node id".toList ++ place ++ ": ".toList ++ name ++ " (".toList ++ defect.message ++
      [')']
  | nonCanonicalShape token =>
    "non-canonical node shape".toList ++ place ++ ": ".toList ++ token ++
      " (expected one of ([..]) [/../] [\\..\\] [..] \x7b..\x7d [(..)])".toList
  | emptyNodeLabel token => "empty node label".toList ++ place ++ ": ".toList ++ token
  | emptyEdgeLabel line => "empty edge label".toList ++ place ++ ": ".toList ++ line
  | illegalLabelChar label c =>
    "label".toList ++ place ++ " contains '".toList ++ c :: "': ".toList ++ Text.quoted label
  | quotationMark => "quotation mark".toList ++ place
  | conflictingShape id existing new =>
    "conflicting shape for node '".toList ++ id ++ ['\''] ++ place ++ ": ".toList ++
      existing.name ++ " vs ".toList ++ new.name

def CheckError.message : CheckError → Text
  | missingHeader => "expected 'flowchart <direction>' as the first non-empty line".toList
  | onLine number fault => fault.message number

/-- The shape and label that a node ends up with. -/
structure NodeSummary where
  shape : Shape
  label : Text
  deriving DecidableEq, Repr

structure Edge where
  source : Text
  target : Text
  label : Option Text
  deriving DecidableEq, Repr

/-- The nodes of a chart, in the order of their identifiers. -/
abbrev NodeTable := List (Text × NodeSummary)

/-- Sets the entry of an identifier, in its place. -/
def NodeTable.set (id : Text) (node : NodeSummary) : NodeTable → NodeTable
  | [] => [(id, node)]
  | (other, old) :: table =>
    if id = other then (id, node) :: table
    else if id < other then (id, node) :: (other, old) :: table
    else (other, old) :: NodeTable.set id node table

theorem NodeTable.lookup_set (id other : Text) (node : NodeSummary) (table : NodeTable) :
    (NodeTable.set id node table).lookup other =
      if other = id then some node else table.lookup other := by
  induction table with
  | nil =>
    rw [set, List.lookup_cons, List.lookup_nil]
    by_cases ho : other = id
    · simp [ho]
    · simp [beq_eq_false_iff_ne.2 ho, ho]
  | cons entry table ih =>
    obtain ⟨key, old⟩ := entry
    unfold set
    split
    · rename_i h
      subst h
      by_cases ho : other = id
      · simp [ho]
      · simp [List.lookup_cons, ho, beq_eq_false_iff_ne.2 ho]
    · split
      · by_cases ho : other = id
        · simp [ho]
        · rw [List.lookup_cons]
          simp [beq_eq_false_iff_ne.2 ho, ho]
      · rw [List.lookup_cons, List.lookup_cons, ih]
        by_cases hk : other = key
        · subst hk
          rename_i h _
          simp [Ne.symm h]
        · simp [beq_eq_false_iff_ne.2 hk]

/-- What a chart contains. -/
structure Summary where
  direction : Direction
  nodes : NodeTable
  edges : List Edge
  deriving DecidableEq, Repr

namespace Check

/-- What stands before the end of a text, if the text ends that way. -/
def beforeEnd? (closing s : Text) : Option Text :=
  if closing.isSuffixOf s then some (s.take (s.length - closing.length)) else none

/-- The shapes in the order in which their delimiters are tried. -/
def matchOrder : List Shape :=
  [.terminal, .storage, .input, .output, .process, .decision]

def matchShape? (literal : Text) : Option (Shape × Text) :=
  matchOrder.findSome? fun shape => do
    let body ← Text.after? shape.opening literal
    let label ← beforeEnd? shape.closing body
    return (shape, label)

def checkLabel (label : Text) : Except Fault Unit :=
  match label.find? Label.isIllegal with
  | some c => .error (.illegalLabelChar label c)
  | none => .ok ()

/-- A slash at either end belongs to the delimiters of another shape. -/
def slantsShape (label : Text) : Bool :=
  label.head?.any Label.isSlash || label.getLast?.any Label.isSlash

def parseNode (token : Text) : Except Fault Node := do
  let t := Text.trim token
  if t.isEmpty then throw (.unsupported token)
  let id := t.takeWhile (!isOpener ·)
  if let some defect := Ident.defect? id then throw (.invalidId id defect)
  let literal := t.drop id.length
  if literal.isEmpty then return .bare id
  let some (shape, label) := matchShape? literal | throw (.nonCanonicalShape t)
  if label != Text.trim label || slantsShape label then throw (.nonCanonicalShape t)
  if label.isEmpty then throw (.emptyNodeLabel t)
  checkLabel label
  return .shaped ⟨id, shape, label⟩

/-- A bare reference stands for a rectangle with its identifier as label until the identifier is
declared. After that only the label may change. -/
def declare (nodes : NodeTable) : Node → Except Fault NodeTable
  | .bare id =>
    match nodes.lookup id with
    | some _ => .ok nodes
    | none => .ok (nodes.set id ⟨.process, id⟩)
  | .shaped n =>
    match nodes.lookup n.id with
    | none => .ok (nodes.set n.id ⟨n.shape, n.label⟩)
    | some old =>
      if old.label = n.id ∧ old.shape = .process then .ok (nodes.set n.id ⟨n.shape, n.label⟩)
      else if old.shape ≠ n.shape then .error (.conflictingShape n.id old.shape n.shape)
      else .ok (nodes.set n.id ⟨old.shape, n.label⟩)

def Summary.declare (chart : Summary) (node : Node) : Except Fault Summary := do
  let nodes ← Check.declare chart.nodes node
  return { chart with nodes := nodes }

def startsOperator (c : Char) : Bool :=
  c == '<' || c == '-' || c == '=' || c == '.'

def isOperatorChar (c : Char) : Bool :=
  startsOperator c || c == '>'

/-- The text up to the first edge operator outside a shape, and the text from there on. Inside a
shape only its closer, if one is given, counts. -/
def operandFrom : Option Char → Text → Text × Text
  | _, [] => ([], [])
  | some closer, c :: s =>
    let r := operandFrom (if c = closer then none else some closer) s
    (c :: r.1, r.2)
  | none, c :: s =>
    if startsOperator c then ([], c :: s)
    else
      let r := operandFrom (if isOpener c then some (closerOf c) else none) s
      (c :: r.1, r.2)

def operand (s : Text) : Text × Text :=
  operandFrom none s

theorem operandFrom_append (closer : Option Char) (s : Text) :
    (operandFrom closer s).1 ++ (operandFrom closer s).2 = s := by
  fun_induction operandFrom closer s with
  | case1 => rfl
  | case2 closer c s r ih => simpa using ih
  | case3 c s h => rfl
  | case4 c s h r ih => simpa using ih

theorem length_operand (s : Text) : (operand s).2.length ≤ s.length := by
  have := congrArg List.length (operandFrom_append none s)
  rw [List.length_append] at this
  unfold operand
  omega

/-- The label right behind an arrow, if there is one, and the text behind it. -/
def edgeLabel (line : Text) : Text → Except Fault (Option Text × Text)
  | '|' :: s =>
    match Segment.untilPipe? s with
    | none => .error (.unsupported line)
    | some (label, rest) =>
      if (Text.trim label).isEmpty then .error (.emptyEdgeLabel line)
      else (checkLabel label).map fun _ => (some label, rest)
  | s => .ok (none, s)

theorem length_edgeLabel {line s rest : Text} {label : Option Text}
    (h : edgeLabel line s = .ok (label, rest)) : rest.length ≤ s.length := by
  unfold edgeLabel at h
  split at h
  · split at h
    · cases h
    · rename_i hp
      have := congrArg List.length (Segment.eq_append_of_untilPipe? hp).1
      split at h
      · cases h
      · unfold Except.map at h
        split at h
        · cases h
        · cases h
          simp at this ⊢
          omega
  · cases h
    exact Nat.le_refl _

/-- Reads the edges behind a node, each with the node that it leads to. -/
def readLinks (line : Text) (chart : Summary) (source : Text) (s : Text) :
    Except Fault Summary :=
  if s.isEmpty then .ok chart
  else if _ha : s.takeWhile isOperatorChar = arrow then
    match _h : edgeLabel line (s.drop arrow.length) with
    | .error fault => .error fault
    | .ok (label, rest) =>
      match parseNode (operand rest).1 with
      | .error fault => .error fault
      | .ok node =>
        match Summary.declare chart node with
        | .error fault => .error fault
        | .ok chart =>
          readLinks line { chart with edges := chart.edges ++ [⟨source, node.id, label⟩] } node.id
            (operand rest).2
  else .error (.unsupported line)
termination_by s.length
decreasing_by
  have h₁ := length_operand rest
  have h₂ := length_edgeLabel _h
  have h₃ : arrow.length ≤ s.length := by
    rw [← _ha]
    exact (List.takeWhile_sublist _).length_le
  simp [arrow] at h₂ h₃ ⊢
  omega

def readStatement (chart : Summary) (line : Text) : Except Fault Summary := do
  let node ← parseNode (operand line).1
  let chart ← Summary.declare chart node
  readLinks line chart node.id (operand line).2

/-- The header names the keyword and a direction, both exactly, and nothing else. -/
def readHeader (number : Nat) (line : Text) : Except CheckError Summary :=
  match Text.words line with
  | keyword :: code :: more =>
    if keyword = Chart.rootKeyword then
      match Direction.ofCode? code with
      | none => .error (.onLine number (.invalidDirection code))
      | some d =>
        if more.isEmpty then .ok ⟨d, [], []⟩ else .error (.onLine number (.unsupported line))
    else .error .missingHeader
  | _ => .error .missingHeader

def strictQuotes : List Char :=
  ['"', '\u201c', '\u201d']

/-- Reads a trimmed line that is not blank. The first one is the header. -/
def readLine (number : Nat) (line : Text) : Option Summary → Except CheckError Summary
  | found =>
    if line.any strictQuotes.contains then .error (.onLine number .quotationMark)
    else
      match found with
      | none => readHeader number line
      | some chart => (readStatement chart line).mapError (.onLine number)

def readLines (found : Option Summary) (number : Nat) : List Text → Except CheckError Summary
  | [] =>
    match found with
    | none => .error .missingHeader
    | some chart => .ok chart
  | line :: rest =>
    let line := Text.trim line
    if line.isEmpty then readLines found (number + 1) rest
    else do
      let chart ← readLine number line found
      readLines (some chart) (number + 1) rest

end Check

def check (text : Text) : Except CheckError Summary :=
  Check.readLines none 1 (Text.lines text)

end Flowchart
