import Flowchart.Description
import Flowchart.Shape
import Flowchart.Text.Lines
import Flowchart.Text.Replace

/-!
# The prompt

A fixed instruction with the description inside it: the shapes, the rules, an example, and what
to answer. The description can be read back out of the prompt.
-/

namespace Flowchart.Prompt

/-- Longer labels do not fit the drawn shapes. -/
def maxLabelLength : Nat := 18

def exampleLabel : Shape → Text
  | .terminal => "Start".toList
  | .input => "Input Text".toList
  | .output => "Output Text".toList
  | .process => "Process Step".toList
  | .decision => "Question?".toList
  | .storage => "Database".toList

/-- Lines with their numbers, each ended by a line feed. -/
def numbered (start : Nat) : List Text → Text
  | [] => []
  | line :: rest =>
    Nat.toDigits 10 start ++ ". ".toList ++ line ++ '\n' :: numbered (start + 1) rest

def shapeLine (shape : Shape) : Text :=
  shape.role ++ ": ".toList ++ shape.wrap (exampleLabel shape) ++ " - ".toList ++ shape.name

def syntaxRules : List Text :=
  ["Use ONLY \"flowchart TD\" format".toList,
    "Node IDs: simple letters/numbers (A, B, C1, Input1, etc.)".toList,
    "NO quotes around text".toList,
    "Decision branches: D -->|Yes| E or D -->|No| F".toList,
    "Keep labels under ".toList ++ Nat.toDigits 10 maxLabelLength ++ " characters".toList,
    "NO special characters in node IDs".toList]

def workedExample : Text :=
  Text.joinLines (["flowchart TD",
    "    Start([Start])",
    "    Input1[/Get Material Name/]",
    "    Process1[Convert to Lowercase]",
    "    Decision1\x7bIn Ductile List?\x7d",
    "    Output1[\\Return Ductile\\]",
    "    Decision2\x7bIn Brittle List?\x7d",
    "    Output2[\\Return Brittle\\]",
    "    Output3[\\Return Unknown\\]",
    "    End([End])",
    "",
    "    Start --> Input1",
    "    Input1 --> Process1",
    "    Process1 --> Decision1",
    "    Decision1 -->|Yes| Output1",
    "    Decision1 -->|No| Decision2",
    "    Decision2 -->|Yes| Output2",
    "    Decision2 -->|No| Output3",
    "    Output1 --> End",
    "    Output2 --> End",
    "    Output3 --> End"].map String.toList)

def lead : Text :=
  "You are an expert at converting algorithm descriptions into valid Mermaid flowchart ".toList ++
    "syntax using PROPER FLOWCHART SHAPES.\n\nMANDATORY SHAPE RULES:\n".toList ++
    numbered 1 (Shape.all.map shapeLine) ++
    "\nCRITICAL SYNTAX RULES:\n".toList ++
    numbered 1 syntaxRules ++
    "\nCORRECT EXAMPLE:\n".toList ++
    workedExample ++
    "\n\nConvert this algorithm using EXACT shape conventions:\n".toList

def close : Text :=
  "\n\nReturn ONLY valid Mermaid flowchart code. NO explanations, NO markdown blocks.\n".toList

def build (d : Description) : Text :=
  lead ++ d.text ++ close

/-- The description inside a prompt. -/
def description? (prompt : Text) : Option Text :=
  (Text.after? lead prompt).bind fun s =>
    if close.isSuffixOf s then some (s.take (s.length - close.length)) else none

theorem description?_build (d : Description) : description? (build d) = some d.text := by
  have h : Text.after? lead (build d) = some (d.text ++ close) := by
    rw [Text.after?_eq_some_iff, build, List.append_assoc]
  simp [description?, h]

end Flowchart.Prompt
