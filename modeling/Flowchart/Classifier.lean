import Flowchart.Text.Lowercase

/-!
# The classifier

A text looks like the description of an algorithm when it holds a keyword, when it holds a cue
that steps follow one another, or when it is long. The first of these is the reason.
-/

namespace Flowchart

structure Classifier where
  keywords : List Text
  deriving DecidableEq, Repr

inductive Reason where
  | keyword (k : Text)
  | sequencingCue
  | longDescription
  deriving DecidableEq, Repr

namespace Classifier

/-- Keywords are kept trimmed and in lower case, and blank ones are dropped. -/
def ofKeywords (keywords : List Text) : Classifier :=
  ⟨(keywords.map fun k => Text.lowercase (Text.trim k)).filter (!·.isEmpty)⟩

def defaultKeywords : List Text :=
  ["algorithm", "sort", "search", "loop", "iterate", "function", "method", "procedure", "step",
    "process", "condition", "if", "else", "while", "for", "binary search", "bubble sort",
    "quick sort", "merge sort", "linear search", "depth first", "breadth first", "recursive",
    "dynamic programming", "flowchart", "diagram", "pseudocode", "input", "output", "variable",
    "array", "list", "tree", "graph", "node", "edge", "traversal", "implementation", "execute",
    "run", "compute", "calculate", "solve", "optimize", "efficient", "complexity", "big o",
    "time complexity", "space complexity", "data structure", "programming", "code", "logic",
    "sequence", "workflow", "automation", "processing"].map String.toList

instance : Inhabited Classifier := ⟨ofKeywords defaultKeywords⟩

/-- Whether a character is the small letter when case does not count. -/
def foldsTo (letter c : Char) : Bool :=
  c.toLower == letter || (letter == 's' && c == '\u017f') || (letter == 'k' && c == '\u212a')

/-- The text behind a word in any case. -/
def afterFolded? : Text → Text → Option Text
  | [], s => some s
  | _ :: _, [] => none
  | letter :: word, c :: s => if foldsTo letter c then afterFolded? word s else none

def cueWords : List Text :=
  ["first", "second", "third", "then", "next", "finally", "lastly"].map String.toList

/-- A numbered step, or one of the words that put steps in order. -/
def startsCue (s : Text) : Bool :=
  (afterFolded? "step".toList s).any
      (fun rest => (rest.dropWhile Text.isBlank).head?.any Text.isDecimalDigit) ||
    cueWords.any fun word => (afterFolded? word s).isSome

def hasCue : Text → Bool
  | [] => false
  | c :: s => startsCue (c :: s) || hasCue s

/-- Texts of more words than this pass on their length. -/
def longWordCount : Nat := 15

def classify (classifier : Classifier) (text : Text) : Option Reason :=
  let lowered := Text.lowercase text
  match classifier.keywords.find? (Text.occursIn · lowered) with
  | some k => some (.keyword k)
  | none =>
    if hasCue text then some .sequencingCue
    else if longWordCount < (Text.words text).length then some .longDescription
    else none

def accepts (classifier : Classifier) (text : Text) : Bool :=
  (classifier.classify text).isSome

end Classifier

end Flowchart
