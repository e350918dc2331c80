import Flowchart.Text.Blank

/-!
# Descriptions

The description of an algorithm is a text that is not blank. It is kept as it was typed.
-/

namespace Flowchart

structure Description where
  text : Text
  notBlank : Text.trim text ≠ []
  deriving DecidableEq

/-- Why a text is not passed on to the generation service. -/
inductive Refusal where
  | empty
  | notAnAlgorithm
  deriving DecidableEq, Repr

def Refusal.message : Refusal → Text
  | empty => "algorithm text is required".toList
  | notAnAlgorithm => "text does not look like an algorithm description".toList

namespace Description

def ofText? (text : Text) : Option Description :=
  if h : Text.trim text = [] then none else some ⟨text, h⟩

theorem text_of_ofText? {text : Text} {d : Description} (h : ofText? text = some d) :
    d.text = text := by
  unfold ofText? at h
  split at h
  · cases h
  · cases h
    rfl

def wordCount (d : Description) : Nat :=
  (Text.words d.text).length

end Description

end Flowchart
