import Flowchart.Text.Blank
import Flowchart.Text.EscapedRanges
import Flowchart.Text.WordClass

/-!
# Quoted text in messages

A text in double quotes, with an escape for the quote, the backslash and every character that
could not be seen.
-/

namespace Flowchart.Text

def isInvisible (c : Char) : Bool :=
  if isAscii c then c.toNat < 0x20 || c.toNat == 0x7f else inRanges escapedRanges c

/-- The code point in braces, with lower-case digits and no padding. -/
def codePointEscape (c : Char) : Text :=
  ['\\', 'u', '{'] ++ Nat.toDigits 16 c.toNat ++ ['}']

def quoteChar (c : Char) : Text :=
  match c with
  | '"' => ['\\', '"']
  | '\\' => ['\\', '\\']
  | '\t' => ['\\', 't']
  | '\r' => ['\\', 'r']
  | '\n' => ['\\', 'n']
  | '\x00' => ['\\', '0']
  | c => if isInvisible c then codePointEscape c else [c]

def quoted (s : Text) : Text :=
  '"' :: s.flatMap quoteChar ++ ['"']

end Flowchart.Text
