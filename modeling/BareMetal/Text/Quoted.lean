import BareMetal.Text.CharRange
import BareMetal.Text.HiddenTable
import BareMetal.Text.Split

/-!
# Quoted texts in log lines

A text between double quotes, and a list of such texts in square brackets.  Double quotes,
backslashes and whatever a reader would not see as it is are written as escapes.
-/

namespace BareMetal.Quoted

/-- One character inside the quotes. -/
def escape (c : Char) : List Char :=
  if c = '"' ∨ c = '\\' then ['\\', c]
  else if c = '\n' then ['\\', 'n']
  else if c = '\r' then ['\\', 'r']
  else if c = '\t' then ['\\', 't']
  else if c = '\x00' then ['\\', '0']
  else if Text.inRanges Text.hiddenRanges c then
    ['\\', 'u', '\x7b'] ++ Nat.toDigits 16 c.toNat ++ ['\x7d']
  else [c]

def text (s : String) : String :=
  String.ofList ('"' :: s.toList.flatMap escape ++ ['"'])

def list (texts : List String) : String :=
  "[" ++ Text.joinWith ", " (texts.map text) ++ "]"

end BareMetal.Quoted
