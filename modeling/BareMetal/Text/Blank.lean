/-!
# Blank characters

A character is blank when it has the Unicode property `White_Space`.  `trim` drops the blanks at
both ends of a text.
-/

namespace BareMetal.Text

/-- The property `White_Space`. -/
def isBlank (c : Char) : Bool :=
  let n := c.toNat
  (0x09 ≤ n && n ≤ 0x0D) || n == 0x20 || n == 0x85 || n == 0xA0 || n == 0x1680 ||
    (0x2000 ≤ n && n ≤ 0x200A) || n == 0x2028 || n == 0x2029 || n == 0x202F || n == 0x205F ||
    n == 0x3000

/-- `cs` without the blanks at its start. -/
def trimStart (cs : List Char) : List Char := cs.dropWhile isBlank

/-- `cs` without the blanks at its end. -/
def trimEnd (cs : List Char) : List Char := (trimStart cs.reverse).reverse

/-- `cs` without the blanks at its ends. -/
def trim (cs : List Char) : List Char := trimEnd (trimStart cs)

end BareMetal.Text
