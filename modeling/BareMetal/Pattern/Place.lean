/-!
# Places in the text of a pattern

Where something stands in a text: how many characters are before it, and its line and its column,
both of which count from one.
-/

namespace BareMetal.Pattern

structure Place where
  /-- The number of characters before the place. -/
  offset : Nat := 0
  line : Nat := 1
  column : Nat := 1
  deriving DecidableEq, Repr

/-- The place behind a character. -/
def Place.next (p : Place) (c : Char) : Place :=
  if c = '\n' then { offset := p.offset + 1, line := p.line + 1 }
  else { p with offset := p.offset + 1, column := p.column + 1 }

/-- The text from one place to another. -/
structure Span where
  first : Place
  last : Place
  deriving DecidableEq, Repr

/-- No text at a place. -/
def Place.point (p : Place) : Span := ⟨p, p⟩

def Span.inOneLine (s : Span) : Bool := s.first.line == s.last.line

end BareMetal.Pattern
