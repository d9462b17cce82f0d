import BareMetal.Pattern.Meaning
import BareMetal.Pattern.Read
import BareMetal.Pattern.Size

/-!
# Patterns from text

A text is read, its meaning is found, and what would be too large or asks for words that are not
known is refused.
-/

namespace BareMetal.Pattern

/-- The pattern that a text describes. -/
def parse (text : String) : Except Error Pattern := do
  let t ← read text
  let (p, _) ← t.meaning.run {}
  if sizeLimit < p.size false then throw { flaw := .tooLarge, spans := [] }
  if p.asksForScripts then throw { flaw := .wordEdge, spans := [] }
  if sizeLimit < p.size true then throw { flaw := .tooLarge, spans := [] }
  return p

end BareMetal.Pattern
