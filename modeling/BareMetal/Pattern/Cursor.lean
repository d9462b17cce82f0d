import BareMetal.Pattern.Syntax
import BareMetal.Text.Blank
import BareMetal.Text.Split

/-!
# Reading along a pattern

What is still to be read of a pattern and where that stands, with the steps that all readers of its
parts take.  White space and comments are passed over where they mean nothing.
-/

namespace BareMetal.Pattern

/-- What is still to be read, where that stands, and the names of groups so far. -/
structure Cursor where
  rest : List Char
  place : Place := {}
  /-- White space and comments mean nothing. -/
  verbose : Bool := false
  names : List (List Char × Span) := []

abbrev Reading := StateT Cursor (Except Error)

namespace Reading

def fail {α : Type} (flaw : Flaw) (spans : List Span) : Reading α := throw { flaw, spans }

def place : Reading Place := return (← get).place

/-- The text from a place to here. -/
def from' (first : Place) : Reading Span := return ⟨first, ← place⟩

/-- No text, here. -/
def here : Reading Span := return (← place).point

def peek? : Reading (Option Char) := return (← get).rest.head?

def atEnd : Reading Bool := return (← get).rest.isEmpty

/-- The text of the next character. -/
def nextSpan : Reading Span := do
  let p ← place
  return ⟨p, ((← peek?).map p.next).getD p⟩

def skip (n : Nat) : Reading Unit :=
  modify fun c =>
    { c with rest := c.rest.drop n, place := (c.rest.take n).foldl Place.next c.place }

/-- Passes over a text if it comes next. -/
def accept (text : String) : Reading Bool := do
  match Text.dropPrefix? text.toList (← get).rest with
  | some _ =>
    skip text.length
    return true
  | none => return false

/-- Passes over the characters that have a property, and gives them. -/
def takeWhile (p : Char → Bool) : Reading (List Char) := do
  let taken := (← get).rest.takeWhile p
  skip taken.length
  return taken

/-! ## White space -/

/-- The number of characters that white space and comments take up. -/
def blankPrefix (inComment : Bool) : List Char → Nat
  | [] => 0
  | c :: rest =>
    if inComment then 1 + blankPrefix (c ≠ '\n') rest
    else if Text.isBlank c then 1 + blankPrefix false rest
    else if c = '#' then 1 + blankPrefix true rest
    else 0

/-- Passes over what means nothing. -/
def space : Reading Unit := do
  if (← get).verbose then skip (blankPrefix false (← get).rest)

/-- Passes over a character and what means nothing behind it. -/
def step : Reading Unit := do
  skip 1
  space

/-- Passes over the characters that have a property, and what means nothing behind each of them. -/
def stepWhile (p : Char → Bool) : Nat → Reading (List Char)
  | 0 => return []
  | fuel + 1 => do
    match ← peek? with
    | some c =>
      if p c then do
        step
        return c :: (← stepWhile p fuel)
      else return []
    | none => return []

/-- The first character behind blanks and the sign of a comment.  The text of a comment is not
passed over. -/
def afterBlanks? (signSeen : Bool) : List Char → Option Char
  | [] => none
  | c :: rest =>
    if Text.isBlank c then afterBlanks? signSeen rest
    else if !signSeen && c == '#' then afterBlanks? true rest
    else some c

/-- The character behind the next one, and behind blanks if they mean nothing; if there are only
blanks, the first of them. -/
def secondVisible? : Reading (Option Char) := do
  let behind := (← get).rest.drop 1
  if (← get).verbose then return (afterBlanks? false behind).or behind.head?
  return behind.head?

end Reading

end BareMetal.Pattern
