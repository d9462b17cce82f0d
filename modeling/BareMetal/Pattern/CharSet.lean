import BareMetal.Text.CharRange

/-!
# Sets of characters

A set of characters is a list of ranges of code points in ascending order, no two of which touch.
The operations keep that order, so that a set has one list only and an empty set has no ranges.
-/

namespace BareMetal

/-- A set of characters. -/
structure CharSet where
  /-- Ranges in ascending order, with gaps between them. -/
  ranges : List Text.CharRange
  deriving DecidableEq, Repr

namespace CharSet

/-- The last code point. -/
def lastCode : Nat := 0x10FFFF

def empty : CharSet := ⟨[]⟩

/-- Adds a range, which swallows those that it touches. -/
def insertRange (r : Text.CharRange) : List Text.CharRange → List Text.CharRange
  | [] => [r]
  | s :: rest =>
    if r.2 + 1 < s.1 then r :: s :: rest
    else if s.2 + 1 < r.1 then s :: insertRange r rest
    else insertRange (min r.1 s.1, max r.2 s.2) rest

/-- What lies between ranges, from `next` on. -/
def gaps (next : Nat) : List Text.CharRange → List Text.CharRange
  | [] => if next ≤ lastCode then [(next, lastCode)] else []
  | r :: rest =>
    if next < r.1 then (next, r.1 - 1) :: gaps (r.2 + 1) rest else gaps (r.2 + 1) rest

/-- The characters of some ranges, in any order. -/
def ofRanges (rs : List Text.CharRange) : CharSet := ⟨rs.foldr insertRange []⟩

/-- The characters from one to another. -/
def span (first last : Char) : CharSet := ⟨[(first.toNat, last.toNat)]⟩

def single (c : Char) : CharSet := span c c

def contains (s : CharSet) (c : Char) : Bool := Text.inRanges s.ranges c

def isEmpty (s : CharSet) : Bool := s.ranges.isEmpty

def union (s t : CharSet) : CharSet := ⟨s.ranges.foldr insertRange t.ranges⟩

/-- The characters that are not in a set. -/
def complement (s : CharSet) : CharSet := ⟨gaps 0 s.ranges⟩

def intersection (s t : CharSet) : CharSet := (s.complement.union t.complement).complement

def difference (s t : CharSet) : CharSet := s.intersection t.complement

/-- All characters of a set are those of ASCII. -/
def isAscii (s : CharSet) : Bool := s.ranges.all fun r => r.2 < 0x80

/-- The only character of a set. -/
def single? (s : CharSet) : Option Nat :=
  match s.ranges with
  | [(first, last)] => if first = last then some first else none
  | _ => none

/-! ## Classes of ASCII -/

def digit : CharSet := span '0' '9'

def upper : CharSet := span 'A' 'Z'

def lower : CharSet := span 'a' 'z'

def blank : CharSet := ofRanges [(0x09, 0x0D), (0x20, 0x20)]

def letter : CharSet := upper.union lower

/-- The characters that belong to words. -/
def word : CharSet := (digit.union letter).union (single '_')

/-- The classes of ASCII characters that have names. -/
def named? (name : String) : Option CharSet :=
  match name with
  | "alnum" => some (digit.union letter)
  | "alpha" => some letter
  | "ascii" => some ⟨[(0, 0x7F)]⟩
  | "blank" => some ((single '\t').union (single ' '))
  | "cntrl" => some (ofRanges [(0, 0x1F), (0x7F, 0x7F)])
  | "digit" => some digit
  | "graph" => some (span '!' '~')
  | "lower" => some lower
  | "print" => some (span ' ' '~')
  | "punct" => some ((span '!' '~').difference (digit.union letter))
  | "space" => some blank
  | "upper" => some upper
  | "word" => some word
  | "xdigit" => some (digit.union ((span 'A' 'F').union (span 'a' 'f')))
  | _ => none

/-- The characters that are in a set in one case or another of ASCII. -/
def anyCase (s : CharSet) : CharSet :=
  let moved (letters : CharSet) (move : Nat → Nat) : CharSet :=
    ⟨(s.intersection letters).ranges.map fun r => (move r.1, move r.2)⟩
  (s.union (moved upper (· + 0x20))).union (moved lower (· - 0x20))

end CharSet

end BareMetal
