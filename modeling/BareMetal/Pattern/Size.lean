import BareMetal.Pattern.Basic

/-!
# The size of patterns

The bytes that a pattern takes up as an automaton over UTF-8, which may not be too many.  A state
takes 32 bytes, a transition of a state that has several takes 8, and a branch to another state
takes 4.  A repetition has as many copies of its pattern as occurrences may be told apart.
-/

namespace BareMetal

/-! ## Sets as bytes -/

/-- A range of bytes. -/
abbrev ByteRange := Nat × Nat

/-- The bytes that encode a code point. -/
def utf8Bytes (n : Nat) : List Nat :=
  let trail (shift : Nat) := 0x80 + n / shift % 64
  if n < 0x80 then [n]
  else if n < 0x800 then [0xC0 + n / 64, trail 1]
  else if n < 0x10000 then [0xE0 + n / 4096, trail 64, trail 1]
  else [0xF0 + n / 262144, trail 4096, trail 64, trail 1]

/-- Where a range has to be cut for its encodings to be all combinations of some ranges of bytes. -/
def cut? (first last : Nat) : Option Nat :=
  let bounds := [0x80, 0x800, 0x10000].find? fun b => first < b && b ≤ last
  bounds.or <| [64, 4096, 262144].findSome? fun block =>
    if last < 0x80 ∨ first / block = last / block then none
    else if first % block ≠ 0 then some ((first / block + 1) * block)
    else if last % block ≠ block - 1 then some (last / block * block)
    else none

/-- The encodings of a range as sequences of ranges of bytes, in ascending order.  Each step cuts
the range at a boundary of blocks, of which there are few. -/
def byteSequences : Nat → Nat → Nat → List (List ByteRange)
  | 0, _, _ => []
  | fuel + 1, first, last =>
    if last < first then []
    else if first < 0xE000 ∧ 0xD7FF < last then
      byteSequences fuel first 0xD7FF ++ byteSequences fuel 0xE000 last
    else
      match cut? first last with
      | some c => byteSequences fuel first (c - 1) ++ byteSequences fuel c last
      | none => [(utf8Bytes first).zip (utf8Bytes last)]

namespace CharSet

/-- The encodings of the characters of a set. -/
def encodings (s : CharSet) : List (List ByteRange) :=
  s.ranges.flatMap fun r => byteSequences 64 r.1 r.2

/-- The different ranges that sequences begin with. -/
def heads (sequences : List (List ByteRange)) : List ByteRange :=
  (sequences.filterMap List.head?).eraseDups

/-- What is behind a range in the sequences that begin with it. -/
def behind (sequences : List (List ByteRange)) (head : ByteRange) : List (List ByteRange) :=
  (sequences.filter (·.head? == some head)).map (List.drop 1)

/-- The states that read sequences; a state is what it has still to read. -/
def statesOf : Nat → List (List ByteRange) → List (List (List ByteRange))
  | 0, _ => []
  | depth + 1, sequences =>
    let further := (heads sequences).map (behind sequences)
    sequences :: (further.filter (·.any (· ≠ []))).flatMap (statesOf depth)

/-- The bytes of the states for a set, read forwards: states that have the same to read are one. -/
def forwardSize (s : CharSet) : Nat :=
  (statesOf 4 s.encodings).eraseDups.foldl
    (fun total state => total + 32 + 8 * (heads state).length) 32

/-- The bytes of the states for a set, read backwards: what begins in the same way is shared. -/
def backwardSize (s : CharSet) : Nat :=
  let sequences := s.encodings
  let starts (bytes : List ByteRange) := (List.range bytes.length).map fun n => bytes.take (n + 1)
  let shared := (sequences.flatMap starts).eraseDups
  64 + 4 * sequences.length + 32 * shared.length

/-- The bytes that a set takes up. -/
def size (backwards : Bool) (s : CharSet) : Nat :=
  match s.single? with
  | some n => 32 * (utf8Bytes n).length
  | none =>
    if s.isAscii then 64 + 8 * s.ranges.length
    else if backwards then s.backwardSize else s.forwardSize

end CharSet

namespace Pattern

/-! ## Patterns as states -/

/-- The bytes of a repetition of what takes `size` bytes; `thin` tells that it may have no
characters. -/
def repeatedSize (size : Nat) (thin : Bool) (least : Nat) (most : Option Nat) : Nat :=
  match most with
  | some most =>
    if least = 0 ∧ most = 1 then size + 72
    else if least = most then least * size
    else (if least = 0 then 32 else least * size) + (most - least) * (size + 40) + 32
  | none =>
    if least = 0 then size + if thin then 112 else 40
    else least * size + 40

/-- What alternatives take up together, however many they are. -/
def choiceSize : Pattern → Nat
  | either _ _ => 68
  | _ => 0

/-- The bytes that a pattern takes up, and apart from them what it takes up once as a choice. -/
def partSize (backwards : Bool) : Pattern → Nat
  | empty | anchor _ => 32
  | one s => s.size backwards
  | sequence p q =>
    p.partSize backwards + p.choiceSize + (q.partSize backwards + q.choiceSize)
  | either p q => p.partSize backwards + q.partSize backwards + 4
  | repeated p least most =>
    repeatedSize (p.partSize backwards + p.choiceSize) p.mayBeThin least most
  | captured p => p.partSize backwards + p.choiceSize + if backwards then 0 else 64

/-- The bytes that a pattern takes up with what looks for its occurrences. -/
def size (backwards : Bool) (p : Pattern) : Nat :=
  p.partSize backwards + p.choiceSize + 144 + if backwards then 0 else 64

end Pattern

end BareMetal
