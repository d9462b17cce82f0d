import BareMetal.Bytes

/-!
# The slice order of a boot file

The boot ROM reads a file in slices of 32 bytes that stand in an order of their own.  The file is
cut into chunks, each as large a power of two of slices as fits, two megabytes at most, and a
pseudo-random walk places the slices of each chunk.  One generator runs through all chunks.  Bytes
short of a slice stay at the end.
-/

namespace BareMetal.Disc.SliceOrder

/-- The bytes of a slice. -/
def sliceSize : Nat := 32

/-- The largest chunk has `2 ^ maxExponent` slices. -/
def maxExponent : Nat := 16

/-! ## The generator -/

/-- The state of the generator for a file of the given length. -/
def seed (length : Nat) : UInt32 := UInt32.ofNat (length % 0x10000)

/-- The next state of the generator. -/
def next (state : UInt32) : Except Fault UInt32 := do
  let product ← Word32.mul state 2109
  let sum ← Word32.add product 9273
  return sum % 0x8000

/-- The number drawn when the generator has come to a state. -/
def draw (state : UInt32) : Except Fault UInt32 := do
  return (← Word32.add state 0xC000) % 0x10000

/-- The position below `i` to which a drawn number leads; below 0 there is none, and it is 0. -/
def position (drawn : UInt32) (i : Nat) : Except Fault Nat := do
  return (← Word64.mul drawn.toNat i) / 0x10000

/-! ## The walk over a chunk -/

/-- The table with the entries at two positions exchanged. -/
def exchange (table : Array Nat) (i j : Nat) : Except Fault (Array Nat) :=
  if h : i < table.size ∧ j < table.size then .ok (table.swap i j h.1 h.2) else .error .outOfRange

/-- The entry at a position of the table. -/
def entry (table : Array Nat) (i : Nat) : Except Fault Nat :=
  if h : i < table.size then .ok table[i] else .error .outOfRange

/-- A walk: the state of the generator, the slice of the chunk that stands at each position, and
the bytes that have been placed. -/
structure Walk where
  state : UInt32
  table : Array Nat
  placed : Bytes

namespace Walk

/-- One step at position `i`: draws a position below it, exchanges the two, and places the slice
that has come to `i`. -/
def step (chunk : Bytes) (i : Nat) : Walk → Except Fault Walk
  | { state, table, placed } => do
    let state ← next state
    let table ← exchange table i (← position (← draw state) i)
    let slice ← Bytes.cut chunk ((← entry table i) * sliceSize) sliceSize
    return { state, table, placed := placed ++ slice }

/-- The steps at the positions below `n`, from the highest to the lowest. -/
def run (chunk : Bytes) : Nat → Walk → Except Fault Walk
  | 0, w => .ok w
  | n + 1, w => do run chunk n (← w.step chunk n)

end Walk

/-! ## The whole file -/

/-- The sizes of the chunks of `n` slices, largest first, when no chunk exceeds `2 ^ k` slices. -/
def chunkSizes : Nat → Nat → List Nat
  | 0, n => List.replicate n 1
  | k + 1, n =>
    let size := Nat.pow 2 (k + 1)
    List.replicate (n / size) size ++ chunkSizes k (n % size)

/-- How far a file has been read: the state of the generator, the offset of the next chunk, and the
bytes that have been placed. -/
structure Progress where
  state : UInt32
  offset : Nat
  placed : Bytes

/-- Walks over the next chunk, which has `n` slices. -/
def placeChunk (data : Bytes) (p : Progress) (n : Nat) : Except Fault Progress := do
  let chunk ← Bytes.cut data p.offset (n * sliceSize)
  let w ← Walk.run chunk n { state := p.state, table := Array.range n, placed := p.placed }
  return { state := w.state, offset := p.offset + n * sliceSize, placed := w.placed }

/-- The file with its slices in the order of the boot ROM. -/
def arrange (data : Bytes) : Except Fault Bytes := do
  let start : Progress := { state := seed data.size, offset := 0, placed := #[] }
  let sizes := chunkSizes maxExponent (data.size / sliceSize)
  let p ← sizes.foldlM (placeChunk data) start
  return p.placed ++ (← Bytes.cut data p.offset (data.size - p.offset))

end BareMetal.Disc.SliceOrder
