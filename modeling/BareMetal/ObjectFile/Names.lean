import BareMetal.Bytes
import BareMetal.Text.Split
import BareMetal.Text.Utf8

/-!
# String tables

The names in an object file stand one after the other in a table, each ended by a zero byte, and
are referred to by offset.  An offset inside a name refers to the rest of it, so that a name which
ends another one need not be stored twice.
-/

namespace BareMetal.ObjectFile

/-- The names of a string table, each with the offset at which it starts. -/
structure StringTable where
  names : List (Nat × List Char)
  deriving DecidableEq, Repr

namespace StringTable

def empty : StringTable := { names := [] }

/-- The pieces between zero bytes; a last piece without any bytes is none. -/
def pieces (bytes : List UInt8) : List (List UInt8) :=
  bytes.foldr (fun b found =>
    if b = 0 then [] :: found
    else match found with
      | [] => [[b]]
      | piece :: rest => (b :: piece) :: rest) []

/-- Gives each piece the offset at which it starts. -/
def withOffsets (offset : Nat) : List (List UInt8) → List (Nat × List UInt8)
  | [] => []
  | piece :: rest => (offset, piece) :: withOffsets (offset + piece.length + 1) rest

/-- The table in the bytes of a section; every name has to be UTF-8. -/
def ofBytes? (bytes : Bytes) : Option StringTable := do
  let names ← (withOffsets 0 (pieces bytes.toList)).mapM fun (offset, piece) =>
    (Utf8.decode? piece.toArray).map fun name => (offset, name.toList)
  return { names }

/-- The name at an offset: the rest of the last name that starts at it or before. -/
def name? (t : StringTable) (offset : Nat) : Option (List Char) := do
  let (start, name) ← (t.names.takeWhile fun (start, _) => start ≤ offset).getLast?
  let (_, rest) ← Text.takeBytes? (offset - start) name
  return rest

end StringTable

end BareMetal.ObjectFile
