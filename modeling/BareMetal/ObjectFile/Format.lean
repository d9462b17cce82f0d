import BareMetal.Endian

/-!
# The parts of an object file

The class and byte order of an ELF file, and its headers and entries as they stand at an offset in
that format: section headers, program headers, symbols, and the entries for a dynamic linker.
-/

namespace BareMetal.ObjectFile

/-- The class and byte order of a file. -/
structure Format where
  /-- Addresses and offsets have 64 bits. -/
  wide : Bool
  order : Endian
  deriving DecidableEq, Repr

/-- A section header, by the fields that matter here. -/
structure Section where
  name : Nat
  type : Nat
  address : Nat
  offset : Nat
  size : Nat
  link : Nat
  entrySize : Nat
  deriving DecidableEq, Repr

/-- A part of the file that is loaded or otherwise described by a program header. -/
structure Segment where
  type : Nat
  offset : Nat
  address : Nat
  fileSize : Nat
  memorySize : Nat
  deriving DecidableEq, Repr

/-- A symbol, by the offset of its name and its value. -/
structure Symbol where
  name : Nat
  value : Nat
  deriving DecidableEq, Repr

/-- Some bytes lie inside a file: there is something at their offset, and they end in time. -/
def isInside (file : Bytes) (offset size : Nat) : Bool :=
  offset < file.size && offset + size ≤ file.size

namespace Format

def headerSize (f : Format) : Nat := if f.wide then 64 else 52
def programHeaderSize (f : Format) : Nat := if f.wide then 56 else 32
def sectionHeaderSize (f : Format) : Nat := if f.wide then 64 else 40
def symbolSize (f : Format) : Nat := if f.wide then 24 else 16

/-- The bytes of an address or an offset. -/
def wordSize (f : Format) : Nat := if f.wide then 8 else 4

/-- The format that the identification at the start of a file tells. -/
def identify? (file : Bytes) : Option Format :=
  if 16 ≤ file.size ∧ file.extract 0 4 = #[0x7F, 0x45, 0x4C, 0x46] then
    match (Bytes.slice file 4 2).toList with
    | [1, 1] => some { wide := false, order := .little }
    | [1, 2] => some { wide := false, order := .big }
    | [2, 1] => some { wide := true, order := .little }
    | [2, 2] => some { wide := true, order := .big }
    | _ => none
  else none

/-- The number of the given width at an offset of the file. -/
def number? (f : Format) (file : Bytes) (offset width : Nat) : Option Nat :=
  f.order.read? file offset width

/-- The address or offset that stands somewhere in the file. -/
def word? (f : Format) (file : Bytes) (offset : Nat) : Option Nat :=
  f.number? file offset f.wordSize

/-- The section header at an offset. -/
def section? (f : Format) (file : Bytes) (offset : Nat) : Option Section :=
  let at? (narrow wide width : Nat) : Option Nat :=
    if f.wide then f.number? file (offset + wide) width
    else f.number? file (offset + narrow) 4
  if offset + f.sectionHeaderSize ≤ file.size then do
    return {
      name := ← at? 0 0 4
      type := ← at? 4 4 4
      address := ← at? 12 16 8
      offset := ← at? 16 24 8
      size := ← at? 20 32 8
      link := ← at? 24 40 4
      entrySize := ← at? 36 56 8 }
  else none

/-- The segment whose program header stands at an offset. -/
def segment? (f : Format) (file : Bytes) (offset : Nat) : Option Segment := do
  let at? (narrow wide : Nat) : Option Nat :=
    f.word? file (offset + if f.wide then wide else narrow)
  return {
    type := ← f.number? file offset 4
    offset := ← at? 4 8
    address := ← at? 8 16
    fileSize := ← at? 16 32
    memorySize := ← at? 20 40 }

/-- The symbol at an offset. -/
def symbol? (f : Format) (file : Bytes) (offset : Nat) : Option Symbol := do
  let name ← f.number? file offset 4
  let value ← if f.wide then f.number? file (offset + 8) 8 else f.number? file (offset + 4) 4
  return { name, value }

end Format

end BareMetal.ObjectFile
