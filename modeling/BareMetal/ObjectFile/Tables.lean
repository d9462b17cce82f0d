import BareMetal.ObjectFile.Format
import BareMetal.ObjectFile.Names

/-!
# The tables of an object file

An ELF file of either class and byte order, read as far as symbols and sections need it: the
identification, the header, the program and section headers, and the last symbol table with its
names.  A file is refused when one of these does not lie inside it.
-/

namespace BareMetal.ObjectFile

/-- The section headers: none if the table has no offset.  A count of zero stands for the size that
the first section gives. -/
def sections? (f : Format) (file : Bytes) (offset count : Nat) : Option (List Section) :=
  if offset = 0 then some []
  else do
    let first ← f.section? file offset
    let count := if count = 0 then first.size else count
    if offset + count * f.sectionHeaderSize ≤ file.size then
      let others ← (List.range (count - 1)).mapM fun i =>
        f.section? file (offset + (i + 1) * f.sectionHeaderSize)
      return first :: others
    else none

/-- The segments of a file. -/
def segments? (f : Format) (file : Bytes) (offset count : Nat) : Option (List Segment) :=
  if count = 0 then some []
  else if offset + count * f.programHeaderSize ≤ file.size then
    (List.range count).mapM fun i => f.segment? file (offset + i * f.programHeaderSize)
  else none

/-- The type of a section that takes no room in the file. -/
def emptyType : Nat := 8

/-- One more than the greatest address. -/
def addressBound : Nat := 0x10000000000000000

/-- The content of a section lies inside the file, and its addresses do not run over the greatest
one. -/
def Section.isWhole (s : Section) (file : Bytes) : Bool :=
  s.type == emptyType || s.size == 0 ||
    (s.offset + s.size ≤ file.size && s.address + s.size < addressBound)

/-- The index that stands for the link of the first section. -/
def extendedIndex : Nat := 0xFFFF

/-- The string table in some bytes of the file. -/
def StringTable.ofFile? (file : Bytes) (offset size : Nat) : Option StringTable :=
  if offset + size ≤ file.size then StringTable.ofBytes? (Bytes.slice file offset size) else none

/-- The string table in the section of an index; no such section has an empty one. -/
def stringTable? (file : Bytes) (sections : List Section) (index : Nat) : Option StringTable :=
  let index := if index = extendedIndex then (sections.head?.map (·.link)).getD index else index
  match sections[index]? with
  | none => some .empty
  | some s => if s.isWhole file then StringTable.ofFile? file s.offset s.size else none

/-- The symbols of the section that holds them. -/
def symbols? (f : Format) (file : Bytes) (s : Section) : Option (List Symbol) :=
  let count := if s.entrySize = 0 then 0 else s.size / s.entrySize
  if isInside file s.offset (count * f.symbolSize) then
    (List.range count).mapM fun i => f.symbol? file (s.offset + i * f.symbolSize)
  else none

/-- The type of a section that holds a symbol table. -/
def symbolTableType : Nat := 2

/-- The symbols of the last symbol table, and the string table with their names. -/
def symbolTable? (f : Format) (file : Bytes) (sections : List Section) :
    Option (List Symbol × StringTable) :=
  match (sections.filter (·.type = symbolTableType)).getLast? with
  | none => some ([], .empty)
  | some s => do return (← symbols? f file s, ← stringTable? file sections s.link)

/-- What an object file tells of itself. -/
structure Tables where
  format : Format
  /-- The kind of processor that the file is for. -/
  machine : Nat
  segments : List Segment
  sections : List Section
  sectionNames : StringTable
  symbols : List Symbol
  symbolNames : StringTable
  deriving DecidableEq, Repr

/-- The tables of a file, unless it is no object file. -/
def Tables.ofFile? (file : Bytes) : Option Tables := do
  let f ← Format.identify? file
  if file.size < f.headerSize then none
  let field (narrow wide width : Nat) : Option Nat :=
    f.number? file (if f.wide then wide else narrow) width
  let machine ← field 18 18 2
  let programOffset ← field 28 32 f.wordSize
  let sectionOffset ← field 32 40 f.wordSize
  let programCount ← field 44 56 2
  let sectionCount ← field 48 60 2
  let namesIndex ← field 50 62 2
  let segments ← segments? f file programOffset programCount
  let sections ← sections? f file sectionOffset sectionCount
  let sectionNames ← stringTable? file sections namesIndex
  let (symbols, symbolNames) ← symbolTable? f file sections
  return { format := f, machine, segments, sections, sectionNames, symbols, symbolNames }

end BareMetal.ObjectFile
