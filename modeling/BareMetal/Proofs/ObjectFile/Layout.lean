import Mathlib.Data.List.Forall2
import BareMetal.ObjectFile.Library
import BareMetal.ObjectFile.Linkage
import BareMetal.Proofs.ObjectFile.Names

/-!
# Layouts of object files

The headers and entries of an ELF file are numbers of fixed widths that stand one behind the other;
the order of some fields and the widths of addresses depend on the class, the bytes of each number
on the byte order.  `Layout.IsWellFormed` says of the bytes of a file that they hold the tables of a
layout, down to what is there for linkers, and `Layout.Describes` which names these have.
`Library.ReadsFormat` is the rule by which a library reads such files.
-/

namespace BareMetal.ObjectFile

/-! ## Fields -/

/-- Numbers of the given widths, one behind the other. -/
def Format.numbers (f : Format) (fields : List (Nat × Nat)) : Bytes :=
  (fields.flatMap fun (width, value) => (f.order.toBytes width value).toList).toArray

/-- Numbers that have room in their widths stand at an offset of the file. -/
def HasFields (f : Format) (file : Bytes) (offset : Nat) (fields : List (Nat × Nat)) : Prop :=
  (∀ field ∈ fields, field.2 < 256 ^ field.1) ∧ StandsAt file offset (f.numbers fields)

instance (f : Format) (file : Bytes) (offset : Nat) (fields : List (Nat × Nat)) :
    Decidable (HasFields f file offset fields) := by
  unfold HasFields
  infer_instance

namespace Format

/-- The class, the byte order and the version as they stand behind the mark of an object file. -/
def identification (f : Format) : Bytes :=
  #[0x7F, 0x45, 0x4C, 0x46, if f.wide then 2 else 1, if f.order = .big then 2 else 1, 1]

/-- The fields of a section header, of which nothing here depends on three. -/
def sectionFields (f : Format) (s : Section) (flags info alignment : Nat) : List (Nat × Nat) :=
  [(4, s.name), (4, s.type), (f.wordSize, flags), (f.wordSize, s.address), (f.wordSize, s.offset),
    (f.wordSize, s.size), (4, s.link), (4, info), (f.wordSize, alignment),
    (f.wordSize, s.entrySize)]

/-- The fields of a program header, whose order depends on the class. -/
def segmentFields (f : Format) (s : Segment) (physical flags alignment : Nat) :
    List (Nat × Nat) :=
  if f.wide then
    [(4, s.type), (4, flags), (8, s.offset), (8, s.address), (8, physical), (8, s.fileSize),
      (8, s.memorySize), (8, alignment)]
  else
    [(4, s.type), (4, s.offset), (4, s.address), (4, physical), (4, s.fileSize),
      (4, s.memorySize), (4, flags), (4, alignment)]

/-- The fields of a symbol, whose order depends on the class. -/
def symbolFields (f : Format) (s : Symbol) (size info visibility index : Nat) :
    List (Nat × Nat) :=
  if f.wide then
    [(4, s.name), (1, info), (1, visibility), (2, index), (8, s.value), (8, size)]
  else [(4, s.name), (4, s.value), (4, size), (1, info), (1, visibility), (2, index)]

/-- The fields of an entry for a dynamic linker. -/
def linkFields (f : Format) (e : LinkEntry) : List (Nat × Nat) :=
  [(f.wordSize, e.tag), (f.wordSize, e.value)]

def HasSection (f : Format) (file : Bytes) (offset : Nat) (s : Section) : Prop :=
  ∃ flags info alignment, HasFields f file offset (f.sectionFields s flags info alignment)

def HasSegment (f : Format) (file : Bytes) (offset : Nat) (s : Segment) : Prop :=
  ∃ physical flags alignment, HasFields f file offset (f.segmentFields s physical flags alignment)

def HasSymbol (f : Format) (file : Bytes) (offset : Nat) (s : Symbol) : Prop :=
  ∃ size info visibility index,
    HasFields f file offset (f.symbolFields s size info visibility index)

/-- A relocation stands at an offset and refers to the symbol of an index. -/
def HasRelocation (f : Format) (file : Bytes) (offset index : Nat) : Prop :=
  ∃ place kind, kind < (if f.wide then 0x100000000 else 0x100) ∧ HasFields f file offset
    [(f.wordSize, place), (f.wordSize, index * (if f.wide then 0x100000000 else 0x100) + kind)]

end Format

/-- The header of a file, behind its identification. -/
structure FileHeader where
  type : Nat
  machine : Nat
  version : Nat
  entry : Nat
  programOffset : Nat
  sectionOffset : Nat
  flags : Nat
  size : Nat
  programSize : Nat
  programCount : Nat
  sectionSize : Nat
  sectionCount : Nat
  namesIndex : Nat

def FileHeader.fields (h : FileHeader) (f : Format) : List (Nat × Nat) :=
  [(2, h.type), (2, h.machine), (4, h.version), (f.wordSize, h.entry),
    (f.wordSize, h.programOffset), (f.wordSize, h.sectionOffset), (4, h.flags), (2, h.size),
    (2, h.programSize), (2, h.programCount), (2, h.sectionSize), (2, h.sectionCount),
    (2, h.namesIndex)]

/-! ## Tables -/

/-- The tables of a file. -/
structure Layout where
  format : Format
  header : FileHeader
  segments : List Segment
  sections : List Section
  symbols : List Symbol

/-- So many bytes at an offset lie inside a file. -/
def LiesInside (file : Bytes) (offset size : Nat) : Prop := offset + size ≤ file.size

instance (file : Bytes) (offset size : Nat) : Decidable (LiesInside file offset size) :=
  inferInstanceAs (Decidable (offset + size ≤ file.size))

/-- The bytes of a section. -/
def Section.content (s : Section) (file : Bytes) : Bytes := Bytes.slice file s.offset s.size

/-- The section lies inside the file, and its addresses inside the greatest address space. -/
structure Section.LiesWhole (s : Section) (file : Bytes) : Prop where
  inside : LiesInside file s.offset s.size
  addresses : s.address + s.size < addressBound

/-- The section holds a string table. -/
structure Section.HoldsStrings (s : Section) (file : Bytes) : Prop extends s.LiesWhole file where
  strings : StringTable.IsStringTable (s.content file)

namespace Layout

/-- The index of the section with the names of the sections; the last index stands for the link of
the first section. -/
def namesIndex (l : Layout) : Nat :=
  if l.header.namesIndex = extendedIndex then (l.sections.head?.map (·.link)).getD extendedIndex
  else l.header.namesIndex

/-- The section headers stand in the file.  A count that is too great for the header of the file is
the size of the first section. -/
structure HasSections (l : Layout) (file : Bytes) : Prop where
  present : l.header.sectionOffset ≠ 0
  entrySize : l.header.sectionSize = l.format.sectionHeaderSize
  count : l.header.sectionCount = l.sections.length ∨
    l.header.sectionCount = 0 ∧ l.sections.head?.map (·.size) = some l.sections.length
  entries : ∀ i s, l.sections[i]? = some s → l.format.HasSection file
    (l.header.sectionOffset + i * l.format.sectionHeaderSize) s
  names : ∃ strings, l.sections[l.namesIndex]? = some strings ∧ strings.HoldsStrings file

/-- The program headers stand in the file. -/
structure HasSegments (l : Layout) (file : Bytes) : Prop where
  entrySize : l.segments ≠ [] → l.header.programSize = l.format.programHeaderSize
  count : l.header.programCount = l.segments.length
  entries : ∀ i s, l.segments[i]? = some s → l.format.HasSegment file
    (l.header.programOffset + i * l.format.programHeaderSize) s

/-- The symbols stand in a section. -/
structure HasSymbols (l : Layout) (file : Bytes) (table : Section) : Prop where
  type : table.type = symbolTableType
  entrySize : table.entrySize = l.format.symbolSize
  size : table.size = l.symbols.length * l.format.symbolSize
  nonempty : l.symbols ≠ []
  entries : ∀ i s, l.symbols[i]? = some s → l.format.HasSymbol file
    (table.offset + i * l.format.symbolSize) s
  direct : table.link ≠ extendedIndex
  names : ∃ strings, l.sections[table.link]? = some strings ∧ strings.HoldsStrings file

end Layout

/-! ## What is there for linkers -/

/-- The segment is loaded, and the address lies in it. -/
def Segment.Covers (s : Segment) (address : Nat) : Prop :=
  s.type = loadedType ∧ s.address ≤ address ∧ address < s.address + s.memorySize

/-- One of the entries gives a value. -/
def Gives (entries : List LinkEntry) (tag : LinkTag) (value : Nat) : Prop :=
  ⟨tag.number, value⟩ ∈ entries

/-- No entry gives a value. -/
def GivesNone (entries : List LinkEntry) (tag : LinkTag) : Prop :=
  ∀ value, ¬ Gives entries tag value

/-- The relocations of jumps are of the kind with an addend. -/
def jumpsHaveAddends (entries : List LinkEntry) : Bool :=
  entries.any (· = ⟨LinkTag.jumpRelocationKind.number, LinkTag.addendRelocations.number⟩)

/-- What stands at the start of a hash table of chains. -/
structure ChainHeader where
  buckets : Nat
  /-- The first symbol that is in a chain. -/
  first : Nat
  filters : Nat
  shift : Nat

/-- A hash table of chains stands at an offset: behind the header and the filters the symbols at
which the chains begin, and then a word for each symbol from the first one on.  A word is odd at the
end of a chain, so that the last one is. -/
structure Format.HasChains (f : Format) (file : Bytes) (offset symbolCount : Nat)
    (h : ChainHeader) : Prop where
  header : HasFields f file offset [(4, h.buckets), (4, h.first), (4, h.filters), (4, h.shift)]
  buckets_pos : 0 < h.buckets
  first_pos : 0 < h.first
  filters_pos : 0 < h.filters
  heads : ∀ i < h.buckets, ∃ head, (head = 0 ∨ h.first ≤ head ∧ head < symbolCount) ∧
    HasFields f file (offset + 16 + h.filters * f.wordSize + 4 * i) [(4, head)]
  links : ∀ i, h.first ≤ i → i < symbolCount → ∃ link, (i + 1 = symbolCount → link % 2 = 1) ∧
    HasFields f file (offset + 16 + h.filters * f.wordSize + 4 * h.buckets + 4 * (i - h.first))
      [(4, link)]

namespace Layout

/-- The content of an address stands at an offset of the file, in whichever of the loaded segments
it is looked for. -/
structure Loads (l : Layout) (address offset : Nat) : Prop where
  covered : ∃ s ∈ l.segments, s.Covers address
  agree : ∀ s ∈ l.segments, s.Covers address → s.offset + (address - s.address) = offset
  bounded : offset < addressBound

/-- The bytes of a word in a plain hash table: four, but for two processors. -/
def hashWordSize (l : Layout) : Nat :=
  if l.format.wide ∧ l.header.machine ∈ wideHashMachines then 8 else 4

/-- The entries stand in a segment, and behind them one of tag zero. -/
structure HasLinkEntries (l : Layout) (file : Bytes) (s : Segment) (entries : List LinkEntry) :
    Prop where
  inside : LiesInside file s.offset s.fileSize
  room : (entries.length + 1) * (2 * l.format.wordSize) ≤ s.fileSize
  ordinary : ∀ e ∈ entries, e.tag ≠ 0
  stand : ∃ value, ∀ i e, (entries ++ [⟨0, value⟩])[i]? = some e → HasFields l.format file
    (s.offset + i * (2 * l.format.wordSize)) (l.format.linkFields e)

/-- The relocations that the entries tell of refer to symbols that there are. -/
def HasLinkRelocations (l : Layout) (file : Bytes) (entries : List LinkEntry) (symbolCount : Nat)
    (start size : LinkTag) (addend : Bool) : Prop :=
  ∀ total, Gives entries size total → total = 0 ∨ ∃ address offset, Gives entries start address ∧
    l.Loads address offset ∧ LiesInside file offset total ∧
    ∀ i < total / l.format.relocationSize addend, ∃ index, (index = 0 ∨ index < symbolCount) ∧
      l.format.HasRelocation file (offset + i * l.format.relocationSize addend) index

/-- All that the entries tell of stands in the file. -/
structure HasLinkTables (l : Layout) (file : Bytes) (entries : List LinkEntry)
    (symbolCount : Nat) : Prop where
  /-- Only libraries may be asked for more than once. -/
  once : ∀ tag value value', tag ≠ .library → Gives entries tag value → Gives entries tag value' →
    value = value'
  strings : GivesNone entries .stringTable ∧ GivesNone entries .stringTableSize ∨
    ∃ address size offset, Gives entries .stringTable address ∧
      Gives entries .stringTableSize size ∧ l.Loads address offset ∧
      LiesInside file offset size ∧ StringTable.IsStringTable (Bytes.slice file offset size)
  /-- A symbol table begins with a symbol that is none. -/
  symbols : GivesNone entries .symbolTable ∧ symbolCount = 0 ∨
    ∃ address offset, Gives entries .symbolTable address ∧ l.Loads address offset ∧
      0 < symbolCount ∧ LiesInside file offset (symbolCount * l.format.symbolSize)
  addendRelocations : l.HasLinkRelocations file entries symbolCount .addendRelocations
    .addendRelocationSize true
  relocations : l.HasLinkRelocations file entries symbolCount .relocations .relocationSize false
  jumpRelocations : l.HasLinkRelocations file entries symbolCount .jumpRelocations
    .jumpRelocationSize (jumpsHaveAddends entries)
  chains : ∀ address, Gives entries .chainedHashTable address → ∃ offset h,
    l.Loads address offset ∧ l.format.HasChains file offset symbolCount h
  /-- The second word of a plain hash table counts the symbols.  Words of eight bytes are no part of
  the format, so that a file with such has to have a table of chains as well. -/
  hashed : ∀ address, Gives entries .hashTable address → ∃ offset, l.Loads address offset ∧
    HasFields l.format file (offset + l.hashWordSize) [(l.hashWordSize, symbolCount)] ∧
    (l.hashWordSize = 4 ∨ ∃ chains, Gives entries .chainedHashTable chains)

/-- Relocations, versions and the entries for a dynamic linker stand in the file. -/
structure HasLinkage (l : Layout) (file : Bytes) : Prop where
  relocations : ∀ s ∈ l.sections, s.type ∈ relocationTypes → s.size = 0 ∨ s.LiesWhole file
  versions : ∀ s ∈ l.sections, s.type ∈ symbolVersionType :: versionTypes →
    0 < s.size ∧ LiesInside file s.offset s.size
  /-- The names of versions are in a string table, which begins with the empty text. -/
  versionNames : ∀ s ∈ l.sections, s.type ∈ versionTypes → ∃ strings,
    l.sections[s.link]? = some strings ∧ 0 < strings.size ∧
      LiesInside file strings.offset strings.size
  entries : ∀ s, l.segments.find? (·.type = linkEntriesType) = some s → ∃ entries symbolCount,
    l.HasLinkEntries file s entries ∧ l.HasLinkTables file entries symbolCount

/-! ## Files -/

/-- The file holds tables in this layout. -/
structure IsWellFormed (l : Layout) (file : Bytes) : Prop where
  identification : StandsAt file 0 l.format.identification
  header : HasFields l.format file 16 (l.header.fields l.format)
  version : l.header.version = 1
  headerSize : l.header.size = l.format.headerSize
  segments : l.HasSegments file
  sections : l.header.sectionOffset = 0 ∧ l.sections = [] ∨ l.HasSections file
  /-- There is no symbol table, or one. -/
  symbols : (∀ s ∈ l.sections, s.type ≠ symbolTableType) ∧ l.symbols = [] ∨
    ∃ before table after, l.sections = before ++ table :: after ∧
      (∀ s ∈ before ++ after, s.type ≠ symbolTableType) ∧ l.HasSymbols file table
  linkage : l.HasLinkage file

/-- The sections by their names and addresses. -/
def sectionEntries (l : Layout) : List Entry := l.sections.map fun s => ⟨s.name, s.address⟩

/-- The symbols by their names and values. -/
def symbolEntries (l : Layout) : List Entry := l.symbols.map fun s => ⟨s.name, s.value⟩

/-- The section holds the names of the sections. -/
def NamesSections (l : Layout) (strings : Section) : Prop :=
  l.sections[l.namesIndex]? = some strings

/-- The section holds the names of the symbols. -/
def NamesSymbols (l : Layout) (strings : Section) : Prop :=
  ∃ table ∈ l.sections, table.type = symbolTableType ∧ l.sections[table.link]? = some strings

end Layout

/-- The entries have these names in a string table, and these addresses. -/
def HasNames (file : Bytes) (strings : Section) (entries : List Entry)
    (named : List (String × Nat)) : Prop :=
  List.Forall₂ (fun e pair => StringTable.HasName (strings.content file) e.name pair.1 ∧
    e.address = pair.2) entries named

/-- The file holds these named sections and symbols in this layout. -/
structure Layout.Describes (l : Layout) (file : Bytes) (sections symbols : List (String × Nat)) :
    Prop where
  wellFormed : l.IsWellFormed file
  sectionNames : l.sections = [] ∧ sections = [] ∨
    ∃ strings, l.NamesSections strings ∧ HasNames file strings l.sectionEntries sections
  symbolNames : l.symbols = [] ∧ symbols = [] ∨
    ∃ strings, l.NamesSymbols strings ∧ HasNames file strings l.symbolEntries symbols

/-! ## Libraries -/

/-- The contents of a file are those of a layout.  Where no text is told, the name is empty. -/
structure Contents.Tells (c : Contents) (l : Layout) (file : Bytes) : Prop where
  sections : c.sections = l.sectionEntries
  sectionNames : ∀ strings, l.NamesSections strings → ∀ offset name,
    StringTable.HasName (strings.content file) offset name →
      (c.sectionName? offset).getD "" = name
  symbols : c.symbols = l.symbolEntries
  symbolNames : ∀ strings, l.NamesSymbols strings → ∀ offset name,
    StringTable.HasName (strings.content file) offset name → (c.symbolName? offset).getD "" = name

/-- The library reads the tables of well-formed files as the format says. -/
def Library.ReadsFormat (library : Library) : Prop :=
  ∀ (l : Layout) file, l.IsWellFormed file →
    ∃ c, library.parse? file = some c ∧ c.Tells l file

end BareMetal.ObjectFile
