import BareMetal.ObjectFile.Tables

/-!
# Linkage

What an object file holds for linkers: relocations and versions in sections of their own, and the
entries by which a dynamic linker finds its string table, its relocations and its symbols.  None of
it changes what a symbol or a section is, but a file is refused when part of it is announced and
does not lie inside the file.
-/

namespace BareMetal.ObjectFile

/-! ## Entries for a dynamic linker -/

/-- An entry for a dynamic linker: what it tells, and a number or an address. -/
structure LinkEntry where
  tag : Nat
  value : Nat
  deriving DecidableEq, Repr

/-- What the tags of entries tell. -/
inductive LinkTag where
  | library
  | jumpRelocationSize
  | hashTable
  | stringTable
  | symbolTable
  | addendRelocations
  | addendRelocationSize
  | stringTableSize
  | relocations
  | relocationSize
  | jumpRelocationKind
  | jumpRelocations
  | chainedHashTable
  deriving DecidableEq, Repr

def LinkTag.number : LinkTag → Nat
  | library => 1
  | jumpRelocationSize => 2
  | hashTable => 4
  | stringTable => 5
  | symbolTable => 6
  | addendRelocations => 7
  | addendRelocationSize => 8
  | stringTableSize => 10
  | relocations => 17
  | relocationSize => 18
  | jumpRelocationKind => 20
  | jumpRelocations => 23
  | chainedHashTable => 0x6FFFFEF5

/-- The types of the segments that are loaded, and of the one that holds the entries. -/
def loadedType : Nat := 1
def linkEntriesType : Nat := 2

/-- The entry at an offset. -/
def Format.linkEntry? (f : Format) (file : Bytes) (offset : Nat) : Option LinkEntry := do
  return { tag := ← f.word? file offset, value := ← f.word? file (offset + f.wordSize) }

/-- The entries up to the first one of tag zero. -/
def untilEnd : List LinkEntry → List LinkEntry
  | [] => []
  | e :: rest => if e.tag = 0 then [e] else e :: untilEnd rest

/-- The entries in the first segment that holds such; no list without such a segment. -/
def Tables.linkEntries? (t : Tables) (file : Bytes) : Option (Option (List LinkEntry)) :=
  match t.segments.find? (·.type = linkEntriesType) with
  | none => some none
  | some s =>
    let size := 2 * t.format.wordSize
    if s.fileSize = 0 ∨ isInside file s.offset s.fileSize then do
      let entries ← (List.range (s.fileSize / size)).mapM fun i =>
        t.format.linkEntry? file (s.offset + i * size)
      return some (untilEnd entries)
    else none

/-- Where in the file the content of an address is. -/
def Tables.fileOffset? (t : Tables) (address : Nat) : Option Nat := do
  let s ← t.segments.find? fun s =>
    s.type = loadedType ∧ s.address ≤ address ∧ address - s.address < s.memorySize
  let offset := s.offset + (address - s.address)
  if offset < addressBound then some offset else none

/-- The value of the last entry of a tag. -/
def linkValue? (entries : List LinkEntry) (tag : LinkTag) : Option Nat :=
  ((entries.filter (·.tag = tag.number)).getLast?).map (·.value)

/-- A number among the entries; one that is not given is zero. -/
def linkNumber (entries : List LinkEntry) (tag : LinkTag) : Nat :=
  (linkValue? entries tag).getD 0

/-- Where the content of an address among the entries is; one that leads nowhere is the start of
the file. -/
def Tables.linkOffset (t : Tables) (entries : List LinkEntry) (tag : LinkTag) : Nat :=
  ((linkValue? entries tag).bind t.fileOffset?).getD 0

/-! ## Relocations -/

/-- The bytes of a relocation, with or without an addend. -/
def Format.relocationSize (f : Format) (addend : Bool) : Nat :=
  (if addend then 3 else 2) * f.wordSize

/-- The numbers of the symbols that some relocations refer to. -/
def relocatedSymbols? (f : Format) (file : Bytes) (offset size : Nat) (addend : Bool) :
    Option (List Nat) :=
  if size = 0 then some []
  else if isInside file offset size then
    (List.range (size / f.relocationSize addend)).mapM fun i => do
      let info ← f.word? file (offset + i * f.relocationSize addend + f.wordSize)
      return info / if f.wide then 0x100000000 else 0x100
  else none

/-! ## The number of symbols -/

/-- The number of the last symbol of a chain plus one, where the next link of the chain stands at
`offset` and belongs to symbol `n`.  The last link is odd. -/
def chainEnd? (f : Format) (file : Bytes) (offset n : Nat) : Option Nat :=
  if _h : offset + 4 ≤ file.size then
    match f.number? file offset 4 with
    | some link => if link % 2 = 1 then some (n + 1) else chainEnd? f file (offset + 4) (n + 1)
    | none => none
  else none
  termination_by file.size - offset

/-- The number of symbols in a hash table of chains: the chains begin behind the buckets, and the
last one is that of the greatest bucket. -/
def chainedCount? (f : Format) (file : Bytes) (offset : Nat) : Option Nat := do
  let buckets ← f.number? file offset 4
  let first ← f.number? file (offset + 4) 4
  let filters ← f.number? file (offset + 8) 4
  if buckets = 0 ∨ first = 0 ∨ filters = 0 then none
  let start := offset + 16 + filters * f.wordSize
  if file.size < start + 4 * buckets then none
  let heads ← (List.range buckets).mapM fun i => f.number? file (start + 4 * i) 4
  let last := heads.foldl max 0
  if last < first then return 0
  chainEnd? f file (start + 4 * buckets + 4 * (last - first)) last

/-- The processors whose hash tables of 64 bits hold numbers of 64 bits. -/
def wideHashMachines : List Nat := [22, 0x9026]

/-- The number of symbols in a plain hash table. -/
def Tables.hashedCount? (t : Tables) (file : Bytes) (offset : Nat) : Option Nat :=
  t.format.number? file (offset + 4)
    (if t.format.wide ∧ t.machine ∈ wideHashMachines then 8 else 4)

/-! ## Whole linkage -/

/-- The strings that the entries refer to. -/
def Tables.linkStrings? (t : Tables) (file : Bytes) (entries : List LinkEntry) :
    Option StringTable :=
  StringTable.ofFile? file (t.linkOffset entries .stringTable)
    (linkNumber entries .stringTableSize)

/-- The number of symbols in the hash tables that the entries tell of. -/
def Tables.hashSymbolCount? (t : Tables) (file : Bytes) (entries : List LinkEntry) : Option Nat :=
  let address? (tag : LinkTag) : Option Nat := (linkValue? entries tag).bind t.fileOffset?
  match address? .chainedHashTable, address? .hashTable with
  | some offset, _ => chainedCount? t.format file offset
  | none, some offset => t.hashedCount? file offset
  | none, none => some 0

/-- The number of symbols that the entries tell of. -/
def Tables.linkSymbolCount? (t : Tables) (file : Bytes) (entries : List LinkEntry) :
    Option Nat := do
  let relocated (start size : LinkTag) (addend : Bool) : Option (List Nat) :=
    relocatedSymbols? t.format file (t.linkOffset entries start) (linkNumber entries size) addend
  let withAddend ← relocated .addendRelocations .addendRelocationSize true
  let plain ← relocated .relocations .relocationSize false
  let jumps ← relocated .jumpRelocations .jumpRelocationSize
    (linkNumber entries .jumpRelocationKind = LinkTag.addendRelocations.number)
  let hashed ← t.hashSymbolCount? file entries
  let greatest := (withAddend ++ plain ++ jumps).foldl max 0
  return if greatest = 0 then hashed else max hashed (greatest + 1)

/-- All that the entries announce lies inside the file. -/
def Tables.hasWholeEntries (t : Tables) (file : Bytes) : Bool :=
  match t.linkEntries? file with
  | none => false
  | some none => true
  | some (some entries) =>
    (t.linkStrings? file entries).isSome &&
      (t.linkSymbolCount? file entries).any fun count =>
        isInside file (t.linkOffset entries .symbolTable) (count * t.format.symbolSize)

/-- The types of sections that hold relocations, with an addend and without. -/
def relocationTypes : List Nat := [4, 9]

/-- The type of the section that gives symbols their versions, and the types of those that define
and require versions. -/
def symbolVersionType : Nat := 0x6FFFFFFF
def versionTypes : List Nat := [0x6FFFFFFD, 0x6FFFFFFE]

/-- The first section of a type, if there is one, has a property. -/
def Tables.firstOfType (t : Tables) (type : Nat) (p : Section → Bool) : Bool :=
  (t.sections.find? (·.type = type)).all p

/-- A section of versions and the names that it refers to lie inside the file; without names it is
of no account. -/
def Tables.hasWholeVersions (t : Tables) (file : Bytes) (s : Section) : Bool :=
  match t.sections[s.link]? with
  | none => true
  | some names => isInside file names.offset names.size && isInside file s.offset s.size

/-- Relocations and versions lie inside the file. -/
def Tables.hasWholeSections (t : Tables) (file : Bytes) : Bool :=
  (t.sections.all fun s => s.type ∉ relocationTypes || s.isWhole file) &&
    t.firstOfType symbolVersionType (fun s => isInside file s.offset s.size) &&
    versionTypes.all fun type => t.firstOfType type (t.hasWholeVersions file)

/-- All linkage that a file announces lies inside it. -/
def Tables.hasWholeLinkage (t : Tables) (file : Bytes) : Bool :=
  t.hasWholeEntries file && t.hasWholeSections file

/-- The numbers under which the entries of a file ask for libraries without a name. -/
def unnamedLibraries (file : Bytes) : List Nat :=
  ((do
    let t ← Tables.ofFile? file
    let entries ← (← t.linkEntries? file)
    let strings ← t.linkStrings? file entries
    return (entries.filter fun e =>
      e.tag = LinkTag.library.number ∧ (strings.name? e.value).isNone).map (·.value)) :
    Option (List Nat)).getD []

end BareMetal.ObjectFile
