import Mathlib.Data.List.Nodup
import BareMetal.ObjectFile.Address
import BareMetal.Proofs.ObjectFile.Linkage

/-!
# Addresses by name

What a file answers to a name is fixed by the named tables that it holds, whatever its class, its
byte order and the places of its parts, and whichever library reads the format
(`address_of_first`).
-/

namespace BareMetal.ObjectFile

/-- The first entry of a name has this address. -/
def IsFirst (named : List (String × Nat)) (n : String) (address : Nat) : Prop :=
  ∃ before after, named = before ++ (n, address) :: after ∧ ∀ pair ∈ before, pair.1 ≠ n

/-- What is answered to a name: the address of its first entry, if it fits in 32 bits. -/
structure Answers (missing : Error) (named : List (String × Nat)) (n : String)
    (answer : Except Error UInt32) : Prop where
  fits : ∀ address, IsFirst named n address → address < 2 ^ 32 →
    answer = .ok (UInt32.ofNat address)
  overflows : ∀ address, IsFirst named n address → 2 ^ 32 ≤ address →
    answer = .error (.addressOverflow address)
  missing : (∀ pair ∈ named, pair.1 ≠ n) → answer = .error missing

theorem lookup_of_others {named : List (String × Nat)} {n : String}
    (others : ∀ pair ∈ named, pair.1 ≠ n) : named.lookup n = none :=
  List.lookup_eq_none_iff.2 fun pair mem => by simpa using (others pair mem).symm

theorem lookup_of_isFirst {named : List (String × Nat)} {n : String} {address : Nat}
    (first : IsFirst named n address) : named.lookup n = some address := by
  obtain ⟨before, after, rfl, others⟩ := first
  rw [List.lookup_append, lookup_of_others others, List.lookup_cons_self]
  rfl

/-- The answer that a table gives. -/
def answer (missing : Error) : Option Nat → Except Error UInt32
  | some address => narrow address
  | none => .error missing

theorem answers_answer (missing : Error) (named : List (String × Nat)) (n : String) :
    Answers missing named n (answer missing (named.lookup n)) where
  fits address first small := by
    rw [lookup_of_isFirst first]
    exact if_pos small
  overflows address first great := by
    rw [lookup_of_isFirst first]
    exact if_neg (Nat.not_lt.2 great)
  missing others := by
    rw [lookup_of_others others]
    rfl

/-! ## Contents with names -/

/-- The first entry of a name is the first pair of that name. -/
theorem find?_of_names {name? : Nat → Option String} {entries : List Entry}
    {named : List (String × Nat)} {n : String} (nonempty : n ≠ "")
    (pairs : List.Forall₂ (fun e pair => (name? e.name).getD "" = pair.1 ∧ e.address = pair.2)
      entries named) :
    (entries.find? fun e => name? e.name = some n).map (·.address) = named.lookup n := by
  induction pairs with
  | nil => rfl
  | @cons e pair rest others first _ ih =>
    obtain ⟨name, address⟩ := pair
    obtain ⟨rfl, rfl⟩ := first
    by_cases here : name? e.name = some n
    · have same : (name? e.name).getD "" = n := by rw [here, Option.getD_some]
      rw [List.find?_cons_of_pos (by simpa using here), same, List.lookup_cons_self]
      rfl
    · have other : n ≠ (name? e.name).getD "" := by
        rintro rfl
        cases found : name? e.name with
        | none => exact nonempty (by rw [found, Option.getD_none])
        | some text => exact here (by rw [found, Option.getD_some])
      rw [List.find?_cons_of_neg (by simpa using here), ih, List.lookup_cons,
        beq_false_of_ne other]

/-- Names that are told are those that stand in the string table. -/
theorem pairs_of_hasNames {file : Bytes} {Names : Section → Prop} {entries : List Entry}
    {named : List (String × Nat)} {name? : Nat → Option String}
    (has : entries = [] ∧ named = [] ∨
      ∃ strings, Names strings ∧ HasNames file strings entries named)
    (tells : ∀ strings, Names strings → ∀ offset name,
      StringTable.HasName (strings.content file) offset name → (name? offset).getD "" = name) :
    List.Forall₂ (fun e pair => (name? e.name).getD "" = pair.1 ∧ e.address = pair.2)
      entries named := by
  rcases has with ⟨rfl, rfl⟩ | ⟨strings, names, pairs⟩
  · exact .nil
  · exact pairs.imp fun e pair both => ⟨tells strings names e.name pair.1 both.1, both.2⟩

section

variable {library : Library} (rules : library.ReadsFormat) {l : Layout} {file : Bytes}
  {sections symbols : List (String × Nat)} {n : String}

include rules

theorem contents_of_describes (describes : l.Describes file sections symbols) :
    ∃ c, library.contents file = .ok c ∧ ∀ n : String, n ≠ "" →
      (c.section? n).map (·.address) = sections.lookup n ∧
      (c.symbol? n).map (·.address) = symbols.lookup n := by
  obtain ⟨c, parsed, tells⟩ := rules l file describes.wellFormed
  refine ⟨c, by rw [Library.contents, parsed], fun n nonempty => ⟨?_, ?_⟩⟩
  · rw [Contents.section?, tells.sections]
    refine find?_of_names nonempty (pairs_of_hasNames ?_ tells.sectionNames)
    exact describes.sectionNames.imp_left fun none =>
      ⟨by simp [Layout.sectionEntries, none.1], none.2⟩
  · rw [Contents.symbol?, tells.symbols]
    refine find?_of_names nonempty (pairs_of_hasNames ?_ tells.symbolNames)
    exact describes.symbolNames.imp_left fun none =>
      ⟨by simp [Layout.symbolEntries, none.1], none.2⟩

theorem symbolAddress_of_describes (describes : l.Describes file sections symbols)
    (nonempty : n ≠ "") :
    library.symbolAddress file n = answer (.symbolNotFound n) (symbols.lookup n) := by
  obtain ⟨c, read, by_name⟩ := contents_of_describes rules describes
  rw [← (by_name n nonempty).2, Library.symbolAddress, Library.symbolValue, read]
  simp only [bind, Except.bind]
  cases c.symbol? n <;> rfl

theorem sectionAddress_of_describes (describes : l.Describes file sections symbols)
    (nonempty : n ≠ "") :
    library.sectionAddress file n = answer (.sectionNotFound n) (sections.lookup n) := by
  obtain ⟨c, read, by_name⟩ := contents_of_describes rules describes
  rw [← (by_name n nonempty).1, Library.sectionAddress, Library.sectionValue, read]
  simp only [bind, Except.bind]
  cases c.section? n <;> rfl

end

/-! ## Answers -/

/-- Masking clears the lowest bit and leaves the others. -/
theorem and_mask (a : UInt32) : a &&& 0xFFFFFFFE = UInt32.ofNat (a.toNat - a.toNat % 2) := by
  have bound := a.toNat_lt
  -- the mask keeps the upper 31 bits and leaves an even number
  have half : (a.toNat &&& 0xFFFFFFFE) / 2 = a.toNat / 2 := by
    have small : a.toNat / 2 < 2 ^ 31 := by omega
    rw [Nat.and_div_two, show 0xFFFFFFFE / 2 = 2 ^ 31 - 1 from rfl,
      Nat.and_two_pow_sub_one_eq_mod, Nat.mod_eq_of_lt small]
  have even : (a.toNat &&& 0xFFFFFFFE) % 2 = 0 := by
    rw [Nat.and_mod_two_pow (n := 1)]
    simp
  apply UInt32.toNat_inj.1
  rw [UInt32.toNat_and, UInt32.toNat_ofNat', Nat.mod_eq_of_lt (by omega)]
  show a.toNat &&& 0xFFFFFFFE = _
  omega

theorem resolveWith_symbol (library : Library) (file : Bytes) (n : String) (thumb : Bool) :
    StartAddress.resolveWith library (.symbol n) (some file) thumb =
      (library.symbolAddress file n).map fun a =>
        if thumb then UInt32.ofNat (a.toNat - a.toNat % 2) else a := by
  rw [StartAddress.resolveWith]
  cases library.symbolAddress file n with
  | error e => rfl
  | ok a =>
    rw [Except.map, ← and_mask]
    rfl

/-- A file answers to a name with the address of the first entry of exactly that name, or with an
error if that is too great or there is none; all files that hold the same tables answer alike.  The
library that reads the files needs to read the format, no more. -/
theorem address_of_first {library : Library} (rules : library.ReadsFormat) {l : Layout}
    {file : Bytes} {sections symbols : List (String × Nat)}
    (describes : l.Describes file sections symbols) {n : String} (nonempty : n ≠ "") :
    Answers (.symbolNotFound n) symbols n (library.symbolAddress file n) ∧
    Answers (.sectionNotFound n) sections n (library.sectionAddress file n) ∧
    (∀ (l' : Layout) file', l'.Describes file' sections symbols →
      library.symbolAddress file' n = library.symbolAddress file n ∧
      library.sectionAddress file' n = library.sectionAddress file n) ∧
    ∀ thumb, StartAddress.resolveWith library (.symbol n) (some file) thumb =
      (library.symbolAddress file n).map fun a =>
        if thumb then UInt32.ofNat (a.toNat - a.toNat % 2) else a := by
  rw [symbolAddress_of_describes rules describes nonempty,
    sectionAddress_of_describes rules describes nonempty]
  refine ⟨answers_answer _ _ _, answers_answer _ _ _, fun l' file' describes' => ?_,
    fun thumb => ?_⟩
  · exact ⟨symbolAddress_of_describes rules describes' nonempty,
      sectionAddress_of_describes rules describes' nonempty⟩
  · rw [resolveWith_symbol, symbolAddress_of_describes rules describes nonempty]

/-! ## A name shared by two symbols and by the end of a third -/

namespace SharedNames

variable (f : Format)

def stringsOffset : Nat := f.headerSize + 2 * f.programHeaderSize
def symbolsOffset : Nat := stringsOffset f + 30
def sectionsOffset : Nat := symbolsOffset f + 4 * f.symbolSize
def entriesOffset : Nat := sectionsOffset f + 4 * f.sectionHeaderSize
def relocationsOffset : Nat := entriesOffset f + 7 * (2 * f.wordSize)
def hashOffset : Nat := relocationsOffset f + 2 * f.wordSize
def fileEnd : Nat := hashOffset f + 28

/-- Where the start of the file is loaded. -/
def base : Nat := 0x10000

/-- The entries for a dynamic linker: the strings and the symbols are those of the sections. -/
def entries : List LinkEntry := [
  ⟨5, base + stringsOffset f⟩, ⟨10, 30⟩, ⟨6, base + symbolsOffset f⟩,
  ⟨17, base + relocationsOffset f⟩, ⟨18, 2 * f.wordSize⟩, ⟨4, base + hashOffset f⟩]

/-- Four symbols and four sections, with all names in one table, in a file that is loaded whole. -/
def layout : Layout where
  format := f
  header := {
    type := 3, machine := 40, version := 1, entry := 0x1001, programOffset := f.headerSize
    sectionOffset := sectionsOffset f, flags := 0, size := f.headerSize
    programSize := f.programHeaderSize, programCount := 2, sectionSize := f.sectionHeaderSize
    sectionCount := 4, namesIndex := 3 }
  segments := [⟨1, 0, base, fileEnd f, fileEnd f⟩,
    ⟨2, entriesOffset f, base + entriesOffset f, 7 * (2 * f.wordSize), 7 * (2 * f.wordSize)⟩]
  sections := [⟨0, 0, 0, 0, 0, 0, 0⟩, ⟨8, 1, 0x1000, 0, 0, 0, 0⟩,
    ⟨14, 2, 0, symbolsOffset f, 4 * f.symbolSize, 3, f.symbolSize⟩,
    ⟨22, 3, 0, stringsOffset f, 30, 0, 0⟩]
  symbols := [⟨0, 0⟩, ⟨1, 0x1001⟩, ⟨2, 0x2001⟩, ⟨2, 0x3001⟩]

/-- The file of that layout, its parts in the order of their offsets.  The relocation refers to
`_start`, and the hash table has the three symbols in one chain. -/
def file : Bytes :=
  let index := if f.wide then 0x100000000 else 0x100
  (f.identification.toList ++ List.replicate 9 0 ++
    (f.numbers ((layout f).header.fields f)).toList ++
    (f.numbers ((layout f).segments.flatMap fun s => f.segmentFields s 0 0 0)).toList ++
    StringTable.bytesOf ["", "_start", ".text", ".symtab", ".strtab"] ++
    (f.numbers ((layout f).symbols.flatMap fun s => f.symbolFields s 0 0 0 0)).toList ++
    (f.numbers ((layout f).sections.flatMap fun s => f.sectionFields s 0 0 0)).toList ++
    (f.numbers ((entries f).flatMap f.linkFields)).toList ++ List.replicate (2 * f.wordSize) 0 ++
    (f.numbers [(f.wordSize, base), (f.wordSize, index + 2)]).toList ++
    (f.numbers [(4, 1), (4, 4), (4, 1), (4, 0), (4, 2), (4, 3), (4, 0)]).toList).toArray

/-- The two formats that the file is shown in. -/
def IsShown : Prop := f = ⟨true, .big⟩ ∨ f = ⟨false, .little⟩

variable {f : Format}

theorem loads {offset : Nat} (inside : offset < fileEnd f) (known : IsShown f) :
    (layout f).Loads (base + offset) offset where
  covered := ⟨_, List.mem_cons_self, rfl, Nat.le_add_right _ _, Nat.add_lt_add_left inside _⟩
  agree s mem covers := by
    obtain ⟨loaded, -, -⟩ := covers
    simp only [layout, List.mem_cons, List.not_mem_nil, or_false] at mem
    rcases mem with rfl | rfl
    · simp
    · cases loaded
  bounded := by
    have small : fileEnd f < addressBound := by rcases known with rfl | rfl <;> decide
    exact Nat.lt_trans inside small

theorem holdsStrings (known : IsShown f) :
    (Section.mk 22 3 0 (stringsOffset f) 30 0 0).HoldsStrings (file f) where
  inside := by rcases known with rfl | rfl <;> decide +kernel
  addresses := (by decide : 0 + 30 < addressBound)
  strings := by
    refine ⟨["", "_start", ".text", ".symtab", ".strtab"], by decide, ?_⟩
    rw [Section.content, toList_slice]
    rcases known with rfl | rfl <;> decide +kernel

theorem hasLinkEntries (known : IsShown f) :
    (layout f).HasLinkEntries (file f) ⟨2, entriesOffset f, base + entriesOffset f,
      7 * (2 * f.wordSize), 7 * (2 * f.wordSize)⟩ (entries f) where
  inside := by rcases known with rfl | rfl <;> decide +kernel
  room := le_rfl
  ordinary := by simp [entries]
  stand := by
    refine ⟨0, fun i e found => ?_⟩
    rcases i with _ | _ | _ | _ | _ | _ | _ | i <;> cases found <;>
      rcases known with rfl | rfl <;> decide +kernel

theorem hasRelocation (known : IsShown f) :
    f.HasRelocation (file f) (relocationsOffset f) 1 := by
  rcases known with rfl | rfl <;> exact ⟨base, 2, by decide, by decide +kernel⟩

theorem hasLinkTables (known : IsShown f) :
    (layout f).HasLinkTables (file f) (entries f) 4 := by
  have loads_part (offset : Nat) (part : offset ∈ [stringsOffset f, symbolsOffset f,
      relocationsOffset f, hashOffset f]) : (layout f).Loads (base + offset) offset := by
    refine loads ?_ known
    rcases known with rfl | rfl <;> revert offset <;> decide
  refine {
    once := fun tag value value' _ gives gives' => ?_
    strings := .inr ⟨base + stringsOffset f, 30, stringsOffset f,
      by simp [Gives, entries, LinkTag.number], by simp [Gives, entries, LinkTag.number],
      loads_part _ (by simp), (holdsStrings known).inside, (holdsStrings known).strings⟩
    symbols := .inr ⟨base + symbolsOffset f, symbolsOffset f,
      by simp [Gives, entries, LinkTag.number], loads_part _ (by simp), by decide,
      by rcases known with rfl | rfl <;> decide +kernel⟩
    addendRelocations := fun total gives => by simp [Gives, entries, LinkTag.number] at gives
    relocations := fun total gives => .inr ?_
    jumpRelocations := fun total gives => by simp [Gives, entries, LinkTag.number] at gives
    chains := fun address gives => by simp [Gives, entries, LinkTag.number] at gives
    hashed := fun address gives => ?_ }
  · have distinct : ((entries f).map (·.tag)).Nodup := by
      show [5, 10, 6, 17, 18, 4].Nodup
      decide
    have same := List.inj_on_of_nodup_map distinct gives gives' rfl
    exact congrArg LinkEntry.value same
  · obtain rfl : total = 2 * f.wordSize := by simpa [Gives, entries, LinkTag.number] using gives
    refine ⟨base + relocationsOffset f, relocationsOffset f,
      by simp [Gives, entries, LinkTag.number], loads_part _ (by simp),
      by rcases known with rfl | rfl <;> decide +kernel, fun i below => ⟨1, .inr (by decide), ?_⟩⟩
    obtain rfl : i = 0 := by
      rcases known with rfl | rfl <;> exact Nat.lt_one_iff.1 below
    rw [Nat.zero_mul, Nat.add_zero]
    exact hasRelocation known
  · obtain rfl : address = base + hashOffset f := by
      simpa [Gives, entries, LinkTag.number] using gives
    have four : (layout f).hashWordSize = 4 := by rcases known with rfl | rfl <;> decide
    refine ⟨hashOffset f, loads_part _ (by simp), ?_, .inl four⟩
    rw [four]
    rcases known with rfl | rfl <;> decide +kernel

theorem type_notMem {s : Section} (mem : s ∈ (layout f).sections) :
    s.type ∉ relocationTypes ++ symbolVersionType :: versionTypes := by
  have types : ∀ type ∈ [0, 1, 2, 3],
      type ∉ relocationTypes ++ symbolVersionType :: versionTypes := by decide
  exact types s.type (List.mem_map_of_mem (f := Section.type) mem)

theorem isWellFormed (known : IsShown f) : (layout f).IsWellFormed (file f) := by
  refine {
    identification := by rcases known with rfl | rfl <;> decide +kernel
    header := by rcases known with rfl | rfl <;> decide +kernel
    version := rfl
    headerSize := rfl
    segments := {
      entrySize := fun _ => rfl
      count := rfl
      entries := fun i s found => ?_ }
    sections := .inr {
      present := by rcases known with rfl | rfl <;> decide
      entrySize := rfl
      count := .inl rfl
      entries := fun i s found => ?_
      names := ⟨_, rfl, holdsStrings known⟩ }
    symbols := .inr ⟨[⟨0, 0, 0, 0, 0, 0, 0⟩, ⟨8, 1, 0x1000, 0, 0, 0, 0⟩], _,
      [⟨22, 3, 0, stringsOffset f, 30, 0, 0⟩], rfl, by simp [symbolTableType], {
        type := rfl
        entrySize := rfl
        size := rfl
        nonempty := nofun
        entries := fun i s found => ?_
        direct := (by decide : 3 ≠ extendedIndex)
        names := ⟨_, rfl, holdsStrings known⟩ }⟩
    linkage := {
      relocations := fun s mem type => absurd (List.mem_append_left _ type) (type_notMem mem)
      versions := fun s mem type => absurd (List.mem_append_right _ type) (type_notMem mem)
      versionNames := fun s mem type =>
        absurd (List.mem_append_right _ (List.mem_cons_of_mem _ type)) (type_notMem mem)
      entries := fun s found => ?_ } }
  · rcases i with _ | _ | i <;> cases found <;> refine ⟨0, 0, 0, ?_⟩ <;>
      rcases known with rfl | rfl <;> decide +kernel
  · rcases i with _ | _ | _ | _ | i <;> cases found <;> refine ⟨0, 0, 0, ?_⟩ <;>
      rcases known with rfl | rfl <;> decide +kernel
  · rcases i with _ | _ | _ | _ | i <;> cases found <;> refine ⟨0, 0, 0, 0, ?_⟩ <;>
      rcases known with rfl | rfl <;> decide +kernel
  · obtain rfl := Option.some.inj found
    exact ⟨entries f, 4, hasLinkEntries known, hasLinkTables known⟩

theorem describes (known : IsShown f) :
    (layout f).Describes (file f) [("", 0), (".text", 0x1000), (".symtab", 0), (".strtab", 0)]
      [("", 0), ("_start", 0x1001), ("start", 0x2001), ("start", 0x3001)] where
  wellFormed := isWellFormed known
  sectionNames := .inr ⟨_, rfl, by
    unfold HasNames
    rcases known with rfl | rfl <;> decide +kernel⟩
  symbolNames := .inr ⟨_, ⟨⟨14, 2, 0, symbolsOffset f, 4 * f.symbolSize, 3, f.symbolSize⟩,
    by simp [layout], rfl, rfl⟩, by
    unfold HasNames
    rcases known with rfl | rfl <;> decide +kernel⟩

end SharedNames

/-- The name that ends another one and is given twice has the address of its first symbol in both
classes and byte orders, and half a name is none. -/
theorem address_of_first_shared :
    reader.ReadsFormat ∧
    reader.symbolAddress (SharedNames.file ⟨true, .big⟩) "start" = .ok 0x2001 ∧
    reader.symbolAddress (SharedNames.file ⟨false, .little⟩) "start" = .ok 0x2001 ∧
    StartAddress.resolveWith reader (.symbol "start") (some (SharedNames.file ⟨true, .big⟩)) true =
      .ok 0x2000 ∧
    reader.symbolAddress (SharedNames.file ⟨true, .big⟩) "art" = .error (.symbolNotFound "art") ∧
    reader.sectionAddress (SharedNames.file ⟨true, .big⟩) ".text" = .ok 0x1000 := by
  have wide := SharedNames.describes (.inl rfl)
  have narrow := SharedNames.describes (.inr rfl)
  obtain ⟨symbol, -, alike, thumb⟩ := address_of_first reader_readsFormat wide (n := "start")
    (by decide)
  have first : reader.symbolAddress (SharedNames.file ⟨true, .big⟩) "start" = .ok 0x2001 :=
    symbol.fits 0x2001 ⟨[("", 0), ("_start", 0x1001)], [("start", 0x3001)], rfl, by decide⟩
      (by decide)
  refine ⟨reader_readsFormat, first, (alike _ _ narrow).1.trans first, ?_, ?_, ?_⟩
  · rw [thumb, first]
    rfl
  · exact (address_of_first reader_readsFormat wide (n := "art") (by decide)).1.missing (by decide)
  · exact (address_of_first reader_readsFormat wide (n := ".text") (by decide)).2.1.fits 0x1000
      ⟨[("", 0)], [(".symtab", 0), (".strtab", 0)], rfl, by decide⟩ (by decide)

end BareMetal.ObjectFile
