import BareMetal.Proofs.ObjectFile.TableReading

/-!
# Linkage of well-formed files

What a well-formed file holds for linkers lies inside it: the entries for a dynamic linker are read
as they stand, every address among them leads into the file, and the number of symbols that is taken
from hash tables and relocations is no greater than that of the symbols there are.  So the reader
refuses no well-formed file for its linkage, and reads the format (`reader_readsFormat`).
-/

namespace BareMetal.ObjectFile

/-- What holds of a number and of all of some others holds of the greatest of them. -/
theorem foldl_max_of_forall {P : Nat → Prop} {xs : List Nat} {start : Nat} (first : P start)
    (each : ∀ x ∈ xs, P x) : P (xs.foldl max start) := by
  induction xs generalizing start with
  | nil => exact first
  | cons x rest ih =>
    rw [List.forall_mem_cons] at each
    refine ih ?_ each.2
    rcases max_choice start x with h | h <;> rw [h]
    · exact first
    · exact each.1

theorem isInside_of_pos {file : Bytes} {offset size : Nat} (inside : LiesInside file offset size)
    (positive : 0 < size) : isInside file offset size = true := by
  unfold LiesInside at inside
  simp only [isInside, Bool.and_eq_true, decide_eq_true_eq]
  omega

/-! ## Values among the entries -/

section Values

variable {entries : List LinkEntry} {tag : LinkTag} {value ended : Nat}

/-- The entry that ends the others gives no value. -/
theorem filter_ended (entries : List LinkEntry) (tag : LinkTag) (ended : Nat) :
    (entries ++ [(⟨0, ended⟩ : LinkEntry)]).filter (·.tag = tag.number) =
      entries.filter (·.tag = tag.number) := by
  have other : ¬ (0 = tag.number) := by cases tag <;> decide
  rw [List.filter_append, List.filter_cons_of_neg (by simpa using other), List.filter_nil,
    List.append_nil]

theorem linkValue?_of_gives (gives : Gives entries tag value)
    (once : ∀ other, Gives entries tag other → other = value) :
    linkValue? (entries ++ [⟨0, ended⟩]) tag = some value := by
  have found : (⟨tag.number, value⟩ : LinkEntry) ∈ entries.filter (·.tag = tag.number) :=
    List.mem_filter.2 ⟨gives, by simp⟩
  obtain ⟨⟨number, other⟩, last⟩ := Option.isSome_iff_exists.1
    (List.getLast?_isSome.2 (List.ne_nil_of_mem found))
  obtain ⟨mem, same⟩ := List.mem_filter.1 (List.mem_of_getLast? last)
  obtain rfl : number = tag.number := of_decide_eq_true same
  rw [linkValue?, filter_ended, last, Option.map_some, once other mem]

theorem linkValue?_of_givesNone (none_given : GivesNone entries tag) :
    linkValue? (entries ++ [⟨0, ended⟩]) tag = none := by
  have no_entry : entries.filter (·.tag = tag.number) = [] := by
    refine List.filter_eq_nil_iff.2 fun ⟨number, value⟩ mem same => ?_
    obtain rfl : number = tag.number := of_decide_eq_true same
    exact none_given value mem
  rw [linkValue?, filter_ended, no_entry]
  rfl

theorem gives_or_givesNone (entries : List LinkEntry) (tag : LinkTag) :
    (∃ value, Gives entries tag value) ∨ GivesNone entries tag := by
  rw [GivesNone, ← not_exists]
  exact Classical.em _

end Values

/-! ## Entries for a dynamic linker -/

theorem untilEnd_append {entries : List LinkEntry} (ordinary : ∀ e ∈ entries, e.tag ≠ 0)
    (ended : Nat) (behind : List LinkEntry) :
    untilEnd (entries ++ ⟨0, ended⟩ :: behind) = entries ++ [⟨0, ended⟩] := by
  induction entries with
  | nil => rfl
  | cons e rest ih =>
    rw [List.forall_mem_cons] at ordinary
    rw [List.cons_append, untilEnd, if_neg ordinary.1, ih ordinary.2]
    rfl

theorem exists_linkEntry {f : Format} {file : Bytes} {offset : Nat}
    (inside : LiesInside file offset (2 * f.wordSize)) :
    ∃ e, f.linkEntry? file offset = some e := by
  unfold LiesInside at inside
  obtain ⟨tag, read_tag⟩ : ∃ n, f.word? file offset = some n := ⟨_, if_pos (by omega)⟩
  obtain ⟨value, read_value⟩ : ∃ n, f.word? file (offset + f.wordSize) = some n :=
    ⟨_, if_pos (by omega)⟩
  refine ⟨⟨tag, value⟩, ?_⟩
  rw [Format.linkEntry?, read_tag, read_value]
  rfl

section

variable {l : Layout} {file : Bytes} {t : Tables}

theorem linkEntrySize_pos (f : Format) : 0 < 2 * f.wordSize := by
  unfold Format.wordSize
  split <;> decide

/-- An entry can be read wherever a segment has room for one, whatever it is. -/
theorem exists_linkEntry_of_lt {f : Format} {s : Segment}
    (inside : LiesInside file s.offset s.fileSize) {i : Nat}
    (room : i < s.fileSize / (2 * f.wordSize)) :
    ∃ e, f.linkEntry? file (s.offset + i * (2 * f.wordSize)) = some e := by
  have behind := (Nat.le_div_iff_mul_le (linkEntrySize_pos f)).1 (Nat.succ_le_of_lt room)
  rw [Nat.succ_mul] at behind
  apply exists_linkEntry
  unfold LiesInside at inside ⊢
  omega

theorem linkEntries?_of_hasLinkEntries (holds : t.Holds l file) {s : Segment}
    {entries : List LinkEntry} (found : l.segments.find? (·.type = linkEntriesType) = some s)
    (has : l.HasLinkEntries file s entries) :
    ∃ ended, t.linkEntries? file = some (some (entries ++ [⟨0, ended⟩])) := by
  obtain ⟨inside, room, ordinary, ended, stand⟩ := has
  have entry_pos := linkEntrySize_pos l.format
  let read? (i : Nat) := l.format.linkEntry? file (s.offset + i * (2 * l.format.wordSize))
  have read : (List.range (entries.length + 1)).mapM read? =
      some (entries ++ [⟨0, ended⟩]) := by
    rw [show entries.length + 1 = (entries ++ [(⟨0, ended⟩ : LinkEntry)]).length by simp]
    exact mapM_range fun i e at_i => linkEntry?_of_hasFields (stand i e at_i)
  obtain ⟨others, count⟩ : ∃ others, s.fileSize / (2 * l.format.wordSize) =
      entries.length + 1 + others :=
    Nat.exists_eq_add_of_le ((Nat.le_div_iff_mul_le entry_pos).2 room)
  -- what stands behind the end is read as well, whatever it is
  have each_other : ∀ i ∈ (List.range others).map (entries.length + 1 + ·),
      ∃ e, read? i = some e ∧ True := by
    intro i mem
    obtain ⟨j, below, rfl⟩ := List.mem_map.1 mem
    have below_all : entries.length + 1 + j < s.fileSize / (2 * l.format.wordSize) := by
      rw [count]
      exact Nat.add_lt_add_left (List.mem_range.1 below) _
    obtain ⟨e, read_one⟩ := exists_linkEntry_of_lt inside below_all
    exact ⟨e, read_one, trivial⟩
  obtain ⟨behind, read_others, -⟩ := exists_mapM each_other
  have all_read : (List.range (s.fileSize / (2 * l.format.wordSize))).mapM read? =
      some (entries ++ ⟨0, ended⟩ :: behind) := by
    rw [count, List.range_add, List.mapM_append, read, read_others,
      List.append_cons entries ⟨0, ended⟩ behind]
    rfl
  have some_bytes : 0 < s.fileSize :=
    Nat.lt_of_lt_of_le (Nat.mul_pos (Nat.succ_pos _) entry_pos) room
  refine ⟨ended, ?_⟩
  rw [Tables.linkEntries?, holds.segments, found]
  simp only [holds.format, isInside_of_pos inside some_bytes, or_true, if_true]
  show ((List.range _).mapM read?).bind _ = _
  rw [all_read, Option.bind_some, untilEnd_append ordinary]
  rfl

/-! ## Where the entries lead -/

theorem fileOffset?_of_loads (holds : t.Holds l file) {address offset : Nat}
    (loads : l.Loads address offset) : t.fileOffset? address = some offset := by
  obtain ⟨⟨s, mem, covers⟩, agree, bounded⟩ := loads
  have covers_iff (s : Segment) : s.Covers address ↔ (s.type = loadedType ∧ s.address ≤ address ∧
      address - s.address < s.memorySize) := by
    unfold Segment.Covers
    omega
  obtain ⟨first, found⟩ := Option.isSome_iff_exists.1 (List.find?_isSome.2
    ⟨s, mem, by simpa using (covers_iff s).1 covers⟩ : (l.segments.find? fun s =>
      s.type = loadedType ∧ s.address ≤ address ∧ address - s.address < s.memorySize).isSome)
  have first_covers := (covers_iff first).2 (by simpa using List.find?_some found)
  rw [Tables.fileOffset?, holds.segments, found]
  simp only [bind, Option.bind_some, agree first (List.mem_of_find?_eq_some found) first_covers,
    if_pos bounded]

variable {entries : List LinkEntry} {ended symbolCount : Nat}

section Leads

variable (tables : l.HasLinkTables file entries symbolCount) {tag : LinkTag} {address offset : Nat}

include tables

theorem linkValue?_eq (ordinary : tag ≠ .library) {value : Nat} (gives : Gives entries tag value) :
    linkValue? (entries ++ [⟨0, ended⟩]) tag = some value :=
  linkValue?_of_gives gives fun other also => tables.once tag other value ordinary also gives

theorem linkOffset_eq (holds : t.Holds l file) (ordinary : tag ≠ .library)
    (gives : Gives entries tag address) (loads : l.Loads address offset) :
    t.linkOffset (entries ++ [⟨0, ended⟩]) tag = offset := by
  rw [Tables.linkOffset, linkValue?_eq tables ordinary gives, Option.bind_some,
    fileOffset?_of_loads holds loads]
  rfl

theorem linkNumber_eq (ordinary : tag ≠ .library) {value : Nat} (gives : Gives entries tag value) :
    linkNumber (entries ++ [⟨0, ended⟩]) tag = value := by
  rw [linkNumber, linkValue?_eq tables ordinary gives]
  rfl

end Leads

theorem linkNumber_of_givesNone {tag : LinkTag} (none_given : GivesNone entries tag) :
    linkNumber (entries ++ [⟨0, ended⟩]) tag = 0 := by
  rw [linkNumber, linkValue?_of_givesNone none_given]
  rfl

theorem linkOffset_of_givesNone {tag : LinkTag} (none_given : GivesNone entries tag) :
    t.linkOffset (entries ++ [⟨0, ended⟩]) tag = 0 := by
  rw [Tables.linkOffset, linkValue?_of_givesNone none_given]
  rfl

/-! ## Strings and relocations -/

theorem exists_linkStrings (holds : t.Holds l file)
    (tables : l.HasLinkTables file entries symbolCount) :
    (t.linkStrings? file (entries ++ [⟨0, ended⟩])).isSome := by
  rw [Tables.linkStrings?]
  rcases tables.strings with ⟨no_table, no_size⟩ |
    ⟨address, size, offset, gives, gives_size, loads, inside, strings⟩
  · rw [linkOffset_of_givesNone no_table, linkNumber_of_givesNone no_size]
    have no_bytes : Bytes.slice file 0 0 = #[] := by simp [Bytes.slice]
    rw [StringTable.ofFile?, if_pos (Nat.zero_le _), no_bytes]
    rfl
  · rw [linkOffset_eq tables holds (by decide) gives loads,
      linkNumber_eq tables (by decide) gives_size]
    obtain ⟨names, read, -⟩ := stringTable_ofFile?_of_isStringTable inside strings
    rw [read]
    rfl

variable (ended)

/-- The index refers to a symbol that there is, or to none. -/
def RefersBelow (symbolCount index : Nat) : Prop := index = 0 ∨ index < symbolCount

theorem exists_relocatedSymbols (holds : t.Holds l file)
    (tables : l.HasLinkTables file entries symbolCount) {start size : LinkTag} {addend : Bool}
    (ordinary : start ≠ .library ∧ size ≠ .library)
    (has : l.HasLinkRelocations file entries symbolCount start size addend) :
    ∃ indices, relocatedSymbols? t.format file (t.linkOffset (entries ++ [⟨0, ended⟩]) start)
        (linkNumber (entries ++ [⟨0, ended⟩]) size) addend = some indices ∧
      ∀ index ∈ indices, RefersBelow symbolCount index := by
  rw [relocatedSymbols?, holds.format]
  rcases gives_or_givesNone entries size with ⟨total, gives_size⟩ | no_size
  · rw [linkNumber_eq tables ordinary.2 gives_size]
    by_cases nothing : total = 0
    · exact ⟨[], if_pos nothing, by simp⟩
    · obtain ⟨address, offset, gives, loads, inside, each⟩ :=
        (has total gives_size).resolve_left nothing
      rw [if_neg nothing, linkOffset_eq tables holds ordinary.1 gives loads,
        if_pos (isInside_of_pos inside (Nat.pos_of_ne_zero nothing))]
      refine exists_mapM fun i mem => ?_
      obtain ⟨index, below, relocation⟩ := each i (List.mem_range.1 mem)
      obtain ⟨info, read, index_eq⟩ := Option.map_eq_some_iff.1
        (symbolIndex_of_hasRelocation relocation)
      refine ⟨index, ?_, below⟩
      rw [read]
      exact congrArg some index_eq
  · rw [linkNumber_of_givesNone no_size]
    exact ⟨[], if_pos rfl, by simp⟩

/-! ## The number of symbols -/

theorem HasFields.number? {f : Format} {offset width value : Nat}
    (fields : HasFields f file offset [(width, value)]) :
    f.number? file offset width = some value ∧ offset + width ≤ file.size :=
  ⟨fields.cons.1, fields.cons.2.1⟩

section Chains

variable {f : Format} {offset : Nat} {h : ChainHeader}

/-- A chain ends at one of the symbols there are. -/
theorem exists_chainEnd (has : f.HasChains file offset symbolCount h) {i : Nat}
    (first_le : h.first ≤ i) (below : i < symbolCount) :
    ∃ count, chainEnd? f file (offset + 16 + h.filters * f.wordSize + 4 * h.buckets +
      4 * (i - h.first)) i = some count ∧ count ≤ symbolCount := by
  induction left : symbolCount - i generalizing i with
  | zero => omega
  | succ left ih =>
    obtain ⟨link, last_odd, fields⟩ := has.links i first_le below
    obtain ⟨read, inside⟩ := fields.number?
    rw [chainEnd?, dif_pos inside, read]
    by_cases odd : link % 2 = 1
    · exact ⟨i + 1, if_pos odd, below⟩
    · have not_last : i + 1 ≠ symbolCount := fun last => odd (last_odd last)
      have next := ih (i := i + 1) (by omega) (by omega) (by omega)
      rw [show 4 * (i + 1 - h.first) = 4 * (i - h.first) + 4 by omega, ← Nat.add_assoc] at next
      simpa only [if_neg odd] using next

theorem exists_chainedCount (has : f.HasChains file offset symbolCount h) :
    ∃ count, chainedCount? f file offset = some count ∧ count ≤ symbolCount := by
  obtain ⟨buckets, -, fields⟩ := has.header.cons
  obtain ⟨first, -, fields⟩ := fields.cons
  obtain ⟨filters, -, -⟩ := fields.cons
  have full : ¬ (h.buckets = 0 ∨ h.first = 0 ∨ h.filters = 0) := by
    have := has.buckets_pos
    have := has.first_pos
    have := has.filters_pos
    omega
  have room : ¬ file.size < offset + 16 + h.filters * f.wordSize + 4 * h.buckets := by
    obtain ⟨_, -, fields⟩ := has.heads (h.buckets - 1) (by have := has.buckets_pos; omega)
    have inside := fields.number?.2
    have := has.buckets_pos
    omega
  have each_head : ∀ i ∈ List.range h.buckets, ∃ head,
      f.number? file (offset + 16 + h.filters * f.wordSize + 4 * i) 4 = some head ∧
        (head = 0 ∨ h.first ≤ head ∧ head < symbolCount) := by
    intro i mem
    obtain ⟨head, head_ok, fields⟩ := has.heads i (List.mem_range.1 mem)
    exact ⟨head, fields.number?.1, head_ok⟩
  obtain ⟨heads, read_heads, heads_ok⟩ := exists_mapM each_head
  have last_ok := foldl_max_of_forall (.inl rfl) heads_ok
  rw [chainedCount?, buckets]
  simp only [bind, Option.bind_some, first, filters, if_neg full, if_neg room]
  rw [read_heads, Option.bind_some]
  by_cases none_chained : heads.foldl max 0 < h.first
  · exact ⟨0, if_pos none_chained, Nat.zero_le _⟩
  · rw [if_neg none_chained]
    have positive := has.first_pos
    exact exists_chainEnd has (by omega) (by omega)

end Chains

theorem exists_hashSymbolCount (holds : t.Holds l file)
    (tables : l.HasLinkTables file entries symbolCount) :
    ∃ hashed, t.hashSymbolCount? file (entries ++ [⟨0, ended⟩]) = some hashed ∧
      hashed ≤ symbolCount := by
  simp only [Tables.hashSymbolCount?]
  rcases gives_or_givesNone entries .chainedHashTable with ⟨address, gives⟩ | no_chains
  · obtain ⟨offset, h, loads, has⟩ := tables.chains address gives
    rw [linkValue?_eq tables (by decide) gives, Option.bind_some, fileOffset?_of_loads holds loads,
      holds.format]
    exact exists_chainedCount has
  · rw [linkValue?_of_givesNone no_chains]
    rcases gives_or_givesNone entries .hashTable with ⟨address, gives⟩ | no_table
    · obtain ⟨offset, loads, fields, narrow⟩ := tables.hashed address gives
      have four : l.hashWordSize = 4 :=
        narrow.resolve_right fun ⟨chains, given⟩ => no_chains chains given
      rw [four] at fields
      have width : (if t.format.wide ∧ t.machine ∈ wideHashMachines then 8 else 4) = 4 := by
        rw [holds.format, holds.machine]
        exact four
      rw [linkValue?_eq tables (by decide) gives, Option.bind_some,
        fileOffset?_of_loads holds loads]
      refine ⟨symbolCount, ?_, le_rfl⟩
      show t.hashedCount? file offset = _
      rw [Tables.hashedCount?, width, holds.format]
      exact fields.number?.1
    · rw [linkValue?_of_givesNone no_table]
      exact ⟨0, rfl, Nat.zero_le _⟩

theorem jumpsHaveAddends_eq (tables : l.HasLinkTables file entries symbolCount) :
    decide (linkNumber (entries ++ [⟨0, ended⟩]) .jumpRelocationKind =
      LinkTag.addendRelocations.number) = jumpsHaveAddends entries := by
  have any_iff : jumpsHaveAddends entries ↔
      Gives entries .jumpRelocationKind LinkTag.addendRelocations.number := by
    simp [jumpsHaveAddends, Gives]
  rw [Bool.eq_iff_iff, any_iff, decide_eq_true_iff]
  rcases gives_or_givesNone entries .jumpRelocationKind with ⟨kind, gives⟩ | no_kind
  · rw [linkNumber_eq tables (by decide) gives]
    exact ⟨fun addend => addend ▸ gives, fun addend => tables.once _ _ _ (by decide) gives addend⟩
  · rw [linkNumber_of_givesNone no_kind]
    exact ⟨nofun, fun addend => absurd addend (no_kind _)⟩

theorem exists_linkSymbolCount (holds : t.Holds l file)
    (tables : l.HasLinkTables file entries symbolCount) :
    ∃ count, t.linkSymbolCount? file (entries ++ [⟨0, ended⟩]) = some count ∧
      count ≤ symbolCount := by
  obtain ⟨withAddend, read_withAddend, withAddend_ok⟩ := exists_relocatedSymbols ended
    holds tables (by decide) tables.addendRelocations
  obtain ⟨plain, read_plain, plain_ok⟩ := exists_relocatedSymbols ended
    holds tables (by decide) tables.relocations
  obtain ⟨jumps, read_jumps, jumps_ok⟩ := exists_relocatedSymbols ended
    holds tables (by decide) tables.jumpRelocations
  obtain ⟨hashed, read_hashed, hashed_le⟩ := exists_hashSymbolCount ended holds tables
  have greatest_ok : RefersBelow symbolCount ((withAddend ++ plain ++ jumps).foldl max 0) := by
    refine foldl_max_of_forall (.inl rfl) fun index mem => ?_
    rcases List.mem_append.1 mem with mem | mem
    · rcases List.mem_append.1 mem with mem | mem
      · exact withAddend_ok index mem
      · exact plain_ok index mem
    · exact jumps_ok index mem
  rw [← jumpsHaveAddends_eq ended tables] at read_jumps
  generalize greatest_eq : (withAddend ++ plain ++ jumps).foldl max 0 = greatest at greatest_ok
  refine ⟨if greatest = 0 then hashed else max hashed (greatest + 1), ?_, ?_⟩
  · rw [Tables.linkSymbolCount?]
    simp only [bind, read_withAddend, read_plain, read_jumps, read_hashed, Option.bind_some,
      greatest_eq]
    rfl
  · split
    · exact hashed_le
    · next refers => exact Nat.max_le.2 ⟨hashed_le, greatest_ok.resolve_left refers⟩

/-! ## Whole linkage -/

theorem hasWholeEntries_of_hasLinkage (holds : t.Holds l file) (nonempty : 0 < file.size)
    (has : l.HasLinkage file) : t.hasWholeEntries file = true := by
  rw [Tables.hasWholeEntries]
  cases found : l.segments.find? (·.type = linkEntriesType) with
  | none =>
    rw [Tables.linkEntries?, holds.segments, found]
  | some s =>
    obtain ⟨entries, symbolCount, stand, tables⟩ := has.entries s found
    obtain ⟨ended, read⟩ := linkEntries?_of_hasLinkEntries holds found stand
    obtain ⟨count, counted, count_le⟩ := exists_linkSymbolCount ended holds tables
    rw [read]
    simp only [exists_linkStrings holds tables, counted, Option.any_some, Bool.true_and]
    rcases tables.symbols with ⟨no_table, rfl⟩ |
      ⟨address, offset, gives, loads, some_symbol, inside⟩
    · obtain rfl := Nat.le_zero.1 count_le
      rw [linkOffset_of_givesNone no_table, Nat.zero_mul]
      simpa [isInside] using nonempty
    · have symbol_pos : 0 < l.format.symbolSize := by
        unfold Format.symbolSize
        split <;> decide
      have room := Nat.mul_pos some_symbol symbol_pos
      have fewer := Nat.mul_le_mul_right l.format.symbolSize count_le
      unfold LiesInside at inside
      rw [linkOffset_eq tables holds (by decide) gives loads, holds.format]
      simp only [isInside, Bool.and_eq_true, decide_eq_true_eq]
      omega

theorem firstOfType_of_forall {type : Nat} {p : Section → Bool}
    (each : ∀ s ∈ t.sections, s.type = type → p s = true) : t.firstOfType type p = true := by
  rw [Tables.firstOfType]
  cases found : t.sections.find? (·.type = type) with
  | none => rfl
  | some s =>
    exact each s (List.mem_of_find?_eq_some found) (by simpa using List.find?_some found)

theorem hasWholeSections_of_hasLinkage (holds : t.Holds l file) (has : l.HasLinkage file) :
    t.hasWholeSections file = true := by
  have relocations : t.sections.all
      (fun s => s.type ∉ relocationTypes || s.isWhole file) = true := by
    rw [holds.sections, List.all_eq_true]
    intro s mem
    by_cases type : s.type ∈ relocationTypes
    · rcases has.relocations s mem type with nothing | whole
      · simp [Section.isWhole, nothing]
      · simp [whole.isWhole]
    · simp [type]
  have versions :
      t.firstOfType symbolVersionType (fun s => isInside file s.offset s.size) = true := by
    refine firstOfType_of_forall fun s mem type => ?_
    obtain ⟨some_bytes, inside⟩ := has.versions s (holds.sections ▸ mem) (by simp [type])
    exact isInside_of_pos inside some_bytes
  have definitions : versionTypes.all
      (fun type => t.firstOfType type (t.hasWholeVersions file)) = true := by
    refine List.all_eq_true.2 fun type version => firstOfType_of_forall fun s mem same => ?_
    rw [holds.sections] at mem
    subst same
    obtain ⟨some_bytes, inside⟩ := has.versions s mem (List.mem_cons_of_mem _ version)
    obtain ⟨strings, found, some_names, names_inside⟩ := has.versionNames s mem version
    rw [Tables.hasWholeVersions, holds.sections, found]
    simp only [isInside_of_pos inside some_bytes, isInside_of_pos names_inside some_names,
      Bool.and_self]
  rw [Tables.hasWholeSections, relocations, versions, definitions]
  rfl

end

/-- The reader reads well-formed files as the format says. -/
theorem reader_readsFormat : reader.ReadsFormat := by
  intro l file wellFormed
  obtain ⟨t, read, holds⟩ := ofFile?_of_isWellFormed wellFormed
  have nonempty : 0 < file.size := by
    have header := (number?_of_header wellFormed.header).1
    unfold Format.headerSize at header
    split at header <;> omega
  have linked : t.hasWholeLinkage file = true := by
    rw [Tables.hasWholeLinkage, hasWholeEntries_of_hasLinkage holds nonempty wellFormed.linkage,
      hasWholeSections_of_hasLinkage holds wellFormed.linkage]
    rfl
  refine ⟨t.contents, ?_, holds.tells⟩
  show ((Tables.ofFile? file).filter _).map _ = _
  rw [read, Option.filter_some, if_pos linked]
  rfl

end BareMetal.ObjectFile
