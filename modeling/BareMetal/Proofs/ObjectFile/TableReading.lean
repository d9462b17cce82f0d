import BareMetal.ObjectFile.Reading
import BareMetal.Proofs.ObjectFile.Fields

/-!
# Reading the tables of a layout

The reader finds in a well-formed file the tables of its layout (`ofFile?_of_isWellFormed`), and
what it tells of them is what they hold (`Holds.tells`).
-/

namespace BareMetal.ObjectFile

section

variable {l : Layout} {file : Bytes}

/-! ## Tables of headers and entries -/

theorem sections?_of_hasSections (has : l.HasSections file) :
    sections? l.format file l.header.sectionOffset l.header.sectionCount = some l.sections := by
  obtain ⟨present, -, count, entries, strings, found, -⟩ := has
  obtain ⟨first, rest, sections_eq⟩ : ∃ first rest, l.sections = first :: rest :=
    List.exists_cons_of_ne_nil fun none => by simp [none] at found
  rw [sections_eq] at count entries ⊢
  -- the count of all is known only once the first section has been read
  obtain ⟨read_first, -⟩ := section?_of_hasSection (entries 0 first rfl)
  have counted : (if l.header.sectionCount = 0 then first.size else l.header.sectionCount) =
      rest.length + 1 := by
    rcases count with direct | ⟨zero, size⟩
    · rw [direct, List.length_cons, if_neg (Nat.succ_ne_zero _)]
    · rw [if_pos zero]
      exact Option.some.inj size
  have inside : l.header.sectionOffset + (rest.length + 1) * l.format.sectionHeaderSize ≤
      file.size := by
    obtain ⟨last, last_eq⟩ : ∃ last, (first :: rest)[rest.length]? = some last :=
      ⟨_, List.getElem?_eq_getElem (by simp)⟩
    have last_inside := (section?_of_hasSection (entries _ last last_eq)).2
    rw [Nat.succ_mul, ← Nat.add_assoc]
    exact last_inside
  have others : (List.range rest.length).mapM (fun i => l.format.section? file
      (l.header.sectionOffset + (i + 1) * l.format.sectionHeaderSize)) = some rest :=
    mapM_range fun i s found => (section?_of_hasSection (entries (i + 1) s found)).1
  rw [Nat.zero_mul, Nat.add_zero] at read_first
  rw [sections?, if_neg present, read_first]
  simp only [bind, Option.bind_some, counted, if_pos inside, Nat.add_sub_cancel]
  rw [others]
  rfl

/-- Entries of one size that all lie inside the file do so together. -/
theorem inside_of_last {α : Type} {xs : List α} {start size : Nat} (nonempty : xs ≠ [])
    (each : ∀ i x, xs[i]? = some x → start + i * size + size ≤ file.size) :
    start + xs.length * size ≤ file.size := by
  have length_pos := List.length_pos_iff.2 nonempty
  have last := each (xs.length - 1) _ (List.getElem?_eq_getElem (by omega))
  rwa [Nat.add_assoc, ← Nat.succ_mul, Nat.succ_eq_add_one, Nat.sub_add_cancel length_pos] at last

theorem segments?_of_hasSegments (has : l.HasSegments file) :
    segments? l.format file l.header.programOffset l.header.programCount = some l.segments := by
  rw [segments?, has.count]
  split
  next none =>
    rw [List.length_eq_zero_iff.1 none]
  next some_segment =>
    have nonempty : l.segments ≠ [] := fun none => some_segment (by simp [none])
    rw [if_pos (inside_of_last nonempty fun i s found =>
      (segment?_of_hasSegment (has.entries i s found)).2)]
    exact mapM_range fun i s found => (segment?_of_hasSegment (has.entries i s found)).1

theorem symbols?_of_hasSymbols {table : Section} (has : l.HasSymbols file table) :
    symbols? l.format file table = some l.symbols := by
  have positive : 0 < l.format.symbolSize := by
    unfold Format.symbolSize
    split <;> decide
  have counted : (if table.entrySize = 0 then 0 else table.size / table.entrySize) =
      l.symbols.length := by
    rw [has.entrySize, has.size, if_neg (Nat.ne_of_gt positive), Nat.mul_div_cancel _ positive]
  have whole : isInside file table.offset (l.symbols.length * l.format.symbolSize) = true := by
    have inside := inside_of_last has.nonempty fun i s found =>
      (symbol?_of_hasSymbol (has.entries i s found)).2
    have room := Nat.mul_pos (List.length_pos_iff.2 has.nonempty) positive
    simp only [isInside, Bool.and_eq_true, decide_eq_true_eq]
    omega
  rw [symbols?]
  simp only [counted, whole, if_true]
  exact mapM_range fun i s found => (symbol?_of_hasSymbol (has.entries i s found)).1

/-! ## String tables -/

/-- The names in a table of the file are those of some bytes. -/
def ReadsNames (t : StringTable) (content : Bytes) : Prop :=
  ∀ offset name, StringTable.HasName content offset name →
    ((t.name? offset).map String.ofList).getD "" = name

theorem stringTable_ofFile?_of_isStringTable {offset size : Nat}
    (inside : LiesInside file offset size)
    (strings : StringTable.IsStringTable (Bytes.slice file offset size)) :
    ∃ t, StringTable.ofFile? file offset size = some t ∧
      ReadsNames t (Bytes.slice file offset size) := by
  obtain ⟨t, read, names⟩ := StringTable.ofBytes?_names strings
  exact ⟨t, (if_pos inside).trans read, names⟩

theorem Section.LiesWhole.isWhole {s : Section} (whole : s.LiesWhole file) :
    s.isWhole file = true := by
  have inside : s.offset + s.size ≤ file.size := whole.inside
  simp [Section.isWhole, inside, whole.addresses]

theorem stringTable?_of_holdsStrings {headers : List Section} {index : Nat} {strings : Section}
    (found : headers[if index = extendedIndex then (headers.head?.map (·.link)).getD index
      else index]? = some strings)
    (holds : strings.HoldsStrings file) :
    ∃ t, stringTable? file headers index = some t ∧ ReadsNames t (strings.content file) := by
  obtain ⟨t, read, names⟩ := stringTable_ofFile?_of_isStringTable holds.inside holds.strings
  refine ⟨t, ?_, names⟩
  rw [stringTable?, found]
  simp only [holds.toLiesWhole.isWhole, if_true, read]

/-! ## All tables -/

/-- The tables of a file are those of a layout. -/
structure Tables.Holds (t : Tables) (l : Layout) (file : Bytes) : Prop where
  format : t.format = l.format
  machine : t.machine = l.header.machine
  segments : t.segments = l.segments
  sections : t.sections = l.sections
  sectionNames : ∀ strings, l.NamesSections strings →
    ReadsNames t.sectionNames (strings.content file)
  symbols : t.symbols = l.symbols
  symbolNames : ∀ strings, l.NamesSymbols strings →
    ReadsNames t.symbolNames (strings.content file)

theorem Tables.Holds.tells {t : Tables} (holds : t.Holds l file) : t.contents.Tells l file where
  sections := by rw [contents, holds.sections, Layout.sectionEntries]
  sectionNames := holds.sectionNames
  symbols := by rw [contents, holds.symbols, Layout.symbolEntries]
  symbolNames := holds.symbolNames

theorem sections?_of_isWellFormed (wellFormed : l.IsWellFormed file) :
    ∃ t, sections? l.format file l.header.sectionOffset l.header.sectionCount = some l.sections ∧
      stringTable? file l.sections l.header.namesIndex = some t ∧
      ∀ strings, l.NamesSections strings → ReadsNames t (strings.content file) := by
  rcases wellFormed.sections with ⟨absent, no_sections⟩ | has
  · refine ⟨.empty, ?_, ?_, fun strings names => ?_⟩
    · rw [sections?, if_pos absent, no_sections]
    · rw [stringTable?, no_sections]
      rfl
    · simp [Layout.NamesSections, no_sections] at names
  · obtain ⟨strings, found, holds⟩ := has.names
    have resolved : l.sections[if l.header.namesIndex = extendedIndex then
        (l.sections.head?.map (·.link)).getD l.header.namesIndex else l.header.namesIndex]? =
        some strings := by
      rw [← found, Layout.namesIndex]
      by_cases extended : l.header.namesIndex = extendedIndex
      · rw [if_pos extended, if_pos extended, extended]
      · rw [if_neg extended, if_neg extended]
    obtain ⟨t, read, names⟩ := stringTable?_of_holdsStrings resolved holds
    refine ⟨t, sections?_of_hasSections has, read, fun other names_other => ?_⟩
    obtain rfl := Option.some.inj (found.symm.trans names_other)
    exact names

theorem filter_symbolTables {before after : List Section} {table : Section}
    (type : table.type = symbolTableType)
    (only : ∀ s ∈ before ++ after, s.type ≠ symbolTableType) :
    (before ++ table :: after).filter (·.type = symbolTableType) = [table] := by
  have none_before : before.filter (·.type = symbolTableType) = [] :=
    List.filter_eq_nil_iff.2 fun s mem => by simpa using only s (by simp [mem])
  have none_after : after.filter (·.type = symbolTableType) = [] :=
    List.filter_eq_nil_iff.2 fun s mem => by simpa using only s (by simp [mem])
  rw [List.filter_append, none_before, List.filter_cons_of_pos (by simpa using type), none_after]
  rfl

theorem symbolTable?_of_isWellFormed (wellFormed : l.IsWellFormed file) :
    ∃ t, symbolTable? l.format file l.sections = some (l.symbols, t) ∧
      ∀ strings, l.NamesSymbols strings → ReadsNames t (strings.content file) := by
  rcases wellFormed.symbols with ⟨no_table, no_symbols⟩ | ⟨before, table, after, all, only, has⟩
  · have filtered : l.sections.filter (·.type = symbolTableType) = [] :=
      List.filter_eq_nil_iff.2 fun s mem => by simpa using no_table s mem
    refine ⟨.empty, ?_, ?_⟩
    · rw [symbolTable?, filtered, no_symbols]
      rfl
    · rintro strings ⟨table, mem, type, -⟩
      exact absurd type (no_table table mem)
  · obtain ⟨strings, found, holds⟩ := has.names
    have filtered : l.sections.filter (·.type = symbolTableType) = [table] := by
      rw [all, filter_symbolTables has.type only]
    have direct : l.sections[if table.link = extendedIndex then
        (l.sections.head?.map (·.link)).getD table.link else table.link]? = some strings := by
      rw [if_neg has.direct]
      exact found
    obtain ⟨t, read, names⟩ := stringTable?_of_holdsStrings direct holds
    refine ⟨t, ?_, ?_⟩
    · rw [symbolTable?, filtered]
      simp only [List.getLast?_singleton, symbols?_of_hasSymbols has, read]
      rfl
    · rintro other ⟨table', mem, type, found'⟩
      have same : table' ∈ [table] := filtered ▸ List.mem_filter.2 ⟨mem, by simpa using type⟩
      obtain rfl := List.mem_singleton.1 same
      obtain rfl := Option.some.inj (found.symm.trans found')
      exact names

theorem ofFile?_of_isWellFormed (wellFormed : l.IsWellFormed file) :
    ∃ t, Tables.ofFile? file = some t ∧ t.Holds l file := by
  obtain ⟨sectionNames, sections_read, section_names_read, section_names⟩ :=
    sections?_of_isWellFormed wellFormed
  obtain ⟨symbolNames, symbols_read, symbol_names⟩ := symbolTable?_of_isWellFormed wellFormed
  obtain ⟨whole, machine, programOffset, sectionOffset, programCount, sectionCount, namesIndex⟩ :=
    number?_of_header wellFormed.header
  have long : 16 ≤ file.size := by
    refine Nat.le_trans ?_ whole
    unfold Format.headerSize
    split <;> decide
  refine ⟨⟨l.format, l.header.machine, l.segments, l.sections, sectionNames, l.symbols,
    symbolNames⟩, ?_, ⟨rfl, rfl, rfl, rfl, section_names, rfl, symbol_names⟩⟩
  rw [Tables.ofFile?, identify?_of_standsAt long wellFormed.identification]
  simp only [bind, Option.bind_some, if_neg (Nat.not_lt.2 whole), machine, programOffset,
    sectionOffset, programCount, sectionCount, namesIndex,
    segments?_of_hasSegments wellFormed.segments, sections_read, section_names_read, symbols_read]
  rfl

end

end BareMetal.ObjectFile
