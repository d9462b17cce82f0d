import BareMetal.Proofs.ObjectFile.Layout

/-!
# Reading the fields of an object file

Numbers that stand in a file are read as such, one behind the other, and so are the headers and
entries that are made of them.
-/

namespace BareMetal.ObjectFile

/-! ## Lists of entries -/

theorem mapM_range {α : Type} {read : Nat → Option α} {xs : List α}
    (each : ∀ i x, xs[i]? = some x → read i = some x) :
    (List.range xs.length).mapM read = some xs := by
  induction xs generalizing read with
  | nil => rfl
  | cons x rest ih =>
    have others : (List.range rest.length).mapM (fun i => read (i + 1)) = some rest :=
      ih fun i y found => each (i + 1) y found
    have shifted : (List.range rest.length).mapM (read ∘ Nat.succ) = some rest := others
    rw [List.length_cons, List.range_succ_eq_map, List.mapM_cons, each 0 x rfl, List.mapM_map,
      shifted]
    rfl

/-- What can be read of each is read of all. -/
theorem exists_mapM {α β : Type} {read : α → Option β} {P : β → Prop} {xs : List α}
    (each : ∀ x ∈ xs, ∃ y, read x = some y ∧ P y) :
    ∃ ys, xs.mapM read = some ys ∧ ∀ y ∈ ys, P y := by
  induction xs with
  | nil => exact ⟨[], rfl, by simp⟩
  | cons x rest ih =>
    obtain ⟨y, first, holds⟩ := each x (by simp)
    obtain ⟨ys, others, all_hold⟩ := ih fun z mem => each z (by simp [mem])
    rw [List.mapM_cons, first, others]
    exact ⟨y :: ys, rfl, List.forall_mem_cons.2 ⟨holds, all_hold⟩⟩

/-! ## Numbers -/

theorem Format.numbers_cons (f : Format) (width value : Nat) (rest : List (Nat × Nat)) :
    f.numbers ((width, value) :: rest) = f.order.toBytes width value ++ f.numbers rest := by
  simp [Format.numbers]

section

variable {f : Format} {file : Bytes} {offset : Nat}

theorem number?_of_standsAt {width value : Nat} (small : value < 256 ^ width)
    (stands : StandsAt file offset (f.order.toBytes width value)) :
    f.number? file offset width = some value := by
  obtain ⟨inside, content⟩ := stands
  rw [Endian.size_toBytes] at inside content
  rw [Format.number?, Endian.read?, if_pos inside, content, Endian.toNat_toBytes]
  exact congrArg some (Nat.mod_eq_of_lt small)

theorem HasFields.cons {width value : Nat} {rest : List (Nat × Nat)}
    (fields : HasFields f file offset ((width, value) :: rest)) :
    f.number? file offset width = some value ∧ offset + width ≤ file.size ∧
      HasFields f file (offset + width) rest := by
  obtain ⟨small, stands⟩ := fields
  rw [Format.numbers_cons] at stands
  obtain ⟨first, others⟩ := stands.append
  have inside := first.1
  rw [Endian.size_toBytes] at inside others
  exact ⟨number?_of_standsAt (small _ List.mem_cons_self) first, inside,
    fun field mem => small field (List.mem_cons_of_mem _ mem), others⟩

/-! ## Headers and entries -/

theorem section?_of_hasSection {s : Section} (has : f.HasSection file offset s) :
    f.section? file offset = some s ∧ offset + f.sectionHeaderSize ≤ file.size := by
  obtain ⟨flags, info, alignment, fields⟩ := has
  obtain ⟨name, -, fields⟩ := fields.cons
  obtain ⟨type, -, fields⟩ := fields.cons
  obtain ⟨-, -, fields⟩ := fields.cons
  obtain ⟨address, -, fields⟩ := fields.cons
  obtain ⟨start, -, fields⟩ := fields.cons
  obtain ⟨size, -, fields⟩ := fields.cons
  obtain ⟨link, -, fields⟩ := fields.cons
  obtain ⟨-, -, fields⟩ := fields.cons
  obtain ⟨-, -, fields⟩ := fields.cons
  obtain ⟨entrySize, inside, -⟩ := fields.cons
  obtain ⟨wide, order⟩ := f
  cases wide with
  | true =>
    simp only [Format.wordSize, if_true, Nat.add_assoc, Nat.reduceAdd] at *
    have whole : offset + Format.sectionHeaderSize ⟨true, order⟩ ≤ file.size := inside
    refine ⟨?_, whole⟩
    simp only [Format.section?, if_pos whole, if_true, Nat.add_zero, name, type, address, start,
      size, link, entrySize]
    rfl
  | false =>
    simp only [Format.wordSize, Bool.false_eq_true, if_false, Nat.add_assoc, Nat.reduceAdd] at *
    have whole : offset + Format.sectionHeaderSize ⟨false, order⟩ ≤ file.size := inside
    refine ⟨?_, whole⟩
    simp only [Format.section?, if_pos whole, Bool.false_eq_true, if_false, Nat.add_zero, name,
      type, address, start, size, link, entrySize]
    rfl

theorem segment?_of_hasSegment {s : Segment} (has : f.HasSegment file offset s) :
    f.segment? file offset = some s ∧ offset + f.programHeaderSize ≤ file.size := by
  obtain ⟨physical, flags, alignment, fields⟩ := has
  obtain ⟨wide, order⟩ := f
  cases wide with
  | true =>
    obtain ⟨type, -, fields⟩ := fields.cons
    obtain ⟨-, -, fields⟩ := fields.cons
    obtain ⟨start, -, fields⟩ := fields.cons
    obtain ⟨address, -, fields⟩ := fields.cons
    obtain ⟨-, -, fields⟩ := fields.cons
    obtain ⟨fileSize, -, fields⟩ := fields.cons
    obtain ⟨memorySize, -, fields⟩ := fields.cons
    obtain ⟨-, inside, -⟩ := fields.cons
    simp only [Nat.add_assoc, Nat.reduceAdd] at *
    refine ⟨?_, inside⟩
    simp only [Format.segment?, Format.word?, Format.wordSize, if_true, type, start, address,
      fileSize, memorySize]
    rfl
  | false =>
    obtain ⟨type, -, fields⟩ := fields.cons
    obtain ⟨start, -, fields⟩ := fields.cons
    obtain ⟨address, -, fields⟩ := fields.cons
    obtain ⟨-, -, fields⟩ := fields.cons
    obtain ⟨fileSize, -, fields⟩ := fields.cons
    obtain ⟨memorySize, -, fields⟩ := fields.cons
    obtain ⟨-, -, fields⟩ := fields.cons
    obtain ⟨-, inside, -⟩ := fields.cons
    simp only [Nat.add_assoc, Nat.reduceAdd] at *
    refine ⟨?_, inside⟩
    simp only [Format.segment?, Format.word?, Format.wordSize, Bool.false_eq_true, if_false, type,
      start, address, fileSize, memorySize]
    rfl

theorem symbol?_of_hasSymbol {s : Symbol} (has : f.HasSymbol file offset s) :
    f.symbol? file offset = some s ∧ offset + f.symbolSize ≤ file.size := by
  obtain ⟨size, info, visibility, index, fields⟩ := has
  obtain ⟨wide, order⟩ := f
  cases wide with
  | true =>
    obtain ⟨name, -, fields⟩ := fields.cons
    obtain ⟨-, -, fields⟩ := fields.cons
    obtain ⟨-, -, fields⟩ := fields.cons
    obtain ⟨-, -, fields⟩ := fields.cons
    obtain ⟨value, -, fields⟩ := fields.cons
    obtain ⟨-, inside, -⟩ := fields.cons
    simp only [Nat.add_assoc, Nat.reduceAdd] at *
    refine ⟨?_, inside⟩
    simp only [Format.symbol?, if_true, name, value]
    rfl
  | false =>
    obtain ⟨name, -, fields⟩ := fields.cons
    obtain ⟨value, -, fields⟩ := fields.cons
    obtain ⟨-, -, fields⟩ := fields.cons
    obtain ⟨-, -, fields⟩ := fields.cons
    obtain ⟨-, -, fields⟩ := fields.cons
    obtain ⟨-, inside, -⟩ := fields.cons
    simp only [Nat.add_assoc, Nat.reduceAdd] at *
    refine ⟨?_, inside⟩
    simp only [Format.symbol?, Bool.false_eq_true, if_false, name, value]
    rfl

theorem linkEntry?_of_hasFields {e : LinkEntry}
    (fields : HasFields f file offset (f.linkFields e)) :
    f.linkEntry? file offset = some e := by
  obtain ⟨tag, -, fields⟩ := fields.cons
  obtain ⟨value, -, -⟩ := fields.cons
  rw [Format.linkEntry?, Format.word?, tag, Format.word?, value]
  rfl

theorem symbolIndex_of_hasRelocation {index : Nat} (has : f.HasRelocation file offset index) :
    (f.word? file (offset + f.wordSize)).map (· / if f.wide then 0x100000000 else 0x100) =
      some index := by
  obtain ⟨place, kind, small, fields⟩ := has
  obtain ⟨-, -, fields⟩ := fields.cons
  obtain ⟨info, -, -⟩ := fields.cons
  rw [Format.word?, info, Option.map_some, Nat.mul_comm, Nat.mul_add_div (Nat.zero_lt_of_lt small),
    Nat.div_eq_of_lt small, Nat.add_zero]

/-- The numbers of the header that the reader looks at. -/
theorem number?_of_header {h : FileHeader} (fields : HasFields f file 16 (h.fields f)) :
    f.headerSize ≤ file.size ∧
      f.number? file (if f.wide then 18 else 18) 2 = some h.machine ∧
      f.number? file (if f.wide then 32 else 28) f.wordSize = some h.programOffset ∧
      f.number? file (if f.wide then 40 else 32) f.wordSize = some h.sectionOffset ∧
      f.number? file (if f.wide then 56 else 44) 2 = some h.programCount ∧
      f.number? file (if f.wide then 60 else 48) 2 = some h.sectionCount ∧
      f.number? file (if f.wide then 62 else 50) 2 = some h.namesIndex := by
  obtain ⟨-, -, fields⟩ := fields.cons
  obtain ⟨machine, -, fields⟩ := fields.cons
  obtain ⟨-, -, fields⟩ := fields.cons
  obtain ⟨-, -, fields⟩ := fields.cons
  obtain ⟨programOffset, -, fields⟩ := fields.cons
  obtain ⟨sectionOffset, -, fields⟩ := fields.cons
  obtain ⟨-, -, fields⟩ := fields.cons
  obtain ⟨-, -, fields⟩ := fields.cons
  obtain ⟨-, -, fields⟩ := fields.cons
  obtain ⟨programCount, -, fields⟩ := fields.cons
  obtain ⟨-, -, fields⟩ := fields.cons
  obtain ⟨sectionCount, -, fields⟩ := fields.cons
  obtain ⟨namesIndex, inside, -⟩ := fields.cons
  obtain ⟨wide, order⟩ := f
  cases wide <;>
    exact ⟨inside, machine, programOffset, sectionOffset, programCount, sectionCount, namesIndex⟩

theorem identify?_of_standsAt (long : 16 ≤ file.size)
    (stands : StandsAt file 0 f.identification) : Format.identify? file = some f := by
  have seven : Bytes.slice file 0 7 = f.identification := stands.2
  have mark : file.extract 0 4 = Bytes.slice f.identification 0 4 := by
    rw [← seven, Bytes.slice_slice (by decide)]
    rfl
  have rest : Bytes.slice file 4 2 = Bytes.slice f.identification 4 2 := by
    rw [← seven, Bytes.slice_slice (by decide)]
  obtain ⟨wide, order⟩ := f
  rw [Format.identify?, mark, rest]
  cases wide <;> cases order <;> exact if_pos ⟨long, rfl⟩

end

end BareMetal.ObjectFile
