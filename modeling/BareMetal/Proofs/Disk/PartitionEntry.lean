import BareMetal.Disk.Partition
import BareMetal.Proofs.Disk.Addressing
import BareMetal.Proofs.Outcome
import BareMetal.Proofs.Pieces
import Mathlib.Tactic.IntervalCases

/-!
# Partition entries as bytes

An entry made for an extent of a disk describes that extent twice, by its numbers and by the packed
addresses of its first and its last sector (`DescribesExtent`).  Its sixteen bytes hold nothing but
its fields, so that writing and reading entries undo each other (`ofBytes?_toBytes`,
`toBytes_of_ofBytes?`).
-/

namespace BareMetal.Disk.PartitionEntry

/-! ## Writing and reading -/

/-- The fields of an entry in its bytes. -/
theorem ofBytes?_append (indicator type : UInt8) (first last : Chs) {start size : Bytes}
    (hstart : start.size = 4) (hsize : size.size = 4) :
    ofBytes? (#[indicator, first.head, first.sector, first.cylinderLow, type, last.head,
      last.sector, last.cylinderLow] ++ start ++ size) =
      some { bootIndicator := indicator, start := first, type, last
             lbaStart := UInt32.ofNat (Endian.little.toNat start)
             lbaSize := UInt32.ofNat (Endian.little.toNat size) } := by
  -- The leading bytes stay opaque while the two numbers are cut out behind them.
  generalize hlead : #[indicator, first.head, first.sector, first.cylinderLow, type, last.head,
    last.sector, last.cylinderLow] = lead
  have lead_size : lead.size = 8 := by rw [← hlead]; rfl
  have start_eq : Bytes.slice (lead ++ start ++ size) 8 4 = start :=
    Bytes.slice_append lead_size hstart
  have size_eq : Bytes.slice (lead ++ start ++ size) 12 4 = size := by
    have := Bytes.slice_append (c := #[]) (by rw [Array.size_append, lead_size, hstart] :
      (lead ++ start).size = 12) hsize
    rwa [Array.append_empty] at this
  rw [ofBytes?, dif_pos (by simp [lead_size, hstart, hsize, byteSize]), start_eq, size_eq]
  simp only [Array.getElem_append, Array.size_append, lead_size, hstart]
  simp [← hlead]

/-- Reading the bytes of an entry gives the entry back. -/
theorem ofBytes?_toBytes (e : PartitionEntry) : ofBytes? e.toBytes = some e := by
  refine (ofBytes?_append e.bootIndicator e.type e.start e.last (Endian.size_toBytes _ _ _)
    (Endian.size_toBytes _ _ _)).trans ?_
  rw [Endian.ofNat_toNat_toBytes, Endian.ofNat_toNat_toBytes]

theorem ofBytes?_of_lt {b : Bytes} (short : b.size < byteSize) : ofBytes? b = none :=
  dif_neg (Nat.not_le.2 short)

theorem exists_ofBytes? {b : Bytes} (long : byteSize ≤ b.size) : ∃ e, ofBytes? b = some e :=
  ⟨_, dif_pos long⟩

/-- Writing an entry that has been read gives the bytes that it has been read from. -/
theorem toBytes_of_ofBytes? {b : Bytes} {e : PartitionEntry} (read : ofBytes? b = some e) :
    e.toBytes = Bytes.slice b 0 byteSize := by
  unfold ofBytes? at read
  split at read
  case isFalse => cases read
  case isTrue long =>
    have long : 16 ≤ b.size := long
    obtain rfl := Option.some.inj read
    have lead : #[b[0], b[1], b[2], b[3], b[4], b[5], b[6], b[7]] = Bytes.slice b 0 8 := by
      apply Array.ext
      · rw [Bytes.size_slice (by omega)]
        rfl
      · intro i inside _
        simp only [List.size_toArray, List.length_cons, List.length_nil] at inside
        interval_cases i <;> simp [Bytes.slice]
    have start := Endian.little.toBytes_ofNat_toNat (Bytes.size_slice (by omega : 8 + 4 ≤ b.size))
    have size := Endian.little.toBytes_ofNat_toNat (Bytes.size_slice (by omega : 12 + 4 ≤ b.size))
    show #[b[0], b[1], b[2], b[3], b[4], b[5], b[6], b[7]] ++ Endian.little.toBytes 4 _ ++
      Endian.little.toBytes 4 _ = _
    rw [start, size, lead]
    calc Bytes.slice b 0 8 ++ Bytes.slice b 8 4 ++ Bytes.slice b 12 4
      _ = Bytes.slice b 0 12 ++ Bytes.slice b 12 4 :=
          congrArg (· ++ _) (Bytes.slice_append_slice b 0 8 4)
      _ = Bytes.slice b 0 16 := Bytes.slice_append_slice b 0 12 4

/-! ## Entries of extents -/

section

variable {g : Geometry} {start size : UInt32}

/-- An extent of at least one sector that lies on the disk has an entry; no word is left on the
way to it. -/
theorem ofExtent_eq_ok (h : g.Valid) (type : UInt8) (some_sector : 0 < size.toNat)
    (fits : start.toNat + size.toNat ≤ g.sectors) : ofExtent start size type g = .ok
      { bootIndicator := bootable
        start := Chs.pack g start.toNat
        type
        last := Chs.pack g (start.toNat + size.toNat - 1)
        lbaStart := start
        lbaSize := size } := by
  have sectors_le := h.sectors_le
  obtain ⟨stop, stop_ok, stop_eq⟩ :=
    Word32.exists_add start size (by unfold Word32.bound; omega)
  have one : (1 : UInt32).toNat = 1 := rfl
  obtain ⟨last, last_ok, last_eq⟩ := Word32.exists_sub stop 1 (by omega)
  have last_val : last.toNat = start.toNat + size.toNat - 1 := by rw [last_eq, stop_eq, one]
  rw [ofExtent, Chs.ofSector_eq_ok h, stop_ok]
  simp only [Outcome.ok_bind, last_ok, Chs.ofSector_eq_ok h, last_val]
  rfl

/-- An entry describes an extent by its numbers, and by the addresses of its first sector and of
its last one, which is not the one behind it. -/
structure DescribesExtent (g : Geometry) (start size : UInt32) (e : PartitionEntry) : Prop where
  bootIndicator : e.bootIndicator = 0x80
  lbaStart : e.lbaStart = start
  lbaSize : e.lbaSize = size
  first_sector : e.start.toSector g = .ok e.lbaStart
  last_sector : ∃ last, e.last.toSector g = .ok last ∧
    last.toNat + 1 = e.lbaStart.toNat + e.lbaSize.toNat

theorem exists_describesExtent (h : g.Valid) (type : UInt8) (some_sector : 0 < size.toNat)
    (fits : start.toNat + size.toNat ≤ g.sectors) :
    ∃ e, ofExtent start size type g = .ok e ∧ e.type = type ∧ e.DescribesExtent g start size := by
  have sectors_le := h.sectors_le
  obtain ⟨last, last_ok, last_eq⟩ := Chs.toSector_eq_ok h
    (Chs.onDisk_pack h (start.toNat + size.toNat - 1))
  rw [Chs.index_pack h, Nat.mod_eq_of_lt (by omega)] at last_eq
  refine ⟨_, ofExtent_eq_ok h type some_sector fits, rfl, rfl, rfl, rfl, ?_, last, last_ok, ?_⟩
  · have inside : start.toNat < g.sectors := by omega
    exact Chs.toSector_pack h (Nat.mod_eq_of_lt inside).symm
  · show last.toNat + 1 = start.toNat + size.toNat
    omega

end

/-- On a disk of valid geometry, every extent of at least one sector has an entry whose bytes are
read as an entry that describes it.  All entries are read from their sixteen bytes as they are, and
all strings of at least sixteen bytes are entries, whose bytes are the first sixteen of them. -/
theorem entry_encodes_extent :
    (∀ g : Geometry, g.validate = .ok () → ∃ total, g.totalSectors = .ok total ∧
      ∀ (start size : UInt32) (type : UInt8), 1 ≤ size →
        start.toNat + size.toNat ≤ total.toNat →
        ∃ e read, ofExtent start size type g = .ok e ∧ ofBytes? e.toBytes = some read ∧
          read.type = type ∧ read.DescribesExtent g start size) ∧
    (∀ e : PartitionEntry, e.toBytes.size = 16 ∧ ofBytes? e.toBytes = some e) ∧
    (∀ b : Bytes, 16 ≤ b.size → ∃ e, ofBytes? b = some e ∧ e.toBytes = Bytes.slice b 0 16) ∧
    ∀ b : Bytes, b.size < 16 → ofBytes? b = none := by
  refine ⟨fun g validated => ?_, fun e => ⟨e.size_toBytes, e.ofBytes?_toBytes⟩, fun b long => ?_,
    fun b short => ofBytes?_of_lt short⟩
  · have valid := (Geometry.validate_eq_ok_iff g).1 validated
    obtain ⟨total, total_ok, total_eq⟩ := valid.totalSectors_eq_ok
    refine ⟨total, total_ok, fun start size type some_sector fits => ?_⟩
    rw [total_eq] at fits
    obtain ⟨e, made, type_eq, describes⟩ := exists_describesExtent valid type some_sector fits
    exact ⟨e, e, made, e.ofBytes?_toBytes, type_eq, describes⟩
  · obtain ⟨e, read⟩ := exists_ofBytes? long
    exact ⟨e, read, toBytes_of_ofBytes? read⟩

/-- The last cylinder of the largest disk, up to its last sector. -/
theorem entry_encodes_extent_last_cylinder :
    ∃ e read, ofExtent 16434495 16065 0x0B ⟨1024, 255, 63⟩ = .ok e ∧
      ofBytes? e.toBytes = some read ∧
      read.DescribesExtent ⟨1024, 255, 63⟩ 16434495 16065 := by
  obtain ⟨total, total_ok, entries⟩ := entry_encodes_extent.1 ⟨1024, 255, 63⟩ (by decide)
  have total_eq : (⟨1024, 255, 63⟩ : Geometry).totalSectors = .ok 16450560 := by decide
  obtain rfl := Except.ok.inj (total_ok.symm.trans total_eq)
  obtain ⟨e, read, made, decoded, -, describes⟩ := entries 16434495 16065 0x0B (by decide) (by decide)
  exact ⟨e, read, made, decoded, describes⟩

end BareMetal.Disk.PartitionEntry
