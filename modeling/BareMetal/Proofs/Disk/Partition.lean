import BareMetal.Proofs.Disk.HardDisk

/-!
# The partition of a hard disk

The layout of a hard disk describes its partition four times over: as numbers of sectors, as packed
addresses and as little-endian numbers in the partition entry, and as symbols for the boot sector.
They all agree, for a kernel of any length.
-/

namespace BareMetal.Disk

namespace HardDisk.Layout

/-- The entry describes the partition of the layout, on a disk of `total` sectors, and its packed
addresses describe the same extent as its two numbers. -/
structure EntryAgrees (l : Layout) (total : UInt32) (entry : PartitionEntry) : Prop where
  lbaStart : entry.lbaStart = l.partitionStart
  lbaSize : entry.lbaSize = l.partitionSize
  first_sector : entry.start.toSector l.geometry = .ok entry.lbaStart
  first_head : entry.start.head = 0
  first_number : entry.start.sectorNumber = 1
  first_cylinder : entry.start.cylinder = 1
  last_sector : entry.last.toSector l.geometry = .ok (total - 1)
  stop : entry.lbaStart.toNat + entry.lbaSize.toNat = total.toNat
  last_head : entry.last.head = 15
  last_number : entry.last.sectorNumber = 63
  last_cylinder : entry.last.cylinder = l.geometry.cylinders - 1

/-- What the boot sector is told of the partition: one symbol for its start, and two for its size,
the shorter of which has sixteen bits and is zero if the size needs more. -/
structure DefinesAgree (l : Layout) (entry : PartitionEntry) (bootSegment : String) : Prop where
  start : (l.bootDefines bootSegment).filter (·.name = "PARTITION_SECTOR_START") =
    [.ofString "PARTITION_SECTOR_START" (Numeral.decimal entry.lbaStart.toNat)]
  size : ∃ short long : UInt32,
    (l.bootDefines bootSegment).filter (·.name = "PARTITION_SECTORS_SSIZE") =
      [.ofString "PARTITION_SECTORS_SSIZE" (Numeral.decimal short.toNat)] ∧
    (l.bootDefines bootSegment).filter (·.name = "PARTITION_SECTORS_LSIZE") =
      [.ofString "PARTITION_SECTORS_LSIZE" (Numeral.decimal long.toNat)] ∧
    (short = entry.lbaSize ∧ long = 0 ∧ short.toNat < 2 ^ 16 ∨
      short = 0 ∧ long = entry.lbaSize) ∧ entry.lbaSize ≠ 0

variable {l : Layout} {n : Nat}

theorem cylinderOf_eq (h : l.Sized n) {s : Nat} (lt : s < l.geometry.sectors) :
    Chs.cylinderOf l.geometry s = s / 1008 := by
  have sectors := h.sectors_eq
  rw [Chs.cylinderOf, h.toNat_sectorsPerTrack, h.toNat_heads, Nat.mod_eq_of_lt (by omega)]

theorem entryAgrees (h : l.Sized n) {total : UInt32} (ht : total.toNat = l.geometry.sectors)
    {entry : PartitionEntry} (he : l.partitionEntry = .ok entry) : l.EntryAgrees total entry := by
  obtain rfl := Except.ok.inj (h.partitionEntry_eq_ok.symm.trans he)
  have two_le := h.two_le_cylinders
  have sectors := h.sectors_eq
  have one : (1 : UInt32).toNat = 1 := rfl
  have total_sub : (total - 1).toNat = l.geometry.sectors - 1 := by
    rw [UInt32.toNat_sub_of_le _ _ (by rw [UInt32.le_iff_toNat_le, one]; omega), one, ht]
  have cylinders_sub : (l.geometry.cylinders - 1).toNat = l.geometry.cylinders.toNat - 1 := by
    rw [UInt32.toNat_sub_of_le _ _ (by rw [UInt32.le_iff_toNat_le, one]; omega), one]
  exact {
    lbaStart := rfl
    lbaSize := rfl
    first_sector := Chs.toSector_pack h.valid (by
      rw [Nat.mod_eq_of_lt (by omega)]
      exact h.partitionStart)
    first_head := by
      rw [← UInt8.toNat_inj, Chs.toNat_head_pack h.valid, h.toNat_sectorsPerTrack, h.toNat_heads]
      rfl
    first_number := by
      rw [← UInt32.toNat_inj, Chs.toNat_sectorNumber_pack h.valid, h.toNat_sectorsPerTrack]
      rfl
    first_cylinder := by
      rw [← UInt32.toNat_inj, Chs.toNat_cylinder_pack h.valid, cylinderOf_eq h (by omega)]
      rfl
    last_sector := Chs.toSector_pack h.valid (by rw [total_sub, Nat.mod_eq_of_lt (by omega)])
    stop := by
      have end_eq := h.start_add_size
      show l.partitionStart.toNat + l.partitionSize.toNat = total.toNat
      rw [h.partitionStart]
      omega
    last_head := by
      rw [← UInt8.toNat_inj, Chs.toNat_head_pack h.valid, h.toNat_sectorsPerTrack, h.toNat_heads]
      show _ = 15
      omega
    last_number := by
      rw [← UInt32.toNat_inj, Chs.toNat_sectorNumber_pack h.valid, h.toNat_sectorsPerTrack]
      show _ = 63
      omega
    last_cylinder := by
      rw [← UInt32.toNat_inj, Chs.toNat_cylinder_pack h.valid, cylinderOf_eq h (by omega),
        cylinders_sub]
      omega }

theorem definesAgree (h : l.Sized n) {entry : PartitionEntry}
    (start : entry.lbaStart = l.partitionStart) (size : entry.lbaSize = l.partitionSize)
    (bootSegment : String) : l.DefinesAgree entry bootSegment := by
  have nonzero : l.partitionSize ≠ 0 := by
    have occupied_le := h.occupied_le
    exact Word32.toNat_pos_iff.1 (by omega)
  have start_define : (l.bootDefines bootSegment).filter (·.name = "PARTITION_SECTOR_START") =
      [.ofString "PARTITION_SECTOR_START" (Numeral.decimal l.partitionStart.toNat)] := rfl
  have short_define : (l.bootDefines bootSegment).filter (·.name = "PARTITION_SECTORS_SSIZE") =
      [.ofString "PARTITION_SECTORS_SSIZE" (Numeral.decimal
        (if 65535 < l.partitionSize then 0 else l.partitionSize).toNat)] := rfl
  have long_define : (l.bootDefines bootSegment).filter (·.name = "PARTITION_SECTORS_LSIZE") =
      [.ofString "PARTITION_SECTORS_LSIZE" (Numeral.decimal
        (if 65535 < l.partitionSize then l.partitionSize else 0).toNat)] := rfl
  refine ⟨by rw [start, start_define], _, _, short_define, long_define, ?_, by rwa [size]⟩
  by_cases long : 65535 < l.partitionSize
  · rw [if_pos long, if_pos long, size]
    exact Or.inr ⟨rfl, rfl⟩
  · rw [if_neg long, if_neg long, size]
    refine Or.inl ⟨rfl, rfl, ?_⟩
    rw [UInt32.not_lt, UInt32.le_iff_toNat_le] at long
    have : (65535 : UInt32).toNat = 65535 := rfl
    omega

/-- The partition entry is found in the flattened disk where a BIOS looks for it. -/
theorem ofBytes?_slice_disk {mbr bootSector kernel disk : Bytes} {entry : PartitionEntry}
    (hmbr : mbr.size ≤ sectorSize)
    (shows : (l.image entry mbr bootSector kernel).Shows disk) :
    PartitionEntry.ofBytes? (Bytes.slice disk 0x1BE 16) = some entry := by
  have within := shows.slice_within (mem_image.2 (Or.inl rfl)) 0x1BE 16
    (by rw [size_bootRecord hmbr]; decide)
  rw [Nat.zero_add] at within
  have written : Bytes.slice (bootRecord mbr entry) 0x1BE 16 = entry.toBytes := by
    have fits : PartitionEntry.tableOffset ≤ (Bytes.padTo sectorSize mbr).size := by
      rw [size_padTo_sector hmbr]
      decide
    have : Bytes.slice (bootRecord mbr entry) PartitionEntry.tableOffset entry.toBytes.size =
        entry.toBytes := Bytes.slice_splice_self fits
    rwa [PartitionEntry.size_toBytes] at this
  rw [within, written, PartitionEntry.ofBytes?_toBytes]

/-- For a kernel of any length that a hard disk can be laid out for, the disk has the valid
geometry of whole cylinders that just fits the boot sector and the kernel, and all four
descriptions of its partition agree: the layout, the packed addresses and the two numbers of the
entry, which is what a BIOS reads from the disk, and the symbols of the boot sector. -/
theorem partition_descriptions_agree {kernelLength : Nat} {l : Layout}
    (h : plan kernelLength = .ok l) :
    l.geometry.validate = .ok () ∧ 2 ≤ l.geometry.cylinders.toNat ∧
      l.geometry.cylinders.toNat ≤ 1024 ∧ l.geometry.heads = 16 ∧
      l.geometry.sectorsPerTrack = 63 ∧
      l.kernelSectors.toNat = ceilDiv kernelLength sectorSize ∧
      l.kernelSectors.toNat + 1 ≤ l.partitionSize.toNat ∧
      l.partitionSize.toNat < l.kernelSectors.toNat + 1 + 1008 ∧
      ∃ total entry, l.geometry.totalSectors = .ok total ∧ l.partitionEntry = .ok entry ∧
        l.partitionStart.toNat + l.partitionSize.toNat = total.toNat ∧
        l.EntryAgrees total entry ∧
        (∀ bootSegment, l.DefinesAgree entry bootSegment) ∧
        ∀ mbr bootSector kernel : Bytes, mbr.size ≤ sectorSize → bootSector.size ≤ sectorSize →
          kernel.size = kernelLength →
          ∃ image disk, l.build mbr bootSector kernel = .ok image ∧ image.flatten = .ok disk ∧
            PartitionEntry.ofBytes? (Bytes.slice disk 0x1BE 16) = some entry := by
  have sized := sized_of_plan h
  obtain ⟨total, total_ok, total_eq⟩ := sized.valid.totalSectors_eq_ok
  have entry_ok := sized.partitionEntry_eq_ok
  have agrees := entryAgrees sized total_eq entry_ok
  refine ⟨(Geometry.validate_eq_ok_iff _).2 sized.valid, sized.two_le_cylinders,
    sized.cylinders_le, sized.heads, sized.sectorsPerTrack, sized.kernelSectors,
    sized.occupied_le, sized.size_lt, total, _, total_ok, entry_ok, agrees.stop, agrees,
    definesAgree sized agrees.lbaStart agrees.lbaSize, ?_⟩
  rintro mbr bootSector kernel hmbr hboot rfl
  obtain ⟨disk, disk_ok, shows⟩ := (wellFormed_image sized hmbr hboot _).flatten_eq_ok
  exact ⟨_, disk, (build_eq_ok_iff sized).2 ⟨hmbr, hboot, _, entry_ok, rfl⟩, disk_ok,
    ofBytes?_slice_disk hmbr shows⟩

/-- The largest kernel of the smallest partition that needs the long size field. -/
theorem partition_descriptions_agree_long :
    let l : Layout := ⟨⟨67, 16, 63⟩, 66527, 1008, 66528⟩
    let kernel : Bytes := Array.replicate (66527 * 512) 7
    plan (66527 * 512) = .ok l ∧ l.geometry.validate = .ok () ∧
      2 ≤ l.geometry.cylinders.toNat ∧ l.geometry.cylinders.toNat ≤ 1024 ∧
      l.kernelSectors.toNat = ceilDiv (66527 * 512) sectorSize ∧
      l.kernelSectors.toNat + 1 ≤ l.partitionSize.toNat ∧
      l.partitionSize.toNat < l.kernelSectors.toNat + 1 + 1008 ∧
      ∃ entry, l.geometry.totalSectors = .ok 67536 ∧ l.partitionEntry = .ok entry ∧
        l.partitionStart.toNat + l.partitionSize.toNat = 67536 ∧ l.EntryAgrees 67536 entry ∧
        (∀ bootSegment, l.DefinesAgree entry bootSegment) ∧
        ∃ image disk, l.build #[0xFA] #[0xEB, 0xFE] kernel = .ok image ∧
          image.flatten = .ok disk ∧
          PartitionEntry.ofBytes? (Bytes.slice disk 0x1BE 16) = some entry := by
  intro l kernel
  have planned : plan (66527 * 512) = .ok l := by decide
  obtain ⟨valid, two_le, cylinders_le, -, -, sectors, fits, tight, total, entry, total_ok, entry_ok,
    stop, agrees, defines, read_back⟩ := partition_descriptions_agree planned
  have total_eq : l.geometry.totalSectors = .ok 67536 := by decide
  obtain rfl := Except.ok.inj (total_ok.symm.trans total_eq)
  exact ⟨planned, valid, two_le, cylinders_le, sectors, fits, tight, entry, total_ok, entry_ok,
    stop, agrees, defines, read_back _ _ kernel (by decide) (by decide) Array.size_replicate⟩

end HardDisk.Layout

end BareMetal.Disk
