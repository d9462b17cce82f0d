import BareMetal.Disk.HardDisk
import BareMetal.Proofs.Disk.Flatten
import BareMetal.Proofs.Disk.PartitionEntry

/-!
# The layout of a hard disk

What `Layout.plan` fixes (`Layout.Sized`): a disk of whole cylinders, the first of which comes
before the partition, and no cylinder more than the boot sector and the kernel need.  What
`Layout.build` makes of it (`Layout.image`): three extents that lie on the disk apart from one
another.
-/

namespace BareMetal.Disk

theorem singleSector_eq_ok_iff {what : String} {code sector : Bytes} :
    singleSector what code = .ok sector ↔
      code.size ≤ sectorSize ∧ sector = Bytes.padTo sectorSize code := by
  unfold singleSector
  by_cases h : sectorSize < code.size
  · simp [if_pos h, Nat.not_le.2 h]
  · simp [if_neg h, Nat.not_lt.1 h, eq_comm]

theorem Geometry.make_eq_ok_iff {cylinders heads sectorsPerTrack : UInt32} {g : Geometry} :
    make cylinders heads sectorsPerTrack = .ok g ↔
      g = ⟨cylinders, heads, sectorsPerTrack⟩ ∧ g.Valid := by
  rw [make, Outcome.map_eq_ok_iff]
  constructor
  · rintro ⟨⟨⟩, valid, rfl⟩
    exact ⟨rfl, (validate_eq_ok_iff _).1 valid⟩
  · rintro ⟨rfl, valid⟩
    exact ⟨(), (validate_eq_ok_iff _).2 valid, rfl⟩

namespace HardDisk.Layout

theorem narrowSectors_eq_ok {n : Nat} {k : UInt32} (h : narrowSectors n = .ok k) :
    k.toNat = ceilDiv n sectorSize := by
  unfold narrowSectors at h
  split at h
  · rename_i lt
    rw [← Except.ok.inj h, UInt32.toNat_ofNat_of_lt' lt]
  · cases h

/-- The layout is one for a kernel of the given length: whole cylinders of 1008 sectors, the first
before the partition, and as few after it as hold the boot sector and the kernel. -/
structure Sized (l : Layout) (kernelLength : Nat) : Prop where
  heads : l.geometry.heads = 16
  sectorsPerTrack : l.geometry.sectorsPerTrack = 63
  two_le_cylinders : 2 ≤ l.geometry.cylinders.toNat
  cylinders_le : l.geometry.cylinders.toNat ≤ 1024
  kernelSectors : l.kernelSectors.toNat = ceilDiv kernelLength sectorSize
  partitionStart : l.partitionStart.toNat = 1008
  start_add_size : 1008 + l.partitionSize.toNat = l.geometry.cylinders.toNat * 1008
  occupied_le : l.kernelSectors.toNat + 1 ≤ l.partitionSize.toNat
  size_lt : l.partitionSize.toNat < l.kernelSectors.toNat + 1 + 1008

theorem sized_of_plan {n : Nat} {l : Layout} (h : plan n = .ok l) : l.Sized n := by
  simp only [plan, faulting, Outcome.bind_eq_ok_iff, Outcome.mapError_eq_ok_iff,
    Geometry.make_eq_ok_iff, Word32.add_eq_ok_iff, Word32.mul_eq_ok_iff] at h
  obtain ⟨k, k_ok, occupied, occupied_eq, cylinders, cylinders_eq, g, ⟨rfl, valid⟩, size, size_eq,
    layout⟩ := h
  obtain rfl := Except.ok.inj layout
  have per_cylinder : (HardDisk.heads * HardDisk.sectorsPerTrack).toNat = 1008 := rfl
  have one : (1 : UInt32).toNat = 1 := rfl
  have occupied_lt := occupied.toNat_lt
  have partition_eq : (UInt32.ofNat (ceilDiv occupied.toNat 1008)).toNat =
      ceilDiv occupied.toNat 1008 :=
    UInt32.toNat_ofNat_of_lt' (by unfold ceilDiv UInt32.size; omega)
  rw [per_cylinder, partition_eq] at cylinders_eq size_eq
  rw [one] at occupied_eq cylinders_eq
  have cylinders_le : cylinders.toNat ≤ 1024 := valid.cylinders_le
  have cover : occupied.toNat ≤ ceilDiv occupied.toNat 1008 * 1008 :=
    le_ceilDiv_mul (by decide)
  have tight : ceilDiv occupied.toNat 1008 * 1008 < occupied.toNat + 1008 := by
    unfold ceilDiv
    omega
  exact {
    heads := rfl
    sectorsPerTrack := rfl
    two_le_cylinders := by
      show 2 ≤ cylinders.toNat
      omega
    cylinders_le := cylinders_le
    kernelSectors := narrowSectors_eq_ok k_ok
    partitionStart := per_cylinder
    start_add_size := by
      show 1008 + size.toNat = cylinders.toNat * 1008
      omega
    occupied_le := by
      show k.toNat + 1 ≤ size.toNat
      omega
    size_lt := by
      show size.toNat < k.toNat + 1 + 1008
      omega }

namespace Sized

variable {l : Layout} {n : Nat}

theorem valid (h : l.Sized n) : l.geometry.Valid where
  cylinders_pos := by
    have := h.two_le_cylinders
    omega
  cylinders_le := h.cylinders_le
  heads_pos := by rw [h.heads]; decide
  heads_le := by rw [h.heads]; decide
  sectorsPerTrack_pos := by rw [h.sectorsPerTrack]; decide
  sectorsPerTrack_le := by rw [h.sectorsPerTrack]; decide

theorem toNat_heads (h : l.Sized n) : l.geometry.heads.toNat = 16 := by
  rw [h.heads]
  rfl

theorem toNat_sectorsPerTrack (h : l.Sized n) : l.geometry.sectorsPerTrack.toNat = 63 := by
  rw [h.sectorsPerTrack]
  rfl

theorem sectors_eq (h : l.Sized n) : l.geometry.sectors = l.geometry.cylinders.toNat * 1008 := by
  rw [Geometry.sectors, h.toNat_heads, h.toNat_sectorsPerTrack]

/-- The entry of the partition, with its addresses packed from the sectors. -/
theorem partitionEntry_eq_ok (h : l.Sized n) : l.partitionEntry = .ok
    { bootIndicator := PartitionEntry.bootable
      start := Chs.pack l.geometry 1008
      type := PartitionEntry.fat32Chs
      last := Chs.pack l.geometry (l.geometry.sectors - 1)
      lbaStart := l.partitionStart
      lbaSize := l.partitionSize } := by
  have start_eq := h.partitionStart
  have end_eq := h.start_add_size
  have sectors_eq := h.sectors_eq
  have occupied_le := h.occupied_le
  have last_eq : l.partitionStart.toNat + l.partitionSize.toNat - 1 = l.geometry.sectors - 1 := by
    omega
  rw [partitionEntry, PartitionEntry.ofExtent_eq_ok h.valid _ (by omega) (by omega), last_eq,
    start_eq]

end Sized

/-! ## The disk of a layout -/

/-- The boot record with its partition entry. -/
def bootRecord (mbr : Bytes) (entry : PartitionEntry) : Bytes :=
  Bytes.splice (Bytes.padTo sectorSize mbr) PartitionEntry.tableOffset entry.toBytes

/-- The disk that a layout is built into. -/
def image (l : Layout) (entry : PartitionEntry) (mbr bootSector kernel : Bytes) : Image where
  size := l.geometry.sectors * sectorSize
  extents :=
    [⟨0, bootRecord mbr entry⟩,
     ⟨l.partitionStart.toNat * sectorSize, Bytes.padTo sectorSize bootSector⟩,
     ⟨(l.partitionStart.toNat + 1) * sectorSize, kernel⟩]

theorem size_padTo_sector {code : Bytes} (h : code.size ≤ sectorSize) :
    (Bytes.padTo sectorSize code).size = sectorSize := by
  rw [Bytes.size_padTo, Nat.max_eq_left h]

theorem size_bootRecord {mbr : Bytes} (h : mbr.size ≤ sectorSize) (entry : PartitionEntry) :
    (bootRecord mbr entry).size = sectorSize := by
  rw [bootRecord, Bytes.size_splice, size_padTo_sector h]
  rw [size_padTo_sector h, PartitionEntry.size_toBytes]
  decide

/-- A layout is built exactly when its boot code fits the sectors it has to go to. -/
theorem build_eq_ok_iff {l : Layout} {n : Nat} (h : l.Sized n) {mbr bootSector kernel : Bytes}
    {disk : Image} : l.build mbr bootSector kernel = .ok disk ↔
      mbr.size ≤ sectorSize ∧ bootSector.size ≤ sectorSize ∧
        ∃ entry, l.partitionEntry = .ok entry ∧ disk = l.image entry mbr bootSector kernel := by
  obtain ⟨total, total_ok, total_eq⟩ := h.valid.totalSectors_eq_ok
  have size_ok : l.geometry.sizeBytes = .ok (l.geometry.sectors * sectorSize) := by
    rw [Geometry.sizeBytes, total_ok, ← total_eq]
    rfl
  simp only [build, faulting, size_ok, Outcome.bind_eq_ok_iff, Outcome.mapError_eq_ok_iff,
    singleSector_eq_ok_iff]
  constructor
  · rintro ⟨_, ⟨mbr_le, rfl⟩, entry, entry_ok, _, ⟨boot_le, rfl⟩, _, size, built⟩
    obtain rfl := Except.ok.inj size
    refine ⟨mbr_le, boot_le, entry, entry_ok, ?_⟩
    rw [← Except.ok.inj built, image, Nat.add_mul, Nat.one_mul]
    rfl
  · rintro ⟨mbr_le, boot_le, entry, entry_ok, rfl⟩
    refine ⟨_, ⟨mbr_le, rfl⟩, entry, entry_ok, _, ⟨boot_le, rfl⟩, _, rfl, ?_⟩
    rw [image, Nat.add_mul, Nat.one_mul]
    rfl

theorem mem_image {l : Layout} {entry : PartitionEntry} {mbr bootSector kernel : Bytes}
    {e : Extent} : e ∈ (l.image entry mbr bootSector kernel).extents ↔
      e = ⟨0, bootRecord mbr entry⟩ ∨
      e = ⟨l.partitionStart.toNat * sectorSize, Bytes.padTo sectorSize bootSector⟩ ∨
      e = ⟨(l.partitionStart.toNat + 1) * sectorSize, kernel⟩ := by
  simp [image]

/-- On the disk of a layout for a kernel of its size, the boot record, the boot sector and the
kernel lie apart from one another. -/
theorem wellFormed_image {l : Layout} {mbr bootSector kernel : Bytes} (h : l.Sized kernel.size)
    (hmbr : mbr.size ≤ sectorSize) (hboot : bootSector.size ≤ sectorSize)
    (entry : PartitionEntry) : (l.image entry mbr bootSector kernel).WellFormed := by
  have record_size := size_bootRecord hmbr entry
  have boot_size := size_padTo_sector hboot
  have start_eq := h.partitionStart
  have kernel_le : kernel.size ≤ l.kernelSectors.toNat * sectorSize := by
    rw [h.kernelSectors]
    exact le_ceilDiv_mul (by decide)
  have occupied_le := h.occupied_le
  have end_eq := h.start_add_size
  have sectors_eq := h.sectors_eq
  constructor
  · intro e he
    show e.stop ≤ l.geometry.sectors * sectorSize
    rcases mem_image.1 he with rfl | rfl | rfl <;>
      simp only [Extent.stop, record_size, boot_size] <;>
      simp only [sectorSize] at kernel_le ⊢ <;> omega
  · simp only [image, List.pairwise_cons, List.mem_cons, List.not_mem_nil, or_false,
      forall_eq_or_imp, forall_eq, Extent.Disjoint, Extent.stop, record_size, boot_size]
    refine ⟨⟨Or.inl ?_, Or.inl ?_⟩, Or.inl ?_, by simp⟩ <;> simp only [sectorSize] <;> omega

end HardDisk.Layout

end BareMetal.Disk
