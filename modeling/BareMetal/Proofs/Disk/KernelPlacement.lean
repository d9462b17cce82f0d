import BareMetal.Disk.Amiga
import BareMetal.Disk.Floppy
import BareMetal.Proofs.Disk.HardDisk

/-!
# Where the kernel stands on a disk

Boot code loads a given number of sectors from the sector after it.  On each of the three disks
these sectors hold the kernel and zeros (`KernelArea`), the boot code stands in sectors of its own,
and everything else is zero (`ZeroOutside`).
-/

namespace BareMetal.Disk

/-- A disk of `sectors` sectors has the kernel, with zeros behind it, in the `count` sectors from
`start` on, and `count` is the least number of sectors that hold the kernel. -/
structure KernelArea (disk kernel : Bytes) (sectors start count : Nat) : Prop where
  size : disk.size = sectors * sectorSize
  fits : start + count ≤ sectors
  content : Bytes.slice disk (start * sectorSize) (count * sectorSize) =
    Bytes.padTo (count * sectorSize) kernel
  least : ∀ n, kernel.size ≤ n * sectorSize ↔ count ≤ n

/-- All bytes of the disk are zero except in the given areas, each given by its first sector and
its number of sectors. -/
def ZeroOutside (disk : Bytes) (areas : List (Nat × Nat)) : Prop :=
  ∀ i < disk.size,
    (∀ a ∈ areas, i < a.1 * sectorSize ∨ (a.1 + a.2) * sectorSize ≤ i) → disk[i]? = some 0

namespace Image.Shows

variable {image : Image} {disk kernel : Bytes} {sectors start : Nat}

/-- A kernel behind which no extent begins has its area. -/
theorem kernelArea (h : image.Shows disk) (size : image.size = sectors * sectorSize)
    (fits : start + ceilDiv kernel.size sectorSize ≤ sectors)
    (mem : ⟨start * sectorSize, kernel⟩ ∈ image.extents)
    (before : ∀ e ∈ image.extents, e = ⟨start * sectorSize, kernel⟩ ∨
      e.stop ≤ start * sectorSize) :
    KernelArea disk kernel sectors start (ceilDiv kernel.size sectorSize) where
  size := h.size.trans size
  fits := fits
  least n := (ceilDiv_le_iff (by decide)).symm
  content := by
    have kernel_le : kernel.size ≤ ceilDiv kernel.size sectorSize * sectorSize :=
      le_ceilDiv_mul (by decide)
    have area_le : (start + ceilDiv kernel.size sectorSize) * sectorSize ≤ image.size := by
      rw [size]
      exact Nat.mul_le_mul_right _ fits
    rw [Nat.add_mul] at area_le
    apply Array.ext_getElem?
    intro i
    rw [Bytes.getElem?_slice, Bytes.getElem?_padTo]
    by_cases hk : i < kernel.size
    · rw [if_pos (by omega), if_pos hk, h.extent _ mem i hk]
    · rw [if_neg hk]
      by_cases hi : i < ceilDiv kernel.size sectorSize * sectorSize
      · rw [if_pos hi, if_pos hi]
        refine h.zero _ (by omega) fun e he => ?_
        rcases before e he with rfl | stop_le
        · unfold Extent.Covers Extent.stop
          dsimp only
          omega
        · unfold Extent.Covers
          omega
      · rw [if_neg hi, if_neg hi]

theorem zeroOutside (h : image.Shows disk) {areas : List (Nat × Nat)}
    (within : ∀ e ∈ image.extents, ∃ a ∈ areas,
      a.1 * sectorSize ≤ e.offset ∧ e.stop ≤ (a.1 + a.2) * sectorSize) :
    ZeroOutside disk areas := by
  intro i hi outside
  refine h.zero i (by rwa [← h.size]) fun e he => ?_
  obtain ⟨a, ha, start_le, stop_le⟩ := within e he
  have := outside a ha
  unfold Extent.Covers
  omega

end Image.Shows

/-! ## Floppies -/

/-- A disk with boot code in its first `start` sectors and the kernel after them. -/
def bootImage (sectors start : Nat) (boot kernel : Bytes) : Image where
  size := sectors * sectorSize
  extents := [⟨0, boot⟩, ⟨start * sectorSize, kernel⟩]

theorem mem_bootImage {sectors start : Nat} {boot kernel : Bytes} {e : Extent} :
    e ∈ (bootImage sectors start boot kernel).extents ↔
      e = ⟨0, boot⟩ ∨ e = ⟨start * sectorSize, kernel⟩ := by
  simp [bootImage]

theorem wellFormed_bootImage {sectors start : Nat} {boot kernel : Bytes}
    (hboot : boot.size = start * sectorSize)
    (hkernel : start * sectorSize + kernel.size ≤ sectors * sectorSize) :
    (bootImage sectors start boot kernel).WellFormed where
  stop_le e he := by
    show e.stop ≤ sectors * sectorSize
    rcases mem_bootImage.1 he with rfl | rfl <;> simp only [Extent.stop] <;> omega
  disjoint := by
    simp only [bootImage, List.pairwise_cons, List.mem_cons, List.not_mem_nil, or_false, forall_eq,
      Extent.Disjoint, Extent.stop]
    refine ⟨Or.inl (by omega), by simp⟩

/-- A floppy whose boot code fills its sectors has the kernel right behind them. -/
theorem flatten_bootImage {sectors start : Nat} {boot kernel : Bytes}
    (hboot : boot.size = start * sectorSize)
    (hkernel : start * sectorSize + kernel.size ≤ sectors * sectorSize) :
    ∃ disk, (bootImage sectors start boot kernel).flatten = .ok disk ∧
      KernelArea disk kernel sectors start (ceilDiv kernel.size sectorSize) ∧
      Bytes.slice disk 0 (start * sectorSize) = boot ∧
      ZeroOutside disk [(0, start), (start, ceilDiv kernel.size sectorSize)] := by
  obtain ⟨disk, disk_ok, shows⟩ := (wellFormed_bootImage hboot hkernel).flatten_eq_ok
  have kernel_le : kernel.size ≤ ceilDiv kernel.size sectorSize * sectorSize :=
    le_ceilDiv_mul (by decide)
  have fits : ceilDiv kernel.size sectorSize ≤ sectors - start := by
    rw [ceilDiv_le_iff (by decide), Nat.sub_mul]
    omega
  have start_le : start ≤ sectors :=
    Nat.le_of_mul_le_mul_right (by omega : start * sectorSize ≤ sectors * sectorSize) (by decide)
  refine ⟨disk, disk_ok, shows.kernelArea rfl (by omega) (mem_bootImage.2 (Or.inr rfl)) ?_, ?_, ?_⟩
  · intro e he
    rcases mem_bootImage.1 he with rfl | rfl
    · right
      simp only [Extent.stop]
      omega
    · exact Or.inl rfl
  · rw [← hboot]
    exact shows.slice_extent (mem_bootImage.2 (Or.inl rfl))
  · apply shows.zeroOutside
    intro e he
    rcases mem_bootImage.1 he with rfl | rfl
    · exact ⟨(0, start), by simp, by simp, by simp only [Extent.stop, Nat.zero_add]; omega⟩
    · refine ⟨(start, ceilDiv kernel.size sectorSize), by simp, le_rfl, ?_⟩
      simp only [Extent.stop, Nat.add_mul]
      omega

/-- The three outcomes of building an Amiga floppy. -/
theorem Amiga.build_cases (bootBlock kernel : Bytes) :
    bootBlock.size ≠ bootBlockSize ∧
        build bootBlock kernel = .error (.bootBlockSize bootBlockSize bootBlock.size) ∨
      capacity < kernel.size ∧
        build bootBlock kernel = .error (.range (.tooLarge "kernel" kernel.size capacity)) ∨
      bootBlock.size = bootBlockSize ∧ kernel.size ≤ capacity ∧
        ∃ sum, checksum bootBlock = .ok sum ∧ build bootBlock kernel =
          faulting (bootImage (80 * 2 * 11) 2 (signedBlock bootBlock sum) kernel).flatten := by
  by_cases hb : bootBlock.size = bootBlockSize
  · have checked : checksum bootBlock =
        .ok (UInt32.ofNat (0xFFFFFFFF - bootBlockSum bootBlock)) := if_pos hb
    by_cases hk : capacity < kernel.size
    · refine Or.inr (Or.inl ⟨hk, ?_⟩)
      rw [build, checked]
      exact if_pos hk
    · refine Or.inr (Or.inr ⟨hb, by omega, _, checked, ?_⟩)
      rw [build, checked]
      exact if_neg hk
  · refine Or.inl ⟨hb, ?_⟩
    have refused : checksum bootBlock = .error (.bootBlockSize bootBlockSize bootBlock.size) :=
      if_neg hb
    rw [build, refused]
    rfl

theorem Amiga.flatten_eq_ok {bootBlock kernel : Bytes} (hb : bootBlock.size = bootBlockSize)
    (hk : kernel.size ≤ capacity) (sum : UInt32) :
    ∃ disk, (bootImage (80 * 2 * 11) 2 (signedBlock bootBlock sum) kernel).flatten = .ok disk ∧
      KernelArea disk kernel (80 * 2 * 11) 2 (kernelSectors kernel.size) ∧
      Bytes.slice disk 0 (2 * sectorSize) = signedBlock bootBlock sum ∧
      ZeroOutside disk [(0, 2), (2, kernelSectors kernel.size)] := by
  have capacity_eq : capacity = (80 * 2 * 11) * sectorSize - 2 * sectorSize := rfl
  have two_le : 2 * sectorSize ≤ (80 * 2 * 11) * sectorSize := by decide
  exact flatten_bootImage (size_signedBlock hb sum) (by omega)

theorem Floppy.Layout.plan_eq_ok {n : Nat} {l : Layout} (h : plan n = .ok l) :
    n ≤ capacity ∧ l.kernelSectors.toNat = ceilDiv n sectorSize := by
  unfold plan at h
  split at h
  · cases h
  · rename_i le
    have few : ceilDiv n sectorSize ≤ totalSectors - 1 :=
      (ceilDiv_le_iff (by decide)).2 (Nat.not_lt.1 le)
    have fits : ceilDiv n sectorSize < UInt32.size := few.trans_lt (by decide)
    rw [← Except.ok.inj h]
    exact ⟨Nat.not_lt.1 le, UInt32.toNat_ofNat_of_lt' fits⟩

theorem Floppy.Layout.build_eq_ok_iff {l : Layout} {bootSector kernel : Bytes} {image : Image} :
    l.build bootSector kernel = .ok image ↔ bootSector.size ≤ sectorSize ∧
      image = bootImage totalSectors 1 (Bytes.padTo sectorSize bootSector) kernel := by
  simp only [build, Outcome.bind_eq_ok_iff, singleSector_eq_ok_iff, bootImage, Nat.one_mul]
  constructor
  · rintro ⟨_, ⟨boot_le, rfl⟩, built⟩
    exact ⟨boot_le, (Except.ok.inj built).symm⟩
  · rintro ⟨boot_le, rfl⟩
    exact ⟨_, ⟨boot_le, rfl⟩, rfl⟩

/-- All boot code of one sector makes an image. -/
theorem Floppy.Layout.exists_build_iff (l : Layout) (bootSector kernel : Bytes) :
    (∃ image, l.build bootSector kernel = .ok image) ↔ bootSector.size ≤ sectorSize := by
  simp only [build_eq_ok_iff, exists_and_left, exists_eq, and_true]

theorem Floppy.Layout.flatten_eq_ok {bootSector kernel : Bytes} (hb : bootSector.size ≤ sectorSize)
    (hk : kernel.size ≤ capacity) :
    ∃ disk, (bootImage totalSectors 1 (Bytes.padTo sectorSize bootSector) kernel).flatten =
        .ok disk ∧
      KernelArea disk kernel totalSectors 1 (ceilDiv kernel.size sectorSize) ∧
      Bytes.slice disk 0 (1 * sectorSize) = Bytes.padTo sectorSize bootSector ∧
      ZeroOutside disk [(0, 1), (1, ceilDiv kernel.size sectorSize)] := by
  have capacity_eq : capacity = totalSectors * sectorSize - 1 * sectorSize := rfl
  have one_le : 1 * sectorSize ≤ totalSectors * sectorSize := by decide
  exact flatten_bootImage (by rw [HardDisk.Layout.size_padTo_sector hb, Nat.one_mul]) (by omega)

/-! ## Hard disks -/

namespace HardDisk.Layout

/-- A boot record and boot code of one sector each make an image. -/
theorem exists_build_iff {l : Layout} {mbr bootSector kernel : Bytes} (h : l.Sized kernel.size) :
    (∃ image, l.build mbr bootSector kernel = .ok image) ↔
      mbr.size ≤ sectorSize ∧ bootSector.size ≤ sectorSize := by
  constructor
  · rintro ⟨image, built⟩
    obtain ⟨hmbr, hboot, -⟩ := (build_eq_ok_iff h).1 built
    exact ⟨hmbr, hboot⟩
  · rintro ⟨hmbr, hboot⟩
    exact ⟨_, (build_eq_ok_iff h).2 ⟨hmbr, hboot, _, h.partitionEntry_eq_ok, rfl⟩⟩

theorem flatten_eq_ok {l : Layout} {mbr bootSector kernel : Bytes} (h : l.Sized kernel.size)
    (hmbr : mbr.size ≤ sectorSize) (hboot : bootSector.size ≤ sectorSize)
    (entry : PartitionEntry) :
    ∃ disk, (l.image entry mbr bootSector kernel).flatten = .ok disk ∧
      KernelArea disk kernel l.geometry.sectors (l.partitionStart.toNat + 1)
        l.kernelSectors.toNat ∧
      Bytes.slice disk 0 sectorSize = bootRecord mbr entry ∧
      Bytes.slice disk (l.partitionStart.toNat * sectorSize) sectorSize =
        Bytes.padTo sectorSize bootSector ∧
      ZeroOutside disk [(0, 1), (l.partitionStart.toNat, 1),
        (l.partitionStart.toNat + 1, l.kernelSectors.toNat)] := by
  obtain ⟨disk, disk_ok, shows⟩ := (wellFormed_image h hmbr hboot entry).flatten_eq_ok
  have record_size := size_bootRecord hmbr entry
  have boot_size := size_padTo_sector hboot
  have start_eq := h.partitionStart
  have end_eq := h.start_add_size
  have occupied_le := h.occupied_le
  have sectors_eq := h.sectors_eq
  have kernel_le : kernel.size ≤ l.kernelSectors.toNat * sectorSize := by
    rw [h.kernelSectors]
    exact le_ceilDiv_mul (by decide)
  refine ⟨disk, disk_ok, ?_, ?_, ?_, ?_⟩
  · rw [h.kernelSectors] at occupied_le ⊢
    refine shows.kernelArea rfl (by omega) (mem_image.2 (Or.inr (Or.inr rfl))) ?_
    intro e he
    rcases mem_image.1 he with rfl | rfl | rfl
    · right
      simp only [Extent.stop, record_size, Nat.add_mul]
      omega
    · right
      simp only [Extent.stop, boot_size, Nat.add_mul]
      omega
    · exact Or.inl rfl
  · have := shows.slice_extent (mem_image.2 (Or.inl rfl))
    rwa [record_size] at this
  · have := shows.slice_extent (mem_image.2 (Or.inr (Or.inl rfl)))
    rwa [boot_size] at this
  · apply shows.zeroOutside
    intro e he
    rcases mem_image.1 he with rfl | rfl | rfl
    · refine ⟨(0, 1), by simp, by simp, ?_⟩
      simp only [Extent.stop, record_size]
      omega
    · refine ⟨(l.partitionStart.toNat, 1), by simp, le_rfl, ?_⟩
      simp only [Extent.stop, boot_size, Nat.add_mul]
      omega
    · refine ⟨(l.partitionStart.toNat + 1, l.kernelSectors.toNat), by simp, le_rfl, ?_⟩
      simp only [Extent.stop, Nat.add_mul]
      omega

end HardDisk.Layout

/-! ## All disks -/

/-- On each disk that is built, the sectors that the boot code is told to load hold the kernel and
zeros, they are as few as that takes, the boot code stands in its own sectors and everything else
is zero.  Flattening the disk does not fault.  The disks for PCs are built for all boot code that
fits into its sectors. -/
theorem kernel_placement :
    (∀ bootBlock kernel disk, Amiga.build bootBlock kernel = .ok disk →
      KernelArea disk kernel (80 * 2 * 11) 2 (Amiga.kernelSectors kernel.size) ∧
      (∃ sum : UInt32, Amiga.checksum bootBlock = .ok sum ∧ bootBlock.size = 1024 ∧
        Bytes.slice disk 0 1024 =
          Bytes.splice bootBlock 4 (Endian.big.toBytes 4 sum.toNat)) ∧
      ZeroOutside disk [(0, 2), (2, Amiga.kernelSectors kernel.size)]) ∧
    (∀ bootBlock kernel f, Amiga.build bootBlock kernel ≠ .error (.fault f)) ∧
    (∀ bootSector kernel l image, Floppy.Layout.plan kernel.size = .ok l →
      l.build bootSector kernel = .ok image →
      ∃ disk total, image.flatten = .ok disk ∧ Floppy.geometry.totalSectors = .ok total ∧
        KernelArea disk kernel total.toNat 1 l.kernelSectors.toNat ∧
        (∀ segment, (l.bootDefines segment).filter (·.name = "NSECTORS") =
          [.ofString "NSECTORS" (Numeral.decimal l.kernelSectors.toNat)]) ∧
        Bytes.slice disk 0 512 = Bytes.padTo 512 bootSector ∧
        ZeroOutside disk [(0, 1), (1, l.kernelSectors.toNat)]) ∧
    (∀ mbr bootSector kernel l image, HardDisk.Layout.plan kernel.size = .ok l →
      l.build mbr bootSector kernel = .ok image →
      ∃ disk total entry, image.flatten = .ok disk ∧ l.geometry.totalSectors = .ok total ∧
        l.partitionEntry = .ok entry ∧
        KernelArea disk kernel total.toNat (l.partitionStart.toNat + 1) l.kernelSectors.toNat ∧
        (∀ segment, (l.bootDefines segment).filter (·.name = "NSECTORS") =
          [.ofString "NSECTORS" (Numeral.decimal l.kernelSectors.toNat)]) ∧
        Bytes.slice disk 0 512 = Bytes.splice (Bytes.padTo 512 mbr) 0x1BE entry.toBytes ∧
        Bytes.slice disk (l.partitionStart.toNat * 512) 512 = Bytes.padTo 512 bootSector ∧
        ZeroOutside disk [(0, 1), (l.partitionStart.toNat, 1),
          (l.partitionStart.toNat + 1, l.kernelSectors.toNat)]) ∧
    (∀ (l : Floppy.Layout) bootSector kernel,
      (∃ image, l.build bootSector kernel = .ok image) ↔ bootSector.size ≤ 512) ∧
    ∀ mbr bootSector kernel l, HardDisk.Layout.plan kernel.size = .ok l →
      ((∃ image, l.build mbr bootSector kernel = .ok image) ↔
        mbr.size ≤ 512 ∧ bootSector.size ≤ 512) := by
  refine ⟨?_, ?_, ?_, ?_, fun l => l.exists_build_iff, fun _ _ _ _ planned =>
    HardDisk.Layout.exists_build_iff (HardDisk.Layout.sized_of_plan planned)⟩
  · intro bootBlock kernel disk built
    rcases Amiga.build_cases bootBlock kernel with ⟨-, refused⟩ | ⟨-, refused⟩ |
      ⟨hb, hk, sum, checked, build_eq⟩
    · cases built.symm.trans refused
    · cases built.symm.trans refused
    · obtain ⟨disk', disk_ok, area, block, zero⟩ := Amiga.flatten_eq_ok hb hk sum
      rw [build_eq, disk_ok] at built
      obtain rfl := Except.ok.inj built
      exact ⟨area, ⟨sum, checked, hb, block⟩, zero⟩
  · intro bootBlock kernel f built
    rcases Amiga.build_cases bootBlock kernel with ⟨-, refused⟩ | ⟨-, refused⟩ |
      ⟨hb, hk, sum, -, build_eq⟩
    · cases built.symm.trans refused
    · cases built.symm.trans refused
    · obtain ⟨disk, disk_ok, -⟩ := Amiga.flatten_eq_ok hb hk sum
      rw [build_eq, disk_ok] at built
      cases built
  · intro bootSector kernel l image planned built
    obtain ⟨hk, sectors_eq⟩ := Floppy.Layout.plan_eq_ok planned
    obtain ⟨hb, rfl⟩ := Floppy.Layout.build_eq_ok_iff.1 built
    obtain ⟨disk, disk_ok, area, boot, zero⟩ := Floppy.Layout.flatten_eq_ok hb hk
    rw [← sectors_eq] at area zero
    exact ⟨disk, _, disk_ok, Floppy.totalSectors_eq, area, fun _ => rfl, boot, zero⟩
  · intro mbr bootSector kernel l image planned built
    have sized := HardDisk.Layout.sized_of_plan planned
    obtain ⟨total, total_ok, total_eq⟩ := sized.valid.totalSectors_eq_ok
    obtain ⟨hmbr, hboot, entry, entry_ok, rfl⟩ := (HardDisk.Layout.build_eq_ok_iff sized).1 built
    obtain ⟨disk, disk_ok, area, record, boot, zero⟩ :=
      HardDisk.Layout.flatten_eq_ok sized hmbr hboot entry
    rw [← total_eq] at area
    exact ⟨disk, total, entry, disk_ok, total_ok, entry_ok, area, fun _ => rfl, record, boot,
      zero⟩

/-- A kernel of a sector and a half has two sectors behind the boot code: on a floppy of either
kind, and on the smallest hard disk. -/
theorem kernel_placement_smallest :
    let kernel : Bytes := Array.replicate 768 7
    let code : Bytes := #[0xEB, 0xFE]
    let record : Bytes := #[0xFA]
    let l : HardDisk.Layout := ⟨⟨2, 16, 63⟩, 2, 1008, 1008⟩
    (∃ disk sum, Amiga.build (Bytes.padTo 1024 code) kernel = .ok disk ∧
      KernelArea disk kernel 1760 2 2 ∧ Bytes.slice disk 0 1024 =
        Bytes.splice (Bytes.padTo 1024 code) 4 (Endian.big.toBytes 4 sum) ∧
      ZeroOutside disk [(0, 2), (2, 2)]) ∧
    (∃ image disk, Floppy.Layout.plan kernel.size = .ok ⟨2⟩ ∧
      Floppy.Layout.build ⟨2⟩ code kernel = .ok image ∧ image.flatten = .ok disk ∧
      KernelArea disk kernel 2880 1 2 ∧
      (∀ segment, (Floppy.Layout.bootDefines ⟨2⟩ segment).filter (·.name = "NSECTORS") =
        [.ofString "NSECTORS" "2"]) ∧
      Bytes.slice disk 0 512 = Bytes.padTo 512 code ∧ ZeroOutside disk [(0, 1), (1, 2)]) ∧
    ∃ image disk entry, HardDisk.Layout.plan kernel.size = .ok l ∧
      l.build record code kernel = .ok image ∧ image.flatten = .ok disk ∧
      l.partitionEntry = .ok entry ∧ KernelArea disk kernel 2016 1009 2 ∧
      (∀ segment, (l.bootDefines segment).filter (·.name = "NSECTORS") =
        [.ofString "NSECTORS" "2"]) ∧
      Bytes.slice disk 0 512 = Bytes.splice (Bytes.padTo 512 record) 0x1BE entry.toBytes ∧
      Bytes.slice disk (1008 * 512) 512 = Bytes.padTo 512 code ∧
      ZeroOutside disk [(0, 1), (1008, 1), (1009, 2)] := by
  intro kernel code record l
  have size_eq : kernel.size = 768 := Array.size_replicate
  refine ⟨?_, ?_, ?_⟩
  · have block_size : (Bytes.padTo 1024 code).size = Amiga.bootBlockSize := Bytes.size_padTo _ _
    have kernel_le : kernel.size ≤ Amiga.capacity := by
      rw [size_eq]
      decide
    rcases Amiga.build_cases (Bytes.padTo 1024 code) kernel with ⟨other, -⟩ | ⟨great, -⟩ |
      ⟨-, -, sum, -, build_eq⟩
    · exact absurd block_size other
    · exact absurd kernel_le (Nat.not_le.2 great)
    · obtain ⟨disk, disk_ok, -⟩ := Amiga.flatten_eq_ok block_size kernel_le sum
      have built : Amiga.build (Bytes.padTo 1024 code) kernel = .ok disk := by
        rw [build_eq, disk_ok]
        rfl
      obtain ⟨area, ⟨sum, -, -, block⟩, zero⟩ := kernel_placement.1 _ _ _ built
      rw [size_eq] at area zero
      exact ⟨disk, sum.toNat, built, area, block, zero⟩
  · have planned : Floppy.Layout.plan kernel.size = .ok ⟨2⟩ := by
      rw [size_eq]
      decide
    obtain ⟨image, built⟩ := (kernel_placement.2.2.2.2.1 ⟨2⟩ code kernel).2 (by decide)
    obtain ⟨disk, total, disk_ok, total_ok, area, sectors, boot, zero⟩ :=
      kernel_placement.2.2.1 _ _ _ _ planned built
    obtain rfl := Except.ok.inj (total_ok.symm.trans Floppy.totalSectors_eq)
    exact ⟨image, disk, planned, built, disk_ok, area, sectors, boot, zero⟩
  · have planned : HardDisk.Layout.plan kernel.size = .ok l := by
      rw [size_eq]
      decide
    obtain ⟨image, built⟩ :=
      (kernel_placement.2.2.2.2.2 record code kernel l planned).2 ⟨by decide, by decide⟩
    obtain ⟨disk, total, entry, disk_ok, total_ok, entry_ok, area, sectors, mbr, boot, zero⟩ :=
      kernel_placement.2.2.2.1 _ _ _ _ _ planned built
    have total_eq : l.geometry.totalSectors = .ok 2016 := by decide
    obtain rfl := Except.ok.inj (total_ok.symm.trans total_eq)
    have two : Numeral.decimal l.kernelSectors.toNat = "2" := by decide
    rw [two] at sectors
    exact ⟨image, disk, entry, planned, built, disk_ok, entry_ok, area, sectors, mbr, boot, zero⟩

end BareMetal.Disk
