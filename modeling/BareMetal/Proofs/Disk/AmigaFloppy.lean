import BareMetal.Proofs.Disk.LongwordSum

/-!
# Amiga floppies by their parts

The sizes of the boot block and of the kernel decide whether they make a floppy
(`build_decided`).  What stands in the place of the checksum is never read
(`AgreeButChecksum`), so that the boot block of a floppy makes that floppy again
(`build_boot_block_again`).
-/

namespace BareMetal.Disk.Amiga

/-! ## Sizes -/

/-- The reasons for which a boot block and a kernel make no floppy. -/
inductive Refused (bootBlock kernel : Bytes) : Error → Prop
  | blockSize : bootBlock.size ≠ 1024 → Refused bootBlock kernel (.bootBlockSize 1024 bootBlock.size)
  | kernelSize : bootBlock.size = 1024 → 900096 < kernel.size →
    Refused bootBlock kernel (.range (.tooLarge "kernel" kernel.size 900096))

section

variable {bootBlock kernel : Bytes}

theorem capacity_eq : capacity = 900096 := by decide

theorem checksum_of_size (h : bootBlock.size = 1024) :
    checksum bootBlock = .ok (UInt32.ofNat (0xFFFFFFFF - bootBlockSum bootBlock)) := if_pos h

theorem checksum_of_size_ne (h : bootBlock.size ≠ 1024) :
    checksum bootBlock = .error (.bootBlockSize 1024 bootBlock.size) := if_neg h

theorem Refused.build_eq {e : Error} (h : Refused bootBlock kernel e) :
    build bootBlock kernel = .error e := by
  cases h with
  | blockSize wrong =>
    rw [build, checksum_of_size_ne wrong]
    rfl
  | kernelSize sized large =>
    rw [build, checksum_of_size sized, capacity_eq]
    exact if_pos large

theorem exists_build (sized : bootBlock.size = 1024) (fits : kernel.size ≤ 900096) :
    ∃ disk, build bootBlock kernel = .ok disk := by
  rcases build_cases bootBlock kernel with ⟨wrong, -⟩ | ⟨large, -⟩ | ⟨hb, hk, sum, -, built⟩
  · exact absurd sized wrong
  · rw [capacity_eq] at large
    omega
  · obtain ⟨disk, disk_ok, -⟩ := flatten_eq_ok hb hk sum
    exact ⟨disk, by rw [built, disk_ok]; rfl⟩

theorem fits_or_refused (bootBlock kernel : Bytes) :
    (bootBlock.size = 1024 ∧ kernel.size ≤ 900096) ∨ ∃ e, Refused bootBlock kernel e := by
  by_cases sized : bootBlock.size = 1024
  · rcases Nat.lt_or_ge 900096 kernel.size with large | fits
    · exact Or.inr ⟨_, .kernelSize sized large⟩
    · exact Or.inl ⟨sized, fits⟩
  · exact Or.inr ⟨_, .blockSize sized⟩

/-- The sizes decide whether there is a floppy, and which error there is if not. -/
theorem build_decided (bootBlock kernel : Bytes) :
    ((∃ disk, build bootBlock kernel = .ok disk) ↔
      bootBlock.size = 1024 ∧ kernel.size ≤ 900096) ∧
    ∀ e, build bootBlock kernel = .error e ↔ Refused bootBlock kernel e :=
  Outcome.decided_of_total (fun ⟨sized, fits⟩ => exists_build sized fits)
    (fun _ refused => refused.build_eq) (fits_or_refused bootBlock kernel)

/-- The sum of the longwords fits 64 bits before its carries are folded, and 32 bits after. -/
theorem sums_of_size (sized : bootBlock.size = 1024) :
    ((longwords bootBlock).eraseIdx 1).sum < Word64.bound ∧
      bootBlockSum bootBlock < Word32.bound := by
  have count : bootBlock.size / 4 ≤ 2 ^ 32 := by
    rw [sized]
    decide
  exact ⟨(sum_others_le bootBlock).trans_lt (sum_longwords_lt count), bootBlockSum_lt bootBlock⟩

end

/-! ## The place of the checksum -/

/-- The blocks differ at most in the bytes of the checksum. -/
structure AgreeButChecksum (block other : Bytes) : Prop where
  size_eq : block.size = other.size
  byte_eq : ∀ i, i < 4 ∨ 8 ≤ i → block[i]? = other[i]?

namespace AgreeButChecksum

variable {block other : Bytes}

theorem longword_eq (h : AgreeButChecksum block other) {i : Nat} (not_second : i ≠ 1) :
    Bytes.slice block (4 * i) 4 = Bytes.slice other (4 * i) 4 := by
  apply Array.ext_getElem?
  intro j
  rw [Bytes.getElem?_slice, Bytes.getElem?_slice]
  by_cases inside : j < 4
  · rw [if_pos inside, if_pos inside, h.byte_eq _ (by omega)]
  · rw [if_neg inside, if_neg inside]

/-- The second longword is the only one that may differ. -/
theorem longwords_eq (h : AgreeButChecksum block other) :
    (longwords block).eraseIdx 1 = (longwords other).eraseIdx 1 := by
  have each : ∀ i, i ≠ 1 → (longwords block)[i]? = (longwords other)[i]? := by
    intro i not_second
    by_cases inside : i < block.size / 4
    · rw [getElem?_longwords inside, getElem?_longwords (by rwa [← h.size_eq]),
        h.longword_eq not_second]
    · rw [List.getElem?_eq_none (by rw [length_longwords]; omega),
        List.getElem?_eq_none (by rw [length_longwords, ← h.size_eq]; omega)]
  apply List.ext_getElem?
  intro i
  rw [List.getElem?_eraseIdx, List.getElem?_eraseIdx]
  split_ifs with before
  · exact each i (by omega)
  · exact each (i + 1) (by omega)

theorem checksum_eq (h : AgreeButChecksum block other) : checksum block = checksum other := by
  have sum_eq : bootBlockSum block = bootBlockSum other := by
    rw [bootBlockSum_eq, bootBlockSum_eq, h.longwords_eq]
  rw [checksum, checksum, sum_eq, h.size_eq]

/-- With a checksum written into them the blocks are the same. -/
theorem signedBlock_eq (h : AgreeButChecksum block other) (room : 8 ≤ block.size) (sum : UInt32) :
    signedBlock block sum = signedBlock other sum := by
  have four_le : checksumOffset ≤ block.size := by
    unfold checksumOffset
    omega
  apply Array.ext_getElem?
  intro i
  rw [signedBlock, signedBlock, Bytes.getElem?_splice four_le,
    Bytes.getElem?_splice (h.size_eq ▸ four_le), Endian.size_toBytes, checksumOffset]
  split_ifs with before inside
  · exact h.byte_eq i (Or.inl before)
  · rfl
  · exact h.byte_eq i (Or.inr (Nat.not_lt.1 inside))

theorem build_eq (h : AgreeButChecksum block other) (kernel : Bytes) :
    build block kernel = build other kernel := by
  by_cases sized : block.size = 1024
  · have signed_eq := h.signedBlock_eq (by omega)
    simp only [build, h.checksum_eq, signed_eq]
  · have other_sized : other.size ≠ 1024 := h.size_eq ▸ sized
    rw [(Refused.blockSize sized).build_eq, (Refused.blockSize other_sized).build_eq, h.size_eq]

end AgreeButChecksum

theorem agreeButChecksum_signedBlock {block : Bytes} (sized : block.size = 1024) (sum : UInt32) :
    AgreeButChecksum (signedBlock block sum) block where
  size_eq := (size_signedBlock sized sum).trans sized.symm
  byte_eq i apart := by
    refine Bytes.getElem?_splice_of_apart (by rw [sized]; decide) ?_
    rwa [Endian.size_toBytes]

theorem slice_of_build {bootBlock kernel disk : Bytes} (built : build bootBlock kernel = .ok disk) :
    bootBlock.size = 1024 ∧ ∃ sum, Bytes.slice disk 0 1024 = signedBlock bootBlock sum := by
  rcases build_cases bootBlock kernel with ⟨-, refused⟩ | ⟨-, refused⟩ | ⟨hb, hk, sum, -, build_eq⟩
  · cases built.symm.trans refused
  · cases built.symm.trans refused
  · obtain ⟨disk', disk_ok, -, block_eq, -⟩ := flatten_eq_ok hb hk sum
    rw [build_eq, disk_ok] at built
    obtain rfl := Except.ok.inj built
    exact ⟨hb, sum, block_eq⟩

/-- The boot block of a floppy makes the same floppy again. -/
theorem build_boot_block_again {bootBlock kernel disk : Bytes}
    (built : build bootBlock kernel = .ok disk) :
    build (Bytes.slice disk 0 1024) kernel = .ok disk := by
  obtain ⟨sized, sum, block_eq⟩ := slice_of_build built
  rw [block_eq, (agreeButChecksum_signedBlock sized sum).build_eq, built]

/-- A boot block of 1024 bytes and a kernel that fits behind it make a floppy, anything else is
refused for one of these sizes, and no sum of the longwords leaves its word.  Boot blocks that
differ in the place of the checksum only get the same checksum and make the same floppy; so does
the boot block that stands on the floppy. -/
theorem build_decided_by_sizes (bootBlock kernel : Bytes) :
    ((∃ disk, build bootBlock kernel = .ok disk) ↔
      bootBlock.size = 1024 ∧ kernel.size ≤ 900096) ∧
    (∀ e, build bootBlock kernel = .error e ↔ Refused bootBlock kernel e) ∧
    (bootBlock.size = 1024 → ((longwords bootBlock).eraseIdx 1).sum < Word64.bound ∧
      bootBlockSum bootBlock < Word32.bound) ∧
    (∀ other, AgreeButChecksum bootBlock other →
      checksum bootBlock = checksum other ∧ build bootBlock kernel = build other kernel) ∧
    ∀ disk, build bootBlock kernel = .ok disk →
      build (Bytes.slice disk 0 1024) kernel = .ok disk :=
  ⟨(build_decided bootBlock kernel).1, (build_decided bootBlock kernel).2, sums_of_size,
    fun _ same => ⟨same.checksum_eq, same.build_eq kernel⟩, fun _ => build_boot_block_again⟩

/-- Boot blocks of ones and of the same with zeros for the checksum make one floppy, and its boot
block makes it again. -/
theorem build_decided_by_sizes_of_ones : ∃ disk,
    build (Array.replicate 1024 0x11) #[0x4E] = .ok disk ∧
    build (Bytes.splice (Array.replicate 1024 0x11) 4 (Bytes.zeros 4)) #[0x4E] = .ok disk ∧
    build (Bytes.slice disk 0 1024) #[0x4E] = .ok disk ∧
    bootBlockSum (Array.replicate 1024 0x11) < Word32.bound := by
  obtain ⟨built_iff, -, sums, same, again⟩ :=
    build_decided_by_sizes (Array.replicate 1024 0x11) #[0x4E]
  obtain ⟨disk, built⟩ := built_iff.2 ⟨Array.size_replicate, by decide⟩
  have agree : AgreeButChecksum (Array.replicate 1024 0x11)
      (Bytes.splice (Array.replicate 1024 0x11) 4 (Bytes.zeros 4)) := by
    have room : 4 + (Bytes.zeros 4).size ≤ (Array.replicate 1024 (0x11 : UInt8)).size := by
      rw [Bytes.size_zeros, Array.size_replicate]
      decide
    refine ⟨(Bytes.size_splice room).symm, fun i apart => ?_⟩
    refine (Bytes.getElem?_splice_of_apart (by omega) ?_).symm
    rwa [Bytes.size_zeros]
  refine ⟨disk, built, ?_, again disk built, (sums Array.size_replicate).2⟩
  rw [← (same _ agree).2, built]

end BareMetal.Disk.Amiga
