import BareMetal.Proofs.Disk.KernelPlacement
import Mathlib.Algebra.BigOperators.Group.List.Basic

/-!
# Checksums of boot blocks

The start-up code of the machine adds the longwords of a boot block one after the other and takes
every carry in again at once (`startUpSum`); the builder adds them all first and folds the carries
in the end.  Both leave the same remainder by `0xFFFFFFFF`, with `0xFFFFFFFF` in the place of zero
unless nothing has been added (`endAround`), so that a built floppy passes the test
(`build_passes_startUp`).
-/

namespace BareMetal.Disk.Amiga

/-! ## End-around carries -/

/-- What is left of a sum when its carries have been added at the low end. -/
def endAround (n : Nat) : Nat := if n = 0 then 0 else (n - 1) % 0xFFFFFFFF + 1

theorem endAround_of_lt {n : Nat} (h : n < 0x100000000) : endAround n = n := by
  unfold endAround
  split_ifs with zero
  · exact zero.symm
  · rw [Nat.mod_eq_of_lt (by omega)]
    omega

/-- A carry that is taken off and added again does not matter. -/
theorem endAround_add_mul {n : Nat} (h : n ≠ 0) (k : Nat) :
    endAround (n + 0xFFFFFFFF * k) = endAround n := by
  have shifted : n + 0xFFFFFFFF * k - 1 = n - 1 + 0xFFFFFFFF * k := by omega
  unfold endAround
  rw [if_neg (by omega), if_neg h, shifted, Nat.add_mul_mod_self_left]

theorem exists_eq_endAround_add (n : Nat) : ∃ k, n = endAround n + 0xFFFFFFFF * k := by
  by_cases zero : n = 0
  · subst zero
    exact ⟨0, rfl⟩
  · refine ⟨(n - 1) / 0xFFFFFFFF, ?_⟩
    have := Nat.mod_add_div (n - 1) 0xFFFFFFFF
    rw [endAround, if_neg zero]
    omega

theorem endAround_eq_zero_iff {n : Nat} : endAround n = 0 ↔ n = 0 := by
  unfold endAround
  split_ifs with zero <;> simp [zero]

theorem endAround_lt (n : Nat) : endAround n < 0x100000000 := by
  unfold endAround
  split_ifs <;> omega

/-- Carries may be taken in before more is added. -/
theorem endAround_endAround_add (a b : Nat) : endAround (endAround a + b) = endAround (a + b) := by
  by_cases zero : a = 0
  · rw [zero, endAround_eq_zero_iff.2 rfl]
  · obtain ⟨k, a_eq⟩ := exists_eq_endAround_add a
    have positive : endAround a ≠ 0 := mt endAround_eq_zero_iff.1 zero
    have sum_eq : a + b = endAround a + b + 0xFFFFFFFF * k := by omega
    rw [sum_eq, endAround_add_mul (by omega)]

theorem foldCarries_eq (sum : Nat) : foldCarries sum = endAround sum := by
  fun_induction foldCarries sum with
  | case1 sum small => exact (endAround_of_lt small).symm
  | case2 sum large ih =>
    have split := Nat.mod_add_div sum 0x100000000
    have sum_eq : sum =
        sum % 0x100000000 + sum / 0x100000000 + 0xFFFFFFFF * (sum / 0x100000000) := by omega
    rw [ih, ← endAround_add_mul (by omega) (sum / 0x100000000), ← sum_eq]

/-! ## The sum that is taken at start-up -/

/-- Adds two longwords, and the carry if there is one. -/
def addCarry (a b : UInt32) : UInt32 := if a + b < a then a + b + 1 else a + b

/-- The longwords of a block, stored checksum and all, added one after the other. -/
def startUpSum (block : Bytes) : UInt32 :=
  ((longwords block).map UInt32.ofNat).foldl addCarry 0

theorem toNat_addCarry (a b : UInt32) : (addCarry a b).toNat = endAround (a.toNat + b.toNat) := by
  have a_lt := a.toNat_lt
  have b_lt := b.toNat_lt
  have sum_toNat : (a + b).toNat = (a.toNat + b.toNat) % 2 ^ 32 := UInt32.toNat_add a b
  unfold addCarry
  split_ifs with carry
  · rw [UInt32.lt_iff_toNat_lt, sum_toNat] at carry
    have sum_eq : a.toNat + b.toNat = (a.toNat + b.toNat) % 2 ^ 32 + 1 + 0xFFFFFFFF * 1 := by omega
    rw [UInt32.toNat_add, sum_toNat, UInt32.toNat_one, sum_eq, endAround_add_mul (by omega),
      ← sum_eq, endAround_of_lt (by omega), Nat.mod_eq_of_lt (by omega)]
  · rw [UInt32.lt_iff_toNat_lt, sum_toNat] at carry
    rw [sum_toNat, Nat.mod_eq_of_lt (by omega), endAround_of_lt (by omega)]

theorem toNat_foldl_addCarry (words : List Nat) (small : ∀ w ∈ words, w < 0x100000000)
    (sum : UInt32) : ((words.map UInt32.ofNat).foldl addCarry sum).toNat =
      endAround (sum.toNat + words.sum) := by
  induction words generalizing sum with
  | nil => exact (endAround_of_lt sum.toNat_lt).symm
  | cons w rest ih =>
    have w_toNat : (UInt32.ofNat w).toNat = w := UInt32.toNat_ofNat_of_lt' (small w (by simp))
    rw [List.map_cons, List.foldl_cons, ih (fun v mem => small v (by simp [mem])), toNat_addCarry,
      endAround_endAround_add, w_toNat, List.sum_cons, Nat.add_assoc]

/-! ## Longwords of a block -/

theorem length_longwords (block : Bytes) : (longwords block).length = block.size / 4 := by
  simp [longwords]

theorem getElem?_longwords {block : Bytes} {i : Nat} (h : i < block.size / 4) :
    (longwords block)[i]? = some (Endian.big.toNat (Bytes.slice block (4 * i) 4)) := by
  simp [longwords, h]

theorem lt_of_mem_longwords {block : Bytes} {w : Nat} (mem : w ∈ longwords block) :
    w < 0x100000000 := by
  obtain ⟨i, i_mem, rfl⟩ := List.mem_map.1 mem
  have i_lt := List.mem_range.1 i_mem
  have bound := Endian.big.toNat_lt (Bytes.slice block (4 * i) 4)
  rw [Bytes.size_slice (by omega)] at bound
  exact bound

theorem toNat_startUpSum (block : Bytes) :
    (startUpSum block).toNat = endAround (longwords block).sum := by
  rw [startUpSum, toNat_foldl_addCarry _ fun _ => lt_of_mem_longwords, UInt32.toNat_zero,
    Nat.zero_add]

theorem bootBlockSum_eq (block : Bytes) :
    bootBlockSum block = endAround ((longwords block).eraseIdx 1).sum := by
  rw [bootBlockSum, foldCarries_eq, ← List.sum_eq_foldl_nat]
  rfl

theorem bootBlockSum_lt (block : Bytes) : bootBlockSum block < 0x100000000 := by
  rw [bootBlockSum_eq]
  exact endAround_lt _

/-- A checksum is written over the second longword and no other. -/
theorem longwords_signedBlock {block : Bytes} (h : block.size = bootBlockSize) (sum : UInt32) :
    longwords (signedBlock block sum) = (longwords block).set 1 sum.toNat := by
  have h' : block.size = 1024 := h
  have signed_size : (signedBlock block sum).size = 1024 := size_signedBlock h sum
  have sum_size : (Endian.big.toBytes 4 sum.toNat).size = 4 := Endian.size_toBytes ..
  have four_le : 4 ≤ block.size := by omega
  apply List.ext_getElem?
  intro i
  rw [List.getElem?_set, length_longwords, h']
  by_cases i_lt : i < 256
  · rw [getElem?_longwords (by rwa [signed_size])]
    by_cases second : 1 = i
    · subst second
      have written : Bytes.slice (signedBlock block sum) 4 4 = Endian.big.toBytes 4 sum.toNat := by
        have found : Bytes.slice (signedBlock block sum) 4 (Endian.big.toBytes 4 sum.toNat).size =
            Endian.big.toBytes 4 sum.toNat := Bytes.slice_splice_self four_le
        rwa [sum_size] at found
      rw [if_pos rfl, if_pos (by decide), written, Endian.toNat_toBytes,
        Nat.mod_eq_of_lt sum.toNat_lt]
    · have kept : Bytes.slice (signedBlock block sum) (4 * i) 4 = Bytes.slice block (4 * i) 4 :=
        Bytes.slice_splice_of_apart four_le (by rw [sum_size, checksumOffset]; omega)
      rw [if_neg second, getElem?_longwords (by rwa [h']), kept]
  · have i_ge : 256 ≤ i := Nat.not_lt.1 i_lt
    rw [if_neg (by omega), List.getElem?_eq_none, List.getElem?_eq_none]
    · rwa [length_longwords, h']
    · rwa [length_longwords, signed_size]

/-! ## Built floppies -/

/-- The checksum is what the other longwords lack to all ones. -/
theorem startUpSum_signedBlock {block : Bytes} {sum : UInt32} (h : checksum block = .ok sum) :
    startUpSum (signedBlock block sum) = 0xFFFFFFFF := by
  unfold checksum at h
  split at h
  case isFalse => cases h
  rename_i size_eq
  have sum_le : bootBlockSum block ≤ 0xFFFFFFFF := Nat.le_of_lt_succ (bootBlockSum_lt block)
  have sum_toNat : sum.toNat = 0xFFFFFFFF - bootBlockSum block := by
    rw [← Except.ok.inj h]
    exact UInt32.toNat_ofNat_of_lt' (by rw [UInt32.size]; omega)
  have count : 1 < (longwords block).length := by
    rw [length_longwords, size_eq]
    decide
  have total : (longwords (signedBlock block sum)).sum =
      ((longwords block).eraseIdx 1).sum + sum.toNat := by
    have := List.CommMonoid.add_sum_eraseIdx (l := (longwords block).set 1 sum.toNat) (i := 1)
      (by rwa [List.length_set])
    rw [longwords_signedBlock size_eq, ← this, List.getElem_set_self, List.eraseIdx_set_eq,
      Nat.add_comm]
  apply UInt32.toNat_inj.1
  rw [toNat_startUpSum, total, ← endAround_endAround_add, ← bootBlockSum_eq, sum_toNat,
    Nat.add_sub_cancel' sum_le]
  rfl

/-- Every boot block of the right size and every kernel that fits make a floppy, and at start-up
the 256 longwords of its boot block add up to all ones. -/
theorem build_passes_startUp (bootBlock kernel : Bytes) (block_size : bootBlock.size = 1024)
    (kernel_fits : kernel.size ≤ 901120 - 1024) :
    ∃ disk, build bootBlock kernel = .ok disk ∧
      (longwords (Bytes.slice disk 0 1024)).length = 256 ∧
      startUpSum (Bytes.slice disk 0 1024) = 0xFFFFFFFF := by
  rcases build_cases bootBlock kernel with ⟨wrong, -⟩ | ⟨large, -⟩ | ⟨hb, hk, sum, checked, built⟩
  · exact absurd block_size wrong
  · have capacity_eq : capacity = 901120 - 1024 := by decide
    omega
  · obtain ⟨disk, disk_ok, -, block_eq, -⟩ := flatten_eq_ok hb hk sum
    have block_eq : Bytes.slice disk 0 1024 = signedBlock bootBlock sum := block_eq
    refine ⟨disk, ?_, ?_, ?_⟩
    · rw [built, disk_ok]
      rfl
    · rw [block_eq, length_longwords, size_signedBlock hb]
      rfl
    · rw [block_eq, startUpSum_signedBlock checked]

/-- A boot block of zeros gets all ones for its checksum, and the other zero of the sum. -/
theorem build_passes_startUp_blank :
    ∃ disk, build (Bytes.zeros 1024) #[] = .ok disk ∧
      startUpSum (Bytes.slice disk 0 1024) = 0xFFFFFFFF := by
  obtain ⟨disk, built, -, passes⟩ :=
    build_passes_startUp (Bytes.zeros 1024) #[] (Bytes.size_zeros 1024) (by decide)
  exact ⟨disk, built, passes⟩

end BareMetal.Disk.Amiga
