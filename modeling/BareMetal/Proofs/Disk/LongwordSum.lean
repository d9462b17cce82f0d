import BareMetal.Proofs.Disk.BootBlock
import Mathlib.Algebra.Order.BigOperators.Group.List

/-!
# The sum of a boot block in any order

The longwords of a boot block but that of the checksum are added up in 64 bits, and the carries are
folded as long as there are any.  For up to 2^32 longwords nothing overflows (`checkedSum_eq`).
Adding the longwords in 32 bits, each carry at once, leaves the same end-around sum whatever order
they come in (`bootBlockSum_in_any_order`): both ways keep the remainder by `0xFFFFFFFF`, and both
leave zero only where nothing but zeros has been added.
-/

namespace BareMetal

namespace Word64

/-- The sum of two words of 64 bits, given by their values. -/
def add (a b : Nat) : Except Fault Nat := if a + b < bound then .ok (a + b) else .error .overflow

theorem add_of_lt {a b : Nat} (h : a + b < bound) : add a b = .ok (a + b) := if_pos h

theorem add_eq_ok_iff {a b c : Nat} : add a b = .ok c ↔ a + b < bound ∧ a + b = c := by
  unfold add
  split_ifs with small <;> simp [small]

end Word64

namespace Disk.Amiga

/-! ## Sums in 64 bits -/

/-- Takes the longword with a number into a sum of 64 bits, unless it holds the checksum. -/
def addLongword (sum : Nat) : Nat × Nat → Except Fault Nat
  | (word, number) => do
    if (← Word64.mul number 4) = checksumOffset then return sum else Word64.add sum word

/-- Adds whatever exceeds 32 bits of a sum of 64 bits to the rest until nothing exceeds them.  Each
turn takes `0xFFFFFFFF` off for every carry, so the sum gets smaller. -/
def foldChecked (sum : Nat) : Except Fault UInt32 :=
  if sum ≤ 0xFFFFFFFF then .ok (UInt32.ofNat sum)
  else
    match _h : Word64.add (sum % 0x100000000) (sum / 0x100000000) with
    | .ok folded => foldChecked folded
    | .error f => .error f
  termination_by sum
  decreasing_by
    have := (Word64.add_eq_ok_iff.1 _h).2
    omega

/-- The sum of a block, no word of it allowed to overflow. -/
def checkedSum (block : Bytes) : Except Fault UInt32 := do
  foldChecked (← (longwords block).zipIdx.foldlM addLongword 0)

section

variable {block : Bytes}

theorem foldChecked_eq {sum : Nat} (h : sum < Word64.bound) :
    foldChecked sum = .ok (UInt32.ofNat (foldCarries sum)) := by
  fun_induction foldCarries sum with
  | case1 sum small => rw [foldChecked, if_pos (by omega)]
  | case2 sum large ih =>
    unfold Word64.bound at h ih
    have room : sum % 0x100000000 + sum / 0x100000000 < Word64.bound := by
      unfold Word64.bound
      omega
    have turn := Word64.add_of_lt room
    rw [foldChecked, if_neg (by omega)]
    split
    case h_1 folded folded_ok =>
      obtain rfl := Except.ok.inj (turn.symm.trans folded_ok)
      exact ih room
    case h_2 f overflow => cases turn.symm.trans overflow

theorem addLongword_of_ne {number : Nat} (other : number ≠ 1) (offset_lt : number * 4 < Word64.bound)
    {sum w : Nat} (room : sum + w < Word64.bound) :
    addLongword sum (w, number) = .ok (sum + w) := by
  have not_checksum : ¬ number * 4 = checksumOffset := by
    rw [checksumOffset]
    omega
  rw [addLongword, Word64.mul_of_lt offset_lt, Outcome.ok_bind, if_neg not_checksum,
    Word64.add_of_lt room]

/-- The longword of the checksum is left out. -/
theorem addLongword_one (sum w : Nat) : addLongword sum (w, 1) = .ok sum := rfl

/-- Behind the longword of the checksum every longword is taken into the sum. -/
theorem foldlM_addLongword {words : List Nat} {number sum : Nat} (behind : 2 ≤ number)
    (numbers : (number + words.length) * 4 ≤ Word64.bound) (room : sum + words.sum < Word64.bound) :
    (words.zipIdx number).foldlM addLongword sum = .ok (sum + words.sum) := by
  induction words generalizing number sum with
  | nil => rfl
  | cons w rest ih =>
    rw [List.length_cons] at numbers
    rw [List.sum_cons] at room
    rw [List.zipIdx_cons, List.foldlM_cons,
      addLongword_of_ne (by omega) (by omega) (by omega), Outcome.ok_bind,
      ih (by omega) (by omega) (by omega), List.sum_cons, Nat.add_assoc]

/-- All longwords but the second are added up. -/
theorem foldlM_addLongword_zero {words : List Nat} (numbers : words.length * 4 ≤ Word64.bound)
    (room : words.sum < Word64.bound) :
    words.zipIdx.foldlM addLongword 0 = .ok (words.eraseIdx 1).sum := by
  match words with
  | [] => rfl
  | [first] =>
    rw [List.sum_singleton] at room
    rw [List.zipIdx_cons, List.foldlM_cons,
      addLongword_of_ne (by decide) (by decide) (by omega), Nat.zero_add]
    rfl
  | first :: second :: rest =>
    simp only [List.sum_cons, List.length_cons] at room numbers
    have first_ok : addLongword 0 (first, 0) = .ok first := by
      rw [addLongword_of_ne (by decide) (by decide) (by omega), Nat.zero_add]
    have rest_ok : (rest.zipIdx 2).foldlM addLongword first = .ok (first + rest.sum) :=
      foldlM_addLongword le_rfl (by omega) (by omega)
    rw [List.zipIdx_cons, List.zipIdx_cons, List.foldlM_cons, first_ok, Outcome.ok_bind,
      List.foldlM_cons, addLongword_one, Outcome.ok_bind]
    exact rest_ok

theorem sum_longwords_lt (count : block.size / 4 ≤ 2 ^ 32) :
    (longwords block).sum < Word64.bound := by
  have each : ∀ w ∈ longwords block, w ≤ 0xFFFFFFFF := fun w mem =>
    Nat.le_of_lt_succ (lt_of_mem_longwords mem)
  have sum_le := List.sum_le_card_nsmul _ _ each
  rw [length_longwords, nsmul_eq_mul, Nat.cast_id] at sum_le
  unfold Word64.bound
  omega

theorem sum_others_le (block : Bytes) :
    ((longwords block).eraseIdx 1).sum ≤ (longwords block).sum :=
  (List.eraseIdx_sublist ..).sum_le_sum fun _ _ => Nat.zero_le _

/-- A block of as many longwords as 32 bits can count is summed without overflow. -/
theorem checkedSum_eq (count : block.size / 4 ≤ 2 ^ 32) :
    checkedSum block = .ok (UInt32.ofNat (bootBlockSum block)) := by
  have sum_lt := sum_longwords_lt count
  have numbers : (longwords block).length * 4 ≤ Word64.bound := by
    rw [length_longwords, Word64.bound]
    omega
  rw [checkedSum, foldlM_addLongword_zero numbers sum_lt, Outcome.ok_bind,
    foldChecked_eq ((sum_others_le block).trans_lt sum_lt), bootBlockSum_eq, foldCarries_eq]

/-- Longwords that are added in 32 bits leave the sum of the block, whatever order they come in. -/
theorem toNat_foldl_addCarry_of_perm {order : List Nat}
    (perm : order.Perm ((longwords block).eraseIdx 1)) :
    ((order.map UInt32.ofNat).foldl addCarry 0).toNat = bootBlockSum block := by
  have small : ∀ w ∈ order, w < 0x100000000 := fun w mem =>
    lt_of_mem_longwords (List.mem_of_mem_eraseIdx (perm.mem_iff.1 mem))
  rw [toNat_foldl_addCarry order small, perm.sum_eq, bootBlockSum_eq, UInt32.toNat_zero,
    Nat.zero_add]

theorem bootBlockSum_eq_zero_iff (block : Bytes) :
    bootBlockSum block = 0 ↔ ∀ w ∈ (longwords block).eraseIdx 1, w = 0 := by
  rw [bootBlockSum_eq, endAround_eq_zero_iff, List.sum_eq_zero_iff]

end

/-- The sum of a block of up to 2^32 longwords is found without overflow, and adding the longwords
but that of the checksum in 32 bits leaves the same in any order, when every carry is added again at
once.  All ones stand for a sum of nothing but carries: the sum is zero only if every longword is. -/
theorem bootBlockSum_in_any_order (block : Bytes) (count : block.size / 4 ≤ 2 ^ 32) :
    checkedSum block = .ok (UInt32.ofNat (bootBlockSum block)) ∧ bootBlockSum block < 2 ^ 32 ∧
    (∀ order : List Nat, order.Perm ((longwords block).eraseIdx 1) →
      ((order.map UInt32.ofNat).foldl addCarry 0).toNat = bootBlockSum block) ∧
    (bootBlockSum block = 0 ↔ ∀ w ∈ (longwords block).eraseIdx 1, w = 0) :=
  ⟨checkedSum_eq count, bootBlockSum_lt block, fun _ => toNat_foldl_addCarry_of_perm,
    bootBlockSum_eq_zero_iff block⟩

/-- Two longwords of ones beside that of the checksum leave ones, and not the other zero. -/
theorem bootBlockSum_in_any_order_of_ones :
    (Array.replicate 12 (0xFF : UInt8)).size / 4 ≤ 2 ^ 32 ∧
      checkedSum (Array.replicate 12 0xFF) = .ok 0xFFFFFFFF := by
  have count : (Array.replicate 12 (0xFF : UInt8)).size / 4 ≤ 2 ^ 32 := by
    rw [Array.size_replicate]
    decide
  obtain ⟨checked, -, any_order, -⟩ := bootBlockSum_in_any_order (Array.replicate 12 0xFF) count
  have others : (longwords (Array.replicate 12 0xFF)).eraseIdx 1 = [0xFFFFFFFF, 0xFFFFFFFF] :=
    rfl
  have sum_eq := any_order [0xFFFFFFFF, 0xFFFFFFFF] (others ▸ .refl _)
  refine ⟨count, ?_⟩
  rw [checked, ← sum_eq]
  rfl

end Disk.Amiga

end BareMetal
