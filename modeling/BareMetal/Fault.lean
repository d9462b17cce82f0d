/-!
# Faults and checked arithmetic

A fault is a computation that has no answer in the words of the machine: a result outside its
word, a division by zero, or a slice outside its data.  `Word32` holds the arithmetic on 32-bit
words that reports such a case instead of wrapping around, `Word64` the product of wider ones.
-/

namespace BareMetal

/-- Why a computation on machine words or slices has no answer. -/
inductive Fault where
  /-- The exact result does not fit the word. -/
  | overflow
  /-- A quotient or remainder by zero was asked for. -/
  | divisionByZero
  /-- A slice reaches outside its data. -/
  | outOfRange
  deriving DecidableEq, Repr

/-- The number of blocks of `size` needed to hold `n` items. -/
def ceilDiv (n size : Nat) : Nat := (n + size - 1) / size

theorem ceilDiv_le_iff {n size m : Nat} (h : 0 < size) : ceilDiv n size ≤ m ↔ n ≤ m * size := by
  rw [ceilDiv, Nat.div_le_iff_le_mul_add_pred h, Nat.mul_comm]
  omega

theorem le_ceilDiv_mul {n size : Nat} (h : 0 < size) : n ≤ ceilDiv n size * size :=
  (ceilDiv_le_iff h).1 (Nat.le_refl _)

namespace Word32

/-- One more than the greatest word of 32 bits. -/
def bound : Nat := 0x100000000

/-- The word of value `n`, which must be below the bound. -/
def exact (n : Nat) : Except Fault UInt32 :=
  if n < bound then .ok (UInt32.ofNat n) else .error .overflow

def add (a b : UInt32) : Except Fault UInt32 := exact (a.toNat + b.toNat)

def mul (a b : UInt32) : Except Fault UInt32 := exact (a.toNat * b.toNat)

def sub (a b : UInt32) : Except Fault UInt32 :=
  if b ≤ a then .ok (a - b) else .error .overflow

def div (a b : UInt32) : Except Fault UInt32 :=
  if b = 0 then .error .divisionByZero else .ok (a / b)

def rem (a b : UInt32) : Except Fault UInt32 :=
  if b = 0 then .error .divisionByZero else .ok (a % b)

/-! ## When the arithmetic has an answer -/

theorem exact_toNat (a : UInt32) : exact a.toNat = .ok a := by
  have h : a.toNat < bound := a.toNat_lt
  simp [exact, h]

theorem exact_of_lt {n : Nat} (h : n < bound) : exact n = .ok (UInt32.ofNat n) := if_pos h

theorem exact_of_le {n : Nat} (h : bound ≤ n) : exact n = .error .overflow :=
  if_neg (Nat.not_lt.2 h)

theorem exact_eq_ok_iff {n : Nat} {w : UInt32} : exact n = .ok w ↔ w.toNat = n := by
  constructor
  · intro h
    unfold exact at h
    split at h
    · rename_i lt
      rw [← Except.ok.inj h, UInt32.toNat_ofNat_of_lt' lt]
    · cases h
  · rintro rfl
    exact exact_toNat w

theorem add_eq_ok_iff {a b c : UInt32} : add a b = .ok c ↔ c.toNat = a.toNat + b.toNat :=
  exact_eq_ok_iff

theorem mul_eq_ok_iff {a b c : UInt32} : mul a b = .ok c ↔ c.toNat = a.toNat * b.toNat :=
  exact_eq_ok_iff

theorem exists_exact {n : Nat} (h : n < bound) : ∃ w, exact n = .ok w ∧ w.toNat = n :=
  ⟨UInt32.ofNat n, exact_of_lt h, UInt32.toNat_ofNat_of_lt' h⟩

theorem exists_add (a b : UInt32) (h : a.toNat + b.toNat < bound) :
    ∃ c, add a b = .ok c ∧ c.toNat = a.toNat + b.toNat := exists_exact h

theorem exists_mul (a b : UInt32) (h : a.toNat * b.toNat < bound) :
    ∃ c, mul a b = .ok c ∧ c.toNat = a.toNat * b.toNat := exists_exact h

theorem exists_sub (a b : UInt32) (h : b.toNat ≤ a.toNat) :
    ∃ c, sub a b = .ok c ∧ c.toNat = a.toNat - b.toNat :=
  ⟨a - b, if_pos h, UInt32.toNat_sub_of_le a b h⟩

theorem toNat_pos_iff {a : UInt32} : 0 < a.toNat ↔ a ≠ 0 := by
  rw [Nat.pos_iff_ne_zero, ← UInt32.toNat_zero, Ne, UInt32.toNat_inj]

theorem exists_div (a b : UInt32) (h : 0 < b.toNat) :
    ∃ c, div a b = .ok c ∧ c.toNat = a.toNat / b.toNat :=
  ⟨a / b, if_neg (toNat_pos_iff.1 h), UInt32.toNat_div a b⟩

theorem exists_rem (a b : UInt32) (h : 0 < b.toNat) :
    ∃ c, rem a b = .ok c ∧ c.toNat = a.toNat % b.toNat :=
  ⟨a % b, if_neg (toNat_pos_iff.1 h), UInt32.toNat_mod a b⟩

end Word32

namespace Word64

/-- One more than the greatest word of 64 bits. -/
def bound : Nat := 0x10000000000000000

/-- The product of two words of 64 bits, given by their values. -/
def mul (a b : Nat) : Except Fault Nat := if a * b < bound then .ok (a * b) else .error .overflow

theorem mul_of_lt {a b : Nat} (h : a * b < bound) : mul a b = .ok (a * b) := if_pos h

end Word64

/-- The sectors that hold `length` bytes.  A sector of no bytes holds nothing. -/
def sectorsFor (length sectorSize : Nat) : Except Fault Nat :=
  if sectorSize = 0 then .error .divisionByZero else .ok (ceilDiv length sectorSize)

end BareMetal
