import BareMetal.Bytes

/-!
# Byte order

A number of a fixed width as bytes, most or least significant byte first, and the number that such
bytes stand for.
-/

namespace BareMetal

/-- Which end of a number comes first. -/
inductive Endian where
  | big
  | little
  deriving DecidableEq, Repr

namespace Endian

def name : Endian → String
  | big => "big"
  | little => "little"

/-- The lowest `width` bytes of `n`, least significant first. -/
def littleBytes : Nat → Nat → List UInt8
  | 0, _ => []
  | width + 1, n => UInt8.ofNat n :: littleBytes width (n / 256)

/-- The number whose bytes are given least significant first. -/
def ofLittleBytes (bytes : List UInt8) : Nat :=
  bytes.foldr (fun b n => b.toNat + 256 * n) 0

/-- The lowest `width` bytes of `n` in the given order. -/
def toBytes (e : Endian) (width n : Nat) : Bytes :=
  match e with
  | big => (littleBytes width n).reverse.toArray
  | little => (littleBytes width n).toArray

/-- The number that the bytes stand for in the given order. -/
def toNat (e : Endian) (bytes : Bytes) : Nat :=
  match e with
  | big => ofLittleBytes bytes.toList.reverse
  | little => ofLittleBytes bytes.toList

/-- The number in the `width` bytes at `offset`, if they are all there. -/
def read? (e : Endian) (bytes : Bytes) (offset width : Nat) : Option Nat :=
  if offset + width ≤ bytes.size then some (e.toNat (Bytes.slice bytes offset width)) else none

/-! ## Width and round trip -/

@[simp] theorem length_littleBytes (width n : Nat) : (littleBytes width n).length = width := by
  induction width generalizing n with
  | zero => rfl
  | succ w ih => simp [littleBytes, ih]

@[simp] theorem size_toBytes (e : Endian) (width n : Nat) : (e.toBytes width n).size = width := by
  cases e <;> simp [toBytes]

theorem ofLittleBytes_littleBytes (width n : Nat) :
    ofLittleBytes (littleBytes width n) = n % Nat.pow 256 width := by
  induction width generalizing n with
  | zero => simp [littleBytes, ofLittleBytes, Nat.mod_one]
  | succ w ih =>
    have step : ofLittleBytes (littleBytes (w + 1) n) =
        n % 256 + 256 * ofLittleBytes (littleBytes w (n / 256)) := by
      simp [littleBytes, ofLittleBytes]
    show ofLittleBytes (littleBytes (w + 1) n) = n % (Nat.pow 256 w * 256)
    rw [step, ih, Nat.mul_comm (Nat.pow 256 w), Nat.mod_mul]

theorem toNat_toBytes (e : Endian) (width n : Nat) :
    e.toNat (e.toBytes width n) = n % Nat.pow 256 width := by
  cases e <;> simp [toNat, toBytes, ofLittleBytes_littleBytes]

theorem ofLittleBytes_cons (b : UInt8) (bytes : List UInt8) :
    ofLittleBytes (b :: bytes) = b.toNat + 256 * ofLittleBytes bytes := rfl

theorem ofLittleBytes_lt (bytes : List UInt8) : ofLittleBytes bytes < Nat.pow 256 bytes.length := by
  induction bytes with
  | nil => decide
  | cons b rest ih =>
    have b_lt := b.toNat_lt
    show ofLittleBytes (b :: rest) < Nat.pow 256 rest.length * 256
    rw [ofLittleBytes_cons]
    omega

theorem littleBytes_ofLittleBytes (bytes : List UInt8) :
    littleBytes bytes.length (ofLittleBytes bytes) = bytes := by
  induction bytes with
  | nil => rfl
  | cons b rest ih =>
    have b_lt := b.toNat_lt
    have lowest : UInt8.ofNat (b.toNat + 256 * ofLittleBytes rest) = b := by
      rw [← UInt8.toNat_inj, UInt8.toNat_ofNat']
      omega
    have others : (b.toNat + 256 * ofLittleBytes rest) / 256 = ofLittleBytes rest := by omega
    rw [List.length_cons, littleBytes, ofLittleBytes_cons, lowest, others, ih]

theorem toNat_lt (e : Endian) (bytes : Bytes) : e.toNat bytes < Nat.pow 256 bytes.size := by
  cases e with
  | big => simpa [toNat] using ofLittleBytes_lt bytes.toList.reverse
  | little => exact ofLittleBytes_lt bytes.toList

theorem toBytes_toNat (e : Endian) (bytes : Bytes) :
    e.toBytes bytes.size (e.toNat bytes) = bytes := by
  cases e with
  | big =>
    have written := littleBytes_ofLittleBytes bytes.toList.reverse
    rw [List.length_reverse, Array.length_toList] at written
    rw [toBytes, toNat, written, List.reverse_reverse]
  | little =>
    have written := littleBytes_ofLittleBytes bytes.toList
    rw [Array.length_toList] at written
    rw [toBytes, toNat, written]

/-- Four bytes are written again as they have been read. -/
theorem toBytes_ofNat_toNat (e : Endian) {bytes : Bytes} (four : bytes.size = 4) :
    e.toBytes 4 (UInt32.ofNat (e.toNat bytes)).toNat = bytes := by
  have small := e.toNat_lt bytes
  rw [four] at small
  have written := e.toBytes_toNat bytes
  rw [four] at written
  rw [UInt32.toNat_ofNat_of_lt' small, written]

/-- A word of 32 bits is read back from its four bytes. -/
theorem ofNat_toNat_toBytes (e : Endian) (n : UInt32) :
    UInt32.ofNat (e.toNat (e.toBytes 4 n.toNat)) = n := by
  rw [toNat_toBytes, Nat.mod_eq_of_lt n.toNat_lt, UInt32.ofNat_toNat]

end Endian

end BareMetal
