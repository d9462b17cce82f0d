import BareMetal.Fault

/-!
# Byte strings

`Bytes` is the content of files, sectors, cards and packets.  `splice` writes a piece over another
and is the only way in which the builders of this library place data; `chunks` cuts a byte string
into pieces of one size.
-/

namespace BareMetal

abbrev Bytes := Array UInt8

namespace Bytes

/-- `n` zero bytes. -/
def zeros (n : Nat) : Bytes := Array.replicate n 0

/-- The UTF-8 bytes of a text. -/
def ofText (s : String) : Bytes := s.toUTF8.data

/-- The `length` bytes from `offset`, or those that there are. -/
def slice (b : Bytes) (offset length : Nat) : Bytes := b.extract offset (offset + length)

/-- The `length` bytes from `offset`, all of which have to be there. -/
def cut (b : Bytes) (offset length : Nat) : Except Fault Bytes :=
  if offset + length ≤ b.size then .ok (slice b offset length) else .error .outOfRange

/-- `b` with `piece` written over what stands at `offset`. -/
def splice (b : Bytes) (offset : Nat) (piece : Bytes) : Bytes :=
  b.extract 0 offset ++ piece ++ b.extract (offset + piece.size) b.size

/-- `b` followed by as many zeros as make it `n` bytes long, if it is shorter. -/
def padTo (n : Nat) (b : Bytes) : Bytes := b ++ zeros (n - b.size)

/-- The pieces of `size` bytes of which `b` consists; the last one may be shorter. -/
def chunks (size : Nat) (b : Bytes) : List Bytes :=
  (List.range (ceilDiv b.size size)).map fun i => slice b (i * size) size

/-! ## Sizes -/

@[simp] theorem size_zeros (n : Nat) : (zeros n).size = n := Array.size_replicate

theorem size_slice {b : Bytes} {offset length : Nat} (h : offset + length ≤ b.size) :
    (slice b offset length).size = length := by
  simp only [slice, Array.size_extract]
  omega

theorem slice_all (b : Bytes) : slice b 0 b.size = b := by
  rw [slice, Nat.zero_add, Array.extract_size]

theorem size_splice {b piece : Bytes} {offset : Nat} (h : offset + piece.size ≤ b.size) :
    (splice b offset piece).size = b.size := by
  simp only [splice, Array.size_append, Array.size_extract]
  omega

theorem size_padTo (n : Nat) (b : Bytes) : (padTo n b).size = max n b.size := by
  simp only [padTo, Array.size_append, size_zeros]
  omega

/-! ## Bytes by position -/

theorem cut_of_le {b : Bytes} {offset length : Nat} (h : offset + length ≤ b.size) :
    cut b offset length = .ok (slice b offset length) := if_pos h

theorem getElem?_zeros (n i : Nat) : (zeros n)[i]? = if i < n then some 0 else none :=
  Array.getElem?_replicate

theorem getElem?_slice (b : Bytes) (offset length i : Nat) :
    (slice b offset length)[i]? = if i < length then b[offset + i]? else none := by
  simp only [slice, Array.getElem?_extract]
  by_cases hi : i < length
  · by_cases hb : offset + i < b.size
    · rw [if_pos (by omega), if_pos hi]
    · rw [if_neg (by omega), if_pos hi, Array.getElem?_eq_none (by omega)]
  · rw [if_neg (by omega), if_neg hi]

theorem getElem?_splice {b piece : Bytes} {offset : Nat} (h : offset ≤ b.size) (i : Nat) :
    (splice b offset piece)[i]? =
      if i < offset then b[i]?
      else if i < offset + piece.size then piece[i - offset]?
      else b[i]? := by
  simp only [splice, Array.getElem?_append, Array.getElem?_extract, Array.size_append,
    Array.size_extract]
  have hmin : min offset b.size - 0 = offset := by omega
  rw [hmin]
  by_cases h₁ : i < offset
  · rw [if_pos (by omega), if_pos h₁, if_pos h₁, if_pos h₁, Nat.zero_add]
  · by_cases h₂ : i < offset + piece.size
    · rw [if_pos h₂, if_neg h₁, if_neg h₁, if_pos h₂]
    · rw [if_neg h₂, if_neg h₁, if_neg h₂]
      by_cases h₃ : i < b.size
      · rw [if_pos (by omega)]
        congr 1
        omega
      · rw [if_neg (by omega), Array.getElem?_eq_none (by omega)]

/-- What stands beside a piece stays when it is written. -/
theorem getElem?_splice_of_apart {b piece : Bytes} {offset i : Nat} (h : offset ≤ b.size)
    (apart : i < offset ∨ offset + piece.size ≤ i) : (splice b offset piece)[i]? = b[i]? := by
  rw [getElem?_splice h]
  rcases apart with before | behind
  · rw [if_pos before]
  · rw [if_neg (by omega), if_neg (by omega)]

theorem getElem?_padTo (n : Nat) (b : Bytes) (i : Nat) :
    (padTo n b)[i]? = if i < b.size then b[i]? else if i < n then some 0 else none := by
  simp only [padTo, Array.getElem?_append, getElem?_zeros]
  split
  · rfl
  · rename_i h
    by_cases hn : i < n
    · rw [if_pos (by omega), if_pos hn]
    · rw [if_neg (by omega), if_neg hn]

/-- What has been written over a byte string is found there. -/
theorem slice_splice_self {b piece : Bytes} {offset : Nat} (h : offset ≤ b.size) :
    slice (splice b offset piece) offset piece.size = piece := by
  apply Array.ext_getElem?
  intro i
  rw [getElem?_slice, getElem?_splice h]
  by_cases hi : i < piece.size
  · rw [if_pos hi, if_neg (by omega), if_pos (by omega), Nat.add_sub_cancel_left]
  · rw [if_neg hi, Array.getElem?_eq_none (by omega)]

theorem slice_splice_of_apart {b piece : Bytes} {offset start length : Nat} (h : offset ≤ b.size)
    (apart : start + length ≤ offset ∨ offset + piece.size ≤ start) :
    slice (splice b offset piece) start length = slice b start length := by
  apply Array.ext_getElem?
  intro i
  rw [getElem?_slice, getElem?_slice]
  by_cases hi : i < length
  · rw [if_pos hi, if_pos hi, getElem?_splice_of_apart h (by omega)]
  · rw [if_neg hi, if_neg hi]

theorem slice_slice {b : Bytes} {offset length offset' length' : Nat}
    (h : offset' + length' ≤ length) :
    slice (slice b offset length) offset' length' = slice b (offset + offset') length' := by
  apply Array.ext_getElem?
  intro i
  simp only [getElem?_slice]
  by_cases hi : i < length'
  · rw [if_pos hi, if_pos hi, if_pos (by omega), Nat.add_assoc]
  · rw [if_neg hi, if_neg hi]

/-- The middle one of three pieces is found behind the first. -/
theorem slice_append {a b c : Bytes} {offset length : Nat} (ha : a.size = offset)
    (hb : b.size = length) : slice (a ++ b ++ c) offset length = b := by
  apply Array.ext_getElem?
  intro i
  simp only [getElem?_slice, Array.getElem?_append, Array.size_append]
  by_cases hi : i < length
  · rw [if_pos hi, if_pos (by omega), if_neg (by omega)]
    congr 1
    omega
  · rw [if_neg hi, Array.getElem?_eq_none (by omega)]

end Bytes

end BareMetal
