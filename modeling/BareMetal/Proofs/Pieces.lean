import BareMetal.Bytes
import Mathlib.Algebra.Ring.Nat

/-!
# Byte strings in pieces

Pieces put together again (`Bytes.join`).  The pieces of one size into which a byte string is cut
are the byte string, each of them holds something, and none is longer than that size.
-/

namespace BareMetal.Bytes

/-- The pieces one after the other. -/
def join (pieces : List Bytes) : Bytes := pieces.foldr (· ++ ·) #[]

@[simp] theorem join_nil : join [] = #[] := rfl

@[simp] theorem join_cons (piece : Bytes) (pieces : List Bytes) :
    join (piece :: pieces) = piece ++ join pieces := rfl

@[simp] theorem join_append (pieces others : List Bytes) :
    join (pieces ++ others) = join pieces ++ join others := by
  induction pieces with
  | nil => simp
  | cons piece pieces ih => rw [List.cons_append, join_cons, join_cons, ih, Array.append_assoc]

theorem join_concat (pieces : List Bytes) (last : Bytes) :
    join (pieces ++ [last]) = join pieces ++ last := by
  rw [join_append, join_cons, join_nil, Array.append_empty]

theorem toList_join (pieces : List Bytes) :
    (join pieces).toList = (pieces.map Array.toList).flatten := by
  induction pieces with
  | nil => rfl
  | cons piece pieces ih =>
    rw [join_cons, Array.toList_append, ih, List.map_cons, List.flatten_cons]

theorem mem_join {b : UInt8} {pieces : List Bytes} : b ∈ join pieces ↔ ∃ p ∈ pieces, b ∈ p := by
  induction pieces with
  | nil => simp
  | cons piece pieces ih => simp [ih]

/-- The last byte of all pieces is the last one of the last piece. -/
theorem exists_of_join_eq_push {pieces : List Bytes} {all : Bytes} {b : UInt8}
    (filled : ∀ p ∈ pieces, 0 < p.size) (join_eq : join pieces = all.push b) :
    ∃ front chunk, pieces = front ++ [chunk.push b] ∧ join front ++ chunk = all := by
  have some_piece : pieces ≠ [] := by
    rintro rfl
    exact absurd join_eq.symm Array.push_ne_empty
  obtain ⟨front, last, rfl⟩ : ∃ front last, pieces = front ++ [last] :=
    ⟨_, _, (List.dropLast_concat_getLast some_piece).symm⟩
  obtain ⟨chunk, c, rfl⟩ : ∃ (chunk : Bytes) (c : UInt8), last = chunk.push c :=
    Array.exists_push_of_ne_empty (Array.ne_empty_of_size_pos (filled last (by simp)))
  rw [join_concat, Array.append_push, Array.push_eq_push] at join_eq
  obtain ⟨rfl, front_eq⟩ := join_eq
  exact ⟨front, chunk, rfl, front_eq⟩

theorem size_join (pieces : List Bytes) : (join pieces).size = (pieces.map Array.size).sum := by
  induction pieces with
  | nil => rfl
  | cons piece pieces ih => rw [join_cons, Array.size_append, ih, List.map_cons, List.sum_cons]

theorem slice_append_slice (b : Bytes) (offset m n : Nat) :
    slice b offset m ++ slice b (offset + m) n = slice b offset (m + n) := by
  rw [slice, slice, slice, Array.extract_append_extract, Nat.min_eq_left (by omega),
    Nat.max_eq_right (by omega), Nat.add_assoc]

theorem slice_of_size_le {b : Bytes} {n : Nat} (h : b.size ≤ n) : slice b 0 n = b := by
  rw [slice, Array.extract_eq_self_of_le (by omega)]

theorem join_slices (size : Nat) (b : Bytes) (n : Nat) :
    join ((List.range n).map fun i => slice b (i * size) size) = slice b 0 (n * size) := by
  induction n with
  | zero => simp [slice]
  | succ n ih =>
    rw [List.range_succ, List.map_append, List.map_singleton, join_concat, ih]
    have := slice_append_slice b 0 (n * size) size
    rwa [Nat.zero_add, ← Nat.succ_mul] at this

theorem join_chunks {size : Nat} (h : 0 < size) (b : Bytes) : join (chunks size b) = b := by
  rw [chunks, join_slices, slice_of_size_le (le_ceilDiv_mul h)]

theorem length_chunks (size : Nat) (b : Bytes) : (chunks size b).length = ceilDiv b.size size := by
  rw [chunks, List.length_map, List.length_range]

/-- A piece starts within the byte string. -/
theorem mul_lt_of_lt_length_chunks {size : Nat} (h : 0 < size) {b : Bytes} {i : Nat}
    (hi : i < (chunks size b).length) : i * size < b.size := by
  rw [length_chunks] at hi
  refine Nat.lt_of_not_le fun behind => ?_
  exact Nat.not_le.2 hi ((ceilDiv_le_iff h).2 behind)

theorem size_of_mem_chunks {size : Nat} (h : 0 < size) {b piece : Bytes}
    (mem : piece ∈ chunks size b) : 0 < piece.size ∧ piece.size ≤ size := by
  obtain ⟨i, hi, rfl⟩ := List.mem_map.1 mem
  rw [List.mem_range, ← length_chunks] at hi
  have := mul_lt_of_lt_length_chunks h hi
  simp only [slice, Array.size_extract]
  omega

/-- The pieces before one of them are as long as its place says. -/
theorem size_join_take_chunks {size : Nat} (h : 0 < size) {b : Bytes} {i : Nat}
    (hi : i < (chunks size b).length) : (join ((chunks size b).take i)).size = i * size := by
  have before := mul_lt_of_lt_length_chunks h hi
  rw [length_chunks] at hi
  rw [chunks, ← List.map_take, List.take_range, Nat.min_eq_left (Nat.le_of_lt hi), join_slices]
  exact size_slice (by omega)

/-- Only the last piece may be shorter than the others. -/
theorem size_of_getElem?_chunks {size : Nat} (h : 0 < size) {b piece : Bytes} {i : Nat}
    (at_i : (chunks size b)[i]? = some piece) (more : i + 1 < (chunks size b).length) :
    piece.size = size := by
  have within := mul_lt_of_lt_length_chunks h more
  rw [Nat.succ_mul] at within
  rw [chunks, List.getElem?_map, Option.map_eq_some_iff] at at_i
  obtain ⟨j, at_i, rfl⟩ := at_i
  obtain ⟨-, rfl⟩ := List.getElem?_eq_some_iff.1 at_i
  rw [List.getElem_range]
  exact size_slice (Nat.le_of_lt within)

end BareMetal.Bytes
