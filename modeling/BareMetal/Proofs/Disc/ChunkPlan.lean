import BareMetal.Proofs.Disc.SliceOrder

/-!
# Chunks by the bits of a length, and draws by number

Chunks come off the front of a file as long as one of the current size fits, and then the size is
halved.  Below two megabytes no size comes off twice, so there is a chunk for each bit of what is
left (`cutOff_eq_chunkLengths`).  The slice that is placed as the `j`-th of the file has the `j`-th
number of one generator, whatever chunk it belongs to (`arrange_follows_draws`).
-/

namespace BareMetal.Disc.SliceOrder

/-! ## The sizes of the chunks -/

/-- The chunks that come off the front of `left` bytes: one of `size` bytes as long as it fits,
then those of half the size, down to a slice. -/
def cutOff (size left : Nat) : List Nat :=
  if size < sliceSize then []
  else if size ≤ left then size :: cutOff size (left - size)
  else cutOff (size / 2) left
termination_by (size, left)
decreasing_by
  all_goals
    have : 0 < sliceSize := by decide
    omega

/-- The chunks of a file of the given length: two megabytes as often as they fit, and a smaller
power of two for each bit of the rest that counts whole slices. -/
def chunkLengths (length : Nat) : List Nat :=
  List.replicate (length / 2 ^ 21) (2 ^ 21) ++
    ((List.range' 5 16).reverse.filter (length % 2 ^ 21).testBit).map (2 ^ ·)

theorem chunkSizes_succ (k n : Nat) : chunkSizes (k + 1) n =
    List.replicate (n / 2 ^ (k + 1)) (2 ^ (k + 1)) ++ chunkSizes k (n % 2 ^ (k + 1)) := rfl

theorem replicate_bit {k n : Nat} (h : n < 2 ^ (k + 1)) (a : Nat) :
    List.replicate (n / 2 ^ k) a = if n.testBit k then [a] else [] := by
  have quotient_lt : n / 2 ^ k < 2 := by
    rwa [Nat.div_lt_iff_lt_mul (Nat.two_pow_pos k), ← Nat.pow_succ']
  rw [Nat.testBit_eq_decide_div_mod_eq, Nat.mod_eq_of_lt quotient_lt]
  rcases Nat.lt_succ_iff_lt_or_eq.1 quotient_lt with zero | one
  · rw [Nat.lt_one_iff.1 zero]
    rfl
  · rw [one]
    rfl

theorem reverse_range_succ (k : Nat) :
    (List.range (k + 1)).reverse = k :: (List.range k).reverse := by
  rw [List.range_succ, List.reverse_append, List.reverse_singleton, List.singleton_append]

/-- Where no chunk can come off twice, there is one for each bit of the number of slices. -/
theorem chunkSizes_eq_bits {k n : Nat} (h : n < 2 ^ (k + 1)) :
    chunkSizes k n = ((List.range (k + 1)).reverse.filter n.testBit).map (2 ^ ·) := by
  induction k generalizing n with
  | zero =>
    have bit := replicate_bit h 1
    rw [pow_zero, Nat.div_one] at bit
    rw [chunkSizes, bit]
    by_cases set : n.testBit 0 <;> simp [set]
  | succ k ih =>
    have rest_bits : (List.range (k + 1)).reverse.filter (n % 2 ^ (k + 1)).testBit =
        (List.range (k + 1)).reverse.filter n.testBit := by
      apply List.filter_congr
      intro j mem
      rw [List.mem_reverse, List.mem_range] at mem
      rw [Nat.testBit_mod_two_pow, decide_eq_true mem, Bool.true_and]
    rw [chunkSizes_succ, replicate_bit h, ih (Nat.mod_lt _ (Nat.two_pow_pos _)), rest_bits,
      reverse_range_succ (k + 1), List.filter_cons]
    split <;> rfl

theorem map_chunkSizes_eq_chunkLengths (length : Nat) :
    (chunkSizes maxExponent (length / sliceSize)).map (· * sliceSize) = chunkLengths length := by
  have count : length / sliceSize / 2 ^ 16 = length / 2 ^ 21 := Nat.div_div_eq_div_mul _ _ _
  have bits : (List.range 16).reverse.filter (length / sliceSize % 2 ^ 16).testBit =
      (List.range 16).reverse.filter fun j => (length % 2 ^ 21).testBit (5 + j) := by
    apply List.filter_congr
    intro j mem
    rw [List.mem_reverse, List.mem_range] at mem
    rw [show sliceSize = 2 ^ 5 from rfl, Nat.testBit_mod_two_pow, Nat.testBit_mod_two_pow,
      Nat.testBit_div_two_pow, decide_eq_true mem, decide_eq_true (by omega : 5 + j < 21),
      Nat.add_comm j]
  rw [maxExponent, chunkSizes_succ, chunkSizes_eq_bits (Nat.mod_lt _ (by decide)), bits, count,
    chunkLengths, List.range'_eq_map_range, ← List.map_reverse, List.filter_map, List.map_append,
    List.map_replicate, List.map_map, List.map_map]
  have power (j : Nat) : 2 ^ j * sliceSize = 2 ^ (5 + j) := by
    rw [Nat.pow_add, Nat.mul_comm, show sliceSize = 2 ^ 5 from rfl]
  exact congrArg _ (List.map_congr_left fun j _ => power j)

theorem cutOff_eq_append {size : Nat} (h : sliceSize ≤ size) (left : Nat) :
    cutOff size left = List.replicate (left / size) size ++ cutOff (size / 2) (left % size) := by
  have pos : 0 < size := Nat.lt_of_lt_of_le (by decide) h
  induction left using Nat.strongRecOn with
  | ind left ih =>
    rw [cutOff, if_neg (Nat.not_lt.2 h)]
    split
    case isTrue fits =>
      rw [ih (left - size) (by omega), Nat.div_eq_sub_div pos fits,
        Nat.mod_eq_sub_mod fits, List.replicate_succ, List.cons_append]
    case isFalse short =>
      have left_lt := Nat.not_le.1 short
      rw [Nat.div_eq_of_lt left_lt, Nat.mod_eq_of_lt left_lt, List.replicate_zero, List.nil_append]

theorem cutOff_eq_map_chunkSizes (k left : Nat) :
    cutOff (2 ^ k * sliceSize) left =
      (chunkSizes k (left / sliceSize)).map (· * sliceSize) := by
  induction k generalizing left with
  | zero =>
    rw [pow_zero, Nat.one_mul, cutOff_eq_append le_rfl, cutOff, if_pos (by decide), chunkSizes,
      List.map_replicate, Nat.one_mul, List.append_nil]
  | succ k ih =>
    have long : sliceSize ≤ 2 ^ (k + 1) * sliceSize :=
      Nat.le_mul_of_pos_left _ (Nat.two_pow_pos _)
    have half : 2 ^ (k + 1) * sliceSize / 2 = 2 ^ k * sliceSize := by
      rw [Nat.pow_succ, Nat.mul_right_comm, Nat.mul_div_cancel _ (by decide)]
    rw [cutOff_eq_append long, half, ih, Nat.mod_mul_left_div_self, chunkSizes_succ,
      List.map_append, List.map_replicate, Nat.div_div_eq_div_mul, Nat.mul_comm sliceSize]

/-- What comes off the front of a file in halving sizes is what the bits of its length say. -/
theorem cutOff_eq_chunkLengths (length : Nat) : cutOff (2 ^ 21) length = chunkLengths length :=
  (cutOff_eq_map_chunkSizes maxExponent length).trans (map_chunkSizes_eq_chunkLengths length)

/-! ## The draws -/

theorem map_div_chunkLengths (length : Nat) :
    (chunkLengths length).map (· / sliceSize) = chunkSizes maxExponent (length / sliceSize) := by
  rw [← map_chunkSizes_eq_chunkLengths, List.map_map]
  exact (List.map_congr_left fun n _ => Nat.mul_div_cancel n (by decide)).trans (List.map_id _)

theorem sum_map_mul_sliceSize (sizes : List Nat) :
    (sizes.map (· * sliceSize)).sum = sizes.sum * sliceSize := by
  rw [List.sum_map_mul_right, List.map_id']

/-- The slices of some chunks at the front of a file, in the order to which the draws of a generator
for the file's length lead.  The lengths of the chunks are in bytes. -/
def drawnOrder (length : Nat) (chunks : List Nat) : List Nat :=
  fileOrder (drawn (length % 2 ^ 16)) 0 (chunks.map (· / 32))

/-- A file is arranged chunk by chunk with one generator.  Cutting from the front ends for every
length and gives two megabytes as often as they fit and a chunk for each bit of the rest.  The
slices come in the order to which the draws lead, and whatever is shorter than a slice stays at the
end.  Up to the end of any chunk as many slices have been placed as numbers have been drawn. -/
theorem arrange_follows_draws (data : Bytes) :
    cutOff (2 ^ 21) data.size = chunkLengths data.size ∧
    (chunkLengths data.size).sum = data.size / 32 * 32 ∧
    arrange data = .ok (gather data (drawnOrder data.size (chunkLengths data.size)) ++
      Bytes.slice data (data.size / 32 * 32) (data.size % 32)) ∧
    ∀ m, (drawnOrder data.size ((chunkLengths data.size).take m)).length =
        ((chunkLengths data.size).take m).sum / 32 ∧
      ∃ state, state.toNat =
          stateAfter (data.size % 2 ^ 16) (((chunkLengths data.size).take m).sum / 32) ∧
        (((chunkLengths data.size).take m).map (· / 32)).foldlM (placeChunk data)
            ⟨seed data.size, 0, #[]⟩ =
          .ok ⟨state, ((chunkLengths data.size).take m).sum,
            gather data (drawnOrder data.size ((chunkLengths data.size).take m))⟩ := by
  refine ⟨cutOff_eq_chunkLengths data.size, ?_, ?_, fun m => ?_⟩
  · rw [← map_chunkSizes_eq_chunkLengths, sum_map_mul_sliceSize, sum_chunkSizes]
    rfl
  · have tail : data.size - data.size / sliceSize * sliceSize = data.size % 32 := by
      rw [Nat.mod_eq_sub, Nat.mul_comm]
      rfl
    rw [arrange_eq_arranged, arranged, tail, sliceOrder, ← map_div_chunkLengths]
    rfl
  · -- the first `m` chunks, in slices
    have first : ((chunkLengths data.size).take m).map (· / sliceSize) =
        (chunkSizes maxExponent (data.size / sliceSize)).take m := by
      rw [List.map_take, map_div_chunkLengths]
    have sum : ((chunkLengths data.size).take m).sum =
        ((chunkSizes maxExponent (data.size / sliceSize)).take m).sum * sliceSize := by
      rw [← map_chunkSizes_eq_chunkLengths, ← List.map_take, sum_map_mul_sliceSize]
    have slices : ((chunkLengths data.size).take m).sum / 32 =
        ((chunkSizes maxExponent (data.size / sliceSize)).take m).sum := by
      rw [sum]
      exact Nat.mul_div_cancel _ (by decide)
    obtain ⟨blockwise, state, at_end, fold_ok⟩ :=
      foldlM_placeChunk_of_append (List.take_append_drop m _).symm
    have length_eq := blockwise.perm.length_eq
    rw [List.length_range', ← slices, ← first] at length_eq
    rw [← sum, ← first] at fold_ok
    exact ⟨length_eq, state, slices ▸ at_end, fold_ok⟩

/-- The first slices of an arranged file of two kilobytes. -/
example : (drawnOrder 2048 (chunkLengths 2048)).take 8 = [50, 5, 47, 51, 11, 43, 56, 42] := by
  decide +kernel

end BareMetal.Disc.SliceOrder
