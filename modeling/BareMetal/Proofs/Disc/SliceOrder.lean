import BareMetal.Proofs.Disc.SliceWalk
import Mathlib

/-!
# The slice order as a permutation

The walks over the chunks of a file place the slices of each chunk in some order of that chunk
(`Blockwise`), so the bytes of a file are rearranged by a permutation of their places that depends
on the length of the file only (`arrange_permutes`).
-/

namespace BareMetal.Disc.SliceOrder

/-! ## Chunks -/

theorem sum_chunkSizes (k n : Nat) : (chunkSizes k n).sum = n := by
  induction k generalizing n with
  | zero => simp [chunkSizes]
  | succ k ih =>
    rw [chunkSizes, List.sum_append, List.sum_replicate_nat, ih]
    exact Nat.div_add_mod' n _

theorem le_of_mem_chunkSizes {k n m : Nat} (h : m ∈ chunkSizes k n) : m ≤ 2 ^ k := by
  induction k generalizing n with
  | zero =>
    rw [chunkSizes, List.mem_replicate] at h
    exact h.2.le
  | succ k ih =>
    rw [chunkSizes, List.mem_append, List.mem_replicate] at h
    rcases h with ⟨-, rfl⟩ | h
    · exact le_rfl
    · exact (ih h).trans (Nat.pow_le_pow_right (by decide) (by omega))

/-- The numbers from `base` on, rearranged within consecutive blocks of the given sizes. -/
def Blockwise : Nat → List Nat → List Nat → Prop
  | _, [], order => order = []
  | base, n :: sizes, order => ∃ block rest, order = block ++ rest ∧
      block.Perm (List.range' base n) ∧ Blockwise (base + n) sizes rest

namespace Blockwise

theorem perm {base : Nat} {sizes order : List Nat} (h : Blockwise base sizes order) :
    order.Perm (List.range' base sizes.sum) := by
  induction sizes generalizing base order with
  | nil => rw [show order = [] from h, List.sum_nil, List.range'_zero]
  | cons n sizes ih =>
    obtain ⟨block, rest, rfl, block_perm, rest_ok⟩ := h
    rw [List.sum_cons, ← List.range'_append_1]
    exact block_perm.append (ih rest_ok)

/-- A block consists of its own numbers. -/
theorem getElem?_block {base n i : Nat} {before after order : List Nat}
    (h : Blockwise base (before ++ n :: after) order) (hi : i < n) :
    ∃ j < n, order[before.sum + i]? = some (base + before.sum + j) := by
  induction before generalizing base order with
  | nil =>
    obtain ⟨block, rest, rfl, block_perm, -⟩ := h
    have length : block.length = n := by rw [block_perm.length_eq, List.length_range']
    have mem := block_perm.mem_iff.1 (List.getElem_mem (length.symm ▸ hi : i < block.length))
    obtain ⟨j, hj, entry_eq⟩ := List.mem_range'.1 mem
    refine ⟨j, hj, ?_⟩
    rw [List.sum_nil, Nat.zero_add, List.getElem?_append_left (by omega),
      List.getElem?_eq_getElem (by omega), entry_eq, Nat.one_mul, Nat.add_zero]
  | cons m before ih =>
    obtain ⟨block, rest, rfl, block_perm, rest_ok⟩ := h
    have length : block.length = m := by rw [block_perm.length_eq, List.length_range']
    obtain ⟨j, hj, entry_eq⟩ := ih rest_ok
    refine ⟨j, hj, ?_⟩
    rw [List.sum_cons, List.getElem?_append_right (by omega), ← Nat.add_assoc, ← entry_eq]
    congr 1
    omega

end Blockwise

theorem gather_slice {data : Bytes} {base n : Nat} {order : List Nat} (h : ∀ e ∈ order, e < n) :
    gather (Bytes.slice data (base * sliceSize) (n * sliceSize)) order =
      gather data (order.map (base + ·)) := by
  induction order with
  | nil => rfl
  | cons e order ih =>
    have within : e * sliceSize + sliceSize ≤ n * sliceSize := by
      rw [← Nat.succ_mul]
      exact Nat.mul_le_mul_right _ (h e (by simp))
    rw [List.map_cons, gather, gather, Bytes.slice_slice within, ih fun d hd => h d (by simp [hd]),
      Nat.add_mul]

/-- The slices of the chunk that begins with slice `base` and has `n` of them, in the order in which
they are placed.  The slice placed as the `j`-th of the file has the `j`-th draw. -/
def chunkOrder (draws : Nat → Nat) (base n : Nat) : List Nat :=
  (walkOrder draws (base + 1) n id).map (base + ·)

/-- The slices of consecutive chunks in the order in which they are placed. -/
def fileOrder (draws : Nat → Nat) : Nat → List Nat → List Nat
  | _, [] => []
  | base, n :: sizes => chunkOrder draws base n ++ fileOrder draws (base + n) sizes

/-- The walk over a chunk places the slices of that chunk and draws a number for each. -/
theorem placeChunk_eq_ok {s base n : Nat} {state : UInt32} (hs : s < 0x10000)
    (at_base : state.toNat = stateAfter s base) (hn : n ≤ 0x10000) :
    (chunkOrder (drawn s) base n).Perm (List.range' base n) ∧
      ∃ state', state'.toNat = stateAfter s (base + n) ∧
        ∀ data placed, (base + n) * sliceSize ≤ data.size →
          placeChunk data ⟨state, base * sliceSize, placed⟩ n =
            .ok ⟨state', (base + n) * sliceSize,
              placed ++ gather data (chunkOrder (drawn s) base n)⟩ := by
  have size : (Array.range n).size = n := Array.size_range
  obtain ⟨state', table, at_end, perm, -, entries, run_ok⟩ :=
    Walk.run_eq_ok hs (Array.range n) at_base size.ge (by omega)
  have all : table.toList.take n = table.toList :=
    List.take_of_length_le (by rw [Array.length_toList, perm.size_eq, size])
  have order_eq := entries id fun k hk => Array.getElem_range hk
  rw [all] at order_eq
  have table_perm : table.toList.reverse.Perm (List.range n) := by
    have := Array.perm_iff_toList_perm.1 perm
    rw [Array.toList_range] at this
    exact (List.reverse_perm _).trans this
  rw [chunkOrder, ← order_eq]
  refine ⟨?_, state', at_end, fun data placed room => ?_⟩
  · rw [List.range'_eq_map_range]
    exact table_perm.map _
  · have chunk_ok := Bytes.cut_of_le (by rwa [← Nat.add_mul] :
      base * sliceSize + n * sliceSize ≤ data.size)
    have chunk_size := Bytes.size_slice (by rwa [← Nat.add_mul] :
      base * sliceSize + n * sliceSize ≤ data.size)
    have walk_ok := run_ok (Bytes.slice data (base * sliceSize) (n * sliceSize)) placed (by
      intro e he
      rw [chunk_size]
      exact Nat.mul_le_mul_right _ (Array.mem_range.1 he))
    rw [all, gather_slice fun e he => List.mem_range.1 (table_perm.mem_iff.1 he)] at walk_ok
    rw [Nat.add_mul]
    exact Outcome.bind_eq_ok_iff.2 ⟨_, chunk_ok, Outcome.bind_eq_ok_iff.2 ⟨_, walk_ok, rfl⟩⟩

/-- The walks over consecutive chunks place the slices of each chunk in its own place, and one
generator serves them all. -/
theorem foldlM_placeChunk (sizes : List Nat) {s base : Nat} {state : UInt32} (hs : s < 0x10000)
    (at_base : state.toNat = stateAfter s base) (small : ∀ n ∈ sizes, n ≤ 0x10000) :
    Blockwise base sizes (fileOrder (drawn s) base sizes) ∧
      ∃ state', state'.toNat = stateAfter s (base + sizes.sum) ∧
        ∀ data placed, (base + sizes.sum) * sliceSize ≤ data.size →
          sizes.foldlM (placeChunk data) ⟨state, base * sliceSize, placed⟩ =
            .ok ⟨state', (base + sizes.sum) * sliceSize,
              placed ++ gather data (fileOrder (drawn s) base sizes)⟩ := by
  induction sizes generalizing state base with
  | nil =>
    exact ⟨rfl, state, at_base, fun data placed _ => by
      simp [fileOrder, gather, pure, Except.pure]⟩
  | cons n sizes ih =>
    obtain ⟨block_perm, next_state, at_next, place_ok⟩ :=
      placeChunk_eq_ok hs at_base (small n (by simp))
    obtain ⟨rest_ok, state', at_end, run_ok⟩ := ih at_next fun m hm => small m (by simp [hm])
    refine ⟨⟨_, _, rfl, block_perm, rest_ok⟩, state', ?_, fun data placed room => ?_⟩
    · rw [at_end, List.sum_cons, Nat.add_assoc]
    · rw [List.sum_cons, ← Nat.add_assoc] at room ⊢
      have first_room : (base + n) * sliceSize ≤ data.size :=
        (Nat.mul_le_mul_right _ (Nat.le_add_right _ _)).trans room
      rw [List.foldlM_cons, fileOrder, gather_append, ← Array.append_assoc]
      exact Outcome.bind_eq_ok_iff.2 ⟨_, place_ok data placed first_room, run_ok data _ room⟩

/-! ## Bytes -/

theorem size_gather {data : Bytes} {order : List Nat}
    (h : ∀ e ∈ order, (e + 1) * sliceSize ≤ data.size) :
    (gather data order).size = order.length * sliceSize := by
  induction order with
  | nil => simp [gather]
  | cons e order ih =>
    have first := h e (by simp)
    rw [Nat.add_mul, Nat.one_mul] at first
    rw [gather, Array.size_append, Bytes.size_slice first, ih fun d hd => h d (by simp [hd]),
      List.length_cons, Nat.add_mul]
    omega

theorem getElem?_gather {data : Bytes} {order : List Nat}
    (h : ∀ e ∈ order, (e + 1) * sliceSize ≤ data.size) (k : Nat) :
    (gather data order)[k]? =
      order[k / sliceSize]?.bind fun e => data[e * sliceSize + k % sliceSize]? := by
  induction order generalizing k with
  | nil => simp [gather]
  | cons e order ih =>
    have first := h e (by simp)
    rw [Nat.add_mul, Nat.one_mul] at first
    rw [gather, Array.getElem?_append, Bytes.size_slice first, Bytes.getElem?_slice]
    by_cases hk : k < sliceSize
    · rw [if_pos hk, if_pos hk, Nat.div_eq_of_lt hk, Nat.mod_eq_of_lt hk]
      rfl
    · have div_eq : k / sliceSize = (k - sliceSize) / sliceSize + 1 :=
        Nat.div_eq_sub_div (by decide) (Nat.not_lt.1 hk)
      rw [if_neg hk, ih fun d hd => h d (by simp [hd]), div_eq, List.getElem?_cons_succ,
        Nat.mod_eq_sub_mod (Nat.not_lt.1 hk)]

/-- The slice that comes to a place when slices come in the given order, and beyond its end stay
where they are. -/
def sliceAt (order : List Nat) (q : Nat) : Nat := order.getD q q

/-- The place of the byte that comes to place `k`. -/
def source (order : List Nat) (k : Nat) : Nat :=
  sliceAt order (k / sliceSize) * sliceSize + k % sliceSize

section

variable {order : List Nat} {n : Nat}

theorem length_of_perm_range (h : order.Perm (List.range n)) : order.length = n := by
  rw [h.length_eq, List.length_range]

theorem getElem?_eq_sliceAt (h : order.Perm (List.range n)) {q : Nat} (hq : q < n) :
    order[q]? = some (sliceAt order q) := by
  have length := length_of_perm_range h
  rw [sliceAt, List.getD_eq_getElem?_getD, List.getElem?_eq_getElem (by omega), Option.getD_some]

theorem sliceAt_of_le (h : order.Perm (List.range n)) {q : Nat} (hq : n ≤ q) :
    sliceAt order q = q := by
  have length := length_of_perm_range h
  rw [sliceAt, List.getD_eq_getElem?_getD, List.getElem?_eq_none (by omega), Option.getD_none]

theorem sliceAt_lt_iff (h : order.Perm (List.range n)) {q : Nat} : sliceAt order q < n ↔ q < n := by
  constructor
  · intro lt
    by_contra hq
    rw [sliceAt_of_le h (Nat.not_lt.1 hq)] at lt
    exact hq lt
  · intro hq
    have mem := List.mem_of_getElem? (getElem?_eq_sliceAt h hq)
    exact List.mem_range.1 (h.mem_iff.1 mem)

theorem sliceAt_injective (h : order.Perm (List.range n)) : Function.Injective (sliceAt order) := by
  intro q r same
  by_cases hq : q < n
  · have hr : r < n := (sliceAt_lt_iff h).1 (same ▸ (sliceAt_lt_iff h).2 hq)
    have nodup : order.Nodup := h.nodup_iff.2 List.nodup_range
    have length := length_of_perm_range h
    apply (List.getElem?_inj (length.symm ▸ hq) nodup).1
    rw [getElem?_eq_sliceAt h hq, getElem?_eq_sliceAt h hr, same]
  · have hr : ¬ r < n := fun hr => hq ((sliceAt_lt_iff h).1 (same ▸ (sliceAt_lt_iff h).2 hr))
    rwa [sliceAt_of_le h (Nat.not_lt.1 hq), sliceAt_of_le h (Nat.not_lt.1 hr)] at same

theorem source_of_le {length k : Nat} (h : order.Perm (List.range (length / sliceSize)))
    (hk : length / sliceSize * sliceSize ≤ k) : source order k = k := by
  have slice_le : length / sliceSize ≤ k / sliceSize := (Nat.le_div_iff_mul_le (by decide)).2 hk
  rw [source, sliceAt_of_le h slice_le, Nat.div_add_mod']

/-- The bytes of a slice come from one slice, in their order. -/
theorem source_slice (q : Nat) {b : Nat} (hb : b < sliceSize) :
    source order (q * sliceSize + b) = sliceAt order q * sliceSize + b := by
  have div_eq : (q * sliceSize + b) / sliceSize = q := by
    rw [Nat.mul_comm, Nat.mul_add_div (by decide), Nat.div_eq_of_lt hb, Nat.add_zero]
  have mod_eq : (q * sliceSize + b) % sliceSize = b := by
    rw [Nat.mul_comm, Nat.mul_add_mod, Nat.mod_eq_of_lt hb]
  rw [source, div_eq, mod_eq]

theorem source_lt {length k : Nat} (h : order.Perm (List.range (length / sliceSize)))
    (hk : k < length) : source order k < length := by
  have rest := Nat.mod_lt k (by decide : 0 < sliceSize)
  by_cases hq : k / sliceSize < length / sliceSize
  · have slice_le := Nat.mul_le_mul_right sliceSize ((sliceAt_lt_iff h).2 hq)
    have slices_le := Nat.div_mul_le_self length sliceSize
    rw [Nat.succ_mul] at slice_le
    unfold source
    omega
  · rwa [source_of_le h ((Nat.le_div_iff_mul_le (by decide)).1 (Nat.not_lt.1 hq))]

theorem source_injective (h : order.Perm (List.range n)) : Function.Injective (source order) := by
  intro k l same
  have slice_of_source (m : Nat) : source order m / sliceSize = sliceAt order (m / sliceSize) := by
    rw [source, Nat.mul_comm, Nat.mul_add_div (by decide),
      Nat.div_eq_of_lt (Nat.mod_lt m (by decide)), Nat.add_zero]
  have slice_eq : sliceAt order (k / sliceSize) = sliceAt order (l / sliceSize) := by
    rw [← slice_of_source, ← slice_of_source, same]
  have rest_eq : k % sliceSize = l % sliceSize := by
    rw [source, source, slice_eq] at same
    exact Nat.add_left_cancel same
  rw [← Nat.div_add_mod' k sliceSize, ← Nat.div_add_mod' l sliceSize, rest_eq,
    sliceAt_injective h slice_eq]

end

/-! ## Arranged files -/

section

variable {data : Bytes} {order : List Nat}

/-- The slices in the given order, and the bytes behind the last slice. -/
def arranged (data : Bytes) (order : List Nat) : Bytes :=
  gather data order ++ Bytes.slice data (data.size / sliceSize * sliceSize)
    (data.size - data.size / sliceSize * sliceSize)

theorem slice_le_size (h : order.Perm (List.range (data.size / sliceSize))) {e : Nat}
    (he : e ∈ order) : (e + 1) * sliceSize ≤ data.size :=
  (Nat.mul_le_mul_right _ (List.mem_range.1 (h.mem_iff.1 he))).trans
    (Nat.div_mul_le_self data.size sliceSize)

theorem size_arranged (h : order.Perm (List.range (data.size / sliceSize))) :
    (arranged data order).size = data.size := by
  have slices_le := Nat.div_mul_le_self data.size sliceSize
  rw [arranged, Array.size_append, size_gather fun e he => slice_le_size h he,
    length_of_perm_range h, Bytes.size_slice (by omega), Nat.add_sub_of_le slices_le]

/-- Each byte of an arranged file comes from its source. -/
theorem getElem?_arranged (h : order.Perm (List.range (data.size / sliceSize))) (k : Nat) :
    (arranged data order)[k]? = data[source order k]? := by
  have slices_le := Nat.div_mul_le_self data.size sliceSize
  have within (e : Nat) (he : e ∈ order) := slice_le_size h he
  rw [arranged, Array.getElem?_append, size_gather within, length_of_perm_range h]
  by_cases hk : k < data.size / sliceSize * sliceSize
  · have slice_lt : k / sliceSize < data.size / sliceSize :=
      (Nat.div_lt_iff_lt_mul (by decide)).2 hk
    rw [if_pos hk, getElem?_gather within, getElem?_eq_sliceAt h slice_lt, source]
    rfl
  · rw [if_neg hk, source_of_le h (Nat.not_lt.1 hk), Bytes.getElem?_slice,
      Nat.add_sub_of_le (Nat.not_lt.1 hk)]
    by_cases hs : k < data.size
    · rw [if_pos (by omega)]
    · rw [if_neg (by omega), Array.getElem?_eq_none (by omega)]

end

/-- The slices of a file of the given length in the order of the boot ROM. -/
def sliceOrder (length : Nat) : List Nat :=
  fileOrder (drawn (length % 0x10000)) 0 (chunkSizes maxExponent (length / sliceSize))

/-- When a file has been read up to the end of some chunk, the slices before it have been placed in
their order, and one number has been drawn for each of them. -/
theorem foldlM_placeChunk_of_append {data : Bytes} {before after : List Nat}
    (chunks : chunkSizes maxExponent (data.size / sliceSize) = before ++ after) :
    Blockwise 0 before (fileOrder (drawn (data.size % 0x10000)) 0 before) ∧
      ∃ state, state.toNat = stateAfter (data.size % 0x10000) before.sum ∧
        before.foldlM (placeChunk data) ⟨seed data.size, 0, #[]⟩ =
          .ok ⟨state, before.sum * sliceSize,
            gather data (fileOrder (drawn (data.size % 0x10000)) 0 before)⟩ := by
  obtain ⟨blockwise, state, at_end, fold_ok⟩ :=
    foldlM_placeChunk before (Nat.mod_lt data.size (by decide)) (seed_toNat data.size)
      fun n hn => le_of_mem_chunkSizes (chunks ▸ List.mem_append_left after hn)
  have room : before.sum * sliceSize ≤ data.size := by
    have all := sum_chunkSizes maxExponent (data.size / sliceSize)
    rw [chunks, List.sum_append] at all
    exact (Nat.mul_le_mul_right _ (by omega)).trans (Nat.div_mul_le_self data.size sliceSize)
  have chunks_ok := fold_ok data #[] (by rwa [Nat.zero_add])
  rw [Nat.zero_add] at at_end
  rw [Nat.zero_mul, Nat.zero_add, Array.empty_append] at chunks_ok
  exact ⟨blockwise, state, at_end, chunks_ok⟩

theorem blockwise_sliceOrder (length : Nat) :
    Blockwise 0 (chunkSizes maxExponent (length / sliceSize)) (sliceOrder length) :=
  (foldlM_placeChunk _ (Nat.mod_lt length (by decide)) (seed_toNat length) fun _ =>
    le_of_mem_chunkSizes).1

/-- A file is arranged by the slice order of its length. -/
theorem arrange_eq_arranged (data : Bytes) :
    arrange data = .ok (arranged data (sliceOrder data.size)) := by
  obtain ⟨-, state, -, chunks_ok⟩ := foldlM_placeChunk_of_append (List.append_nil _).symm
  have slices_le : data.size / sliceSize * sliceSize ≤ data.size := Nat.div_mul_le_self _ _
  have tail_ok := Bytes.cut_of_le (Nat.add_sub_of_le slices_le).le
  rw [sum_chunkSizes] at chunks_ok
  exact Outcome.bind_eq_ok_iff.2 ⟨_, chunks_ok, Outcome.bind_eq_ok_iff.2 ⟨_, tail_ok, rfl⟩⟩

/-- The order of the slices of a file depends on its length only. -/
theorem exists_order (length : Nat) :
    ∃ order, Blockwise 0 (chunkSizes maxExponent (length / sliceSize)) order ∧
      ∀ data : Bytes, data.size = length → arrange data = .ok (arranged data order) :=
  ⟨sliceOrder length, blockwise_sliceOrder length, by
    rintro data rfl
    exact arrange_eq_arranged data⟩

/-- The places of a file of the given length, each with the place its byte comes from. -/
noncomputable def sourceEquiv {order : List Nat} {length : Nat}
    (h : order.Perm (List.range (length / sliceSize))) : Equiv.Perm (Fin length) :=
  Equiv.ofBijective (fun k => ⟨source order k, source_lt h k.isLt⟩)
    (Finite.injective_iff_bijective.1 fun _ _ same =>
      Fin.ext (source_injective h (congrArg Fin.val same)))

section

variable {out data data' : Bytes} {length : Nat}

/-- The bytes of a byte string in another order are the same bytes. -/
theorem toList_perm_of_getElem? (out_size : out.size = length) (data_size : data.size = length)
    (p : Equiv.Perm (Fin length)) (h : ∀ k : Fin length, out[k.val]? = data[(p k).val]?) :
    out.toList.Perm data.toList := by
  subst data_size
  have out_eq : out.toList = List.ofFn ((fun k : Fin data.size => data[k]) ∘ p) := by
    apply List.ext_getElem?
    intro i
    rw [Array.getElem?_toList, List.getElem?_ofFn]
    by_cases hi : i < data.size
    · rw [dif_pos hi, h ⟨i, hi⟩, Array.getElem?_eq_getElem (p ⟨i, hi⟩).isLt]
      rfl
    · rw [dif_neg hi, Array.getElem?_eq_none (by omega)]
  have data_eq : data.toList = List.ofFn fun k : Fin data.size => data[k] :=
    List.ofFn_getElem.symm
  rw [out_eq, data_eq]
  exact Equiv.Perm.ofFn_comp_perm p _

/-- A byte string is determined by its bytes in another order. -/
theorem eq_of_getElem? (size : data.size = length) (size' : data'.size = length)
    (p : Equiv.Perm (Fin length)) (h : ∀ k : Fin length, out[k.val]? = data[(p k).val]?)
    (h' : ∀ k : Fin length, out[k.val]? = data'[(p k).val]?) : data = data' := by
  apply Array.ext_getElem?
  intro i
  by_cases hi : i < length
  · obtain ⟨k, hk⟩ := p.surjective ⟨i, hi⟩
    have same_byte := (h k).symm.trans (h' k)
    rwa [hk] at same_byte
  · rw [Array.getElem?_eq_none (by omega), Array.getElem?_eq_none (by omega)]

end

/-- For every length there is one permutation of the places in a file of that length by which all
such files are arranged.  Nothing faults, and no byte is lost.  Within each chunk the permutation
moves whole slices, the chunks hold all slices, and the bytes behind the last slice stay. -/
theorem arrange_permutes (length : Nat) :
    ∃ p : Equiv.Perm (Fin length),
      (∀ data : Bytes, data.size = length → ∃ out, arrange data = .ok out ∧ out.size = length ∧
        out.toList.Perm data.toList ∧ ∀ k : Fin length, out[k.val]? = data[(p k).val]?) ∧
      (∀ data data' : Bytes, data.size = length → data'.size = length →
        arrange data = arrange data' → data = data') ∧
      (chunkSizes maxExponent (length / 32)).sum = length / 32 ∧
      (∀ before n after, chunkSizes maxExponent (length / 32) = before ++ n :: after →
        ∀ i < n, ∃ j < n, ∀ b < 32, ∀ k : Fin length, k.val = (before.sum + i) * 32 + b →
          (p k).val = (before.sum + j) * 32 + b) ∧
      ∀ k : Fin length, length / 32 * 32 ≤ k.val → p k = k := by
  obtain ⟨order, blockwise, arrange_ok⟩ := exists_order length
  have perm : order.Perm (List.range (length / sliceSize)) := by
    have := blockwise.perm
    rwa [sum_chunkSizes, ← List.range_eq_range'] at this
  have bytes (data : Bytes) (size : data.size = length) (k : Fin length) :
      (arranged data order)[k.val]? = data[(sourceEquiv perm k).val]? := by
    subst size
    exact getElem?_arranged perm k
  refine ⟨sourceEquiv perm, fun data size => ?_, fun data data' size size' same => ?_,
    sum_chunkSizes _ _, fun before n after chunks i hi => ?_, fun k hk => ?_⟩
  · have out_size : (arranged data order).size = length := by
      subst size
      exact size_arranged perm
    exact ⟨_, arrange_ok data size, out_size,
      toList_perm_of_getElem? out_size size _ (bytes data size), bytes data size⟩
  · have out_eq : arranged data order = arranged data' order :=
      Except.ok.inj ((arrange_ok data size).symm.trans (same.trans (arrange_ok data' size')))
    exact eq_of_getElem? size size' _ (bytes data size) (out_eq ▸ bytes data' size')
  · rw [show chunkSizes maxExponent (length / sliceSize) = _ from chunks] at blockwise
    obtain ⟨j, hj, entry_eq⟩ := blockwise.getElem?_block hi
    have slice_eq : sliceAt order (before.sum + i) = before.sum + j := by
      rw [sliceAt, List.getD_eq_getElem?_getD, entry_eq, Option.getD_some, Nat.zero_add]
    refine ⟨j, hj, fun b hb k hk => ?_⟩
    have moved : source order ((before.sum + i) * sliceSize + b) = _ :=
      source_slice (before.sum + i) hb
    rw [slice_eq] at moved
    exact (congrArg (source order) hk).trans moved
  · exact Fin.ext (source_of_le perm hk)

end BareMetal.Disc.SliceOrder
