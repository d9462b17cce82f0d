import BareMetal.Disc.SliceOrder
import BareMetal.Proofs.Outcome

/-!
# The walk over a chunk

A step of the walk exchanges two entries of the table, neither of them above its position, and the
remaining steps leave that position alone.  So the table stays a rearrangement of itself, and the
walk places the slices in the order in which the final table holds them, from its end to its
beginning (`Walk.run_eq_ok`).  Which entries are exchanged depends on the generator only, which is
asked once for each slice (`walkOrder`).
-/

namespace BareMetal.Disc.SliceOrder

/-- The slices of `data` with the given numbers, one after the other. -/
def gather (data : Bytes) : List Nat → Bytes
  | [] => #[]
  | s :: order => Bytes.slice data (s * sliceSize) sliceSize ++ gather data order

theorem gather_append (data : Bytes) (xs ys : List Nat) :
    gather data (xs ++ ys) = gather data xs ++ gather data ys := by
  induction xs with
  | nil => simp [gather]
  | cons s xs ih => rw [List.cons_append, gather, gather, ih, Array.append_assoc]

/-! ## The generator -/

/-- The state behind state `s`. -/
def nextState (s : Nat) : Nat := (s * 2109 + 9273) % 0x8000

/-- The state of a generator that began with `s` and has drawn `j` numbers. -/
def stateAfter (s : Nat) : Nat → Nat
  | 0 => s
  | j + 1 => nextState (stateAfter s j)

/-- The `j`-th number drawn from a generator that began with `s`; the first has number 1. -/
def drawn (s j : Nat) : Nat := (stateAfter s j + 0xC000) % 0x10000

/-- A drawn number scaled to the positions below `i`. -/
def scaled (r i : Nat) : Nat := r * i / 0x10000

theorem seed_toNat (length : Nat) :
    (seed length).toNat = stateAfter (length % 0x10000) 0 := by
  rw [seed, UInt32.toNat_ofNat_of_lt' (by simp only [UInt32.size]; omega), stateAfter]

theorem nextState_lt (s : Nat) : nextState s < 0x8000 := Nat.mod_lt _ (by decide)

theorem stateAfter_lt {s : Nat} (h : s < 0x10000) (j : Nat) : stateAfter s j < 0x10000 := by
  cases j with
  | zero => exact h
  | succ j => exact Nat.lt_trans (nextState_lt _) (by decide)

theorem next_eq_ok {state : UInt32} (h : state.toNat < 0x10000) :
    ∃ state', next state = .ok state' ∧ state'.toNat = nextState state.toNat := by
  obtain ⟨product, product_ok, product_eq⟩ :=
    Word32.exists_mul state 2109 (by simp [Word32.bound]; omega)
  simp only [UInt32.reduceToNat] at product_eq
  obtain ⟨sum, sum_ok, sum_eq⟩ :=
    Word32.exists_add product 9273 (by simp [Word32.bound]; omega)
  refine ⟨sum % 0x8000, ?_, ?_⟩
  · exact Outcome.bind_eq_ok_iff.2 ⟨_, product_ok, Outcome.bind_eq_ok_iff.2 ⟨_, sum_ok, rfl⟩⟩
  · rw [UInt32.toNat_mod, sum_eq, product_eq]
    rfl

theorem draw_eq_ok {state : UInt32} (h : state.toNat < 0x8000) :
    ∃ r, draw state = .ok r ∧ r.toNat = (state.toNat + 0xC000) % 0x10000 := by
  obtain ⟨sum, sum_ok, sum_eq⟩ :=
    Word32.exists_add state 0xC000 (by simp [Word32.bound]; omega)
  refine ⟨sum % 0x10000, ?_, ?_⟩
  · exact Outcome.bind_eq_ok_iff.2 ⟨_, sum_ok, rfl⟩
  · rw [UInt32.toNat_mod, sum_eq]
    rfl

theorem drawn_lt (s j : Nat) : drawn s j < 0x10000 := Nat.mod_lt _ (by decide)

theorem scaled_lt {r i : Nat} (h : r < 0x10000) (pos : 0 < i) : scaled r i < i := by
  rw [scaled, Nat.div_lt_iff_lt_mul (by decide), Nat.mul_comm i]
  exact Nat.mul_lt_mul_of_pos_right h pos

theorem scaled_le {r i : Nat} (h : r < 0x10000) : scaled r i ≤ i := by
  rcases Nat.eq_zero_or_pos i with rfl | pos
  · simp [scaled]
  · exact Nat.le_of_lt (scaled_lt h pos)

theorem position_eq_ok {r : UInt32} {i : Nat} (h : r.toNat < 0x10000) (hi : i < 0x10000) :
    position r i = .ok (scaled r.toNat i) := by
  have product_lt : r.toNat * i < Word64.bound :=
    Nat.lt_of_le_of_lt (Nat.mul_le_mul (Nat.le_of_lt h) (Nat.le_of_lt hi)) (by decide)
  exact Outcome.bind_eq_ok_iff.2 ⟨_, Word64.mul_of_lt product_lt, rfl⟩

/-! ## Steps and runs -/

/-- A table with the entries at two places exchanged. -/
def exchanged (table : Nat → Nat) (i x : Nat) : Nat → Nat :=
  fun k => if k = i then table x else if k = x then table i else table k

/-- The entries of a table that a walk comes to at the positions below a number, the highest first.
The draw for the first of them has number `j`, and each of them has the next draw. -/
def walkOrder (draws : Nat → Nat) (j : Nat) : Nat → (Nat → Nat) → List Nat
  | 0, _ => []
  | i + 1, table =>
    let table := exchanged table i (scaled (draws j) i)
    table i :: walkOrder draws (j + 1) i table

namespace Walk

/-- A step at position `i` exchanges that position with the one to which the next draw leads, and
places the slice that has come to it, whatever the slices hold. -/
theorem step_eq_ok {s j i : Nat} {state : UInt32} {table : Array Nat} (hs : s < 0x10000)
    (at_j : state.toNat = stateAfter s j) (hi : i < table.size) (small : table.size ≤ 0x10000) :
    ∃ state', ∃ hx : scaled (drawn s (j + 1)) i < table.size,
      state'.toNat = stateAfter s (j + 1) ∧
      ∀ chunk placed, (table[scaled (drawn s (j + 1)) i] + 1) * sliceSize ≤ chunk.size →
        step chunk i ⟨state, table, placed⟩ =
          .ok ⟨state', table.swap i (scaled (drawn s (j + 1)) i), placed ++
            Bytes.slice chunk (table[scaled (drawn s (j + 1)) i] * sliceSize) sliceSize⟩ := by
  obtain ⟨state', next_ok, state'_eq⟩ := next_eq_ok (at_j ▸ stateAfter_lt hs j)
  rw [at_j, ← stateAfter] at state'_eq
  have state'_lt : state'.toNat < 0x8000 := by
    rw [state'_eq]
    exact nextState_lt _
  obtain ⟨r, draw_ok, r_eq⟩ := draw_eq_ok state'_lt
  rw [state'_eq, ← drawn] at r_eq
  have r_lt : r.toNat < 0x10000 := by
    rw [r_eq]
    exact drawn_lt s (j + 1)
  have position_ok := position_eq_ok r_lt (by omega : i < 0x10000)
  rw [r_eq] at position_ok
  have x_le : scaled (drawn s (j + 1)) i ≤ i := scaled_le (drawn_lt s (j + 1))
  generalize scaled (drawn s (j + 1)) i = x at position_ok x_le
  have hx : x < table.size := by omega
  refine ⟨state', hx, state'_eq, fun chunk placed room => ?_⟩
  have exchange_ok : exchange table i x = .ok (table.swap i x) := dif_pos ⟨hi, hx⟩
  have entry_ok : entry (table.swap i x) i = .ok table[x] := by
    rw [entry, dif_pos (by rwa [Array.size_swap]), Array.getElem_swap_left]
  have cut_ok := Bytes.cut_of_le (by rwa [Nat.add_mul, Nat.one_mul] at room :
    table[x] * sliceSize + sliceSize ≤ chunk.size)
  simp only [step, Outcome.bind_eq_ok_iff]
  exact ⟨_, next_ok, _, draw_ok, _, position_ok, _, exchange_ok, _, entry_ok, _, cut_ok, rfl⟩

/-- The run at the positions below `n` rearranges the table below `n` and places the slices that
its entries there name, from the last to the first.  The table is the same whatever the slices
hold, and its entries are those to which the next `n` draws lead. -/
theorem run_eq_ok {s j n : Nat} {state : UInt32} (hs : s < 0x10000) (table : Array Nat)
    (at_j : state.toNat = stateAfter s j) (hn : n ≤ table.size) (small : table.size ≤ 0x10000) :
    ∃ state' table', state'.toNat = stateAfter s (j + n) ∧ table'.Perm table ∧
      (∀ k, n ≤ k → table'[k]? = table[k]?) ∧
      (∀ f : Nat → Nat, (∀ k (hk : k < table.size), table[k] = f k) →
        (table'.toList.take n).reverse = walkOrder (drawn s) (j + 1) n f) ∧
      ∀ chunk placed, (∀ e ∈ table, (e + 1) * sliceSize ≤ chunk.size) →
        run chunk n ⟨state, table, placed⟩ =
          .ok ⟨state', table', placed ++ gather chunk (table'.toList.take n).reverse⟩ := by
  induction n generalizing j state table with
  | zero =>
    refine ⟨state, table, at_j, Array.Perm.refl _, fun _ _ => rfl, fun _ _ => rfl,
      fun chunk placed _ => ?_⟩
    simp [run, gather]
  | succ n ih =>
    obtain ⟨next_state, hx, at_next, step_ok⟩ := step_eq_ok hs at_j hn small
    have x_le : scaled (drawn s (j + 1)) n ≤ n := scaled_le (drawn_lt s (j + 1))
    have size : (table.swap n (scaled (drawn s (j + 1)) n)).size = table.size := Array.size_swap
    obtain ⟨state', table', at_end, perm, above, entries, run_ok⟩ :=
      ih (table.swap n (scaled (drawn s (j + 1)) n)) at_next (by omega) (by omega)
    have swapped : (table.swap n (scaled (drawn s (j + 1)) n)).Perm table := Array.swap_perm hn hx
    -- the position of this step is no longer touched by the others
    have at_n : table'.toList[n]? = some table[scaled (drawn s (j + 1)) n] := by
      rw [Array.getElem?_toList, above n (Nat.le_refl n), Array.getElem?_eq_getElem (by omega),
        Array.getElem_swap_left]
    have last_first : (table'.toList.take (n + 1)).reverse =
        table[scaled (drawn s (j + 1)) n] :: (table'.toList.take n).reverse := by
      rw [List.take_add_one, at_n, Option.toList_some, List.reverse_append, List.reverse_singleton,
        List.singleton_append]
    refine ⟨state', table', ?_, perm.trans swapped, fun k hk => ?_, fun f same => ?_,
      fun chunk placed room => ?_⟩
    · rw [at_end, Nat.add_assoc, Nat.add_comm 1 n]
    · rw [above k (by omega), Array.getElem?_swap, if_neg (by omega), if_neg (by omega)]
    · rw [last_first, entries (exchanged f n (scaled (drawn s (j + 1)) n)), walkOrder, same]
      · simp only [exchanged, if_pos]
      · intro k hk
        rw [size] at hk
        rw [Array.getElem_swap, exchanged, same, same, same k hk]
    · rw [run, step_ok chunk placed (room _ (Array.getElem_mem hx)), last_first, gather,
        ← Array.append_assoc]
      exact run_ok chunk _ fun e he => room e (swapped.mem_iff.1 he)

end Walk

end BareMetal.Disc.SliceOrder
