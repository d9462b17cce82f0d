import BareMetal.Proofs.Disc.SliceWalk
import BareMetal.Proofs.Pieces
import Mathlib.GroupTheory.Perm.Cycle.Basic

/-!
# The table of a walk as one cycle

A step of the walk exchanges its position with one strictly below it (`below_scaled`).  Taken from
the lowest position on, each exchange inserts its position into the cycle of those below it
(`exists_swap_mul_formPerm`), so that the table that a walk over a chunk leaves is a single cycle of
all slices of the chunk (`run_leaves_one_cycle`).  In a chunk of two slices or more no position gets
the slice of its own number.
-/

namespace BareMetal.Disc.SliceOrder

/-! ## Draws -/

/-- The states to which a generator comes that is started below 65536. -/
inductive Reachable : UInt32 → Prop
  | seed {state : UInt32} : state.toNat < 0x10000 → Reachable state
  | next {state state' : UInt32} : Reachable state → next state = .ok state' → Reachable state'

/-- The position below `i` to which the draw behind a state leads. -/
def nextPosition (state : UInt32) (i : Nat) : Except Fault Nat := do
  position (← draw (← next state)) i

theorem Reachable.toNat_lt {state : UInt32} (reachable : Reachable state) :
    state.toNat < 0x10000 := by
  induction reachable with
  | seed below => exact below
  | next _ next_ok ih =>
    obtain ⟨state', next_ok', state'_eq⟩ := next_eq_ok ih
    obtain rfl := Except.ok.inj (next_ok.symm.trans next_ok')
    rw [state'_eq]
    exact (nextState_lt _).trans (by decide)

/-- A draw leads strictly below its position, and below 0 to 0. -/
def Below (i x : Nat) : Prop := (1 ≤ i → x < i) ∧ (i = 0 → x = 0)

theorem below_scaled {r : Nat} (h : r < 0x10000) (i : Nat) : Below i (scaled r i) := by
  refine ⟨scaled_lt h, ?_⟩
  rintro rfl
  exact Nat.le_zero.1 (scaled_le h)

theorem Below.le {i x : Nat} (h : Below i x) : x ≤ i := by
  unfold Below at h
  omega

theorem nextPosition_eq_ok {state : UInt32} (h : state.toNat < 0x10000) {i : Nat}
    (hi : i < 0x10000) :
    nextPosition state i = .ok (scaled (drawn state.toNat 1) i) := by
  obtain ⟨state', next_ok, state'_eq⟩ := next_eq_ok h
  have state'_lt : state'.toNat < 0x8000 := state'_eq ▸ nextState_lt _
  obtain ⟨r, draw_ok, r_eq⟩ := draw_eq_ok state'_lt
  rw [state'_eq] at r_eq
  have r_eq : r.toNat = drawn state.toNat 1 := r_eq
  have position_ok := position_eq_ok (r_eq ▸ drawn_lt _ _ : r.toNat < 0x10000) hi
  rw [r_eq] at position_ok
  exact Outcome.bind_eq_ok_iff.2 ⟨_, next_ok, Outcome.bind_eq_ok_iff.2 ⟨_, draw_ok, position_ok⟩⟩

/-! ## Exchanges -/

/-- An exchange with a new place inserts that place into a cycle. -/
theorem exists_swap_mul_formPerm {l : List Nat} {x m : Nat} (nodup : l.Nodup) (mem : x ∈ l) :
    ∃ l' : List Nat, l'.Perm (m :: l) ∧ Equiv.swap m x * l.formPerm = l'.formPerm := by
  obtain ⟨before, after, rfl⟩ := List.append_of_mem mem
  have rotated : (before ++ x :: after).formPerm = (x :: (after ++ before)).formPerm :=
    List.formPerm_eq_of_isRotated nodup ⟨before.length, by simp⟩
  refine ⟨m :: x :: (after ++ before), ?_, ?_⟩
  · apply List.Perm.cons
    show (x :: after ++ before).Perm (before ++ x :: after)
    exact List.perm_append_comm
  · rw [rotated, List.formPerm_cons_cons]

/-- The exchanges of each position below a number with the one that is given for it.  A table is read
through the exchange of the lowest position first, which is the last that the walk makes. -/
def exchanges (x : Nat → Nat) : Nat → Equiv.Perm Nat
  | 0 => 1
  | i + 1 => Equiv.swap i (x i) * exchanges x i

section

variable {x : Nat → Nat} {n : Nat}

/-- The list is the cycle: each exchange puts its position in front of the one that is drawn. -/
theorem exists_exchanges_eq_formPerm (below : ∀ i < n, Below i (x i)) :
    ∃ l : List Nat, l.Perm (List.range n) ∧ exchanges x n = l.formPerm := by
  induction n with
  | zero => exact ⟨[], .refl _, rfl⟩
  | succ n ih =>
    obtain ⟨l, perm, eq⟩ := ih fun i hi => below i (hi.trans n.lt_succ_self)
    rw [exchanges, eq]
    rcases Nat.eq_zero_or_pos n with rfl | pos
    · rw [List.range_zero, List.perm_nil] at perm
      refine ⟨[0], .refl _, ?_⟩
      rw [(below 0 Nat.zero_lt_one).2 rfl, perm, Equiv.swap_self]
      rfl
    · have mem : x n ∈ l := perm.mem_iff.2 (List.mem_range.2 ((below n n.lt_succ_self).1 pos))
      obtain ⟨l', perm', eq'⟩ :=
        exists_swap_mul_formPerm (m := n) (perm.nodup_iff.2 List.nodup_range) mem
      refine ⟨l', perm'.trans ?_, eq'⟩
      rw [List.range_succ]
      exact (perm.cons n).trans (List.perm_append_singleton n _).symm

/-- Exchanges with lower positions make one cycle of all positions. -/
theorem isCycleOn_exchanges (below : ∀ i < n, Below i (x i)) :
    (exchanges x n).IsCycleOn (Set.Iio n) := by
  obtain ⟨l, perm, eq⟩ := exists_exchanges_eq_formPerm below
  have cycle := (perm.nodup_iff.2 List.nodup_range).isCycleOn_formPerm
  have members : {k | k ∈ l} = Set.Iio n :=
    Set.ext fun k => perm.mem_iff.trans List.mem_range
  rwa [members, ← eq] at cycle

/-- The exchanges of lower positions leave a position alone. -/
theorem exchanges_apply_of_le (below : ∀ i < n, Below i (x i)) {k : Nat} (hk : n ≤ k) :
    exchanges x n k = k := by
  induction n with
  | zero => rfl
  | succ n ih =>
    have x_le := (below n n.lt_succ_self).le
    have lower (i : Nat) (hi : i < n) := below i (hi.trans n.lt_succ_self)
    rw [exchanges, Equiv.Perm.mul_apply, ih lower (by omega),
      Equiv.swap_apply_of_ne_of_ne (by omega) (by omega)]

end

/-- A table with two entries exchanged is read through the exchange of their places. -/
theorem getElem?_swap_eq {table : Array Nat} {i x : Nat} (hi : i < table.size)
    (hx : x < table.size) (k : Nat) :
    (table.swap i x hi hx)[k]? = table[Equiv.swap i x k]? := by
  rw [Array.getElem?_swap]
  by_cases at_x : x = k
  · rw [if_pos at_x, ← at_x, Equiv.swap_apply_right, Array.getElem?_eq_getElem hi]
  · by_cases at_i : i = k
    · rw [if_neg at_x, if_pos at_i, ← at_i, Equiv.swap_apply_left, Array.getElem?_eq_getElem hx]
    · rw [if_neg at_x, if_neg at_i,
        Equiv.swap_apply_of_ne_of_ne (Ne.symm at_i) (Ne.symm at_x)]

/-! ## Steps -/

namespace Walk

variable {chunk : Bytes}

/-- A walk whose next steps have an answer: the generator can go on, and the chunk holds each slice
of the table. -/
structure Ready (chunk : Bytes) (w : Walk) : Prop where
  state_lt : w.state.toNat < 0x10000
  size_le : w.table.size ≤ 0x10000
  room : ∀ e ∈ w.table, (e + 1) * sliceSize ≤ chunk.size

/-- A step at position `i` that draws position `x`, from the walk `w` to the walk `w'`. -/
structure Moves (chunk : Bytes) (i x : Nat) (w w' : Walk) : Prop where
  step_ok : w.step chunk i = .ok w'
  drawn : nextPosition w.state i = .ok x
  below : Below i x
  table_eq : ∀ k : Nat, w'.table[k]? = w.table[Equiv.swap i x k]?
  placed_eq : ∀ e, w'.table[i]? = some e →
    w'.placed = w.placed ++ Bytes.slice chunk (e * sliceSize) sliceSize

theorem Ready.exists_moves {w : Walk} (ready : Ready chunk w) {i : Nat} (hi : i < w.table.size) :
    ∃ x w', Moves chunk i x w w' ∧ Ready chunk w' ∧ w'.table.size = w.table.size := by
  obtain ⟨state, table, placed⟩ := w
  obtain ⟨state_lt, size_le, room⟩ := ready
  have hi : i < table.size := hi
  have at_start : state.toNat = stateAfter state.toNat 0 := rfl
  obtain ⟨state', hx, state'_eq, step_ok⟩ := step_eq_ok state_lt at_start hi size_le
  have drawn_ok := nextPosition_eq_ok state_lt (hi.trans_le size_le)
  have below := below_scaled (drawn_lt state.toNat 1) i
  rw [← Nat.zero_add 1] at drawn_ok below
  generalize scaled (drawn state.toNat (0 + 1)) i = x at hx step_ok drawn_ok below
  have swapped : (table.swap i x hi hx).Perm table := Array.swap_perm hi hx
  refine ⟨x, _, ⟨step_ok chunk placed (room _ (Array.getElem_mem hx)), drawn_ok, below, ?_, ?_⟩,
    ⟨?_, ?_, ?_⟩, ?_⟩
  · intro k
    exact getElem?_swap_eq hi hx k
  · intro e at_i
    rw [Array.getElem?_eq_getElem (by rwa [Array.size_swap]), Array.getElem_swap_left] at at_i
    rw [Option.some.inj at_i]
  · rw [state'_eq]
    exact stateAfter_lt state_lt _
  · rwa [Array.size_swap]
  · exact fun e mem => room e (swapped.mem_iff.1 mem)
  · exact Array.size_swap

/-! ## Runs -/

/-- The walks that a run passes through: `w (i + 1)` comes to position `i`, and `w i` leaves it. -/
theorem Ready.exists_run {start : Walk} (ready : Ready chunk start) {n : Nat}
    (hn : n ≤ start.table.size) : ∃ (w : Nat → Walk) (x : Nat → Nat), w n = start ∧
      ∀ i < n, Moves chunk i (x i) (w (i + 1)) (w i) := by
  induction n generalizing start with
  | zero => exact ⟨fun _ => start, id, rfl, nofun⟩
  | succ n ih =>
    obtain ⟨xn, wn, moves, ready', size_eq⟩ := ready.exists_moves (i := n) hn
    obtain ⟨w, x, rfl, others⟩ := ih ready' (size_eq ▸ Nat.le_of_succ_le hn)
    refine ⟨Function.update w (n + 1) start, Function.update x n xn, Function.update_self .., ?_⟩
    intro i hi
    rcases Nat.lt_succ_iff_lt_or_eq.1 hi with lower | rfl
    · rw [Function.update_of_ne (by omega), Function.update_of_ne (by omega),
        Function.update_of_ne (by omega)]
      exact others i lower
    · rwa [Function.update_self, Function.update_self, Function.update_of_ne (by omega)]

section

variable {w : Nat → Walk} {x : Nat → Nat} {n : Nat}

theorem run_of_moves (moves : ∀ i < n, Moves chunk i (x i) (w (i + 1)) (w i)) :
    run chunk n (w n) = .ok (w 0) := by
  induction n with
  | zero => rfl
  | succ n ih =>
    exact Outcome.bind_eq_ok_iff.2 ⟨w n, (moves n n.lt_succ_self).step_ok,
      ih fun i hi => moves i (hi.trans n.lt_succ_self)⟩

/-- A run rearranges its table by all its exchanges. -/
theorem getElem?_of_moves (moves : ∀ i < n, Moves chunk i (x i) (w (i + 1)) (w i)) (k : Nat) :
    (w 0).table[k]? = (w n).table[exchanges x n k]? := by
  induction n with
  | zero => rfl
  | succ n ih =>
    rw [ih fun i hi => moves i (hi.trans n.lt_succ_self), (moves n n.lt_succ_self).table_eq,
      exchanges, Equiv.Perm.mul_apply]

/-- What stands at a position when a step leaves it stands there in the end. -/
theorem getElem?_of_left (moves : ∀ i < n, Moves chunk i (x i) (w (i + 1)) (w i)) {i : Nat}
    (hi : i < n) : (w i).table[i]? = (w 0).table[i]? := by
  have lower (j : Nat) (hj : j < i) := moves j (hj.trans hi)
  rw [getElem?_of_moves lower, exchanges_apply_of_le (fun j hj => (lower j hj).below) le_rfl]

/-- A table of all slices in their order becomes the list of the exchanges' values. -/
theorem table_of_moves (moves : ∀ i < n, Moves chunk i (x i) (w (i + 1)) (w i))
    (all : (w n).table = Array.range n) : (w 0).table = (Array.range n).map (exchanges x n) := by
  have below (i : Nat) (hi : i < n) := (moves i hi).below
  apply Array.ext_getElem?
  intro k
  rw [getElem?_of_moves moves, all, Array.getElem?_map]
  by_cases hk : k < n
  · have image_lt : exchanges x n k < n := (isCycleOn_exchanges below).1.mapsTo hk
    rw [Array.getElem?_range, Array.getElem?_range, if_pos hk, if_pos image_lt]
    rfl
  · rw [exchanges_apply_of_le below (Nat.not_lt.1 hk), Array.getElem?_range, if_neg hk]
    rfl

end

end Walk

/-- Every draw of a walk over a chunk leads strictly below its position, and the table that the walk
leaves is a single cycle of all slices of the chunk.  The slice placed at a position is the one that
the cycle names there, and it is another than that of the position unless it is the only slice. -/
theorem run_leaves_one_cycle {state : UInt32} (reachable : Reachable state) {chunk : Bytes}
    {n : Nat} (slices : chunk.size / 32 = n) (n_le : n ≤ 2 ^ 16) (placed : Bytes) :
    ∃ (w : Nat → Walk) (x : Nat → Nat) (cycle : Equiv.Perm Nat),
      w n = ⟨state, Array.range n, placed⟩ ∧ Walk.run chunk n (w n) = .ok (w 0) ∧
      (∀ i < n, (w (i + 1)).step chunk i = .ok (w i) ∧
        nextPosition (w (i + 1)).state i = .ok (x i) ∧
        (1 ≤ i → x i < i) ∧ (i = 0 → x i = 0) ∧
        (w i).placed = (w (i + 1)).placed ++ Bytes.slice chunk (cycle i * 32) 32) ∧
      (w 0).table = (Array.range n).map cycle ∧ cycle.IsCycleOn (Set.Iio n) ∧
      (2 ≤ n → ∀ i < n, cycle i ≠ i) := by
  have ready : Walk.Ready chunk ⟨state, Array.range n, placed⟩ := by
    refine ⟨reachable.toNat_lt, ?_, fun e mem => ?_⟩
    · rwa [Array.size_range]
    · have e_lt := Array.mem_range.1 mem
      simp only [sliceSize]
      omega
  obtain ⟨w, x, start, moves⟩ := ready.exists_run (n := n) Array.size_range.ge
  have table_eq := Walk.table_of_moves moves (by rw [start])
  have one_cycle := isCycleOn_exchanges fun i hi => (moves i hi).below
  refine ⟨w, x, exchanges x n, start, Walk.run_of_moves moves, fun i hi => ?_, table_eq, one_cycle,
    fun two_le i hi => ?_⟩
  · obtain ⟨step_ok, drawn_ok, ⟨lower, zero⟩, -, placed_eq⟩ := moves i hi
    refine ⟨step_ok, drawn_ok, lower, zero, placed_eq _ ?_⟩
    rw [Walk.getElem?_of_left moves hi, table_eq, Array.getElem?_map, Array.getElem?_range,
      if_pos hi]
    rfl
  · have several : (Set.Iio n).Nontrivial := ⟨0, Set.mem_Iio.2 (by omega), 1, two_le, by decide⟩
    exact one_cycle.apply_ne several hi

/-- A chunk of two slices is placed as it is, since the two are exchanged before the first is
placed. -/
theorem run_leaves_one_cycle_of_two :
    ∃ w, Walk.run ((Array.range 64).map UInt8.ofNat) 2 ⟨2117, Array.range 2, #[]⟩ = .ok w ∧
      w.table = #[1, 0] ∧ w.placed = (Array.range 64).map UInt8.ofNat := by
  have size : ((Array.range 64).map UInt8.ofNat).size = 64 := by
    rw [Array.size_map, Array.size_range]
  have slices : ((Array.range 64).map UInt8.ofNat).size / 32 = 2 := by rw [size]
  have reachable : Reachable 2117 := .seed (by decide)
  obtain ⟨w, x, cycle, start, run_ok, steps, table_eq, one_cycle, moved⟩ :=
    run_leaves_one_cycle reachable slices (by decide) #[]
  have first : cycle 0 = 1 := by
    have image_lt : cycle 0 < 2 := one_cycle.1.mapsTo (Set.mem_Iio.2 (by decide))
    have := moved le_rfl 0 (by decide)
    omega
  have second : cycle 1 = 0 := by
    have image_lt : cycle 1 < 2 := one_cycle.1.mapsTo (Set.mem_Iio.2 (by decide))
    have := moved le_rfl 1 (by decide)
    omega
  refine ⟨w 0, start ▸ run_ok, ?_, ?_⟩
  · rw [table_eq, show Array.range 2 = #[0, 1] from rfl]
    simp [first, second]
  · obtain ⟨-, -, -, -, last⟩ := steps 0 (by decide)
    obtain ⟨-, -, -, -, before⟩ := steps 1 (by decide)
    rw [last, before, start, first, second, Array.empty_append]
    exact (Bytes.slice_append_slice _ 0 32 32).trans (Bytes.slice_of_size_le size.le)

end BareMetal.Disc.SliceOrder
