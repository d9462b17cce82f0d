import BareMetal.Target.Loader
import BareMetal.Proofs.Pieces
import Mathlib.Data.List.Nodup
import Mathlib.Logic.Function.Basic

/-!
# Packets read back

The head of a packet is read back from it (`ofBytes?_packet`), and so is its data
(`payload_packet`).  A receiver that stores the data of the packets in which a binary is sent stores
the binary byte by byte from its address on (`stores_parts`).  The addresses start over after the
last one, and no address is stored to twice (`nodup_placed`).
-/

namespace BareMetal.Target.Loader

/-! ## Heads -/

theorem size_tag (c : Command) : c.tag.size = 4 := by
  cases c <;> rfl

theorem tag_injective : Function.Injective Command.tag := by
  intro c c'
  cases c <;> cases c' <;> decide

theorem size_head (c : Command) (address size : UInt32) :
    (Header.toBytes { tag := c.tag, address, size }).size = Header.byteSize := by
  simp only [Header.toBytes, Array.size_append, size_tag, Endian.size_toBytes]
  rfl

theorem size_packet (c : Command) (address size : UInt32) (data : Bytes) :
    (packet c address size data).size = Header.byteSize + data.size := by
  rw [packet, Array.size_append, size_head]

/-- The head of a packet is read back from it. -/
theorem ofBytes?_packet (c : Command) (address size : UInt32) (data : Bytes) :
    Header.ofBytes? (packet c address size data) = some { tag := c.tag, address, size } := by
  -- the two numbers stay opaque while they are cut out between the tag and the data
  obtain ⟨a, a_eq, a_size⟩ : ∃ a, Endian.big.toBytes 4 address.toNat = a ∧ a.size = 4 :=
    ⟨_, rfl, Endian.size_toBytes _ _ _⟩
  obtain ⟨n, n_eq, n_size⟩ : ∃ n, Endian.big.toBytes 4 size.toNat = n ∧ n.size = 4 :=
    ⟨_, rfl, Endian.size_toBytes _ _ _⟩
  have packet_eq : packet c address size data = c.tag ++ a ++ n ++ data := by
    rw [← a_eq, ← n_eq]
    rfl
  have total : (c.tag ++ a ++ n ++ data).size = 12 + data.size := by
    simp only [Array.size_append, size_tag, a_size, n_size]
  have tag_eq : (c.tag ++ a ++ n ++ data).extract 0 4 = c.tag := by
    simp [Array.extract_append, size_tag]
  have address_eq : Bytes.slice (c.tag ++ a ++ n ++ data) 4 4 = a := by
    have split_eq : c.tag ++ a ++ n ++ data = c.tag ++ a ++ (n ++ data) := Array.append_assoc
    rw [split_eq]
    exact Bytes.slice_append (size_tag c) a_size
  have size_eq : Bytes.slice (c.tag ++ a ++ n ++ data) 8 4 = n :=
    Bytes.slice_append (by rw [Array.size_append, size_tag, a_size]) n_size
  rw [packet_eq, Header.ofBytes?, Endian.read?, Endian.read?, if_pos (by omega), if_pos (by omega),
    address_eq, size_eq, tag_eq, ← a_eq, ← n_eq]
  simp only [Option.bind_eq_bind, Option.bind_some, Endian.ofNat_toNat_toBytes]
  rfl

/-- The packet has a head with the letters of the command. -/
def IsOf (c : Command) (bytes : Bytes) : Prop :=
  (Header.ofBytes? bytes).map Header.tag = some c.tag

theorem isOf_packet (c : Command) (address size : UInt32) (data : Bytes) :
    IsOf c (packet c address size data) := by
  rw [IsOf, ofBytes?_packet]
  rfl

theorem IsOf.unique {c c' : Command} {bytes : Bytes} (h : IsOf c bytes) (h' : IsOf c' bytes) :
    c = c' :=
  tag_injective (Option.some.inj (h.symm.trans h'))

/-- The bytes of a packet behind its head. -/
def payload (bytes : Bytes) : Bytes := bytes.extract Header.byteSize bytes.size

theorem payload_packet (c : Command) (address size : UInt32) (data : Bytes) :
    payload (packet c address size data) = data := by
  rw [payload, packet, ← size_head c address size]
  simp

/-! ## The packets of a binary -/

/-- The packets that carry pieces of a binary from an address on. -/
def parts (address : UInt32) : List Bytes → List Bytes
  | [] => []
  | piece :: rest =>
    packet .partBinary address (.ofNat piece.size) piece ::
      parts (address + .ofNat piece.size) rest

theorem length_parts (address : UInt32) (pieces : List Bytes) :
    (parts address pieces).length = pieces.length := by
  induction pieces generalizing address with
  | nil => rfl
  | cons piece rest ih => rw [parts, List.length_cons, List.length_cons, ih]

/-- A packet carries the piece in its place, behind those before it. -/
theorem getElem?_parts (address : UInt32) (pieces : List Bytes) (i : Nat) :
    (parts address pieces)[i]? = pieces[i]?.map fun piece =>
      packet .partBinary (address + .ofNat (Bytes.join (pieces.take i)).size) (.ofNat piece.size)
        piece := by
  induction pieces generalizing address i with
  | nil => rfl
  | cons piece rest ih =>
    cases i with
    | zero =>
      have start_eq : address + .ofNat (Bytes.join []).size = address := UInt32.add_zero address
      rw [List.take_zero, start_eq]
      rfl
    | succ i =>
      rw [parts, List.getElem?_cons_succ, ih, List.getElem?_cons_succ, List.take_succ_cons,
        Bytes.join_cons, Array.size_append, UInt32.ofNat_add, UInt32.add_assoc]

theorem exists_of_mem_parts {address : UInt32} {pieces : List Bytes} {part : Bytes}
    (h : part ∈ parts address pieces) : ∃ piece ∈ pieces, ∃ a,
      part = packet .partBinary a (.ofNat piece.size) piece := by
  obtain ⟨i, at_i⟩ := List.mem_iff_getElem?.1 h
  rw [getElem?_parts, Option.map_eq_some_iff] at at_i
  obtain ⟨piece, piece_at, rfl⟩ := at_i
  exact ⟨piece, List.mem_of_getElem? piece_at, _, rfl⟩

theorem isOf_of_mem_parts {address : UInt32} {pieces : List Bytes} {part : Bytes}
    (h : part ∈ parts address pieces) : IsOf .partBinary part := by
  obtain ⟨piece, -, a, rfl⟩ := exists_of_mem_parts h
  exact isOf_packet _ _ _ _

/-- The packets that carry a binary to an address. -/
def binaryParts (load : UInt32) (data : Bytes) : List Bytes :=
  parts load (Bytes.chunks chunkSize data)

/-! ## What a receiver stores -/

/-- Some bytes at the addresses from `address` on, which start over after the last one. -/
def placed (address : UInt32) (data : Bytes) : List (UInt32 × UInt8) :=
  data.toList.mapIdx fun i b => (address + .ofNat i, b)

theorem placed_append (address : UInt32) (data behind : Bytes) :
    placed address (data ++ behind) =
      placed address data ++ placed (address + .ofNat data.size) behind := by
  simp only [placed, Array.toList_append, List.mapIdx_append, Array.length_toList,
    UInt32.ofNat_add, UInt32.add_assoc, UInt32.add_comm (UInt32.ofNat data.size)]

theorem getElem?_placed (address : UInt32) (data : Bytes) (i : Nat) :
    (placed address data)[i]? = data[i]?.map fun b => (address + .ofNat i, b) := by
  rw [placed, List.getElem?_mapIdx, Array.getElem?_toList]

theorem length_placed (address : UInt32) (data : Bytes) :
    (placed address data).length = data.size := by
  rw [placed, List.length_mapIdx, Array.length_toList]

theorem exists_of_mem_placed {address a : UInt32} {data : Bytes}
    (mem : a ∈ (placed address data).map Prod.fst) : ∃ i < data.size, a = address + .ofNat i := by
  obtain ⟨store, store_mem, rfl⟩ := List.mem_map.1 mem
  obtain ⟨i, store_at⟩ := List.mem_iff_getElem?.1 store_mem
  rw [getElem?_placed, Option.map_eq_some_iff] at store_at
  obtain ⟨b, b_at, rfl⟩ := store_at
  exact ⟨i, (Array.getElem?_eq_some_iff.1 b_at).1, rfl⟩

/-- As many bytes as there are addresses, or fewer, are placed at different ones. -/
theorem nodup_placed (address : UInt32) {data : Bytes} (small : data.size ≤ Word32.bound) :
    ((placed address data).map Prod.fst).Nodup := by
  rw [List.nodup_iff_getElem?_ne_getElem?]
  intro i j i_lt j_lt same
  rw [List.length_map, length_placed] at j_lt
  have at_i : data[i]? = some data[i] := Array.getElem?_eq_getElem (by omega)
  have at_j : data[j]? = some data[j] := Array.getElem?_eq_getElem j_lt
  simp only [List.getElem?_map, getElem?_placed, at_i, at_j, Option.map_some, Option.some.injEq,
    UInt32.add_right_inj] at same
  have below {k : Nat} (k_lt : k < data.size) : k < UInt32.size := Nat.lt_of_lt_of_le k_lt small
  have := congrArg UInt32.toNat same
  rw [UInt32.toNat_ofNat_of_lt' (below (by omega)), UInt32.toNat_ofNat_of_lt' (below j_lt)] at this
  omega

/-- What a receiver stores for a packet: the data of one that carries a part of a binary, each byte
of it as far behind the address in the head as it stands behind the head. -/
def stores (bytes : Bytes) : List (UInt32 × UInt8) :=
  match Header.ofBytes? bytes with
  | some h => if h.tag = Command.partBinary.tag then placed h.address (payload bytes) else []
  | none => []

theorem stores_part (address size : UInt32) (piece : Bytes) :
    stores (packet .partBinary address size piece) = placed address piece := by
  rw [stores, ofBytes?_packet, payload_packet]
  exact if_pos rfl

theorem stores_of_ne {c : Command} (h : c ≠ .partBinary) (address size : UInt32) (data : Bytes) :
    stores (packet c address size data) = [] := by
  rw [stores, ofBytes?_packet]
  exact if_neg fun same => h (tag_injective same)

/-- The packets of some pieces make a receiver store the pieces as one. -/
theorem stores_parts (address : UInt32) (pieces : List Bytes) :
    (parts address pieces).flatMap stores = placed address (Bytes.join pieces) := by
  induction pieces generalizing address with
  | nil => rfl
  | cons piece rest ih =>
    rw [parts, List.flatMap_cons, stores_part, ih, Bytes.join_cons, placed_append]

/-- The packets of pieces that hold something are all different, as no address is stored to
twice. -/
theorem nodup_parts (address : UInt32) {pieces : List Bytes} (filled : ∀ p ∈ pieces, 0 < p.size)
    (small : (Bytes.join pieces).size ≤ Word32.bound) : (parts address pieces).Nodup := by
  have apart := (nodup_placed address small).of_map
  rw [← stores_parts, List.nodup_flatMap] at apart
  refine apart.2.imp_of_mem fun {part other} mem _ disjoint same => ?_
  obtain ⟨piece, piece_mem, a, rfl⟩ := exists_of_mem_parts mem
  have stored : 0 < (stores (packet .partBinary a (.ofNat piece.size) piece)).length := by
    rw [stores_part, length_placed]
    exact filled piece piece_mem
  obtain ⟨store, store_mem⟩ := List.exists_mem_of_length_pos stored
  exact disjoint store_mem (same ▸ store_mem)

/-! ## Memory -/

/-- The bytes in the memory of a target by their addresses. -/
abbrev Memory := UInt32 → UInt8

/-- The memory after some bytes have been stored one by one. -/
def Memory.storeAll (m : Memory) (written : List (UInt32 × UInt8)) : Memory :=
  written.foldl (fun m (a, b) => Function.update m a b) m

namespace Memory

variable {written : List (UInt32 × UInt8)} {a : UInt32} {b : UInt8}

theorem storeAll_outside (h : a ∉ written.map Prod.fst) (m : Memory) :
    m.storeAll written a = m a := by
  induction written generalizing m with
  | nil => rfl
  | cons first rest ih =>
    rw [List.map_cons, List.mem_cons, not_or] at h
    rw [storeAll, List.foldl_cons]
    exact (ih h.2 _).trans (Function.update_of_ne h.1 _ _)

/-- A byte that is stored at an address of its own is found there. -/
theorem storeAll_inside (nodup : (written.map Prod.fst).Nodup) (mem : (a, b) ∈ written)
    (m : Memory) : m.storeAll written a = b := by
  induction written generalizing m with
  | nil => cases mem
  | cons first rest ih =>
    rw [List.map_cons, List.nodup_cons] at nodup
    rw [storeAll, List.foldl_cons]
    rcases List.mem_cons.1 mem with rfl | mem
    · exact (storeAll_outside nodup.1 _).trans (Function.update_self _ _ _)
    · exact ih nodup.2 mem _

end Memory

end BareMetal.Target.Loader
