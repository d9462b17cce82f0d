import BareMetal.Deck.ObjectDeck
import BareMetal.Proofs.Deck.Card
import BareMetal.Proofs.Pieces

/-!
# Loading cards

A loader goes over the cards of a deck and stores what its text cards hold (`load`).  A text card
stores the data it was made of at its address, and text cards made of consecutive pieces store the
pieces as one (`TextCards.load_numberAll`).
-/

namespace BareMetal.Deck

/-- The bytes in memory by their addresses. -/
abbrev Memory := Nat → UInt8

/-- The memory after some bytes have been stored from an address on. -/
def Memory.store (m : Memory) (address : Nat) (data : Bytes) : Memory := fun a =>
  if address ≤ a then data.getD (a - address) (m a) else m a

/-- The memory after a card has been loaded: a text card stores its first bytes of data, as many as
it counts, at its address, and no other card stores anything. -/
def loadCard (m : Memory) (card : Bytes) : Memory :=
  if IsOfKind card .text then
    m.store (numberIn card 5 3) (Bytes.slice card 16 (numberIn card 10 2))
  else m

/-- The memory after some cards have been loaded in order. -/
def load (m : Memory) (cards : List Bytes) : Memory := cards.foldl loadCard m

theorem load_append (m : Memory) (cards others : List Bytes) :
    load m (cards ++ others) = load (load m cards) others := List.foldl_append

/-- A card of another kind is not loaded. -/
theorem loadCard_of_kind {card : Bytes} {kind : CardKind} (h : IsOfKind card kind)
    (other : kind.name ≠ CardKind.text.name) (m : Memory) : loadCard m card = m :=
  if_neg fun text => other (h.symm.trans text)

/-! ## Stores -/

namespace Memory

variable {m : Memory} {address : Nat} {data : Bytes}

theorem store_inside {i : Nat} (h : i < data.size) :
    m.store address data (address + i) = data[i] := by
  rw [store, if_pos (Nat.le_add_right _ _), Nat.add_sub_cancel_left, Array.getD_eq_getD_getElem?,
    Array.getElem?_eq_getElem h, Option.getD_some]

theorem store_outside {a : Nat} (h : a < address ∨ address + data.size ≤ a) :
    m.store address data a = m a := by
  rw [store]
  split
  · rw [Array.getD_eq_getD_getElem?, Array.getElem?_eq_none (by omega), Option.getD_none]
  · rfl

theorem store_empty : m.store address #[] = m := by
  funext a
  refine store_outside ?_
  have : (#[] : Bytes).size = 0 := rfl
  omega

/-- Bytes stored one behind the other are stored as one. -/
theorem store_store {behind : Bytes} :
    (m.store address data).store (address + data.size) behind =
      m.store address (data ++ behind) := by
  funext a
  by_cases low : a < address + data.size
  · rw [store_outside (Or.inl low)]
    by_cases before : a < address
    · rw [store_outside (Or.inl before), store_outside (Or.inl before)]
    · obtain ⟨i, rfl⟩ := Nat.exists_eq_add_of_le (Nat.not_lt.1 before)
      have hi : i < data.size := by omega
      rw [store_inside hi, store_inside (by rw [Array.size_append]; omega),
        Array.getElem_append_left hi]
  · obtain ⟨i, rfl⟩ := Nat.exists_eq_add_of_le (Nat.not_lt.1 low)
    by_cases hi : i < behind.size
    · rw [store_inside hi, Nat.add_assoc, store_inside (by rw [Array.size_append]; omega),
        Array.getElem_append_right (by omega)]
      simp only [Nat.add_sub_cancel_left]
    · rw [store_outside (by omega), store_outside (by omega),
        store_outside (by rw [Array.size_append]; omega)]

end Memory

/-! ## Cards in a deck -/

/-- The bytes of cards with sequence numbers from `first` on. -/
def numberAll (first : Nat) : List Card → List Bytes
  | [] => []
  | card :: rest => (card.numbered first).bytes :: numberAll (first + 1) rest

theorem length_numberAll (first : Nat) (cards : List Card) :
    (numberAll first cards).length = cards.length := by
  induction cards generalizing first with
  | nil => rfl
  | cons card rest ih => rw [numberAll, List.length_cons, List.length_cons, ih]

theorem load_numberAll_cons (m : Memory) (first : Nat) (card : Card) (rest : List Card) :
    load m (numberAll first (card :: rest)) =
      load (loadCard m (card.numbered first).bytes) (numberAll (first + 1) rest) := rfl

theorem numberAll_append (first : Nat) (cards others : List Card) :
    numberAll first (cards ++ others) =
      numberAll first cards ++ numberAll (first + cards.length) others := by
  induction cards generalizing first with
  | nil => rfl
  | cons card rest ih =>
    rw [List.cons_append, numberAll, numberAll, ih, List.cons_append, List.length_cons,
      Nat.add_assoc, Nat.add_comm 1]

theorem getElem?_numberAll (first : Nat) (cards : List Card) (k : Nat) :
    (numberAll first cards)[k]? = cards[k]?.map fun card => (card.numbered (first + k)).bytes := by
  induction cards generalizing first k with
  | nil => rfl
  | cons card rest ih =>
    cases k with
    | zero => rfl
    | succ k =>
      rw [numberAll, List.getElem?_cons_succ, List.getElem?_cons_succ, ih, Nat.add_assoc,
        Nat.add_comm 1]

/-- Every card among numbered ones is one of the cards under some number. -/
theorem exists_of_mem_numberAll {first : Nat} {cards : List Card} {bytes : Bytes}
    (h : bytes ∈ numberAll first cards) : ∃ card ∈ cards, ∃ n, bytes = (card.numbered n).bytes := by
  obtain ⟨k, hk⟩ := List.mem_iff_getElem?.1 h
  rw [getElem?_numberAll, Option.map_eq_some_iff] at hk
  obtain ⟨card, at_k, rfl⟩ := hk
  exact ⟨card, List.mem_of_getElem? at_k, _, rfl⟩

/-! ## Text cards -/

theorem loadCard_numbered {card : Card} {address : Nat} {data : Bytes}
    (h : card.Places address data) (m : Memory) (n : Nat) :
    loadCard m (card.numbered n).bytes = m.store address data := by
  have kind : IsOfKind (card.numbered n).bytes .text := by
    rw [IsOfKind, Card.slice_numbered (by decide)]
    exact h.kind
  have within : 16 + data.size ≤ sequenceColumn :=
    Nat.le_trans (Nat.add_le_add_left h.size_le 16) (by decide)
  rw [loadCard, if_pos kind, Card.numberIn_numbered (by decide), Card.numberIn_numbered (by decide),
    h.address_eq, h.count, Card.slice_numbered within, h.data_eq]

/-- The cards place consecutive pieces from an address on. -/
def TextCards (address : Nat) : List Bytes → List Card → Prop
  | [], [] => True
  | piece :: pieces, card :: cards =>
    card.Places address piece ∧ TextCards (address + piece.size) pieces cards
  | _, _ => False

namespace TextCards

theorem length_eq {address : Nat} {pieces : List Bytes} {cards : List Card}
    (h : TextCards address pieces cards) : cards.length = pieces.length := by
  induction pieces generalizing address cards with
  | nil =>
    cases cards with
    | nil => rfl
    | cons card cards => exact h.elim
  | cons piece pieces ih =>
    cases cards with
    | nil => exact h.elim
    | cons card cards => rw [List.length_cons, List.length_cons, ih h.2]

theorem exists_places {address : Nat} {pieces : List Bytes} {cards : List Card}
    (h : TextCards address pieces cards) {card : Card} (mem : card ∈ cards) :
    ∃ a data, card.Places a data := by
  induction pieces generalizing address cards with
  | nil =>
    cases cards with
    | nil => cases mem
    | cons _ _ => exact h.elim
  | cons piece pieces ih =>
    cases cards with
    | nil => cases mem
    | cons first cards =>
      rcases List.mem_cons.1 mem with rfl | mem
      · exact ⟨_, _, h.1⟩
      · exact ih h.2 mem

/-- Loading the cards of consecutive pieces stores the pieces as one. -/
theorem load_numberAll {address : Nat} {pieces : List Bytes} {cards : List Card}
    (h : TextCards address pieces cards) (m : Memory) (first : Nat) :
    load m (numberAll first cards) = m.store address (Bytes.join pieces) := by
  induction pieces generalizing address cards m first with
  | nil =>
    cases cards with
    | nil => exact Memory.store_empty.symm
    | cons _ _ => exact h.elim
  | cons piece pieces ih =>
    cases cards with
    | nil => exact h.elim
    | cons card cards =>
      rw [Bytes.join_cons, ← Memory.store_store, ← ih h.2 (m.store address piece) (first + 1),
        ← loadCard_numbered h.1 m first]
      rfl

end TextCards

end BareMetal.Deck
