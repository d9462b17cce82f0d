import BareMetal.Proofs.Deck.Loading
import BareMetal.Proofs.Outcome
import Mathlib.Data.List.Induction

/-!
# Sequences of deck operations

A deck is made by operations that add raw bytes or a card that is made for it.  After any sequence
of them the deck is what each operation has added, one behind the other, and its cards carry their
numbers in columns that nothing else stands in (`performAll_numbers_cards`).
-/

namespace BareMetal.Deck

/-- A card by what it is made from. -/
inductive CardOrder where
  | sectionDictionary (address length : UInt32)
  | text (address : UInt32) (data : Bytes)
  | relocation
  | symbols
  | extendedDictionary
  | last
  deriving DecidableEq, Repr

/-- The card that is made, or why none is. -/
def CardOrder.card : CardOrder → Except RangeError Card
  | sectionDictionary address length => Card.sectionDictionary address.toNat length.toNat
  | text address data => Card.text address.toNat data
  | relocation => .ok (.ofKind .relocation)
  | symbols => .ok (.ofKind .symbols)
  | extendedDictionary => .ok (.ofKind .extendedDictionary)
  | last => .ok .last

/-- What can be done with a deck under construction. -/
inductive Operation where
  | addLoader (loader : Bytes)
  /-- Makes a card and adds it. -/
  | push (order : CardOrder)
  deriving DecidableEq, Repr

/-- The operation adds a card. -/
def Operation.addsCard : Operation → Bool
  | addLoader _ => false
  | push order => order.card.isOk

/-- The number of cards that some operations add. -/
def cardsIn (ops : List Operation) : Nat := ops.countP Operation.addsCard

/-- The bytes that an operation adds behind others.  A card is that which was ordered up to the
columns of its number, and the number counts the cards modulo what eight digits can say. -/
def Adds (before : List Operation) (op : Operation) (piece : Bytes) : Prop :=
  match op with
  | .addLoader loader => piece = loader
  | .push order =>
    match order.card with
    | .ok card =>
      Bytes.slice piece 0 72 = Bytes.slice card.bytes 0 72 ∧
        HasNumber piece ((cardsIn before + 1) % 10 ^ 8)
    | .error _ => piece = #[]

namespace ObjectDeck

/-- The deck after an operation.  No card is added where none can be made. -/
def perform (d : ObjectDeck) : Operation → Except RangeError ObjectDeck
  | .addLoader loader => .ok (d.addLoader loader)
  | .push order => do
    let card ← order.card
    return d.push card

/-- The deck with which one goes on after an operation: that from before if the operation fails. -/
def goOn (d : ObjectDeck) (op : Operation) : ObjectDeck :=
  match d.perform op with
  | .ok after => after
  | .error _ => d

/-- The deck after some operations on an empty one. -/
def performAll (ops : List Operation) : ObjectDeck := ops.foldl goOn {}

end ObjectDeck

/-! ## Cards that are made to order -/

namespace Card

theorem places_of_text {address : Nat} {data : Bytes} {card : Card}
    (made : text address data = .ok card) : card.Places address data := by
  have fits : data.size ≤ textSize ∧ address < 0x1000000 := by
    unfold text at made
    split at made
    · rename_i size_le
      obtain ⟨_, checked, -⟩ := Outcome.bind_eq_ok_iff.1 made
      exact ⟨size_le, (check24_eq_ok_iff.1 checked).1⟩
    · cases made
  obtain ⟨card', made', places⟩ := text_eq_ok fits.2 fits.1
  obtain rfl := Except.ok.inj (made.symm.trans made')
  exact places

theorem describes_of_sectionDictionary {address length : Nat} {card : Card}
    (made : sectionDictionary address length = .ok card) : card.Describes address length := by
  have fits : address < 0x1000000 ∧ length < 0x1000000 := by
    obtain ⟨_, address_checked, rest⟩ := Outcome.bind_eq_ok_iff.1 made
    obtain ⟨_, length_checked, -⟩ := Outcome.bind_eq_ok_iff.1 rest
    exact ⟨(check24_eq_ok_iff.1 address_checked).1, (check24_eq_ok_iff.1 length_checked).1⟩
  obtain ⟨card', made', describes⟩ := sectionDictionary_eq_ok fits.1 fits.2
  obtain rfl := Except.ok.inj (made.symm.trans made')
  exact describes

/-- A number is stamped as its last eight digits. -/
theorem numbered_mod (card : Card) (n : Nat) : card.numbered (n % 10 ^ 8) = card.numbered n := by
  have digits : sequenceDigits (n % 10 ^ 8) = sequenceDigits n := by
    rw [sequenceDigits, sequenceDigits, show 100000000 = 10 ^ 8 from rfl, Nat.mod_mod]
  simp only [numbered, digits]

end Card

theorem CardOrder.marked {order : CardOrder} {card : Card} (made : order.card = .ok card) :
    Bytes.slice card.bytes 0 1 = #[0x02] := by
  cases order with
  | sectionDictionary address length => exact (Card.describes_of_sectionDictionary made).marked
  | text address data => exact (Card.places_of_text made).marked
  | relocation => exact Except.ok.inj made ▸ Card.marker_ofKind .relocation
  | symbols => exact Except.ok.inj made ▸ Card.marker_ofKind .symbols
  | extendedDictionary => exact Except.ok.inj made ▸ Card.marker_ofKind .extendedDictionary
  | last => exact Except.ok.inj made ▸ Card.marker_last

theorem cardsIn_concat (ops : List Operation) (op : Operation) :
    cardsIn (ops ++ [op]) = cardsIn ops + if op.addsCard then 1 else 0 := by
  rw [cardsIn, List.countP_append, List.countP_singleton]
  rfl

namespace ObjectDeck

theorem performAll_concat (ops : List Operation) (op : Operation) :
    performAll (ops ++ [op]) = (performAll ops).goOn op := by
  rw [performAll, List.foldl_append]
  rfl

/-! ## One operation -/

theorem perform_push_of_error (d : ObjectDeck) {order : CardOrder} {e : RangeError}
    (refused : order.card = .error e) : d.perform (.push order) = .error e := by
  rw [perform, refused]
  rfl

theorem goOn_push_of_error (d : ObjectDeck) {order : CardOrder} {e : RangeError}
    (refused : order.card = .error e) : d.goOn (.push order) = d := by
  rw [goOn, perform_push_of_error d refused]

theorem goOn_push_of_ok (d : ObjectDeck) {order : CardOrder} {card : Card}
    (made : order.card = .ok card) : d.goOn (.push order) = d.push card := by
  rw [goOn, perform, made]
  rfl

theorem records_goOn (d : ObjectDeck) (op : Operation) :
    (d.goOn op).records = d.records + if op.addsCard then 1 else 0 := by
  cases op with
  | addLoader loader => rfl
  | push order =>
    cases made : order.card with
    | error e =>
      rw [goOn_push_of_error d made, Operation.addsCard, made]
      rfl
    | ok card =>
      rw [goOn_push_of_ok d made, Operation.addsCard, made]
      rfl

/-- An operation leaves what is there and adds its own bytes behind it. -/
theorem exists_adds (d : ObjectDeck) {before : List Operation}
    (counted : d.records = cardsIn before) (op : Operation) :
    ∃ piece, (d.goOn op).bytes = d.bytes ++ piece ∧ Adds before op piece := by
  cases op with
  | addLoader loader => exact ⟨loader, rfl, rfl⟩
  | push order =>
    cases made : order.card with
    | error e =>
      refine ⟨#[], ?_, ?_⟩
      · rw [goOn_push_of_error d made, Array.append_empty]
      · simp only [Adds, made]
    | ok card =>
      refine ⟨(card.numbered (cardsIn before + 1)).bytes, ?_, ?_⟩
      · rw [goOn_push_of_ok d made, ← counted]
        rfl
      · simp only [Adds, made]
        refine ⟨Card.slice_numbered (by decide), ?_⟩
        rw [← Card.numbered_mod]
        exact Card.hasNumber_numbered (CardOrder.marked made) (Nat.mod_lt _ (by decide))

/-! ## All operations -/

theorem records_performAll (ops : List Operation) : (performAll ops).records = cardsIn ops := by
  induction ops using List.reverseRecOn with
  | nil => rfl
  | append_singleton ops op ih => rw [performAll_concat, records_goOn, ih, cardsIn_concat]

theorem exists_pieces (ops : List Operation) :
    ∃ pieces : List Bytes, (performAll ops).bytes = Bytes.join pieces ∧
      pieces.length = ops.length ∧
      ∀ i op piece, ops[i]? = some op → pieces[i]? = some piece →
        Adds (ops.take i) op piece := by
  induction ops using List.reverseRecOn with
  | nil => exact ⟨[], rfl, rfl, nofun⟩
  | append_singleton ops last ih =>
    obtain ⟨pieces, bytes_eq, length_eq, each⟩ := ih
    obtain ⟨piece, added, adds⟩ := exists_adds (performAll ops) (records_performAll ops) last
    refine ⟨pieces ++ [piece], ?_, by simp [length_eq], ?_⟩
    · rw [performAll_concat, added, bytes_eq, Bytes.join_concat]
    · intro i op' piece' op_at piece_at
      rcases Nat.lt_trichotomy i ops.length with below | rfl | above
      · rw [List.getElem?_append_left below] at op_at
        rw [List.getElem?_append_left (length_eq ▸ below)] at piece_at
        rw [List.take_append_of_le_length (Nat.le_of_lt below)]
        exact each i op' piece' op_at piece_at
      · rw [List.getElem?_concat_length] at op_at
        rw [← length_eq, List.getElem?_concat_length] at piece_at
        cases op_at
        cases piece_at
        rw [List.take_left]
        exact adds
      · rw [List.getElem?_eq_none (by simp; omega)] at op_at
        cases op_at

/-- At every point of a sequence of operations the deck counts the cards that have been added, and
the number of the next card is a word of 32 bits.  The deck is made of what each operation has
added, in order: raw bytes as they are, and cards with their numbers.  Where no card can be made
the deck stays as it is. -/
theorem performAll_numbers_cards (ops : List Operation) (few : ops.length < 2 ^ 32 - 1) (n : Nat) :
    let done := ops.take n
    (performAll done).records = cardsIn done ∧
    (performAll done).records + 1 < 2 ^ 32 ∧
    (∃ pieces : List Bytes, (performAll done).bytes = Bytes.join pieces ∧
      pieces.length = done.length ∧
      ∀ i op piece, done[i]? = some op → pieces[i]? = some piece → Adds (done.take i) op piece) ∧
    ∀ order e, order.card = .error e →
      (performAll done).perform (.push order) = .error e ∧
      performAll (done ++ [.push order]) = performAll done := by
  intro done
  have counted := records_performAll done
  refine ⟨counted, ?_, exists_pieces done, fun order e refused => ?_⟩
  · have done_le : done.length ≤ ops.length := List.length_take_le' n ops
    have cards_le : cardsIn done ≤ done.length := List.countP_le_length
    omega
  · refine ⟨perform_push_of_error _ refused, ?_⟩
    rw [performAll_concat, goOn_push_of_error _ refused]

/-- A loader between two cards is not numbered, and data that no card can hold leaves no trace. -/
theorem performAll_numbers_cards_between :
    let ops := [.push .symbols, .addLoader #[0xAA], .push (.text 0 (Array.replicate 57 0)),
      .push (.text 0x18 #[0x47])]
    ∃ first second : Bytes, (performAll ops).bytes = first ++ #[0xAA] ++ second ∧
      HasNumber first 1 ∧ HasNumber second 2 ∧ (performAll ops).records = 2 := by
  intro ops
  obtain ⟨counted, -, ⟨pieces, bytes_eq, length_eq, each⟩, -⟩ :=
    performAll_numbers_cards ops (by decide) 4
  match pieces, length_eq with
  | [first, loader, refused, second], _ =>
    have first_adds := each 0 _ first rfl rfl
    have loader_eq : loader = #[0xAA] := each 1 _ loader rfl rfl
    have refused_eq : refused = #[] := each 2 _ refused rfl rfl
    have second_adds := each 3 _ second rfl rfl
    refine ⟨first, second, ?_, first_adds.2, second_adds.2, counted⟩
    exact bytes_eq.trans (by simp [loader_eq, refused_eq])

end ObjectDeck

end BareMetal.Deck
