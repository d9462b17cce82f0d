import BareMetal.Proofs.Deck.Loading
import BareMetal.Proofs.Outcome

/-!
# Decks read back

A deck that is built is the loader and numbered cards of eighty columns: a dictionary card, text
cards, and the card that ends it.  Loading the cards puts the binary at its address and, if asked
for, the program status word at the beginning of memory, and nothing else
(`cards_of_build`).  A deck is built for just what 24-bit addresses can hold (`exists_build_iff`).
-/

namespace BareMetal.Deck.ObjectDeck

/-! ## Adding cards -/

theorem records_foldl_push (d : ObjectDeck) (cards : List Card) :
    (cards.foldl push d).records = d.records + cards.length := by
  induction cards generalizing d with
  | nil => rfl
  | cons card rest ih =>
    rw [List.foldl_cons, ih, List.length_cons, Nat.add_comm rest.length, ← Nat.add_assoc]
    rfl

theorem bytes_foldl_push (d : ObjectDeck) (cards : List Card) :
    (cards.foldl push d).bytes = d.bytes ++ Bytes.join (numberAll (d.records + 1) cards) := by
  induction cards generalizing d with
  | nil => exact Array.append_empty.symm
  | cons card rest ih =>
    rw [List.foldl_cons, ih, numberAll, Bytes.join_cons, ← Array.append_assoc]
    rfl

/-- Consecutive pieces that fit their cards and 24-bit addresses become text cards. -/
theorem addTexts_eq_ok (d : ObjectDeck) {address : UInt32} {pieces : List Bytes}
    (sizes : ∀ piece ∈ pieces, 0 < piece.size ∧ piece.size ≤ textSize)
    (fits : address.toNat + (Bytes.join pieces).size ≤ 0x1000000) :
    ∃ cards, TextCards address.toNat pieces cards ∧
      addTexts d address pieces = .ok (cards.foldl push d) := by
  induction pieces generalizing d address with
  | nil => exact ⟨[], trivial, rfl⟩
  | cons piece rest ih =>
    obtain ⟨piece_pos, piece_le⟩ := sizes piece (by simp)
    rw [Bytes.join_cons, Array.size_append] at fits
    obtain ⟨card, text_ok, places⟩ :=
      Card.text_eq_ok (by omega : address.toNat < 0x1000000) piece_le
    have piece_small : piece.size < UInt32.size := Nat.lt_of_le_of_lt piece_le (by decide)
    have piece_toNat : (UInt32.ofNat piece.size).toNat = piece.size :=
      UInt32.toNat_ofNat_of_lt' piece_small
    obtain ⟨next, next_ok, next_eq⟩ := Word32.exists_add address (UInt32.ofNat piece.size)
      (by rw [piece_toNat, Word32.bound]; omega)
    rw [piece_toNat] at next_eq
    obtain ⟨cards, texts, rest_ok⟩ := ih (d.push card) (fun p hp => sizes p (by simp [hp]))
      (by rw [next_eq]; omega : next.toNat + (Bytes.join rest).size ≤ 0x1000000)
    rw [next_eq] at texts
    refine ⟨card :: cards, ⟨places, texts⟩, ?_⟩
    rw [addTexts, text_ok, next_ok]
    exact rest_ok

/-! ## Building a deck -/

/-- The binary and its place are within what 24-bit addresses can say. -/
structure Fits (binary : Bytes) (o : Options) : Prop where
  address_lt : o.address.toNat < 0x1000000
  size_lt : binary.size < 0x1000000
  end_le : o.address.toNat + binary.size ≤ 0x1000000

theorem fits_of_build {binary : Bytes} {o : Options} {deck : ObjectDeck}
    (built : build binary o = .ok deck) : Fits binary o := by
  simp only [build, Outcome.bind_eq_ok_iff, Outcome.mapError_eq_ok_iff, Card.sectionDictionary,
    Card.check24_eq_ok_iff] at built
  obtain ⟨_, ⟨size_lt, -⟩, _, ⟨end_lt, -⟩, _, ⟨_, ⟨address_lt, -⟩, -⟩, -⟩ := built
  exact ⟨address_lt, size_lt, by omega⟩

/-- The cards of a deck: the dictionary, the text and the last card. -/
structure Contents (binary : Bytes) (o : Options) where
  dictionary : Card
  psw : List Card
  texts : List Card
  describes : dictionary.Describes o.address.toNat binary.size
  psw_cards : TextCards 0 (if o.setsPsw then [startPsw o.address] else []) psw
  text_cards : TextCards o.address.toNat (Bytes.chunks textSize binary) texts

/-- All cards in order. -/
def Contents.cards {binary : Bytes} {o : Options} (c : Contents binary o) : List Card :=
  c.dictionary :: (c.psw ++ c.texts) ++ [Card.last]

/-- The card of the program status word, if there is to be one, is added before the rest. -/
theorem addPsw_eq (o : Options) :
    ∃ psw, TextCards 0 (if o.setsPsw then [startPsw o.address] else []) psw ∧
      ∀ (deck : ObjectDeck) (rest : ObjectDeck → Except Error ObjectDeck),
        (if o.setsPsw then do
          let card ← (Card.text 0 (startPsw o.address)).mapError Error.range
          let deck ← pure (deck.push card)
          rest deck
        else do
          let deck ← pure deck
          rest deck) = rest (psw.foldl push deck) := by
  by_cases h : o.setsPsw = true
  · obtain ⟨card, text_ok, places⟩ := Card.text_eq_ok (by decide : 0 < 0x1000000)
      (by simp [startPsw, textSize] : (startPsw o.address).size ≤ textSize)
    refine ⟨[card], ?_, fun deck rest => ?_⟩
    · rw [if_pos h]
      exact ⟨places, trivial⟩
    · rw [if_pos h, text_ok]
      rfl
  · refine ⟨[], ?_, fun deck rest => ?_⟩
    · rw [if_neg h]
      trivial
    · rw [if_neg h]
      rfl

/-- What fits is built, and the deck is the loader with the cards behind it. -/
theorem build_eq_ok {binary : Bytes} {o : Options} (fits : Fits binary o) :
    ∃ c : Contents binary o, build binary o =
      .ok (c.cards.foldl push (({} : ObjectDeck).addLoader (o.loader.getD #[]))) := by
  obtain ⟨dictionary, dictionary_ok, describes⟩ :=
    Card.sectionDictionary_eq_ok fits.address_lt fits.size_lt
  have end_lt : o.address.toNat + binary.size - 1 < 0x1000000 := by
    have := fits.address_lt
    have := fits.end_le
    omega
  obtain ⟨psw, psw_cards, psw_eq⟩ := addPsw_eq o
  have text_pos : 0 < textSize := by decide
  let start := (({} : ObjectDeck).addLoader (o.loader.getD #[])).push dictionary
  obtain ⟨texts, text_cards, texts_ok⟩ := addTexts_eq_ok (psw.foldl push start)
    (fun _ mem => Bytes.size_of_mem_chunks text_pos mem)
    (by rw [Bytes.join_chunks text_pos]; exact fits.end_le)
  refine ⟨⟨dictionary, psw, texts, describes, psw_cards, text_cards⟩, ?_⟩
  rw [build, Card.check24_eq_ok fits.size_lt, Card.check24_eq_ok end_lt]
  show ((Card.sectionDictionary _ _).mapError Error.range >>= _) = _
  rw [dictionary_ok]
  refine (psw_eq start _).trans ?_
  rw [texts_ok, Contents.cards, List.cons_append, List.foldl_cons, List.foldl_append,
    List.foldl_append]
  rfl

theorem exists_build_iff {binary : Bytes} {o : Options} :
    (∃ deck, build binary o = .ok deck) ↔ Fits binary o := by
  refine ⟨fun ⟨_, built⟩ => fits_of_build built, fun fits => ?_⟩
  obtain ⟨c, built⟩ := build_eq_ok fits
  exact ⟨_, built⟩

namespace Contents

variable {binary : Bytes} {o : Options} (c : Contents binary o)

theorem length_psw : c.psw.length = if o.setsPsw then 1 else 0 := by
  rw [c.psw_cards.length_eq]
  split <;> rfl

theorem length_texts : c.texts.length = ceilDiv binary.size textSize := by
  rw [c.text_cards.length_eq, Bytes.length_chunks]

theorem length_cards :
    c.cards.length = 2 + (if o.setsPsw then 1 else 0) + ceilDiv binary.size textSize := by
  rw [cards, List.cons_append, List.length_cons, List.length_append, List.length_append,
    c.length_psw, c.length_texts, List.length_singleton]
  omega

theorem places_of_mem {card : Card} (h : card ∈ c.psw ++ c.texts) :
    ∃ a data, card.Places a data := by
  rcases List.mem_append.1 h with h | h
  · exact c.psw_cards.exists_places h
  · exact c.text_cards.exists_places h

theorem marked_of_mem {card : Card} (h : card ∈ c.cards) :
    Bytes.slice card.bytes 0 1 = #[0x02] := by
  rcases List.mem_append.1 h with h | h
  · rcases List.mem_cons.1 h with rfl | h
    · exact c.describes.marked
    · obtain ⟨a, data, places⟩ := c.places_of_mem h
      exact places.marked
  · obtain rfl := List.mem_singleton.1 h
    exact Card.marker_last

theorem load_numberAll (m : Memory) : load m (numberAll 1 c.cards) =
    (m.store 0 (if o.setsPsw then startPsw o.address else #[])).store o.address.toNat binary := by
  have psw_join : Bytes.join (if o.setsPsw then [startPsw o.address] else []) =
      if o.setsPsw then startPsw o.address else #[] := by
    split <;> simp
  have dictionary_kind : IsOfKind (c.dictionary.numbered 1).bytes .sectionDictionary :=
    (Card.slice_numbered (by decide)).trans c.describes.kind
  have last_kind (n : Nat) : IsOfKind (Card.last.numbered n).bytes .last :=
    (Card.slice_numbered (by decide)).trans Card.isOfKind_last
  rw [cards, List.cons_append, load_numberAll_cons, loadCard_of_kind dictionary_kind (by decide),
    numberAll_append, load_append, load_numberAll_cons, loadCard_of_kind (last_kind _) (by decide),
    numberAll_append, load_append, c.psw_cards.load_numberAll, c.text_cards.load_numberAll,
    psw_join, Bytes.join_chunks (by decide)]
  rfl

theorem length_cards_lt (fits : Fits binary o) : c.cards.length < 10 ^ 8 := by
  have texts_le : ceilDiv binary.size textSize ≤ 0x1000000 := by
    have := fits.size_lt
    exact (ceilDiv_le_iff (by decide)).2 (by unfold textSize; omega)
  rw [c.length_cards]
  split <;> omega

/-- The cards carry their numbers, all of which have eight digits. -/
theorem hasNumber_of_getElem? (fits : Fits binary o) {k : Nat} {bytes : Bytes}
    (at_k : (numberAll 1 c.cards)[k]? = some bytes) : HasNumber bytes (k + 1) := by
  have k_lt : k < c.cards.length := by
    rw [← length_numberAll 1 c.cards]
    exact (List.getElem?_eq_some_iff.1 at_k).1
  rw [getElem?_numberAll, Option.map_eq_some_iff] at at_k
  obtain ⟨card, at_k, rfl⟩ := at_k
  rw [Nat.add_comm 1]
  exact Card.hasNumber_numbered (c.marked_of_mem (List.mem_of_getElem? at_k))
    (Nat.lt_of_le_of_lt k_lt (c.length_cards_lt fits))

end Contents

/-- The program status word is all that its card changes in memory. -/
theorem store_psw_eq (o : Options) (m : Memory) (a : Nat) :
    let after := m.store 0 (if o.setsPsw then startPsw o.address else #[])
    (o.setsPsw = true → a < 8 → some (after a) = (startPsw o.address)[a]?) ∧
      (o.setsPsw = false ∨ 8 ≤ a → after a = m a) := by
  have psw_size : (startPsw o.address).size = 8 := by simp [startPsw]
  refine ⟨fun h low => ?_, fun h => ?_⟩
  · have inside : (m.store 0 (startPsw o.address)) (0 + a) = (startPsw o.address)[a] :=
      Memory.store_inside (psw_size ▸ low)
    rw [Nat.zero_add] at inside
    rw [if_pos h, Array.getElem?_eq_getElem (by omega)]
    exact congrArg some inside
  · rcases h with h | high
    · rw [h]
      exact congrFun Memory.store_empty a
    · refine Memory.store_outside (Or.inr ?_)
      split
      · omega
      · exact Nat.zero_le _

/-- A deck that is built is the loader and numbered cards of eighty columns.  The first describes
the binary by its address and length, the last ends the deck and all between are text.  Loading the
cards changes nothing in memory but that the binary stands at its address, and around it, if asked
for, the program status word in the first eight bytes. -/
theorem cards_of_build {binary : Bytes} {o : Options} {deck : ObjectDeck}
    (built : build binary o = .ok deck) :
    ∃ cards : List Bytes,
      deck.bytes = o.loader.getD #[] ++ Bytes.join cards ∧
      deck.records = cards.length ∧
      cards.length = 2 + (if o.setsPsw then 1 else 0) + ceilDiv binary.size 56 ∧
      (∀ k card, cards[k]? = some card → HasNumber card (k + 1)) ∧
      (∃ first texts last, cards = first :: texts ++ [last] ∧
        IsOfKind first .sectionDictionary ∧ numberIn first 25 3 = o.address.toNat ∧
        numberIn first 29 3 = binary.size ∧
        (∀ card ∈ texts, IsOfKind card .text) ∧ IsOfKind last .last) ∧
      ∀ m : Memory,
        (∀ i (h : i < binary.size), load m cards (o.address.toNat + i) = binary[i]) ∧
        ∀ a, a < o.address.toNat ∨ o.address.toNat + binary.size ≤ a →
          (o.setsPsw = true → a < 8 → some (load m cards a) = (startPsw o.address)[a]?) ∧
          (o.setsPsw = false ∨ 8 ≤ a → load m cards a = m a) := by
  have fits := fits_of_build built
  obtain ⟨c, built'⟩ := build_eq_ok fits
  obtain rfl := Except.ok.inj (built.symm.trans built')
  refine ⟨numberAll 1 c.cards, ?_, ?_, ?_, ?_, ?_, fun m => ⟨fun i h => ?_, fun a outside => ?_⟩⟩
  · rw [bytes_foldl_push, addLoader, Array.empty_append]
  · rw [records_foldl_push, length_numberAll, addLoader, Nat.zero_add]
  · rw [length_numberAll, c.length_cards]
    rfl
  · exact fun k card at_k => c.hasNumber_of_getElem? fits at_k
  · refine ⟨_, numberAll 2 (c.psw ++ c.texts), _, numberAll_append 1 _ [Card.last], ?_, ?_, ?_, ?_,
      ?_⟩
    · exact (Card.slice_numbered (by decide)).trans c.describes.kind
    · exact (Card.numberIn_numbered (by decide)).trans c.describes.address_eq
    · exact (Card.numberIn_numbered (by decide)).trans c.describes.length_eq
    · intro bytes mem
      obtain ⟨card, card_mem, n, rfl⟩ := exists_of_mem_numberAll mem
      obtain ⟨a, data, places⟩ := c.places_of_mem card_mem
      exact (Card.slice_numbered (by decide)).trans places.kind
    · exact (Card.slice_numbered (by decide)).trans Card.isOfKind_last
  · rw [c.load_numberAll, Memory.store_inside h]
  · rw [c.load_numberAll, Memory.store_outside outside]
    exact store_psw_eq o m a

/-- A binary of one byte more than a card carries, placed over the program status word, takes five
cards and leaves the first bytes of that word in memory. -/
theorem cards_of_build_overlapping : ∃ deck cards,
    build (Array.replicate 57 0x47)
      { address := 4, loader := some #[0xAA], setsPsw := true } = .ok deck ∧
    deck.bytes = #[0xAA] ++ Bytes.join cards ∧ cards.length = 5 ∧
    load (fun _ => 0xFF) cards 1 = 0x0C ∧ load (fun _ => 0xFF) cards 4 = 0x47 ∧
    load (fun _ => 0xFF) cards 60 = 0x47 ∧ load (fun _ => 0xFF) cards 61 = 0xFF := by
  obtain ⟨deck, built⟩ : ∃ deck, build (Array.replicate 57 0x47)
      { address := 4, loader := some #[0xAA], setsPsw := true } = .ok deck :=
    exists_build_iff.2 ⟨by decide, by decide, by decide⟩
  obtain ⟨cards, bytes_eq, -, length_eq, -, -, loaded⟩ := cards_of_build built
  obtain ⟨inside, outside⟩ := loaded fun _ => 0xFF
  refine ⟨deck, cards, built, bytes_eq, length_eq, ?_, inside 0 (by decide), inside 56 (by decide),
    (outside 61 (by decide)).2 (by decide)⟩
  exact Option.some.inj ((outside 1 (by decide)).1 rfl (by decide))

end BareMetal.Deck.ObjectDeck
