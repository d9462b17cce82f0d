import BareMetal.Proofs.Deck.ObjectDeck

/-!
# Binaries within 24-bit addresses

A deck is built for just the binaries that lie within the addresses of 24 bits; any other is
refused for a number that does not fit them (`Refused`).  The cards in front of the text decide it
(`opening`): behind them no turn of the loop over the pieces of the binary fails (`turn_of_opening`).
-/

namespace BareMetal.Deck.ObjectDeck

/-- The numbers for which a deck is refused, by their names.  The first byte is checked last, and is
at fault by itself only where the binary is empty, since what ends within the addresses begins within
them. -/
inductive Refused (binary : Bytes) (o : Options) : String → Nat → Prop
  | length : 0x1000000 ≤ binary.size → Refused binary o "binary length" binary.size
  | lastByte : binary.size < 0x1000000 → 0x1000000 < o.address.toNat + binary.size →
    Refused binary o "end address" (o.address.toNat + binary.size - 1)
  | firstByte : binary.size = 0 → o.address.toNat = 0x1000000 →
    Refused binary o "ESD address" o.address.toNat

/-- The deck in front of its text: the loader, the dictionary card, and the card of the program
status word if there is one. -/
def opening (binary : Bytes) (o : Options) : Except Error ObjectDeck := do
  let length ← (Card.check24 "binary length" binary.size).mapError .range
  let _ ← (Card.check24 "end address" (o.address.toNat + binary.size - 1)).mapError .range
  let deck := ({} : ObjectDeck).addLoader (o.loader.getD #[])
  let dictionary ← (Card.sectionDictionary o.address.toNat length).mapError .range
  let deck := deck.push dictionary
  if o.setsPsw then do
    let card ← (Card.text 0 (startPsw o.address)).mapError .range
    return deck.push card
  else return deck

/-- A turn of the loop that adds the text: the card of a piece is added to the deck, and the address
moves on behind the piece. -/
def turn (s : ObjectDeck × UInt32) (piece : Bytes) : Except Error (ObjectDeck × UInt32) := do
  let card ← (Card.text s.2.toNat piece).mapError .range
  let next ← (Word32.add s.2 (UInt32.ofNat piece.size)).mapError .fault
  return (s.1.push card, next)

/-! ## The loop -/

theorem addTexts_eq (d : ObjectDeck) (address : UInt32) (pieces : List Bytes) :
    addTexts d address pieces = Prod.fst <$> pieces.foldlM turn (d, address) := by
  induction pieces generalizing d address with
  | nil => rfl
  | cons piece rest ih =>
    rw [addTexts, List.foldlM_cons, turn]
    cases Card.text address.toNat piece with
    | error e => rfl
    | ok card =>
      cases Word32.add address (UInt32.ofNat piece.size) with
      | error f => rfl
      | ok next => exact ih (d.push card) next

/-- A deck is built by its opening, the loop and the last card. -/
theorem build_eq (binary : Bytes) (o : Options) : build binary o = do
    let deck ← opening binary o
    let s ← (Bytes.chunks textSize binary).foldlM turn (deck, o.address)
    return s.1.push Card.last := by
  simp only [build, opening, addTexts_eq, bind_assoc]
  refine bind_congr fun length => bind_congr fun _ => bind_congr fun dictionary => ?_
  split_ifs <;> simp only [bind_assoc, pure_bind, bind_map_left]

/-- A turn moves the address on by the size of its piece. -/
theorem toNat_turn {s next : ObjectDeck × UInt32} {piece : Bytes} (small : piece.size ≤ textSize)
    (turned : turn s piece = .ok next) : next.2.toNat = s.2.toNat + piece.size := by
  simp only [turn, Outcome.bind_eq_ok_iff, Outcome.mapError_eq_ok_iff, Word32.add_eq_ok_iff]
    at turned
  obtain ⟨card, -, behind, behind_eq, made⟩ := turned
  have small' : piece.size < UInt32.size := Nat.lt_of_le_of_lt small (by decide)
  rw [UInt32.toNat_ofNat_of_lt' small'] at behind_eq
  obtain rfl := Except.ok.inj made
  exact behind_eq

/-- Some turns move the address on by all that they have added. -/
theorem toNat_turns {s next : ObjectDeck × UInt32} {pieces : List Bytes}
    (small : ∀ piece ∈ pieces, piece.size ≤ textSize) (turned : pieces.foldlM turn s = .ok next) :
    next.2.toNat = s.2.toNat + (Bytes.join pieces).size := by
  induction pieces generalizing s with
  | nil =>
    obtain rfl := Except.ok.inj turned
    rfl
  | cons piece rest ih =>
    rw [List.foldlM_cons] at turned
    obtain ⟨between, first, others⟩ := Outcome.bind_eq_ok_iff.1 turned
    rw [ih (fun p mem => small p (by simp [mem])) others, toNat_turn (small piece (by simp)) first,
      Bytes.join_cons, Array.size_append, Nat.add_assoc]

/-- Turns over pieces that end within the addresses do not fail. -/
theorem exists_turns (d : ObjectDeck) {address : UInt32} {pieces : List Bytes}
    (sizes : ∀ piece ∈ pieces, 0 < piece.size ∧ piece.size ≤ textSize)
    (fits : address.toNat + (Bytes.join pieces).size ≤ 0x1000000) :
    ∃ next, pieces.foldlM turn (d, address) = .ok next := by
  obtain ⟨cards, -, added⟩ := addTexts_eq_ok d sizes fits
  rw [addTexts_eq] at added
  obtain ⟨next, turned, -⟩ := Outcome.map_eq_ok_iff.1 added
  exact ⟨next, turned⟩

/-! ## What decides -/

section

variable {binary : Bytes} {o : Options} {what : String} {value : Nat}

theorem Refused.opening_eq (h : Refused binary o what value) :
    opening binary o = .error (.range (.fieldOverflow what value 24)) := by
  cases h with
  | length long =>
    rw [opening, Card.check24_eq_error long]
    rfl
  | lastByte short behind =>
    rw [opening, Card.check24_eq_ok short, Card.check24_eq_error (by omega)]
    rfl
  | firstByte empty behind =>
    have dictionary_error : Card.sectionDictionary o.address.toNat binary.size =
        .error (.fieldOverflow "ESD address" o.address.toNat 24) := by
      rw [Card.sectionDictionary, Card.check24_eq_error (by omega)]
      rfl
    rw [opening, Card.check24_eq_ok (by omega), Card.check24_eq_ok (by omega)]
    simp only [Except.mapError, Outcome.ok_bind, dictionary_error]
    rfl

theorem Refused.build_eq (h : Refused binary o what value) :
    build binary o = .error (.range (.fieldOverflow what value 24)) := by
  rw [ObjectDeck.build_eq, h.opening_eq]
  rfl

theorem fits_or_refused (binary : Bytes) (o : Options) :
    Fits binary o ∨ ∃ what value, Refused binary o what value := by
  by_cases long : 0x1000000 ≤ binary.size
  · exact Or.inr ⟨_, _, .length long⟩
  by_cases behind : 0x1000000 < o.address.toNat + binary.size
  · exact Or.inr ⟨_, _, .lastByte (by omega) behind⟩
  by_cases start : o.address.toNat = 0x1000000
  · exact Or.inr ⟨_, _, .firstByte (by omega) start⟩
  · exact Or.inl ⟨by omega, by omega, by omega⟩

theorem build_eq_error_iff {e : Error} : build binary o = .error e ↔
    ∃ what value, Refused binary o what value ∧ e = .range (.fieldOverflow what value 24) := by
  have total : Fits binary o ∨ ∃ e : Error, ∃ what value, Refused binary o what value ∧
      e = .range (.fieldOverflow what value 24) := by
    refine (fits_or_refused binary o).imp_right ?_
    rintro ⟨what, value, refused⟩
    exact ⟨_, what, value, refused, rfl⟩
  refine (Outcome.decided_of_total exists_build_iff.2 ?_ total).2 e
  rintro _ ⟨what, value, refused, rfl⟩
  exact refused.build_eq

/-- A deck fails by its opening or not at all. -/
theorem build_eq_error_iff_opening {e : Error} :
    build binary o = .error e ↔ opening binary o = .error e := by
  constructor
  · intro failed
    obtain ⟨what, value, refused, rfl⟩ := build_eq_error_iff.1 failed
    exact refused.opening_eq
  · intro failed
    rw [build_eq, failed]
    rfl

theorem fits_of_opening {deck : ObjectDeck} (opened : opening binary o = .ok deck) :
    Fits binary o := by
  rcases fits_or_refused binary o with fits | ⟨what, value, refused⟩
  · exact fits
  · cases opened.symm.trans refused.opening_eq

/-- Behind an opening each turn of the loop succeeds, at the address of its piece. -/
theorem turn_of_opening {deck : ObjectDeck} (opened : opening binary o = .ok deck)
    {before after : List Bytes} {piece : Bytes}
    (split_eq : Bytes.chunks textSize binary = before ++ piece :: after) :
    ∃ here next, before.foldlM turn (deck, o.address) = .ok here ∧
      here.2.toNat = o.address.toNat + before.length * textSize ∧
      turn here piece = .ok next ∧ next.2.toNat = here.2.toNat + piece.size ∧
      next.2.toNat ≤ 0x1000000 := by
  have text_pos : 0 < textSize := by decide
  have sizes : ∀ p ∈ before ++ piece :: after, 0 < p.size ∧ p.size ≤ textSize := by
    rw [← split_eq]
    exact fun _ => Bytes.size_of_mem_chunks text_pos
  have total : (Bytes.join (before ++ piece :: after)).size = binary.size := by
    rw [← split_eq, Bytes.join_chunks text_pos]
  have before_size : (Bytes.join before).size = before.length * textSize := by
    have nth : before.length < (Bytes.chunks textSize binary).length := by
      rw [split_eq, List.length_append, List.length_cons]
      omega
    have taken := Bytes.size_join_take_chunks text_pos nth
    rwa [split_eq, List.take_left] at taken
  have end_le := (fits_of_opening opened).end_le
  rw [Bytes.join_append, Array.size_append, Bytes.join_cons, Array.size_append] at total
  obtain ⟨next, turned⟩ : ∃ next, (before ++ [piece]).foldlM turn (deck, o.address) = .ok next := by
    refine exists_turns deck (fun p mem => sizes p ?_) ?_
    · rw [List.append_cons]
      exact List.mem_append_left after mem
    · rw [Bytes.join_concat, Array.size_append]
      omega
  rw [List.foldlM_append] at turned
  obtain ⟨here, arrived, turned⟩ := Outcome.bind_eq_ok_iff.1 turned
  rw [List.foldlM_cons] at turned
  obtain ⟨next', last, done⟩ := Outcome.bind_eq_ok_iff.1 turned
  obtain rfl := Except.ok.inj done
  have here_eq := toNat_turns (fun p mem => (sizes p (List.mem_append_left _ mem)).2) arrived
  have next_eq := toNat_turn (sizes piece (by simp)).2 last
  refine ⟨here, _, arrived, by rw [here_eq, before_size], last, next_eq, ?_⟩
  rw [next_eq, here_eq]
  show o.address.toNat + (Bytes.join before).size + piece.size ≤ 0x1000000
  omega

/-- The number behind that of the last card still fits its word. -/
theorem records_of_build {deck : ObjectDeck} (built : build binary o = .ok deck) :
    deck.records + 1 < Word32.bound := by
  have fits := fits_of_build built
  obtain ⟨c, built'⟩ := build_eq_ok fits
  obtain rfl := Except.ok.inj (built.symm.trans built')
  have few := c.length_cards_lt fits
  rw [records_foldl_push, addLoader]
  show 0 + c.cards.length + 1 < 0x100000000
  omega

end

/-- A deck is its opening, a loop over the pieces of the binary, and the last card.  It is built for
just the binaries that addresses of 24 bits can hold, and any other is refused for a number that does
not fit 24 bits.  The opening decides: behind it no turn of the loop fails, the address that runs
along stays within 24 bits until the last byte is placed, and the cards can be counted. -/
theorem build_decided_by_opening (binary : Bytes) (o : Options) :
    (build binary o = do
      let deck ← opening binary o
      let s ← (Bytes.chunks 56 binary).foldlM turn (deck, o.address)
      return s.1.push Card.last) ∧
    ((∃ deck, build binary o = .ok deck) ↔ o.address.toNat ≤ 0xFFFFFF ∧ binary.size ≤ 0xFFFFFF ∧
      o.address.toNat + binary.size ≤ 2 ^ 24) ∧
    (∀ e, build binary o = .error e ↔
      ∃ what value, Refused binary o what value ∧ e = .range (.fieldOverflow what value 24)) ∧
    (∀ e, build binary o = .error e ↔ opening binary o = .error e) ∧
    (∀ deck, opening binary o = .ok deck →
      ∀ before piece after, Bytes.chunks 56 binary = before ++ piece :: after →
        ∃ here next, before.foldlM turn (deck, o.address) = .ok here ∧
          here.2.toNat = o.address.toNat + before.length * 56 ∧
          turn here piece = .ok next ∧ next.2.toNat = here.2.toNat + piece.size ∧
          next.2.toNat ≤ 2 ^ 24) ∧
    ∀ deck, build binary o = .ok deck → deck.records + 1 < Word32.bound := by
  refine ⟨build_eq binary o, ?_, fun e => build_eq_error_iff, fun e => build_eq_error_iff_opening,
    fun deck opened before piece after split_eq => turn_of_opening opened split_eq,
    fun deck built => records_of_build built⟩
  rw [exists_build_iff]
  constructor
  · rintro ⟨address_lt, size_lt, end_le⟩
    exact ⟨Nat.le_of_lt_succ address_lt, Nat.le_of_lt_succ size_lt, end_le⟩
  · rintro ⟨address_le, size_le, end_le⟩
    exact ⟨Nat.lt_succ_of_le address_le, Nat.lt_succ_of_le size_le, end_le⟩

/-- A binary of one byte more than a card carries may end on the last byte that can be addressed:
the second turn starts there and ends behind it.  One byte further on it is refused. -/
theorem build_decided_by_opening_last_byte :
    (∃ deck, build (Array.replicate 57 0x47) { address := 0xFFFFC7 } = .ok deck ∧
      deck.records + 1 < Word32.bound) ∧
    (∃ deck here next, opening (Array.replicate 57 0x47) { address := 0xFFFFC7 } = .ok deck ∧
      turn (deck, 0xFFFFC7) (Array.replicate 56 0x47) = .ok here ∧ here.2.toNat = 0xFFFFFF ∧
      turn here #[0x47] = .ok next ∧ next.2.toNat = 2 ^ 24) ∧
    build (Array.replicate 57 0x47) { address := 0xFFFFC8 } =
      .error (.range (.fieldOverflow "end address" 0x1000000 24)) := by
  obtain ⟨build_eq, built_iff, -, -, turns, counted⟩ :=
    build_decided_by_opening (Array.replicate 57 0x47) { address := 0xFFFFC7 }
  obtain ⟨-, -, refused_iff, -, -, -⟩ :=
    build_decided_by_opening (Array.replicate 57 0x47) { address := 0xFFFFC8 }
  obtain ⟨deck, built⟩ := built_iff.2 ⟨by decide, by decide, by decide⟩
  refine ⟨⟨deck, built, counted deck built⟩, ?_,
    (refused_iff _).2 ⟨_, _, .lastByte (by decide) (by decide), rfl⟩⟩
  rw [build_eq] at built
  obtain ⟨opened, opened_ok, -⟩ := Outcome.bind_eq_ok_iff.1 built
  have split_eq : Bytes.chunks 56 (Array.replicate 57 0x47) =
      [Array.replicate 56 0x47] ++ #[0x47] :: [] := by decide +kernel
  obtain ⟨here, next, arrived, here_eq, turned, next_eq, -⟩ := turns opened opened_ok _ _ _ split_eq
  rw [List.foldlM_cons] at arrived
  obtain ⟨here', first, done⟩ := Outcome.bind_eq_ok_iff.1 arrived
  obtain rfl := Except.ok.inj done
  exact ⟨opened, _, next, opened_ok, first, here_eq, turned, by rw [next_eq, here_eq]; rfl⟩

end BareMetal.Deck.ObjectDeck
