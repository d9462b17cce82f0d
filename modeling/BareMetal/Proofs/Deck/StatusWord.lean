import BareMetal.Proofs.Deck.ObjectDeck

/-!
# The program status word in memory

The card of the program status word stands before those of the binary, so a binary that is loaded
over the first eight bytes of memory takes its place there.  Everywhere else the word is kept
(`startPsw_loaded`).
-/

namespace BareMetal.Deck.ObjectDeck

/-- The binary is loaded over an address. -/
def Covers (binary : Bytes) (o : Options) (a : Nat) : Prop :=
  o.address.toNat ≤ a ∧ a < o.address.toNat + binary.size

/-- The cards of a deck store the program status word first and the binary over it. -/
theorem exists_cards_of_build {binary : Bytes} {o : Options} {deck : ObjectDeck}
    (built : build binary o = .ok deck) :
    ∃ cards : List Bytes, deck.bytes = o.loader.getD #[] ++ Bytes.join cards ∧
      (∀ card ∈ cards, card.size = 80) ∧
      ∀ m, load m cards =
        (m.store 0 (if o.setsPsw then startPsw o.address else #[])).store o.address.toNat
          binary := by
  have fits := fits_of_build built
  obtain ⟨c, built'⟩ := build_eq_ok fits
  obtain rfl := Except.ok.inj (built.symm.trans built')
  refine ⟨numberAll 1 c.cards, ?_, fun bytes mem => ?_, fun m => c.load_numberAll m⟩
  · rw [bytes_foldl_push, addLoader, Array.empty_append]
  · obtain ⟨card, -, n, rfl⟩ := exists_of_mem_numberAll mem
    exact (card.numbered n).size_bytes

section

variable {binary : Bytes} {o : Options} {m : Memory} {a : Nat}

theorem store_of_covers (covered : Covers binary o a) :
    some (m.store o.address.toNat binary a) = binary[a - o.address.toNat]? := by
  obtain ⟨i, rfl⟩ := Nat.exists_eq_add_of_le covered.1
  have i_lt : i < binary.size := by
    have := covered.2
    omega
  rw [Memory.store_inside i_lt, Nat.add_sub_cancel_left, Array.getElem?_eq_getElem i_lt]

theorem store_of_not_covers (free : ¬ Covers binary o a) :
    m.store o.address.toNat binary a = m a := by
  refine Memory.store_outside ?_
  unfold Covers at free
  omega

end

/-- Once the cards of a deck with a program status word have been loaded, each of the first eight
bytes of memory is that of the word, unless the binary covers it: then it is the binary's, whose
cards are loaded later.  So the word is kept as a whole for a binary that is loaded behind it, and
for one of no bytes. -/
theorem startPsw_loaded {binary : Bytes} {o : Options} {deck : ObjectDeck}
    (built : build binary o = .ok deck) (asked : o.setsPsw = true) :
    ∃ cards : List Bytes, deck.bytes = o.loader.getD #[] ++ Bytes.join cards ∧
      (∀ card ∈ cards, card.size = 80) ∧
      ∀ m : Memory,
        (∀ a < 8, ¬ Covers binary o a → some (load m cards a) = (startPsw o.address)[a]?) ∧
        (∀ a < 8, Covers binary o a →
          some (load m cards a) = binary[a - o.address.toNat]?) ∧
        (8 ≤ o.address.toNat ∨ binary.size = 0 →
          ∀ a < 8, some (load m cards a) = (startPsw o.address)[a]?) := by
  obtain ⟨cards, bytes_eq, sizes, loaded⟩ := exists_cards_of_build built
  have kept (m : Memory) (a : Nat) (low : a < 8) (free : ¬ Covers binary o a) :
      some (load m cards a) = (startPsw o.address)[a]? := by
    rw [loaded, store_of_not_covers free]
    exact (store_psw_eq o m a).1 asked low
  refine ⟨cards, bytes_eq, sizes, fun m => ⟨kept m, fun a _ covered => ?_, fun apart a low => ?_⟩⟩
  · rw [loaded, store_of_covers covered]
  · refine kept m a low fun covered => ?_
    unfold Covers at covered
    omega

/-- A binary that begins at the sixth byte of memory leaves five bytes of the word. -/
theorem startPsw_loaded_straddling : ∃ deck cards,
    build (Array.replicate 57 0x47) { address := 5, setsPsw := true } = .ok deck ∧
    deck.bytes = Bytes.join cards ∧
    load (fun _ => 0xFF) cards 1 = 0x0C ∧ load (fun _ => 0xFF) cards 4 = 0 ∧
    load (fun _ => 0xFF) cards 5 = 0x47 := by
  obtain ⟨deck, built⟩ : ∃ deck,
      build (Array.replicate 57 0x47) { address := 5, setsPsw := true } = .ok deck :=
    exists_build_iff.2 ⟨by decide, by decide, by decide⟩
  obtain ⟨cards, bytes_eq, -, loaded⟩ := startPsw_loaded built rfl
  obtain ⟨kept, covered, -⟩ := loaded fun _ => 0xFF
  rw [Option.getD_none, Array.empty_append] at bytes_eq
  refine ⟨deck, cards, built, bytes_eq, ?_, ?_, ?_⟩
  · exact Option.some.inj (kept 1 (by decide) (by unfold Covers; decide))
  · exact Option.some.inj (kept 4 (by decide) (by unfold Covers; decide))
  · exact Option.some.inj (covered 5 (by decide) (by unfold Covers; decide))

/-- The program status word is not kept by a binary that is loaded at address zero. -/
theorem startPsw_not_kept : ∃ deck cards,
    build #[0x47] { address := 0, setsPsw := true } = .ok deck ∧
    deck.bytes = Bytes.join cards ∧ (∀ card ∈ cards, card.size = 80) ∧
    ∀ m, some (load m cards 0) ≠ (startPsw 0)[0]? := by
  obtain ⟨deck, built⟩ : ∃ deck, build #[0x47] { address := 0, setsPsw := true } = .ok deck :=
    exists_build_iff.2 ⟨by decide, by decide, by decide⟩
  obtain ⟨cards, bytes_eq, sizes, loaded⟩ := exists_cards_of_build built
  rw [Option.getD_none, Array.empty_append] at bytes_eq
  refine ⟨deck, cards, built, bytes_eq, sizes, fun m => ?_⟩
  have first : some (load m cards 0) = some 0x47 := by
    rw [loaded]
    exact store_of_covers (by unfold Covers; decide)
  rw [first]
  decide

end BareMetal.Deck.ObjectDeck
