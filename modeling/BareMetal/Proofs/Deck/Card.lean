import Mathlib.Data.List.Range
import Mathlib.Tactic.IntervalCases
import BareMetal.Deck.Card
import BareMetal.Proofs.Text.Digits

/-!
# What stands on a card

A card is read back by its columns: the name of its kind, numbers, data, and the sequence number
under which it was added to a deck.  A card is written from left to right, so what stands in some
columns is not disturbed by anything put behind them (`slice_put_before`).
-/

namespace BareMetal.Deck

/-- The names of the kinds of cards in code page 037. -/
def CardKind.name : CardKind → Bytes
  | sectionDictionary => #[0xC5, 0xE2, 0xC4]
  | text => #[0xE3, 0xE7, 0xE3]
  | relocation => #[0xD9, 0xD3, 0xC4]
  | symbols => #[0xE2, 0xE8, 0xD4]
  | extendedDictionary => #[0xE7, 0xE2, 0xC4]
  | last => #[0xC5, 0xD5, 0xC4]

/-- The card is of a kind. -/
def IsOfKind (card : Bytes) (kind : CardKind) : Prop := Bytes.slice card 1 3 = kind.name

instance (card : Bytes) (kind : CardKind) : Decidable (IsOfKind card kind) :=
  inferInstanceAs (Decidable (_ = _))

/-- The number in some columns of a card. -/
def numberIn (card : Bytes) (column width : Nat) : Nat :=
  Endian.big.toNat (Bytes.slice card column width)

/-- The decimal digits of a number from the one of weight `10 ^ (width - 1)` down. -/
def decimalDigits (width n : Nat) : List Nat :=
  (List.range width).map fun i => n / 10 ^ (width - 1 - i) % 10

/-- A marked card of eighty columns with a sequence number of eight digits in the last of them. -/
structure HasNumber (card : Bytes) (n : Nat) : Prop where
  size : card.size = 80
  marked : card[0]? = some 0x02
  number_lt : n < 10 ^ 8
  digits : Bytes.slice card 72 8 =
    ((decimalDigits 8 n).map fun digit => UInt8.ofNat (0xF0 + digit)).toArray

/-! ## Sequence numbers -/

theorem decimalDigits_succ (width n : Nat) :
    decimalDigits (width + 1) n = decimalDigits width (n / 10) ++ [n % 10] := by
  rw [decimalDigits, List.range_succ, List.map_append, List.map_singleton, decimalDigits]
  congr 1
  · apply List.map_congr_left
    intro i hi
    have below := List.mem_range.1 hi
    rw [Nat.div_div_eq_div_mul, ← Nat.pow_succ',
      show width + 1 - 1 - i = width - 1 - i + 1 by omega]
  · rw [show width + 1 - 1 - width = 0 by omega, Nat.pow_zero, Nat.div_one]

theorem length_decimalDigits (width n : Nat) : (decimalDigits width n).length = width := by
  rw [decimalDigits, List.length_map, List.length_range]

theorem lt_of_mem_decimalDigits {width n digit : Nat} (h : digit ∈ decimalDigits width n) :
    digit < 10 := by
  obtain ⟨i, -, rfl⟩ := List.mem_map.1 h
  exact Nat.mod_lt _ (by decide)

/-- A padded numeral has the digits of its number. -/
theorem zeroPad_toDigits {width n : Nat} (h : n < 10 ^ (width + 1)) :
    Numeral.zeroPad (width + 1) (Nat.toDigits 10 n) =
      (decimalDigits (width + 1) n).map Nat.digitChar := by
  induction width generalizing n with
  | zero =>
    have small : n < 10 := h
    rw [Nat.toDigits_of_lt_base small]
    simp [Numeral.zeroPad, decimalDigits, Nat.mod_eq_of_lt small]
  | succ width ih =>
    have rest := ih (n := n / 10) (by rw [Nat.pow_succ] at h; omega)
    rw [decimalDigits_succ, List.map_append, List.map_singleton, ← rest]
    by_cases small : n < 10
    · rw [Nat.toDigits_of_lt_base small, Nat.div_eq_of_lt small, Nat.mod_eq_of_lt small,
        Nat.toDigits_zero, Numeral.zeroPad, Numeral.zeroPad, List.length_singleton,
        List.length_singleton, ← List.replicate_succ']
      rfl
    · rw [Nat.toDigits_of_base_le (by decide) (Nat.not_lt.1 small), Numeral.zeroPad,
        Numeral.zeroPad, List.length_append, List.length_singleton, List.append_assoc,
        Nat.add_sub_add_right]

/-- The codes of a text, character by character. -/
theorem ofText_ofList (text : List Char) : Ebcdic.ofText (String.ofList text) =
    (text.flatMap fun c => (String.utf8EncodeChar c).map Ebcdic.ofByte).toArray := by
  rw [Ebcdic.ofText, Bytes.ofText_ofList, Ebcdic.ofBytes, List.map_toArray, List.map_flatMap]

theorem ofByte_digit {digit : Nat} (h : digit < 10) :
    (String.utf8EncodeChar digit.digitChar).map Ebcdic.ofByte = [UInt8.ofNat (0xF0 + digit)] := by
  interval_cases digit <;> decide +kernel

theorem sequenceDigits_eq (n : Nat) : Card.sequenceDigits n =
    ((decimalDigits 8 (n % 10 ^ 8)).map fun digit => UInt8.ofNat (0xF0 + digit)).toArray := by
  have small : n % 10 ^ 8 < 10 ^ (7 + 1) := Nat.mod_lt _ (by decide)
  have padded : Numeral.zeroPad 8 (Nat.toDigits 10 (n % 100000000)) =
      (decimalDigits 8 (n % 10 ^ 8)).map Nat.digitChar := zeroPad_toDigits small
  rw [Card.sequenceDigits, Numeral.decimalPad, padded, ofText_ofList, List.flatMap_map,
    List.map_eq_flatMap]
  congr 1
  apply List.flatMap_congr
  intro digit mem
  exact ofByte_digit (lt_of_mem_decimalDigits mem)

theorem size_sequenceDigits (n : Nat) : (Card.sequenceDigits n).size = 8 := by
  rw [sequenceDigits_eq, List.size_toArray, List.length_map, length_decimalDigits]

/-! ## Columns -/

theorem ofText_tag (kind : CardKind) : Ebcdic.ofText kind.tag = kind.name := by
  cases kind <;> decide +kernel

namespace Card

variable {c : Card} {column : Nat} {bytes : Bytes} {h : column + bytes.size ≤ cardSize}

theorem column_le_size (h : column + bytes.size ≤ cardSize) : column ≤ c.bytes.size := by
  rw [c.size_bytes]
  omega

theorem slice_put_self : Bytes.slice (c.put column bytes h).bytes column bytes.size = bytes :=
  Bytes.slice_splice_self (column_le_size h)

/-- What stands before some columns stays when they are written. -/
theorem slice_put_before {before width : Nat} (behind : before + width ≤ column) :
    Bytes.slice (c.put column bytes h).bytes before width = Bytes.slice c.bytes before width :=
  Bytes.slice_splice_of_apart (column_le_size h) (.inl behind)

/-- The card with its sequence number. -/
def numbered (c : Card) (n : Nat) : Card :=
  c.put sequenceColumn (sequenceDigits n) (by rw [size_sequenceDigits]; decide)

theorem slice_numbered {before width n : Nat} (behind : before + width ≤ sequenceColumn) :
    Bytes.slice (c.numbered n).bytes before width = Bytes.slice c.bytes before width :=
  slice_put_before behind

theorem slice_putNumber_before {width n before length : Nat} {h : column + width ≤ cardSize}
    (behind : before + length ≤ column) :
    Bytes.slice (c.putNumber column width n h).bytes before length =
      Bytes.slice c.bytes before length :=
  slice_put_before behind

theorem numberIn_putNumber {width n : Nat} {h : column + width ≤ cardSize} :
    numberIn (c.putNumber column width n h).bytes column width = n % Nat.pow 256 width := by
  have self : Bytes.slice (c.putNumber column width n h).bytes column
      (Endian.big.toBytes width n).size = Endian.big.toBytes width n := slice_put_self
  rw [Endian.size_toBytes] at self
  rw [numberIn, self, Endian.toNat_toBytes]

theorem numberIn_numbered {before width n : Nat} (behind : before + width ≤ sequenceColumn) :
    numberIn (c.numbered n).bytes before width = numberIn c.bytes before width := by
  rw [numberIn, numberIn, slice_numbered behind]

theorem size_name (kind : CardKind) : kind.name.size = 3 := by cases kind <;> rfl

theorem isOfKind_ofKind (kind : CardKind) : IsOfKind (ofKind kind).bytes kind := by
  have self : Bytes.slice (ofKind kind).bytes kindColumn (Ebcdic.ofText kind.tag).size =
      Ebcdic.ofText kind.tag := slice_put_self
  rwa [ofText_tag, size_name] at self

theorem marker_ofKind (kind : CardKind) : Bytes.slice (ofKind kind).bytes 0 1 = #[0x02] := by
  have self : Bytes.slice (empty.put 0 #[0x02] (by decide)).bytes 0 (#[0x02] : Bytes).size =
      #[0x02] := slice_put_self
  rw [ofKind, slice_put_before (by decide)]
  exact self

/-! ## The cards of a deck -/

/-- The card places some data at an address. -/
structure Places (card : Card) (address : Nat) (data : Bytes) : Prop where
  kind : IsOfKind card.bytes .text
  marked : Bytes.slice card.bytes 0 1 = #[0x02]
  address_eq : numberIn card.bytes 5 3 = address
  count : numberIn card.bytes 10 2 = data.size
  size_le : data.size ≤ textSize
  data_eq : Bytes.slice card.bytes 16 data.size = data

/-- The card describes a section by its address and its length. -/
structure Describes (card : Card) (address length : Nat) : Prop where
  kind : IsOfKind card.bytes .sectionDictionary
  marked : Bytes.slice card.bytes 0 1 = #[0x02]
  address_eq : numberIn card.bytes 25 3 = address
  length_eq : numberIn card.bytes 29 3 = length

theorem check24_eq_ok {what : String} {value : Nat} (h : value < 0x1000000) :
    check24 what value = .ok value := if_pos h

theorem check24_eq_error {what : String} {value : Nat} (h : 0x1000000 ≤ value) :
    check24 what value = .error (.fieldOverflow what value 24) := if_neg (Nat.not_lt.2 h)

theorem check24_eq_ok_iff {what : String} {value checked : Nat} :
    check24 what value = .ok checked ↔ value < 0x1000000 ∧ checked = value := by
  unfold check24
  split
  · rename_i h
    exact ⟨fun ok => ⟨h, (Except.ok.inj ok).symm⟩, fun ok => congrArg _ ok.2.symm⟩
  · rename_i h
    exact ⟨nofun, fun ok => absurd ok.1 h⟩

/-- A text card is made exactly of data that fits it and an address of 24 bits, which it holds. -/
theorem text_eq_ok {address : Nat} {data : Bytes} (ha : address < 0x1000000)
    (hd : data.size ≤ textSize) :
    ∃ card, text address data = .ok card ∧ card.Places address data := by
  have room : dataColumn + data.size ≤ cardSize :=
    (Nat.add_le_add_left hd dataColumn).trans (by decide)
  let addressed := (ofKind .text).putNumber addressColumn 3 address (by decide)
  let counted := addressed.putNumber countColumn 2 data.size (by decide)
  let card := counted.putSection.put dataColumn data room
  have made : text address data = .ok card := by
    rw [text, dif_pos hd, check24_eq_ok ha]
    rfl
  -- the parts of the card are written from left to right
  have section_kept {column width : Nat} (h : column + width ≤ sectionColumn) :
      Bytes.slice card.bytes column width = Bytes.slice counted.bytes column width :=
    (slice_put_before (h.trans (by decide))).trans (slice_putNumber_before h)
  have count_kept {column width : Nat} (h : column + width ≤ countColumn) :
      Bytes.slice card.bytes column width = Bytes.slice addressed.bytes column width :=
    (section_kept (h.trans (by decide))).trans (slice_putNumber_before h)
  have address_kept {column width : Nat} (h : column + width ≤ addressColumn) :
      Bytes.slice card.bytes column width = Bytes.slice (ofKind .text).bytes column width :=
    (count_kept (h.trans (by decide))).trans (slice_putNumber_before h)
  have address_eq : numberIn addressed.bytes addressColumn 3 = address % Nat.pow 256 3 :=
    numberIn_putNumber
  have count_eq : numberIn counted.bytes countColumn 2 = data.size % Nat.pow 256 2 :=
    numberIn_putNumber
  rw [Nat.mod_eq_of_lt ha] at address_eq
  rw [Nat.mod_eq_of_lt (Nat.lt_of_le_of_lt hd (by decide))] at count_eq
  refine ⟨card, made, ?_⟩
  exact {
    kind := (address_kept (by decide)).trans (isOfKind_ofKind .text)
    marked := (address_kept (by decide)).trans (marker_ofKind .text)
    address_eq := (congrArg Endian.big.toNat (count_kept (by decide))).trans address_eq
    count := (congrArg Endian.big.toNat (section_kept (by decide))).trans count_eq
    size_le := hd
    data_eq := slice_put_self }

theorem sectionDictionary_eq_ok {address length : Nat} (ha : address < 0x1000000)
    (hl : length < 0x1000000) : ∃ card, sectionDictionary address length = .ok card ∧
      Describes card address length := by
  let blank := (ofKind .sectionDictionary).putNumber countColumn 2 16 (by decide)
  let typed := blank.putSection.putNumber 24 1 0x04 (by decide)
  let addressed := typed.putNumber 25 3 address (by decide)
  let flagged := addressed.putNumber 28 1 0 (by decide)
  let card := flagged.putNumber 29 3 length (by decide)
  have made : sectionDictionary address length = .ok card := by
    rw [sectionDictionary, check24_eq_ok ha, check24_eq_ok hl]
    rfl
  have address_kept : Bytes.slice card.bytes 25 3 = Bytes.slice addressed.bytes 25 3 :=
    (slice_putNumber_before (by decide)).trans (slice_putNumber_before (by decide))
  have kind_kept {column width : Nat} (h : column + width ≤ countColumn) :
      Bytes.slice card.bytes column width =
        Bytes.slice (ofKind .sectionDictionary).bytes column width := by
    have section_le : column + width ≤ sectionColumn := h.trans (by decide)
    rw [slice_putNumber_before (section_le.trans (by decide)),
      slice_putNumber_before (section_le.trans (by decide)),
      slice_putNumber_before (section_le.trans (by decide)),
      slice_putNumber_before (section_le.trans (by decide)),
      putSection, slice_putNumber_before section_le, slice_putNumber_before h]
  have address_eq : numberIn addressed.bytes 25 3 = address % Nat.pow 256 3 :=
    numberIn_putNumber
  have length_eq : numberIn card.bytes 29 3 = length % Nat.pow 256 3 := numberIn_putNumber
  rw [Nat.mod_eq_of_lt ha] at address_eq
  rw [Nat.mod_eq_of_lt hl] at length_eq
  refine ⟨card, made, ?_⟩
  exact {
    kind := (kind_kept (by decide)).trans (isOfKind_ofKind .sectionDictionary)
    marked := (kind_kept (by decide)).trans (marker_ofKind .sectionDictionary)
    address_eq := (congrArg Endian.big.toNat address_kept).trans address_eq
    length_eq := length_eq }

theorem slice_last {column width : Nat} (h : column + width ≤ dataColumn) :
    Bytes.slice last.bytes column width =
      Bytes.slice (ofKind .last).bytes column width :=
  (slice_put_before (h.trans (by decide))).trans (slice_put_before h)

theorem isOfKind_last : IsOfKind last.bytes .last :=
  (slice_last (by decide)).trans (isOfKind_ofKind .last)

theorem marker_last : Bytes.slice last.bytes 0 1 = #[0x02] :=
  (slice_last (by decide)).trans (marker_ofKind .last)

theorem hasNumber_numbered {card : Card} {n : Nat} (marked : Bytes.slice card.bytes 0 1 = #[0x02])
    (n_lt : n < 10 ^ 8) : HasNumber (card.numbered n).bytes n where
  size := (card.numbered n).size_bytes
  marked := by
    have first : (Bytes.slice (card.numbered n).bytes 0 1)[0]? = some 0x02 := by
      rw [slice_numbered (by decide), marked]
      rfl
    rwa [Bytes.getElem?_slice, if_pos (by decide)] at first
  number_lt := n_lt
  digits := by
    have self : Bytes.slice (card.numbered n).bytes 72 (sequenceDigits n).size =
      sequenceDigits n := slice_put_self
    rwa [size_sequenceDigits, sequenceDigits_eq, Nat.mod_eq_of_lt n_lt] at self

end Card

end BareMetal.Deck
