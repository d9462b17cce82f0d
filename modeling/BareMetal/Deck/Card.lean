import BareMetal.Deck.Ebcdic
import BareMetal.Endian
import BareMetal.RangeError

/-!
# Punched cards

The cards of an object deck: eighty bytes, of which the first marks an object card, the next three
name its kind, and the last eight are left for a sequence number.  Numbers stand in the cards with
their most significant byte first.
-/

namespace BareMetal.Deck

/-- The columns of a card. -/
def cardSize : Nat := 80

/-- The bytes of text that a text card carries. -/
def textSize : Nat := 56

/-- The columns from which the parts of a card are read, counted from zero. -/
def kindColumn : Nat := 1
def addressColumn : Nat := 5
def countColumn : Nat := 10
def sectionColumn : Nat := 14
def dataColumn : Nat := 16
def markerColumn : Nat := 32
def sequenceColumn : Nat := 72

/-- The kinds of cards in an object deck. -/
inductive CardKind where
  | sectionDictionary
  | text
  | relocation
  | symbols
  | extendedDictionary
  | last
  deriving DecidableEq, Repr

def CardKind.tag : CardKind → String
  | sectionDictionary => "ESD"
  | text => "TXT"
  | relocation => "RLD"
  | symbols => "SYM"
  | extendedDictionary => "XSD"
  | last => "END"

/-- A card. -/
structure Card where
  bytes : Bytes
  size_bytes : bytes.size = cardSize

namespace Card

/-- The card with other bytes in the columns from `column` on. -/
def put (c : Card) (column : Nat) (bytes : Bytes) (h : column + bytes.size ≤ cardSize) : Card where
  bytes := Bytes.splice c.bytes column bytes
  size_bytes := by rw [Bytes.size_splice (by rw [c.size_bytes]; exact h), c.size_bytes]

/-- A card of blanks. -/
def empty : Card where
  bytes := Array.replicate cardSize Ebcdic.blank
  size_bytes := Array.size_replicate

/-- A card of a kind with nothing on it. -/
def ofKind (kind : CardKind) : Card :=
  (empty.put 0 #[0x02] (by decide)).put kindColumn (Ebcdic.ofText kind.tag)
    (by cases kind <;> decide +kernel)

/-- A number in `width` columns. -/
def putNumber (c : Card) (column width n : Nat) (h : column + width ≤ cardSize) : Card :=
  c.put column (Endian.big.toBytes width n) (by simpa using h)

/-- The number of the only section of a deck. -/
def putSection (c : Card) : Card := c.putNumber sectionColumn 2 1 (by decide)

/-- `value` if it fits in 24 bits. -/
def check24 (what : String) (value : Nat) : Except RangeError Nat :=
  if value < 0x1000000 then .ok value else .error (.fieldOverflow what value 24)

/-- The dictionary card of a deck of one unnamed section. -/
def sectionDictionary (address length : Nat) : Except RangeError Card := do
  let address ← check24 "ESD address" address
  let length ← check24 "ESD length" length
  let card := ((ofKind .sectionDictionary).putNumber countColumn 2 16 (by decide)).putSection
  let card := card.putNumber 24 1 0x04 (by decide)
  let card := card.putNumber 25 3 address (by decide)
  let card := card.putNumber 28 1 0 (by decide)
  return card.putNumber 29 3 length (by decide)

/-- A card that places at most 56 bytes at an address. -/
def text (address : Nat) (data : Bytes) : Except RangeError Card :=
  if h : data.size ≤ textSize then do
    let address ← check24 "TXT address" address
    let card := (ofKind .text).putNumber addressColumn 3 address (by decide)
    let card := (card.putNumber countColumn 2 data.size (by decide)).putSection
    return card.put dataColumn data
      (Nat.le_trans (Nat.add_le_add_left h dataColumn) (by decide))
  else .error (.tooLarge "TXT record data" data.size textSize)

/-- The card that ends a deck. -/
def last : Card :=
  ((ofKind .last).put dataColumn (Ebcdic.ofText "SweetAda") (by decide +kernel)).put
    markerColumn (Ebcdic.ofText "2") (by decide +kernel)

/-- The eight digits of a sequence number, of which higher digits are dropped. -/
def sequenceDigits (n : Nat) : Bytes :=
  Ebcdic.ofText (Numeral.decimalPad 8 (n % 100000000))

end Card

end BareMetal.Deck
