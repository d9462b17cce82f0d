import BareMetal.Deck.Card
import BareMetal.Fault

/-!
# Object decks

A deck is the bytes of its cards, numbered as they are added, and of whatever loader stands before
or between them.  `build` makes the deck that loads a binary at an address: a dictionary card, the
program status word that starts it if one is asked for, text cards, and the card that ends the deck.
-/

namespace BareMetal.Deck

/-- Why a deck cannot be built. -/
inductive Error where
  | range (e : RangeError)
  | fault (f : Fault)
  deriving DecidableEq, Repr

def Error.message : Error → String
  | range e => e.message
  | fault _ => ""

/-- A deck under construction. -/
structure ObjectDeck where
  bytes : Bytes := #[]
  /-- The number of cards added. -/
  records : Nat := 0
  deriving DecidableEq, Repr

namespace ObjectDeck

/-- Adds raw bytes, such as a loader, which are not numbered. -/
def addLoader (d : ObjectDeck) (loader : Bytes) : ObjectDeck :=
  { d with bytes := d.bytes ++ loader }

/-- Adds a card under the next sequence number. -/
def push (d : ObjectDeck) (c : Card) : ObjectDeck where
  bytes := d.bytes ++
    Bytes.splice c.bytes sequenceColumn (Card.sequenceDigits (d.records + 1))
  records := d.records + 1

/-- How a binary is loaded. -/
structure Options where
  address : UInt32 := 0x18
  loader : Option Bytes := none
  /-- Whether a card sets the program status word. -/
  setsPsw : Bool := false

/-- The program status word that starts execution at an address.  Address zero is written with the
bit of 31-bit addressing, any other address as it is. -/
def startPsw (address : UInt32) : Bytes :=
  #[0x00, 0x0C, 0x00, 0x00] ++
    Endian.big.toBytes 4 (if address = 0 then 0x80000000 else address.toNat)

/-- Adds the cards of the pieces of a binary, from an address on. -/
def addTexts (d : ObjectDeck) (address : UInt32) : List Bytes → Except Error ObjectDeck
  | [] => .ok d
  | piece :: rest => do
    let card ← (Card.text address.toNat piece).mapError .range
    let next ← (Word32.add address (UInt32.ofNat piece.size)).mapError .fault
    addTexts (d.push card) next rest

/-- The deck that loads a binary. -/
def build (binary : Bytes) (o : Options) : Except Error ObjectDeck := do
  let length ← (Card.check24 "binary length" binary.size).mapError .range
  let _ ← (Card.check24 "end address" (o.address.toNat + binary.size - 1)).mapError .range
  let deck := ({} : ObjectDeck).addLoader (o.loader.getD #[])
  let dictionary ← (Card.sectionDictionary o.address.toNat length).mapError .range
  let deck := deck.push dictionary
  let deck ← if o.setsPsw then do
      let card ← (Card.text 0 (startPsw o.address)).mapError .range
      pure (deck.push card)
    else pure deck
  let deck ← deck.addTexts o.address (Bytes.chunks textSize binary)
  return deck.push Card.last

end ObjectDeck

end BareMetal.Deck
