import BareMetal.Disc.Description
import BareMetal.Endian
import BareMetal.Text.Numeral

/-!
# Boot headers

A boot header is made from a template and a description: the described fields are set, padded with
blanks, and the four hexadecimal digits of the header's check value are brought up to date.  The
check value is a sixteen-bit CRC of the product number and version.
-/

namespace BareMetal.Disc

/-- One bit of the CRC with polynomial 0x1021, high bit first. -/
def crcShift (crc : UInt16) : UInt16 :=
  if crc &&& 0x8000 = 0 then crc <<< 1 else (crc <<< 1) ^^^ 0x1021

/-- Takes a byte into the CRC. -/
def crcByte (crc : UInt16) (b : UInt8) : UInt16 :=
  (List.range 8).foldl (fun c _ => crcShift c) (crc ^^^ (b.toUInt16 <<< 8))

/-- The CRC of some bytes, which starts from all ones. -/
def crc16 (bytes : Bytes) : UInt16 := bytes.foldl crcByte 0xFFFF

namespace BootHeader

/-- The size of a header file with the code behind the fields. -/
def fileSize : Nat := 32768

/-- Where the digits of the check value stand. -/
def crcOffset : Nat := 0x20

/-- The part of the header that the check value is taken of. -/
def checkedOffset : Nat := 0x40

def checkedLength : Nat := 16

/-- The check value of a header that is long enough to hold the checked part. -/
def crc (data : Bytes) : Except Fault UInt16 :=
  if checkedOffset + checkedLength ≤ data.size then
    .ok (crc16 (Bytes.slice data checkedOffset checkedLength))
  else .error .outOfRange

/-- The four digits of a check value. -/
def crcDigits (value : UInt16) : Bytes := Bytes.ofText (Numeral.hexPad 4 value.toNat)

/-- The check value that the digits in a header spell, if they are a number. -/
def storedCrc (data : Bytes) : Option UInt16 :=
  (Numeral.read? 16 ((Bytes.slice data crcOffset 4).toList.map fun b => Char.ofNat b.toNat)).map
    UInt16.ofNat

/-- A field with a value, filled up with blanks. -/
def setField (data : Bytes) (field : Field) (value : String) : Bytes :=
  Bytes.splice data field.offset
    (Bytes.ofText value ++ Array.replicate (field.length - value.utf8ByteSize) 0x20)

/-- A finished header. -/
structure Built where
  data : Bytes
  crc : UInt16
  /-- What the digits said when the fields were set, if they were a number. -/
  previousCrc : Option UInt16
  /-- The values set, in the order of the description. -/
  values : List (Field × String)
  /-- The fields that keep what the template has. -/
  unset : List Field
  deriving DecidableEq, Repr

def Built.crcChanged (b : Built) : Bool := b.previousCrc != some b.crc

/-- The header with the described fields and an up-to-date check value.  The digits are written
only when they do not already spell it. -/
def build (template : Bytes) (description : String) : Except Error Built := do
  if template.size ≠ fileSize then throw (.templateSize fileSize template.size)
  let values ← Description.parse description
  let data := values.foldl (fun d (field, value) => setField d field value) template
  let previousCrc := storedCrc data
  let crc := crc16 (Bytes.slice data checkedOffset checkedLength)
  return {
    data := if previousCrc = some crc then data else Bytes.splice data crcOffset (crcDigits crc)
    crc
    previousCrc
    values
    unset := Field.all.filter fun f => values.all fun (g, _) => g ≠ f }

end BootHeader

end BareMetal.Disc
