/-!
# Fields of a console boot header

The eleven text fields of the header that the boot ROM of the console reads from a disc.  They are
disjoint and fill the first 256 bytes.
-/

namespace BareMetal.Disc

/-- A text field of the boot header. -/
inductive Field where
  | hardwareId
  | makerId
  | deviceInfo
  | areaSymbols
  | peripherals
  | productNo
  | version
  | releaseDate
  | bootFilename
  | makerName
  | gameTitle
  deriving DecidableEq, Repr

namespace Field

/-- The fields in the order in which they stand. -/
def all : List Field :=
  [hardwareId, makerId, deviceInfo, areaSymbols, peripherals, productNo, version, releaseDate,
   bootFilename, makerName, gameTitle]

def name : Field → String
  | hardwareId => "Hardware ID"
  | makerId => "Maker ID"
  | deviceInfo => "Device Info"
  | areaSymbols => "Area Symbols"
  | peripherals => "Peripherals"
  | productNo => "Product No"
  | version => "Version"
  | releaseDate => "Release Date"
  | bootFilename => "Boot Filename"
  | makerName => "SW Maker Name"
  | gameTitle => "Game Title"

def offset : Field → Nat
  | hardwareId => 0x00
  | makerId => 0x10
  | deviceInfo => 0x20
  | areaSymbols => 0x30
  | peripherals => 0x38
  | productNo => 0x40
  | version => 0x4A
  | releaseDate => 0x50
  | bootFilename => 0x60
  | makerName => 0x70
  | gameTitle => 0x80

def length : Field → Nat
  | hardwareId => 0x10
  | makerId => 0x10
  | deviceInfo => 0x10
  | areaSymbols => 0x08
  | peripherals => 0x08
  | productNo => 0x0A
  | version => 0x06
  | releaseDate => 0x10
  | bootFilename => 0x10
  | makerName => 0x10
  | gameTitle => 0x80

/-- The field of a name, which is matched exactly. -/
def find? (name : String) : Option Field := all.find? fun f => f.name == name

theorem mem_all (f : Field) : f ∈ all := by cases f <;> decide

end Field

end BareMetal.Disc
