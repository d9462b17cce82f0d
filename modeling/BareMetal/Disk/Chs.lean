import BareMetal.Bytes
import BareMetal.Disk.Geometry

/-!
# Cylinder, head and sector

The address of a sector in the three bytes in which a BIOS and a partition entry hold it.  The
cylinder has ten bits: its low byte stands by itself, its two high bits above the six bits of the
sector.  Sectors count from one.
-/

namespace BareMetal.Disk

/-- A packed sector address. -/
@[ext]
structure Chs where
  head : UInt8
  sector : UInt8
  cylinderLow : UInt8
  deriving DecidableEq, Repr

namespace Chs

def cylinder (c : Chs) : UInt32 :=
  c.cylinderLow.toUInt32 ||| ((c.sector &&& 0xC0).toUInt32 <<< 2)

/-- The number of the sector in its track, from one. -/
def sectorNumber (c : Chs) : UInt32 := (c.sector &&& 0x3F).toUInt32

/-- The three bytes in the order in which they are stored. -/
def toBytes (c : Chs) : Bytes := #[c.head, c.sector, c.cylinderLow]

/-- The address of a sector counted from the start of the disk; past the end it starts over. -/
def ofSector (sector : UInt32) (g : Geometry) : Except Fault Chs := do
  let track ← Word32.mul g.sectorsPerTrack g.heads
  let cylinder ← Word32.rem (← Word32.div sector track) g.cylinders
  let head ← Word32.rem (← Word32.div sector g.sectorsPerTrack) g.heads
  let number ← Word32.add (← Word32.rem sector g.sectorsPerTrack) 1
  let packed ← Word32.add number (← Word32.mul (cylinder / 256) 64)
  return { head := head.toUInt8, sector := packed.toUInt8, cylinderLow := (cylinder % 256).toUInt8 }

/-- The sector at an address, counted from the start of the disk. -/
def toSector (c : Chs) (g : Geometry) : Except Fault UInt32 := do
  let track ← Word32.add (← Word32.mul c.cylinder g.heads) c.head.toUInt32
  let next ← Word32.add (← Word32.mul track g.sectorsPerTrack) c.sectorNumber
  Word32.sub next 1

end Chs

end BareMetal.Disk
