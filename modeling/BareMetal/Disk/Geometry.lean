import BareMetal.Fault
import BareMetal.Text.Numeral

/-!
# Disk geometry

The shape of a disk in cylinders, heads and sectors per track, as a BIOS addresses it: ten bits of
cylinder, eight bits of head and six bits of sector, of which sector 0 is unused.
-/

namespace BareMetal.Disk

/-- The size of a sector in bytes. -/
def sectorSize : Nat := 512

/-- The shape of a disk. -/
structure Geometry where
  cylinders : UInt32
  heads : UInt32
  sectorsPerTrack : UInt32
  deriving DecidableEq, Repr

/-- The part of a geometry that is out of range, with its value. -/
inductive GeometryError where
  | cylinders (n : UInt32)
  | heads (n : UInt32)
  | sectorsPerTrack (n : UInt32)
  deriving DecidableEq, Repr

def GeometryError.message : GeometryError → String
  | cylinders n => s!"{Numeral.decimal n.toNat} cylinders, must be 1-1024"
  | heads n => s!"{Numeral.decimal n.toNat} heads, must be 1-255"
  | sectorsPerTrack n => s!"{Numeral.decimal n.toNat} sectors per track, must be 1-63"

namespace Geometry

/-- Every number is at least one and within the limits of a BIOS address. -/
def validate (g : Geometry) : Except GeometryError Unit :=
  if g.cylinders = 0 ∨ 1024 < g.cylinders then .error (.cylinders g.cylinders)
  else if g.heads = 0 ∨ 255 < g.heads then .error (.heads g.heads)
  else if g.sectorsPerTrack = 0 ∨ 63 < g.sectorsPerTrack then
    .error (.sectorsPerTrack g.sectorsPerTrack)
  else .ok ()

/-- The geometry of the given numbers, if they are within the limits. -/
def make (cylinders heads sectorsPerTrack : UInt32) : Except GeometryError Geometry :=
  let g : Geometry := { cylinders, heads, sectorsPerTrack }
  g.validate.map fun _ => g

def sectorsPerCylinder (g : Geometry) : Except Fault UInt32 :=
  Word32.mul g.heads g.sectorsPerTrack

def totalSectors (g : Geometry) : Except Fault UInt32 := do
  Word32.mul g.cylinders (← g.sectorsPerCylinder)

def sizeBytes (g : Geometry) : Except Fault Nat := do
  return (← g.totalSectors).toNat * sectorSize

end Geometry

end BareMetal.Disk
