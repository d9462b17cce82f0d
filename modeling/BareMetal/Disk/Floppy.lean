import BareMetal.BootCode.Define
import BareMetal.Disk.Image

/-!
# PC floppies

A bootable 1.44 MB floppy: the boot sector, and the kernel from the sector after it.
-/

namespace BareMetal.Disk.Floppy

/-- 80 cylinders, 2 heads, 18 sectors per track. -/
def geometry : Geometry := { cylinders := 80, heads := 2, sectorsPerTrack := 18 }

/-- The sectors of a floppy. -/
def totalSectors : Nat := 2880

/-- The bytes that a kernel may have: all but the boot sector. -/
def capacity : Nat := (totalSectors - 1) * sectorSize

/-- A floppy for a kernel of a known size. -/
structure Layout where
  kernelSectors : UInt32
  deriving DecidableEq, Repr

namespace Layout

def plan (kernelLength : Nat) : Except Error Layout :=
  if capacity < kernelLength then .error (.range (.tooLarge "kernel" kernelLength capacity))
  else .ok { kernelSectors := UInt32.ofNat (ceilDiv kernelLength sectorSize) }

/-- What the boot sector has to know. -/
def bootDefines (l : Layout) (bootSegment : String) : List Define :=
  [.flag "FLOPPYDISK",
   .ofString "NSECTORS" (Numeral.decimal l.kernelSectors.toNat),
   .ofString "BOOTSEGMENT" bootSegment,
   .flag "DELAY"]

/-- The floppy with the given boot sector and kernel. -/
def build (_ : Layout) (bootSector kernel : Bytes) : Except Error Image := do
  let boot ← singleSector "boot sector" bootSector
  return { size := totalSectors * sectorSize
           extents := [⟨0, boot⟩, ⟨sectorSize, kernel⟩] }

end Layout

theorem totalSectors_eq : geometry.totalSectors = .ok (UInt32.ofNat totalSectors) := rfl

end BareMetal.Disk.Floppy
