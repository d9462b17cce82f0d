import BareMetal.BootCode.Define
import BareMetal.Disk.Image
import BareMetal.Disk.Partition

/-!
# PC hard disks

A bootable hard disk just large enough for its kernel.  The first cylinder holds the master boot
record; the only partition takes the cylinders after it and holds the boot sector, followed by the
kernel.
-/

namespace BareMetal.Disk.HardDisk

def heads : UInt32 := 16

def sectorsPerTrack : UInt32 := 63

/-- A hard disk for a kernel of a known size. -/
structure Layout where
  geometry : Geometry
  kernelSectors : UInt32
  partitionStart : UInt32
  partitionSize : UInt32
  deriving DecidableEq, Repr

namespace Layout

/-- The number of sectors of a kernel, which has to fit a word. -/
def narrowSectors (kernelLength : Nat) : Except Error UInt32 :=
  if ceilDiv kernelLength sectorSize < Word32.bound then
    .ok (UInt32.ofNat (ceilDiv kernelLength sectorSize))
  else .error (.range (.fieldOverflow "kernel sector count" kernelLength 32))

/-- The smallest disk that holds a kernel of the given length. -/
def plan (kernelLength : Nat) : Except Error Layout := do
  let perCylinder := heads * sectorsPerTrack
  let kernelSectors ← narrowSectors kernelLength
  let occupied ← faulting (Word32.add kernelSectors 1)
  let partitionCylinders := UInt32.ofNat (ceilDiv occupied.toNat perCylinder.toNat)
  let cylinders ← faulting (Word32.add partitionCylinders 1)
  let geometry ← (Geometry.make cylinders heads sectorsPerTrack).mapError .geometry
  let partitionSize ← faulting (Word32.mul partitionCylinders perCylinder)
  return { geometry, kernelSectors, partitionStart := perCylinder, partitionSize }

/-- The sectors before the partition. -/
def mbrSectors (l : Layout) : Except Fault UInt32 := l.geometry.sectorsPerCylinder

def partitionEntry (l : Layout) : Except Fault PartitionEntry :=
  PartitionEntry.ofExtent l.partitionStart l.partitionSize PartitionEntry.fat32Chs l.geometry

/-- What the boot sector has to know.  A partition of more than 65535 sectors has its size in the
long field, any other one in the short field, and the unused field is zero. -/
def bootDefines (l : Layout) (bootSegment : String) : List Define :=
  let long := 65535 < l.partitionSize
  let word (name : String) (n : UInt32) := Define.ofString name (Numeral.decimal n.toNat)
  [word "CYLINDERS" l.geometry.cylinders,
   word "HEADS" l.geometry.heads,
   word "SPT" l.geometry.sectorsPerTrack,
   word "PARTITION_SECTOR_START" l.partitionStart,
   word "PARTITION_SECTORS_SSIZE" (if long then 0 else l.partitionSize),
   word "PARTITION_SECTORS_LSIZE" (if long then l.partitionSize else 0),
   word "NSECTORS" l.kernelSectors,
   .ofString "BOOTSEGMENT" bootSegment,
   .flag "DELAY"]

/-- The disk with the given boot record, boot sector and kernel. -/
def build (l : Layout) (mbr bootSector kernel : Bytes) : Except Error Image := do
  let record ← singleSector "MBR" mbr
  let entry ← faulting l.partitionEntry
  let record := Bytes.splice record PartitionEntry.tableOffset entry.toBytes
  let boot ← singleSector "boot sector" bootSector
  let size ← faulting l.geometry.sizeBytes
  let bootOffset := l.partitionStart.toNat * sectorSize
  return { size
           extents := [⟨0, record⟩, ⟨bootOffset, boot⟩, ⟨bootOffset + sectorSize, kernel⟩] }

end Layout

end BareMetal.Disk.HardDisk
