import BareMetal.Disk.Chs
import BareMetal.Endian

/-!
# Partition entries

The sixteen bytes that describe a partition in a master boot record: its first and last sector as
packed addresses, and its first sector and size as little-endian numbers.
-/

namespace BareMetal.Disk

/-- A partition as a master boot record describes it. -/
structure PartitionEntry where
  bootIndicator : UInt8
  start : Chs
  type : UInt8
  /-- The last sector of the partition, not the one after it. -/
  last : Chs
  lbaStart : UInt32
  lbaSize : UInt32
  deriving DecidableEq, Repr

namespace PartitionEntry

/-- The indicator of the partition to boot from. -/
def bootable : UInt8 := 0x80

/-- The type of a FAT32 partition that is addressed by cylinder, head and sector. -/
def fat32Chs : UInt8 := 0x0B

/-- Where the first entry stands in a master boot record. -/
def tableOffset : Nat := 0x1BE

/-- The bytes of an entry. -/
def byteSize : Nat := 16

/-- The entry of a bootable partition of `size` sectors from `start`. -/
def ofExtent (start size : UInt32) (type : UInt8) (g : Geometry) :
    Except Fault PartitionEntry := do
  let first ← Chs.ofSector start g
  let last ← Chs.ofSector (← Word32.sub (← Word32.add start size) 1) g
  return { bootIndicator := bootable, start := first, type, last, lbaStart := start,
           lbaSize := size }

def toBytes (e : PartitionEntry) : Bytes :=
  #[e.bootIndicator] ++ e.start.toBytes ++ #[e.type] ++ e.last.toBytes ++
    Endian.little.toBytes 4 e.lbaStart.toNat ++ Endian.little.toBytes 4 e.lbaSize.toNat

/-- The entry in the first sixteen bytes. -/
def ofBytes? (b : Bytes) : Option PartitionEntry :=
  if h : byteSize ≤ b.size then
    have : 16 ≤ b.size := h
    some {
      bootIndicator := b[0]
      start := ⟨b[1], b[2], b[3]⟩
      type := b[4]
      last := ⟨b[5], b[6], b[7]⟩
      lbaStart := UInt32.ofNat (Endian.little.toNat (Bytes.slice b 8 4))
      lbaSize := UInt32.ofNat (Endian.little.toNat (Bytes.slice b 12 4)) }
  else none

@[simp] theorem size_toBytes (e : PartitionEntry) : e.toBytes.size = byteSize := by
  simp [toBytes, Chs.toBytes, byteSize]

end PartitionEntry

end BareMetal.Disk
