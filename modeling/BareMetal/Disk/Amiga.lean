import BareMetal.Disk.Image
import BareMetal.Endian

/-!
# Amiga floppies

A bootable double-density floppy: a boot block of two sectors with its checksum, and the kernel
from the sector after it.  The checksum makes the longwords of the boot block add up to all ones,
when every carry out of 32 bits is added again at the low end.
-/

namespace BareMetal.Disk.Amiga

/-- 80 cylinders, 2 heads, 11 sectors per track. -/
def diskSize : Nat := 80 * 2 * 11 * sectorSize

def bootBlockSize : Nat := 1024

/-- Where the checksum stands in the boot block. -/
def checksumOffset : Nat := 4

/-- The first sector of the kernel. -/
def kernelStart : Nat := bootBlockSize / sectorSize

/-- The bytes that a kernel may have. -/
def capacity : Nat := diskSize - kernelStart * sectorSize

/-- The big-endian longwords of a block; bytes short of a longword at its end are left out. -/
def longwords (block : Bytes) : List Nat :=
  (List.range (block.size / 4)).map fun i => Endian.big.toNat (Bytes.slice block (4 * i) 4)

/-- Adds whatever exceeds 32 bits to the rest until nothing exceeds them. -/
def foldCarries (sum : Nat) : Nat :=
  if sum < 0x100000000 then sum
  else foldCarries (sum % 0x100000000 + sum / 0x100000000)
  termination_by sum
  decreasing_by omega

/-- The sum of all longwords but the one that holds the checksum, carries folded. -/
def bootBlockSum (block : Bytes) : Nat :=
  foldCarries (((longwords block).eraseIdx (checksumOffset / 4)).foldl (· + ·) 0)

/-- The checksum of a boot block, whatever its checksum longword holds. -/
def checksum (block : Bytes) : Except Error UInt32 :=
  if block.size = bootBlockSize then .ok (UInt32.ofNat (0xFFFFFFFF - bootBlockSum block))
  else .error (.bootBlockSize bootBlockSize block.size)

/-- The sectors that a kernel of the given length takes. -/
def kernelSectors (length : Nat) : Nat := ceilDiv length sectorSize

/-- A boot block with a checksum written into it. -/
def signedBlock (bootBlock : Bytes) (sum : UInt32) : Bytes :=
  Bytes.splice bootBlock checksumOffset (Endian.big.toBytes 4 sum.toNat)

/-- The floppy with the given boot block and kernel. -/
def build (bootBlock kernel : Bytes) : Except Error Bytes := do
  let sum ← checksum bootBlock
  if capacity < kernel.size then .error (.range (.tooLarge "kernel" kernel.size capacity))
  else
    let image : Image :=
      { size := diskSize
        extents := [⟨0, signedBlock bootBlock sum⟩, ⟨kernelStart * sectorSize, kernel⟩] }
    faulting image.flatten

theorem size_signedBlock {bootBlock : Bytes} (h : bootBlock.size = bootBlockSize) (sum : UInt32) :
    (signedBlock bootBlock sum).size = bootBlockSize := by
  rw [signedBlock, Bytes.size_splice, h]
  rw [h, Endian.size_toBytes]
  decide

end BareMetal.Disk.Amiga
