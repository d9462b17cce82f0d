import BareMetal.Bytes
import BareMetal.Disk.Error

/-!
# Disk images

An image is a size and a list of extents, the pieces that it defines.  It is either flattened into
a file of that size, with zeros where no extent lies, or written in place over a device, which
keeps whatever no extent covers.  Where extents overlap, the later one wins.
-/

namespace BareMetal.Disk

/-- Data at an offset of a disk. -/
structure Extent where
  offset : Nat
  data : Bytes
  deriving DecidableEq, Repr

/-- The first offset after an extent. -/
def Extent.stop (e : Extent) : Nat := e.offset + e.data.size

/-- The pieces that make up a disk of `size` bytes. -/
structure Image where
  size : Nat
  extents : List Extent
  deriving DecidableEq, Repr

namespace Image

/-- Writes an extent over the bytes that a file already has. -/
def place (content : Bytes) (e : Extent) : Except Fault Bytes :=
  if e.stop ≤ content.size then .ok (Bytes.splice content e.offset e.data)
  else .error .outOfRange

/-- The whole disk as a file. -/
def flatten (image : Image) : Except Fault Bytes :=
  image.extents.foldlM place (Bytes.zeros image.size)

/-- Writes an extent to a device, which grows if it ends before the extent does. -/
def writeExtent (device : Bytes) (e : Extent) : Bytes :=
  if e.data.size = 0 then device else Bytes.splice (Bytes.padTo e.stop device) e.offset e.data

/-- Writes the extents over what a device holds. -/
def writeOver (image : Image) (device : Bytes) : Bytes :=
  image.extents.foldl writeExtent device

end Image

/-- Boot code of at most a sector, filled up with zeros. -/
def singleSector (what : String) (code : Bytes) : Except Error Bytes :=
  if sectorSize < code.size then .error (.range (.tooLarge what code.size sectorSize))
  else .ok (Bytes.padTo sectorSize code)

end BareMetal.Disk
