import BareMetal.Disk.Geometry
import BareMetal.RangeError

/-!
# Errors of the disk builders
-/

namespace BareMetal.Disk

/-- Why a disk cannot be built. -/
inductive Error where
  | range (e : RangeError)
  | bootBlockSize (expected actual : Nat)
  | geometry (e : GeometryError)
  /-- A number left its word or a piece its disk. -/
  | fault (f : Fault)
  deriving DecidableEq, Repr

/-- The text of an error; a fault has none, because it is not reported but stops the tool. -/
def Error.message : Error → String
  | range e => e.message
  | bootBlockSize expected actual =>
    s!"boot block must be {expected} bytes, got {actual} bytes"
  | geometry e => s!"invalid geometry: {e.message}"
  | fault _ => ""

/-- A computation on words as a step of a builder. -/
def faulting {α : Type} (x : Except Fault α) : Except Error α := x.mapError .fault

end BareMetal.Disk
