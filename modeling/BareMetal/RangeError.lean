import BareMetal.Text.Numeral

/-!
# Values that do not fit

The two ways in which data handed to a builder can be too big for the place it has to go to.
-/

namespace BareMetal

/-- A value that does not fit where it has to go. -/
inductive RangeError where
  /-- `size` bytes do not fit in `capacity` bytes. -/
  | tooLarge (what : String) (size capacity : Nat)
  /-- `value` does not fit in `bits` bits. -/
  | fieldOverflow (what : String) (value bits : Nat)
  deriving DecidableEq, Repr

def RangeError.message : RangeError → String
  | tooLarge what size capacity =>
    s!"{what} is {size} bytes, which does not fit in {capacity} bytes"
  | fieldOverflow what value bits =>
    s!"{what} value 0x{Numeral.hex value} does not fit in {bits} bits"

end BareMetal
