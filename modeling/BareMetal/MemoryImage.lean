import BareMetal.Bytes
import BareMetal.Text.Numeral

/-!
# Memory images

Bytes as the text from which a circuit simulator fills a memory: a header line, an empty line, and
the bytes as pairs of hexadecimal digits, thirty-two to a line.
-/

namespace BareMetal.MemoryImage

/-- The line that names the format. -/
def header : String := "v2.0 raw\n"

def bytesPerLine : Nat := 32

/-- What stands before the byte of the given index. -/
def separator (index : Nat) : Char := if index % bytesPerLine = 0 then '\n' else ' '

/-- The bytes as pairs of digits, each behind its separator. -/
def pairs (data : Bytes) : List Char :=
  data.toList.zipIdx.flatMap fun (b, index) => separator index :: Numeral.hexDigits 2 b.toNat

def render (data : Bytes) : String :=
  header ++ String.ofList (pairs data) ++ "\n"

/-- The name of an image when none is given: that of its source with a suffix. -/
def defaultName (source : String) : String := source ++ ".srec"

end BareMetal.MemoryImage
