import BareMetal.Target.Line

/-!
# Line editing

The line that a monitor is writing.  A line feed ends it, a backspace takes its last character
back, and any other byte adds the character of its code.  A line is kept with its latest character
first.
-/

namespace BareMetal.Target.LineEditor

def lineFeed : UInt8 := 0x0A

def backspace : UInt8 := 0x08

def character (b : UInt8) : Char := Char.ofNat b.toNat

/-- The line after a byte. -/
def edit (line : List Char) (b : UInt8) : List Char :=
  if b = lineFeed then [] else if b = backspace then line.tail else character b :: line

/-- The line after some bytes. -/
def editAll (line : List Char) (bytes : List UInt8) : List Char := bytes.foldl edit line

/-- A finished line in reading order, without the returns at its end. -/
def finished (line : List Char) : String :=
  String.ofList (line.dropWhile fun c => c = '\r' ∨ c = '\n').reverse

/-- What the console shows at a byte: a line when it is finished, and an erased character once more
with a step back over it. -/
def shown (line : List Char) (b : UInt8) : List String :=
  if b = lineFeed then [finished line ++ "\n"]
  else if b = backspace then line.head?.toList.map (fun c => String.ofList [c]) ++ ["\x08"]
  else []

/-- The text of a line. -/
def text (line : List Char) : String := String.ofList line.reverse

/-- The line ends with `prompt`. -/
def endsWith (prompt : String) (line : List Char) : Bool :=
  prompt.toList.reverse.isPrefixOf line

end BareMetal.Target.LineEditor
