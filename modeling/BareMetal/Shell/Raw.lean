import BareMetal.Bytes
import BareMetal.Text.Utf8

/-!
# Raw text

The shell knows bytes, not letters.  A raw text has one character for each byte, so that its length
and its parts are those that the shell sees.
-/

namespace BareMetal.Shell

/-- A text with one character for each byte. -/
abbrev Raw := String

namespace Raw

/-! ## Bytes and texts -/

def ofBytes (content : Bytes) : Raw :=
  String.ofList (content.toList.map fun b => Char.ofNat b.toNat)

def bytes (r : Raw) : Bytes := (r.toList.map fun c => UInt8.ofNat c.toNat).toArray

def ofText (s : String) : Raw := ofBytes (Bytes.ofText s)

def toText (r : Raw) : String := Utf8.decodeLossy (bytes r)

/-! ## Characters -/

def isNameStart (c : Char) : Bool := c.isAlpha || c == '_'

def isNameChar (c : Char) : Bool := c.isAlphanum || c == '_'

/-- A text that can name a variable. -/
def isName (r : Raw) : Bool := r.toList.head?.any isNameStart && r.toList.all isNameChar

/-- What stands behind the first equality sign. -/
def settingValue (r : Raw) : Raw :=
  String.ofList ((r.toList.dropWhile (· ≠ '=')).drop 1)

/-- The names of parameters that are no variables. -/
def isSpecial (c : Char) : Bool := c.isDigit || "@*#?$!-".contains c

def isBlank (c : Char) : Bool := c == ' ' || c == '\t'

/-- A character that numbers may be surrounded by. -/
def isSpace (c : Char) : Bool := c == ' ' || ('\t' ≤ c && c ≤ '\r')

/-! ## Texts -/

/-- A text between single quotes, as a script could hold it. -/
def inQuotes (r : Raw) : Raw :=
  let rec go : Nat → List Char → List Char
    | 0, _ => []
    | fuel + 1, cs =>
      let plain := cs.takeWhile (· ≠ '\'')
      let quotes := (cs.drop plain.length).takeWhile (· = '\'')
      let rest := cs.drop (plain.length + quotes.length)
      '\'' :: plain ++ '\'' ::
        (if quotes = [] then [] else '"' :: quotes ++ ['"']) ++
        if rest = [] then [] else go fuel rest
  String.ofList (go (r.length + 1) r.toList)

/-- A number with a sign if it needs one. -/
def ofInt (n : Int) : Raw :=
  if n < 0 then String.ofList ('-' :: Nat.toDigits 10 n.natAbs)
  else String.ofList (Nat.toDigits 10 n.natAbs)

end Raw

end BareMetal.Shell
