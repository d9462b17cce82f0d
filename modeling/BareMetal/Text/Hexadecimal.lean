import BareMetal.Text.Numeral
import BareMetal.Text.Split

/-!
# Addresses and numbers on a command line

Hexadecimal words in the three spellings that programmers of different tools are used to, and
numbers that are decimal unless they are marked as hexadecimal.
-/

namespace BareMetal.Hexadecimal

/-- The text starts with `0x` of either case. -/
def hasMarker : List Char → Bool
  | '0' :: 'x' :: _ => true
  | '0' :: 'X' :: _ => true
  | _ => false

/-- The digits without their marking: `0x` or `0X` before them, else `$` before them, else `16#`
before and `#` behind them. -/
def body : List Char → List Char
  | '0' :: 'x' :: rest => rest
  | '0' :: 'X' :: rest => rest
  | '$' :: rest => rest
  | cs => ((Text.dropPrefix? ['1', '6', '#'] cs).bind (Text.dropSuffix? ['#'])).getD cs

/-- The word that a hexadecimal text stands for; underscores between its digits do not count. -/
def word? (cs : List Char) : Option UInt32 :=
  Numeral.word32? 16 ((body cs).filter (· ≠ '_'))

def parse (s : String) : Except String UInt32 :=
  match word? s.toList with
  | some n => .ok n
  | none => .error ("Invalid hex value: " ++ s)

/-- A number in decimal, or in hexadecimal behind `0x`. -/
def parseNumber (s : String) : Except String UInt32 :=
  if hasMarker s.toList then parse s
  else match Numeral.word32? 10 s.toList with
    | some n => .ok n
    | none => .error ("Invalid number: " ++ s)

end BareMetal.Hexadecimal
