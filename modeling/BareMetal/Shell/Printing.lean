import BareMetal.Shell.Raw
import BareMetal.Text.Numeral
import BareMetal.Text.Split

/-!
# Printing with escapes

What the commands of the shell that print make of backslashes.
-/

namespace BareMetal.Shell

/-- The character that a letter behind a backslash stands for. -/
def escape? (c : Char) : Option Char :=
  match c with
  | 'a' => some '\x07'
  | 'b' => some '\x08'
  | 'e' => some '\x1b'
  | 'f' => some '\x0c'
  | 'n' => some '\n'
  | 'r' => some '\r'
  | 't' => some '\t'
  | 'v' => some '\x0b'
  | '\\' => some '\\'
  | _ => none

def isOctal (c : Char) : Bool := '0' ≤ c && c ≤ '7'

/-- Octal digits as a character. -/
def octalChar (digits : List Char) : Char :=
  Char.ofNat ((Numeral.ofDigits? 8 digits).getD 0 % 256)

/-- What stands behind a backslash: the character that it stands for, and what follows. -/
def readEscape (cs : List Char) : Char × List Char :=
  let digits := (cs.take 3).takeWhile isOctal
  if digits ≠ [] then (octalChar digits, cs.drop digits.length)
  else match cs with
  | c :: rest =>
    match escape? c with
    | some c => (c, rest)
    | none => ('\\', cs)
  | [] => ('\\', [])

/-- Printed characters, and whether printing is over with them. -/
structure Printed where
  text : List Char
  finished : Bool := false
  deriving DecidableEq, Repr

namespace Printed

def behind (p : Printed) (cs : List Char) : Printed := { p with text := cs ++ p.text }

/-- A text with its escapes.  Octal numbers have a zero in front of them, and there is an escape
that ends the printing. -/
def unescape : Nat → List Char → Printed
  | 0, _ => { text := [] }
  | _ + 1, [] => { text := [] }
  | fuel + 1, '\\' :: rest =>
    match rest with
    | 'c' :: _ => { text := [], finished := true }
    | '0' :: d :: rest =>
      let (c, rest) := readEscape (if isOctal d then d :: rest else '0' :: d :: rest)
      (unescape fuel rest).behind [c]
    | rest =>
      let (c, rest) := readEscape rest
      (unescape fuel rest).behind [c]
  | fuel + 1, c :: rest => (unescape fuel rest).behind [c]

def ofText (r : Raw) : Printed := unescape (r.length + 1) r.toList

/-- Texts with their escapes and a blank between each two. -/
def ofTexts : List Raw → Printed
  | [] => { text := [] }
  | [last] => ofText last
  | first :: rest =>
    let p := ofText first
    if p.finished then p else (ofTexts rest).behind (p.text ++ [' '])

end Printed

/-- What `echo` prints. -/
def echo (arguments : List Raw) : List Char :=
  let line (arguments : List Raw) (finish : List Char) : List Char :=
    let p := Printed.ofTexts arguments
    p.text ++ if p.finished then [] else finish
  match arguments with
  | "-n" :: rest => line rest []
  | _ => line arguments ['\n']

end BareMetal.Shell
