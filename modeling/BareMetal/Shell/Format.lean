import BareMetal.Shell.Decimal
import BareMetal.Shell.Printing

/-!
# Formats

What `printf` prints: a format whose conversions take arguments, as often as there are arguments for
it.
-/

namespace BareMetal.Shell

namespace Format

/-! ## Formats -/

/-- A number in a conversion that is given, or taken from an argument. -/
inductive Measure where
  | given (n : Nat)
  | taken
  deriving DecidableEq, Repr

/-- How an argument is printed. -/
structure Conversion where
  flags : List Char
  width : Option Measure
  precision : Option Measure
  kind : Char
  deriving DecidableEq, Repr

/-- A part of a format. -/
inductive Piece where
  | char (c : Char)
  | conversion (c : Conversion)
  /-- Something that cannot be printed, and why. -/
  | malformed (message : Raw)
  deriving DecidableEq, Repr

/-- A measure at the start of some characters, and what stands behind it. -/
def readMeasure (cs : List Char) : Option Measure × List Char :=
  match cs with
  | '*' :: rest => (some .taken, rest)
  | cs =>
    let digits := cs.takeWhile Char.isDigit
    (if digits = [] then none else (Numeral.ofDigits? 10 digits).map .given,
      cs.drop digits.length)

/-- The conversion behind a percent sign, and what stands behind it. -/
def readConversion (cs : List Char) : Piece × List Char :=
  let flags := cs.takeWhile fun c => "#-+ 0".toList.contains c
  let (width, behind) := readMeasure (cs.drop flags.length)
  let (precision, behind) := match behind with
    | '.' :: rest =>
      let (m, rest) := readMeasure rest
      (some (m.getD (.given 0)), rest)
    | rest => (none, rest)
  match behind with
  | [] => (.malformed "missing format character", [])
  | kind :: rest =>
    if "bcsdiouxXeEfFgG".toList.contains kind then
      (.conversion { flags, width, precision, kind }, rest)
    else
      let text := cs.take (cs.length - rest.length)
      (.malformed (String.ofList ('%' :: text) ++ ": invalid directive"), rest)

/-- The parts of a format. -/
def pieces : Nat → List Char → List Piece
  | 0, _ => []
  | _ + 1, [] => []
  | fuel + 1, '\\' :: rest =>
    let (c, rest) := readEscape rest
    .char c :: pieces fuel rest
  | fuel + 1, '%' :: '%' :: rest => .char '%' :: pieces fuel rest
  | fuel + 1, '%' :: rest =>
    let (p, rest) := readConversion rest
    p :: pieces fuel rest
  | fuel + 1, c :: rest => .char c :: pieces fuel rest

/-! ## Printing -/

/-- What has been printed, and what is left to print. -/
structure Printer where
  /-- The text, the latest first. -/
  printed : List Char := []
  warnings : List Raw := []
  /-- Why nothing more is printed. -/
  failure : Option Raw := none
  finished : Bool := false
  arguments : List Raw
  deriving Repr

namespace Printer

def put (p : Printer) (cs : List Char) : Printer :=
  { p with printed := cs.reverse ++ p.printed }

def drop (p : Printer) : Printer := { p with arguments := p.arguments.drop 1 }

def warn (p : Printer) (message : Raw) : Printer :=
  { p with warnings := p.warnings ++ [message] }

/-- Warns of an argument that is no number, or not only a number. -/
def check (p : Printer) (text : Raw) (isNumber tooLarge : Bool) (rest : List Char) : Printer :=
  if !isNumber then
    if text = "" then p else p.warn (text ++ ": expected numeric value")
  else if rest ≠ [] then p.warn (text ++ ": not completely converted")
  else if tooLarge then p.warn (text ++ ": Numerical result out of range")
  else p

/-- The character that an argument with a quote at its start stands for. -/
def quotedChar? (text : Raw) : Option Nat :=
  match text.toList with
  | q :: rest => if q = '"' || q = '\'' then some ((rest.head?.map Char.toNat).getD 0) else none
  | [] => none

/-- The next argument as a number. -/
def integer (signed : Bool) (p : Printer) : Int × Printer :=
  match p.arguments with
  | [] => (0, p)
  | text :: _ =>
    match quotedChar? text with
    | some n => (n, p.drop)
    | none =>
      let x := if signed then Number.scan? true text.toList else Number.scanUnsigned? text.toList
      match x with
      | some x => (x.value, p.drop.check text true x.tooLarge x.rest)
      | none => (0, p.drop.check text false false [])

/-- The next argument as a number with a fraction. -/
def binary (p : Printer) : Binary × Printer :=
  match p.arguments with
  | [] => ({}, p)
  | text :: _ =>
    match quotedChar? text with
    | some n => (Binary.ofFraction false n 1, p.drop)
    | none =>
      match Binary.scan? text.toList with
      | some (b, rest) => (b, p.drop.check text true b.mantissa.isNone rest)
      | none => ({}, p.drop.check text false false [])

/-- A measure as a number. -/
def measure (p : Printer) : Option Measure → Option Int × Printer
  | none => (none, p)
  | some (.given n) => (some n, p)
  | some .taken =>
    let (n, p) := p.integer true
    (some n, p)

end Printer

/-- A text in a field, with zeros behind its sign or blanks in front of it. -/
def inField (leftAligned zeros : Bool) (width : Nat) (sign cs : List Char) : List Char :=
  let room := width - sign.length - cs.length
  if leftAligned then sign ++ cs ++ List.replicate room ' '
  else if zeros then sign ++ List.replicate room '0' ++ cs
  else List.replicate room ' ' ++ sign ++ cs

/-- The digits of a whole number with its sign or the mark of its radix. -/
def digitsOf (flags : List Char) (kind : Char) (precision : Option Nat) (n : Int) :
    List Char × List Char :=
  let signed := kind = 'd' || kind = 'i'
  let sign : List Char :=
    if !signed then []
    else if n < 0 then ['-']
    else if flags.contains '+' then ['+']
    else if flags.contains ' ' then [' ']
    else []
  let digits := match kind with
    | 'o' => Nat.toDigits 8 n.natAbs
    | 'x' => Nat.toDigits 16 n.natAbs
    | 'X' => Numeral.hexDigits 1 n.natAbs
    | _ => Nat.toDigits 10 n.natAbs
  let digits := if n = 0 ∧ precision = some 0 then [] else digits
  let digits := Numeral.zeroPad (precision.getD 1) digits
  if !flags.contains '#' || n = 0 then
    (sign, if flags.contains '#' && kind = 'o' && digits = [] then ['0'] else digits)
  else match kind with
  | 'o' => ([], if digits.head? = some '0' then digits else '0' :: digits)
  | 'x' => (['0', 'x'], digits)
  | 'X' => (['0', 'X'], digits)
  | _ => (sign, digits)

/-- Prints an argument. -/
def convert (c : Conversion) (p : Printer) : Printer :=
  let (width, p) := p.measure c.width
  let (precision, p) := p.measure c.precision
  let leftAligned := c.flags.contains '-' || width.any (· < 0)
  let room := (width.getD 0).natAbs
  let precision := (precision.filter (0 ≤ ·)).map Int.toNat
  let text := p.arguments.headD ""
  let shorten (cs : List Char) : List Char :=
    match precision with
    | some n => cs.take n
    | none => cs
  let plain (p : Printer) (cs : List Char) : Printer := p.put (inField leftAligned false room [] cs)
  match c.kind with
  | 's' => plain p.drop (shorten text.toList)
  | 'b' =>
    let e := Printed.ofText text
    { plain p.drop (shorten e.text) with finished := e.finished }
  | 'c' => plain p.drop [text.toList.headD '\x00']
  | 'e' | 'E' | 'f' | 'F' | 'g' | 'G' =>
    let (b, p) := p.binary
    let sign : List Char :=
      if b.negative then ['-']
      else if c.flags.contains '+' then ['+']
      else if c.flags.contains ' ' then [' ']
      else []
    let cs := b.print (c.flags.contains '#') c.kind (precision.getD 6)
    p.put (inField leftAligned (c.flags.contains '0' && b.mantissa.isSome) room sign cs)
  | kind =>
    let (n, p) := p.integer (kind = 'd' || kind = 'i')
    let (sign, digits) := digitsOf c.flags kind precision n
    p.put (inField leftAligned (c.flags.contains '0' && precision.isNone) room sign digits)

/-- Prints the parts of a format. -/
def printOnce : List Piece → Printer → Printer
  | [], p => p
  | .char c :: rest, p => printOnce rest (p.put [c])
  | .malformed message :: _, p => { p with failure := some message }
  | .conversion c :: rest, p =>
    let p := convert c p
    if p.finished then p else printOnce rest p

/-- Prints a format as often as there are arguments for it. -/
def printAll (ps : List Piece) : Nat → Printer → Printer
  | 0, p => p
  | fuel + 1, p =>
    let before := p.arguments.length
    let p := printOnce ps p
    if p.finished || p.failure.isSome || p.arguments = [] || p.arguments.length = before then p
    else printAll ps fuel p

/-- What `printf` does with a format and arguments. -/
def print (format : Raw) (arguments : List Raw) : Printer :=
  printAll (pieces format.length format.toList) (arguments.length + 1) { arguments }

end Format

end BareMetal.Shell
