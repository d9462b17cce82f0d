import BareMetal.ObjectFile.Address
import BareMetal.Target.Serial
import BareMetal.Text.Hexadecimal

/-!
# Values on a command line

The kinds of values that arguments take, and the values that their texts stand for.
-/

namespace BareMetal.CommandLine

/-- Why a command line is not carried out. -/
inductive Refusal where
  | displayHelp
  | displayVersion
  /-- Nothing at all was asked for. -/
  | displayHelpOnMissing
  | missingSubcommand
  | invalidSubcommand
  | unknownArgument
  /-- A value was attached to a flag. -/
  | tooManyValues
  /-- A value is missing or empty. -/
  | invalidValue
  /-- A value is not of its kind. -/
  | valueValidation
  /-- An argument is repeated, or excluded by another one. -/
  | argumentConflict
  | missingRequired
  deriving DecidableEq, Repr

/-- The kinds of values. -/
inductive ValueKind where
  | text
  | path
  /-- A hexadecimal word. -/
  | word
  | baud
  | flow
  | start
  /-- A decimal number of at most 16 bits. -/
  | port
  /-- A decimal number of at most 64 bits. -/
  | count
  /-- Four decimal octets. -/
  | ipv4
  deriving DecidableEq, Repr

/-- A value. -/
inductive Value where
  | text (s : String)
  | number (n : Nat)
  | flow (f : Target.FlowControl)
  | start (s : StartAddress)
  deriving DecidableEq, Repr

/-- A decimal octet without leading zeros. -/
def isOctet (digits : List Char) : Bool :=
  (Numeral.ofDigits? 10 digits).any (· < 256) &&
    (digits.length == 1 || (digits.length ≤ 3 && digits.head?.any (· ≠ '0')))

/-- Four octets between dots. -/
def isIpv4 (s : String) : Bool :=
  let octets := Text.splitOn '.' s.toList
  octets.length == 4 && octets.all isOctet

/-- A decimal number below `bound`, which may have a sign if it is zero. -/
def signed? (bound : Nat) (s : String) : Option Nat :=
  match s.toList with
  | '-' :: digits => if digits = [] then none else (Numeral.ofDigits? 10 digits).filter (· = 0)
  | cs => Numeral.readBelow? bound 10 cs

namespace ValueKind

/-- The value that a text stands for. -/
def read? : ValueKind → String → Option Value
  | text, s | path, s => some (.text s)
  | word, s => (Hexadecimal.parse s).toOption.map fun n => .number n.toNat
  | baud, s => (Target.BaudRate.parse s).toOption.map fun b => .number b.speed
  | flow, s => (Target.FlowControl.parse s).toOption.map .flow
  | start, s => (StartAddress.parse s).toOption.map .start
  | port, s => (signed? 0x10000 s).map .number
  | count, s => (Numeral.readBelow? 0x10000000000000000 10 s.toList).map .number
  | ipv4, s => if isIpv4 s then some (.text s) else none

/-- The value that a text stands for; a path must not be empty. -/
def parse (k : ValueKind) (s : String) : Except Refusal Value :=
  if k = path ∧ s = "" then .error .invalidValue
  else match k.read? s with
    | some v => .ok v
    | none => .error .valueValidation

end ValueKind

end BareMetal.CommandLine
