import BareMetal.Text.Numeral
import BareMetal.Text.Split

/-!
# Names of hosts

Hosts are named by numeric addresses, or by names that somebody has to be asked about.  A numeric
address has one to four parts between dots, each decimal, octal or hexadecimal, of which the last
fills all bytes that are left.
-/

namespace BareMetal.Host.HostName

/-- The number that a part of a numeric address stands for. -/
def part? (cs : List Char) : Option Nat :=
  match cs with
  | [] => none
  | '0' :: 'x' :: digits | '0' :: 'X' :: digits =>
    if digits = [] then none else Numeral.ofDigits? 16 digits
  | '0' :: digits => Numeral.ofDigits? 8 digits
  | digits => Numeral.ofDigits? 10 digits

/-- The bytes that a number takes up fit into `n` bytes. -/
def fitsBytes (n value : Nat) : Bool := value >>> (8 * n) = 0

/-- A numeric address of four bytes. -/
def isNumeric (name : String) : Bool :=
  match (Text.splitOn '.' name.toList).mapM part? with
  | none => false
  | some parts =>
    parts.length ≤ 4 && parts.dropLast.all (fitsBytes 1) &&
      parts.getLast?.any (fitsBytes (5 - parts.length))

/-- A numeric address of sixteen bytes, by the characters of which it consists. -/
def isLongNumeric (name : String) : Bool :=
  2 ≤ name.toList.count ':' &&
    name.toList.all fun c => (Numeral.digit? c).isSome || "[]:.".contains c

/-- Why a host cannot be found by its name while the network is down; none if nobody has to be
asked. -/
def lookupFailure? (name : String) : Option String :=
  let failure (reason : String) : String := "failed to lookup address information: " ++ reason
  if isNumeric name ∨ isLongNumeric name ∨ name = "localhost" then none
  else if name = "" then some (failure "Name or service not known")
  else some (failure "Temporary failure in name resolution")

end BareMetal.Host.HostName
