import BareMetal.Shell.State

/-!
# Numbers

Numbers of 64 bits, as scripts write them.  A number may have blanks in front of it and a sign; one
that is too large counts as the largest there is.
-/

namespace BareMetal.Shell

namespace Number

/-- A number that a text begins with, and what stands behind it. -/
structure Scanned where
  value : Int
  rest : List Char
  /-- The number is larger than numbers can be. -/
  tooLarge : Bool := false
  deriving DecidableEq, Repr

/-- The digits of a number without its sign, with their radix. -/
def digits (freeRadix : Bool) (cs : List Char) : Nat × List Char :=
  let isDigit (radix : Nat) (c : Char) : Bool := (Numeral.digit? c).any (· < radix)
  if !freeRadix then (10, cs.takeWhile (isDigit 10))
  else match cs with
  | '0' :: x :: d :: rest =>
    if (x = 'x' || x = 'X') && isDigit 16 d then
      (16, '0' :: x :: (d :: rest).takeWhile (isDigit 16))
    else (8, cs.takeWhile (isDigit 8))
  | '0' :: _ => (8, cs.takeWhile (isDigit 8))
  | _ => (10, cs.takeWhile (isDigit 10))

/-- The number that a text begins with, without a bound. -/
def scanAny (freeRadix : Bool) (cs : List Char) : Option (Bool × Nat × List Char) :=
  let cs := cs.dropWhile Raw.isSpace
  let (negative, cs) := match cs with
    | '-' :: rest => (true, rest)
    | '+' :: rest => (false, rest)
    | cs => (false, cs)
  let (radix, taken) := digits freeRadix cs
  if taken = [] then none
  else
    let ds := if radix = 16 then taken.drop 2 else taken
    some (negative, (Numeral.ofDigits? radix ds).getD 0, cs.drop taken.length)

/-- How many numbers of 64 bits there are. -/
def modulus : Nat := 0x10000000000000000

/-- How many of them have a sign. -/
def halfModulus : Nat := 0x8000000000000000

/-- The largest number. -/
def largest : Int := 0x7fffffffffffffff

/-- A number of 64 bits with its sign, from what it is without a bound. -/
def wrap (n : Int) : Int := (n + halfModulus) % modulus - halfModulus

/-- The number that a text begins with. -/
def scan? (freeRadix : Bool) (cs : List Char) : Option Scanned :=
  (scanAny freeRadix cs).map fun (negative, n, rest) =>
    if negative then
      if n ≤ halfModulus then { value := -n, rest }
      else { value := -largest - 1, rest, tooLarge := true }
    else if (n : Int) ≤ largest then { value := n, rest }
    else { value := largest, rest, tooLarge := true }

/-- The number without a sign that a text begins with; a minus sign counts from the end. -/
def scanUnsigned? (cs : List Char) : Option Scanned :=
  (scanAny true cs).map fun (negative, n, rest) =>
    if modulus ≤ n then { value := 0xffffffffffffffff, rest, tooLarge := true }
    else { value := if negative then (-(n : Int)) % modulus else n, rest }

/-- The number that a whole text is. -/
def read? (freeRadix : Bool) (r : Raw) : Option Int :=
  match scan? freeRadix r.toList with
  | some x => if x.tooLarge || !x.rest.all Raw.isSpace then none else some x.value
  | none => if freeRadix && r.toList.all Raw.isSpace then some 0 else none

/-- The largest number that commands take. -/
def largestArgument : Int := 0x7fffffff

end Number

namespace Act

def illegalNumber {α : Type} (r : Raw) : Act α := Act.fail ("Illegal number: " ++ r)

/-- The number that a text is. -/
def integer (r : Raw) : Act Int := do
  match Number.read? false r with
  | some n => return n
  | none => illegalNumber r

/-- The number that an argument of a command is. -/
def natural (r : Raw) : Act Nat := do
  let n ← integer r
  if n < 0 ∨ Number.largestArgument < n then illegalNumber r
  return n.toNat

end Act

end BareMetal.Shell
