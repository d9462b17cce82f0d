import BareMetal.Shell.Number

/-!
# Binary fractions

Numbers with a fraction have 53 binary digits.  They are read from decimal digits and printed with
as many of them as is asked for; both times the nearest number is taken, and the even one of two.
-/

namespace BareMetal.Shell

/-- The number `mantissa * 2 ^ exponent`, or one that is too large if there is no mantissa. -/
structure Binary where
  negative : Bool := false
  mantissa : Option Nat := some 0
  exponent : Int := 0
  deriving DecidableEq, Repr

namespace Binary

/-! ## Rounding -/

/-- The nearest whole number to a fraction. -/
def nearest (numerator denominator : Nat) : Nat :=
  let q := numerator / denominator
  let twice := 2 * (numerator % denominator)
  if denominator < twice ∨ (denominator = twice ∧ q % 2 = 1) then q + 1 else q

/-- A fraction times a power, as a fraction. -/
def scaled (base numerator denominator : Nat) (power : Int) : Nat × Nat :=
  if 0 ≤ power then (numerator * Nat.pow base power.toNat, denominator)
  else (numerator, denominator * Nat.pow base (-power).toNat)

/-- The number of binary digits, of which numbers have 53 at most. -/
def digitCount : Nat := 53

/-- The smallest number with so many digits. -/
def leastFull : Nat := Nat.pow 2 (digitCount - 1)

def leastExponent : Int := -1074

def largestExponent : Int := 971

/-- The number nearest to a fraction. -/
def ofFraction (negative : Bool) (numerator denominator : Nat) : Binary :=
  if numerator = 0 then { negative }
  else
    let guess : Int := (Nat.log2 numerator : Int) - Nat.log2 denominator - digitCount + 1
    let (n, d) := scaled 2 numerator denominator (-guess)
    let exact := if n / d < leastFull then guess - 1 else guess
    let exponent := max exact leastExponent
    let (n, d) := scaled 2 numerator denominator (-exponent)
    let mantissa := nearest n d
    let (mantissa, exponent) :=
      if mantissa = 2 * leastFull then (leastFull, exponent + 1)
      else (mantissa, exponent)
    if largestExponent < exponent then { negative, mantissa := none }
    else { negative, mantissa := some mantissa, exponent }

/-! ## Reading -/

/-- The decimal exponent behind a number, and what stands behind it. -/
def readExponent (cs : List Char) : Int × List Char :=
  match cs with
  | e :: rest =>
    if e ≠ 'e' ∧ e ≠ 'E' then (0, cs)
    else
      let (sign, ds) := match rest with
        | '-' :: ds => ((-1 : Int), ds)
        | '+' :: ds => (1, ds)
        | ds => (1, ds)
      let taken := ds.takeWhile Char.isDigit
      if taken = [] then (0, cs)
      else (sign * min 100000 ((Numeral.ofDigits? 10 taken).getD 0), ds.drop taken.length)
  | [] => (0, [])

/-- The number that a text begins with, and what stands behind it. -/
def scan? (cs : List Char) : Option (Binary × List Char) :=
  let cs := cs.dropWhile Raw.isSpace
  let (negative, cs) := match cs with
    | '-' :: rest => (true, rest)
    | '+' :: rest => (false, rest)
    | cs => (false, cs)
  let whole := cs.takeWhile Char.isDigit
  let behind := cs.drop whole.length
  let fraction := match behind with
    | '.' :: rest => rest.takeWhile Char.isDigit
    | _ => []
  if whole = [] ∧ fraction = [] then none
  else
    let behind := match behind with
      | '.' :: rest => rest.drop fraction.length
      | _ => behind
    let (exponent, rest) := readExponent behind
    let digits := (Numeral.ofDigits? 10 (whole ++ fraction)).getD 0
    let power := exponent - fraction.length
    if digits ≠ 0 ∧ 400 < power + (Nat.toDigits 10 digits).length then
      some ({ negative, mantissa := none }, rest)
    else if power + (Nat.toDigits 10 digits).length < -400 then some ({ negative }, rest)
    else
      let (n, d) := scaled 10 digits 1 power
      some (ofFraction negative n d, rest)

/-! ## Printing -/

/-- The number as a fraction without its sign. -/
def fraction (mantissa : Nat) (exponent : Int) : Nat × Nat := scaled 2 mantissa 1 exponent

/-- Digits with a point in front of the last `places` of them. -/
def withPoint (always : Bool) (places digits : Nat) : List Char :=
  let cs := Numeral.zeroPad (places + 1) (Nat.toDigits 10 digits)
  let whole := cs.take (cs.length - places)
  whole ++ if places = 0 && !always then [] else '.' :: cs.drop whole.length

/-- A fraction with so many places behind the point. -/
def fixed (always : Bool) (places : Nat) (x : Nat × Nat) : List Char :=
  withPoint always places (nearest (x.1 * Nat.pow 10 places) x.2)

/-- The power of ten that a fraction is above. -/
def magnitude (x : Nat × Nat) : Int :=
  if x.1 = 0 then 0
  else if x.2 ≤ x.1 then (Nat.toDigits 10 (x.1 / x.2)).length - 1
  else
    let below := (Nat.toDigits 10 (x.2 / x.1)).length
    if x.2 ≤ x.1 * Nat.pow 10 (below - 1) then -((below : Int) - 1) else -(below : Int)

/-- A fraction as digits and a power of ten, with so many places behind the point. -/
def scientificDigits (places : Nat) (x : Nat × Nat) : Nat × Int :=
  let power := magnitude x
  let (n, d) := scaled 10 x.1 x.2 (places - power)
  let digits := nearest n d
  if digits = Nat.pow 10 (places + 1) then (Nat.pow 10 places, power + 1) else (digits, power)

/-- A power of ten as it is printed. -/
def exponentText (letter : Char) (power : Int) : List Char :=
  letter :: (if power < 0 then '-' else '+') :: Numeral.zeroPad 2 (Nat.toDigits 10 power.natAbs)

def scientific (always : Bool) (letter : Char) (places : Nat) (x : Nat × Nat) : List Char :=
  let (digits, power) := scientificDigits places x
  withPoint always places digits ++ exponentText letter power

/-- Digits without zeros at their end, and without a point there. -/
def withoutZeros (cs : List Char) : List Char :=
  if cs.contains '.' then
    let cs := cs.reverse.dropWhile (· = '0')
    (if cs.head? = some '.' then cs.drop 1 else cs).reverse
  else cs

/-- A fraction in the shorter of both forms. -/
def general (always : Bool) (letter : Char) (precision : Nat) (x : Nat × Nat) : List Char :=
  let p := max precision 1
  let (digits, power) := scientificDigits (p - 1) x
  let clean (cs : List Char) : List Char := if always then cs else withoutZeros cs
  if -4 ≤ power ∧ power < p then clean (fixed always ((p : Int) - 1 - power).toNat x)
  else clean (withPoint always (p - 1) digits) ++ exponentText letter power

/-- A number without its sign as a conversion prints it. -/
def print (always : Bool) (kind : Char) (precision : Nat) (b : Binary) : List Char :=
  let upper := kind.isUpper
  match b.mantissa with
  | none => if upper then "INF".toList else "inf".toList
  | some m =>
    let x := fraction m b.exponent
    match kind.toLower with
    | 'e' => scientific always kind precision x
    | 'g' => general always (if upper then 'E' else 'e') precision x
    | _ => fixed always precision x

end Binary

end BareMetal.Shell
