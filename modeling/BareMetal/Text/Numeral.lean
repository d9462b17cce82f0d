/-!
# Numerals

Unsigned numbers as text in a radix up to sixteen.  A numeral is one optional plus sign and at
least one digit, of either case; no other sign, blank or separator belongs to it.
-/

namespace BareMetal.Numeral

/-- The value of a digit of either case. -/
def digit? (c : Char) : Option Nat :=
  if '0' ≤ c ∧ c ≤ '9' then some (c.toNat - '0'.toNat)
  else if 'a' ≤ c ∧ c ≤ 'f' then some (c.toNat - 'a'.toNat + 10)
  else if 'A' ≤ c ∧ c ≤ 'F' then some (c.toNat - 'A'.toNat + 10)
  else none

/-- The number written by the digits, most significant first, if they are digits of the radix. -/
def ofDigits? (radix : Nat) (digits : List Char) : Option Nat :=
  digits.foldlM (fun n c => (digit? c).bind fun d =>
    if d < radix then some (radix * n + d) else none) 0

/-- The number that a numeral stands for. -/
def read? (radix : Nat) : List Char → Option Nat
  | [] => none
  | ['+'] => none
  | '+' :: digits => ofDigits? radix digits
  | digits => ofDigits? radix digits

/-- The number that a numeral stands for, if it is below `bound`. -/
def readBelow? (bound radix : Nat) (text : List Char) : Option Nat :=
  (read? radix text).filter (· < bound)

/-- The 32-bit word that a numeral stands for. -/
def word32? (radix : Nat) (text : List Char) : Option UInt32 :=
  (readBelow? 0x100000000 radix text).map UInt32.ofNat

/-- `text` behind as many zeros as make it `width` characters long. -/
def zeroPad (width : Nat) (text : List Char) : List Char :=
  List.replicate (width - text.length) '0' ++ text

/-- Upper-case hexadecimal digits, at least `width` of them. -/
def hexDigits (width n : Nat) : List Char :=
  zeroPad width ((Nat.toDigits 16 n).map Char.toUpper)

/-- Upper-case hexadecimal without leading zeros. -/
def hex (n : Nat) : String := String.ofList (hexDigits 1 n)

/-- Upper-case hexadecimal of at least `width` digits. -/
def hexPad (width n : Nat) : String := String.ofList (hexDigits width n)

/-- Decimal of at least `width` digits. -/
def decimalPad (width n : Nat) : String := String.ofList (zeroPad width (Nat.toDigits 10 n))

/-- Decimal without leading zeros. -/
def decimal (n : Nat) : String := decimalPad 1 n

end BareMetal.Numeral
