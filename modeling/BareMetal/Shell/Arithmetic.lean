import BareMetal.Shell.Number

/-!
# Formulas

Formulas with numbers of 64 bits are worked out while they are read, so that what is wrong with them
is said in that order.  What does not count, such as the second part of a disjunction whose first
part is true, is read and not worked out.
-/

namespace BareMetal.Shell

namespace Arithmetic

/-! ## Tokens -/

inductive Token where
  | number (n : Int)
  | name (text : Raw)
  | sign (text : String)
  /-- Something that no formula can hold. -/
  | bad
  deriving DecidableEq, Repr

/-- The signs, those that others begin with behind them. -/
def signs : List String :=
  ["<<=", ">>=", "<<", ">>", "<=", ">=", "==", "!=", "&&", "||", "*=", "/=", "%=", "+=", "-=",
   "&=", "^=", "|=", "<", ">", "=", "!", "&", "|", "*", "/", "%", "+", "-", "^", "~", "(", ")", "?",
   ":"]

def signAt? (cs : List Char) : Option (String × List Char) :=
  signs.findSome? fun sign => (Text.dropPrefix? sign.toList cs).map fun rest => (sign, rest)

/-- The tokens of a formula. -/
def tokens : Nat → List Char → List Token
  | 0, _ => []
  | _ + 1, [] => []
  | fuel + 1, c :: rest =>
    if c = ' ' || c = '\t' || c = '\n' then tokens fuel rest
    else if c.isDigit then
      match Number.scan? true (c :: rest) with
      | some x => .number x.value :: tokens fuel x.rest
      | none => [.bad]
    else if Raw.isNameStart c then
      let name := (c :: rest).takeWhile Raw.isNameChar
      .name (String.ofList name) :: tokens fuel ((c :: rest).drop name.length)
    else match signAt? (c :: rest) with
    | some (sign, rest) => .sign sign :: tokens fuel rest
    | none => [.bad]

/-! ## Operations -/

/-- How tightly operators bind; the least number binds most. -/
def rank? : String → Option Nat
  | "*" | "/" | "%" => some 0
  | "+" | "-" => some 1
  | "<<" | ">>" => some 2
  | "<" | "<=" | ">" | ">=" => some 3
  | "==" | "!=" => some 4
  | "&" => some 5
  | "^" => some 6
  | "|" => some 7
  | _ => none

/-- A rank behind all others. -/
def lastRank : Nat := 8

def ofBool (b : Bool) : Int := if b then 1 else 0

/-- A bitwise operation on numbers with their signs. -/
def bitwise (f : Nat → Nat → Nat) (a b : Int) : Int :=
  Number.wrap (f (a % Number.modulus).toNat (b % Number.modulus).toNat)

/-- The value of an operation, or nothing at a division by zero. -/
def operate? (operator : String) (a b : Int) : Option Int :=
  match operator with
  | "*" => some (Number.wrap (a * b))
  | "/" => if b = 0 then none else some (Number.wrap (a.tdiv b))
  | "%" => if b = 0 then none else some (Number.wrap (a.tmod b))
  | "+" => some (Number.wrap (a + b))
  | "-" => some (Number.wrap (a - b))
  | "<<" => some (Number.wrap (a <<< (b % 64).toNat))
  | ">>" => some (a >>> (b % 64).toNat)
  | "<" => some (ofBool (a < b))
  | "<=" => some (ofBool (a ≤ b))
  | ">" => some (ofBool (b < a))
  | ">=" => some (ofBool (b ≤ a))
  | "==" => some (ofBool (a = b))
  | "!=" => some (ofBool (a ≠ b))
  | "&" => some (bitwise (· &&& ·) a b)
  | "^" => some (bitwise (· ^^^ ·) a b)
  | "|" => some (bitwise (· ||| ·) a b)
  | _ => none

/-! ## Formulas -/

/-- What is still to be read of a formula, on the way to its value. -/
abbrev Formula (α : Type) := StateT (List Token) Act α

/-- Says what is wrong with a formula. -/
def fail {α : Type} (formula : Raw) (message : String) : Act α :=
  Act.fail ("arithmetic expression: " ++ message ++ ": \"" ++ formula ++ "\"")

/-- The value of a variable, which is zero if it has none. -/
def valueOf (name : Raw) : Act Int := do
  let text := ((← get).value? name).getD ""
  match Number.read? true text with
  | some n => return n
  | none => Act.illegalNumber text

def operate (formula : Raw) (operator : String) (a b : Int) : Act Int :=
  match operate? operator a b with
  | some n => return n
  | none => fail formula "division by zero"

/-- The sign that is next. -/
def sign? : Formula (Option String) := do
  match ← get with
  | .sign text :: _ => return some text
  | _ => return none

def advance : Formula Unit := modify (·.drop 1)

/-- The operator of an assignment: what is worked out with the old value, if anything is. -/
def assignment? : String → Option (Option String)
  | "=" => some none
  | "*=" => some (some "*")
  | "/=" => some (some "/")
  | "%=" => some (some "%")
  | "+=" => some (some "+")
  | "-=" => some (some "-")
  | "<<=" => some (some "<<")
  | ">>=" => some (some ">>")
  | "&=" => some (some "&")
  | "^=" => some (some "^")
  | "|=" => some (some "|")
  | _ => none

/-- The kinds of formulas, those that bind most first. -/
inductive Level where
  /-- A number or a variable with its signs, or a formula in parentheses. -/
  | primary
  /-- Operations, of which a first value and an operator below some rank have been read. -/
  | operations (first : Int) (operator : String) (rank : Nat)
  | binary
  | conjunction
  | disjunction
  | choice
  | assignment
  deriving DecidableEq, Repr

/-- Works out a formula; one that is `idle` does not count. -/
def evaluate (formula : Raw) : Nat → Level → Bool → Formula Int
  | 0, _, _ => fail formula "expecting primary"
  | fuel + 1, level, idle => do
    let eval (level : Level) (idle : Bool) : Formula Int := evaluate formula fuel level idle
    match level with
    | .primary =>
      match ← get with
      | .number n :: rest =>
        set rest
        return n
      | .name name :: rest =>
        set rest
        if idle then return 0 else valueOf name
      | .sign "(" :: rest =>
        set rest
        let n ← eval .assignment idle
        if (← sign?) ≠ some ")" then fail formula "expecting ')'"
        advance
        return n
      | .sign "+" :: rest =>
        set rest
        eval .primary idle
      | .sign "-" :: rest =>
        set rest
        return Number.wrap (-(← eval .primary idle))
      | .sign "!" :: rest =>
        set rest
        return ofBool ((← eval .primary idle) = 0)
      | .sign "~" :: rest =>
        set rest
        return -(← eval .primary idle) - 1
      | _ => fail formula "expecting primary"
    | .operations a operator rank =>
      advance
      let b ← eval .primary idle
      let own := (rank? operator).getD lastRank
      let b ← match (← sign?) with
        | some next =>
          if (rank? next).any (· < own) then eval (.operations b next own) idle else pure b
        | none => pure b
      let a ← if idle then pure b else operate formula operator a b
      match ← sign? with
      | some next =>
        if (rank? next).any (· < rank) then eval (.operations a next rank) idle else return a
      | none => return a
    | .binary =>
      let a ← eval .primary idle
      match ← sign? with
      | some next =>
        if (rank? next).isSome then eval (.operations a next lastRank) idle else return a
      | none => return a
    | .conjunction =>
      let a ← eval .binary idle
      if (← sign?) = some "&&" then
        advance
        let b ← eval .conjunction (idle || a = 0)
        return ofBool (a ≠ 0 && b ≠ 0)
      else return a
    | .disjunction =>
      let a ← eval .conjunction idle
      if (← sign?) = some "||" then
        advance
        let b ← eval .disjunction (idle || a ≠ 0)
        return ofBool (a ≠ 0 || b ≠ 0)
      else return a
    | .choice =>
      let a ← eval .disjunction idle
      if (← sign?) = some "?" then
        advance
        let b ← eval .assignment (idle || a = 0)
        if (← sign?) ≠ some ":" then fail formula "expecting ':'"
        advance
        let c ← eval .choice (idle || a ≠ 0)
        return if a ≠ 0 then b else c
      else return a
    | .assignment =>
      match ← get with
      | .name name :: .sign sign :: rest =>
        match assignment? sign with
        | some operator =>
          set rest
          let n ← eval .assignment idle
          if idle then return n
          let n ← match operator with
            | some operator => operate formula operator (← valueOf name) n
            | none => pure n
          Act.assign name (Raw.ofInt n)
          return n
        | none => eval .choice idle
      | _ => eval .choice idle

/-- The value of a formula. -/
def value (formula : Raw) : Act Int := do
  let ts := tokens formula.length formula.toList
  let (n, rest) ← (evaluate formula (16 * (ts.length + 2)) .assignment false).run ts
  if rest ≠ [] then fail formula "expecting EOF"
  return n

end Arithmetic

end BareMetal.Shell
