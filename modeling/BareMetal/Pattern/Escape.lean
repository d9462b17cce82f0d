import BareMetal.Pattern.Cursor
import BareMetal.Text.Numeral

/-!
# Escapes

What a backslash begins: codes of characters, classes, properties, anchors, and characters that
would mean something else without it.
-/

namespace BareMetal.Pattern

open Reading

/-! ## Codes of characters -/

/-- The character of a code, whose digits stand in the given place. -/
def charOf (digits : List Char) (span : Span) : Reading Char :=
  match Numeral.ofDigits? 16 digits with
  | some n => if n.isValidChar then return Char.ofNat n else fail .hexInvalid [span]
  | none => fail .hexInvalid [span]

def isHexDigit (c : Char) : Bool := (Numeral.digit? c).isSome

/-- Reads the digits of a code between braces, in a literal that starts at `start`. -/
def readBraced (start : Place) : Reading Literal := do
  let brace ← place
  let inner := (← nextSpan).last
  step
  let digits ← stepWhile isHexDigit (← get).rest.length
  match ← peek? with
  | none => fail .escapeUnfinished [← from' brace]
  | some c =>
    if c ≠ '\x7d' then fail .hexDigit [← nextSpan]
    let stop ← place
    step
    if digits = [] then fail .hexEmpty [← from' brace]
    let char ← charOf digits ⟨inner, stop⟩
    return { span := ← from' start, char }

/-- Reads the given number of digits of a code. -/
def readDigits : Nat → Reading (List Char)
  | 0 => return []
  | count + 1 => do
    match ← peek? with
    | none => fail .escapeUnfinished [← here]
    | some c =>
      if !isHexDigit c then fail .hexDigit [← nextSpan]
      step
      return c :: (← readDigits count)

/-- Reads a code behind its letter, which tells the number of digits. -/
def readCode (start : Place) (letter : Char) : Reading Literal := do
  step
  match ← peek? with
  | none => fail .escapeUnfinished [← here]
  | some c =>
    if c = '\x7b' then readBraced start
    else
      let first ← place
      let digits ← readDigits (if letter = 'x' then 2 else if letter = 'u' then 4 else 8)
      let char ← charOf digits (← from' first)
      return { span := ← from' start, char, isByte := letter = 'x' }

/-! ## Properties -/

/-- Passes over the name of a property, none of which is known. -/
def skipProperty : Reading Unit := do
  let unfinished : Reading Unit := do
    if ← atEnd then fail .escapeUnfinished [← here]
  step
  unfinished
  match ← peek? with
  | some '\x7b' =>
    step
    let _ ← stepWhile (· ≠ '\x7d') (← get).rest.length
    unfinished
    skip 1
  | some '\\' => fail .propertyInvalid [← nextSpan]
  | _ => skip 1

/-! ## Edges of words -/

/-- The edge of words with a name. -/
def edge? (name : String) : Option Anchor :=
  match name with
  | "start" => some .wordStart
  | "end" => some .wordFinish
  | "start-half" => some .wordStartHalf
  | "end-half" => some .wordFinishHalf
  | _ => none

/-- Reads the name of an edge of words between braces, behind an escape that starts at `start`.
Braces around something else are left for a repetition. -/
def readEdge (start : Place) : Reading (Option Anchor) := do
  let before ← get
  let brace ← place
  let isNameChar (c : Char) : Bool := c.isAlpha || c == '-'
  step
  let inner ← place
  match ← peek? with
  | none => fail .edgeUnfinished [← from' start]
  | some c =>
    if !isNameChar c then
      set before
      return none
    let name ← stepWhile isNameChar (← get).rest.length
    if (← peek?) ≠ some '\x7d' then fail .edgeUnclosed [← from' brace]
    let stop ← place
    skip 1
    match edge? (String.ofList name) with
    | some a => return some a
    | none => fail .edgeUnknown [⟨inner, stop⟩]

/-! ## All escapes -/

/-- The characters that stand for themselves behind a backslash. -/
def isPlain (c : Char) : Bool :=
  c.toNat < 0x80 && !c.isAlphanum && c ≠ '<' && c ≠ '>'

/-- What a backslash and one letter stand for, in the given place. -/
def escape? (span : Span) (c : Char) : Option Escape :=
  let char (c : Char) := some (Escape.literal { span, char := c })
  match c with
  | 'd' => some (.letter span .digit false)
  | 'D' => some (.letter span .digit true)
  | 's' => some (.letter span .blank false)
  | 'S' => some (.letter span .blank true)
  | 'w' => some (.letter span .word false)
  | 'W' => some (.letter span .word true)
  | 'a' => char '\x07'
  | 'f' => char '\x0c'
  | 't' => char '\t'
  | 'n' => char '\n'
  | 'r' => char '\r'
  | 'v' => char '\x0b'
  | 'A' => some (.anchor span .start)
  | 'z' => some (.anchor span .finish)
  | 'b' => some (.anchor span .wordEdge)
  | 'B' => some (.anchor span .noWordEdge)
  | '<' => some (.anchor span .wordStart)
  | '>' => some (.anchor span .wordFinish)
  | c => if isPlain c then char c else none

/-- Reads an escape from its backslash on. -/
def readEscape : Reading Escape := do
  let start ← place
  skip 1
  match ← peek? with
  | none => fail .escapeUnfinished [← from' start]
  | some c =>
    if c.isDigit then fail .backReference [⟨start, (← nextSpan).last⟩]
    if c = 'x' ∨ c = 'u' ∨ c = 'U' then return .literal (← readCode start c)
    if c = 'p' ∨ c = 'P' then
      skipProperty
      return .property (← from' start)
    skip 1
    match escape? (← from' start) c with
    | none => fail .escapeUnknown [← from' start]
    | some e =>
      if c = 'b' ∧ (← peek?) = some '\x7b' then
        match ← readEdge start with
        | some a => return .anchor (← from' start) a
        | none => return e
      return e

end BareMetal.Pattern
