import BareMetal.Pattern.Escape

/-!
# Reading bracketed classes

Classes of characters between brackets, with ranges, names, classes inside classes, and set
operations, which are carried out from left to right.
-/

namespace BareMetal.Pattern

open Reading

/-! ## Members -/

/-- The named class that comes next, if it is one. -/
def readNamed? : Reading (Option ClassPart) := do
  let start ← place
  let rest := (← get).rest
  let found : Option (CharSet × Bool × Nat) := do
    let inside ← Text.dropPrefix? "[:".toList rest
    let negated := inside.head? = some '^'
    let name := (if negated then inside.drop 1 else inside).takeWhile (· ≠ ':')
    let length := 2 + (if negated then 1 else 0) + name.length
    let _ ← Text.dropPrefix? ":]".toList (rest.drop length)
    let s ← CharSet.named? (String.ofList name)
    return (s, negated, length + 2)
  match found with
  | some (s, negated, length) =>
    skip length
    return some (.named (← from' start) s negated)
  | none => return none

/-- Reads one end of a range, or what stands alone. -/
def readMember : Reading Escape := do
  match ← peek? with
  | some '\\' => readEscape
  | some c =>
    let span ← nextSpan
    skip 1
    return .literal { span, char := c }
  | none => fail .classUnclosed [← here]

/-- What stands alone in a class. -/
def partOf : Escape → Reading ClassPart
  | .literal l => return .literal l
  | .letter span s negated => return .letter span s negated
  | .property span => return .property span
  | .anchor span _ => fail .classEscape [span]

/-- One end of a range has to be a character. -/
def boundary : Escape → Reading Literal
  | .literal l => return l
  | e => fail .classBoundary [e.span]

/-- Reads a range or a single member of a class that starts with `opening`. -/
def readRange (opening : Span) : Reading ClassPart := do
  let first ← readMember
  space
  if ← atEnd then fail .classUnclosed [opening]
  let second ← secondVisible?
  if (← peek?) ≠ some '-' ∨ second = some ']' ∨ second = some '-' then partOf first
  else
    step
    if ← atEnd then fail .classUnclosed [opening]
    let last ← readMember
    let span : Span := ⟨first.span.first, last.span.last⟩
    let low ← boundary first
    let high ← boundary last
    if high.char < low.char then fail .classOrder [span]
    return .range span low high

/-! ## Classes -/

/-- The set operation that comes next. -/
def acceptOperation : Reading (Option SetOperation) := do
  if ← accept "&&" then return some .intersection
  if ← accept "--" then return some .difference
  if ← accept "~~" then return some .symmetric
  return none

/-- The part of a class that has been read: an operation that waits for its right side, and the
members behind it, latest first. -/
structure ClassSoFar where
  left : Option (SetOperation × ClassPart) := none
  start : Place
  members : List ClassPart := []

/-- The members behind the last operation, which begin at the first of them. -/
def ClassSoFar.right (c : ClassSoFar) : ClassPart :=
  match c.members with
  | [] => .nothing c.start.point
  | [p] => p
  | latest :: before =>
    let first := (before.getLast?.map (·.span.first)).getD c.start
    .union ⟨first, latest.span.last⟩ c.members.reverse

def ClassSoFar.whole (c : ClassSoFar) : ClassPart :=
  match c.left with
  | some (o, p) => .operation ⟨p.span.first, c.right.span.last⟩ o p c.right
  | none => c.right

def ClassSoFar.add (c : ClassSoFar) (p : ClassPart) : ClassSoFar :=
  { c with members := p :: c.members }

/-- Reads the members of a class that starts with `opening`, up to its end. -/
def readMembers (nested : Reading ClassPart) (opening : Span) :
    Nat → ClassSoFar → Reading ClassPart
  | 0, _ => fail .classUnclosed [opening]
  | fuel + 1, c => do
    space
    match ← peek? with
    | none => fail .classUnclosed [opening]
    | some '[' =>
      match ← readNamed? with
      | some p => readMembers nested opening fuel (c.add p)
      | none => readMembers nested opening fuel (c.add (← nested))
    | some ']' =>
      skip 1
      return c.whole
    | some _ =>
      match ← acceptOperation with
      | some o =>
        readMembers nested opening fuel { left := some (o, c.whole), start := ← place }
      | none => readMembers nested opening fuel (c.add (← readRange opening))

/-- Reads the dashes that a class begins with. -/
def readDashes (unclosed : Reading Unit) : Nat → ClassSoFar → Reading ClassSoFar
  | 0, c => return c
  | fuel + 1, c => do
    if (← peek?) = some '-' then
      let span ← nextSpan
      step
      unclosed
      readDashes unclosed fuel (c.add (.literal { span, char := '-' }))
    else return c

/-- Reads a class from its bracket on. -/
def readClass : Nat → Reading ClassPart
  | 0 => do fail .classUnclosed [← here]
  | fuel + 1 => do
    let start ← place
    let unclosed : Reading Unit := do
      if ← atEnd then fail .classUnclosed [← from' start]
    step
    unclosed
    let negated := (← peek?) = some '^'
    if negated then
      step
      unclosed
    let dashes ← readDashes (do if ← atEnd then fail .classUnclosed [start.point])
      (← get).rest.length { start := ← place }
    let mut members := dashes
    if dashes.members.isEmpty ∧ (← peek?) = some ']' then
      let span ← nextSpan
      step
      unclosed
      members := dashes.add (.literal { span, char := ']' })
    let body ← readMembers (readClass fuel) (← from' start) ((← get).rest.length + 1) members
    return .bracketed (← from' start) negated body

end BareMetal.Pattern
