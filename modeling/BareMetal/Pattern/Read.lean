import BareMetal.Pattern.Class
import BareMetal.Text.LetterTable

/-!
# Reading patterns

Patterns as text: literal characters, `.`, bracketed classes, escapes, anchors, groups with flags
and names, alternatives, and repetitions.  Every step of the reader uses up a character, so that it
needs no more steps than there are characters.
-/

namespace BareMetal.Pattern

open Reading

/-! ## Groups -/

/-- How a group begins. -/
inductive GroupStart where
  /-- No group, but flags for what follows. -/
  | flags (changes : FlagChanges)
  | group (captures : Bool) (changes : FlagChanges)

/-- The flag or the negation that a letter stands for. -/
def readFlag (c : Char) : Reading (Option Flag) := do
  if c = '-' then return none
  match Flag.ofLetter? c with
  | some f => return some f
  | none => fail .flagUnknown [← nextSpan]

/-- Reads flags up to a colon or a parenthesis; `seen` are those so far with their places, latest
first. -/
def readFlags : Nat → List (Option Flag × Span) → Reading (List (Option Flag))
  | 0, _ => return []
  | fuel + 1, seen => do
    match ← peek? with
    | none => fail .flagsUnfinished [← here]
    | some c =>
      if c = ':' ∨ c = ')' then
        match seen with
        | (none, span) :: _ => fail .flagDangling [span]
        | _ => return (seen.map (·.1)).reverse
      else
        let span ← nextSpan
        let f ← readFlag c
        match seen.lookup f with
        | some earlier => fail (if f.isNone then .negationTwice else .flagTwice) [earlier, span]
        | none =>
          skip 1
          readFlags fuel ((f, span) :: seen)

/-- The changes that flags make; those behind the negation are taken back. -/
def changesOf (flags : List (Option Flag)) : FlagChanges :=
  let (set, reset) := flags.span Option.isSome
  (set.filterMap id).map (·, true) ++ (reset.filterMap id).map (·, false)

/-- A character that a name of a group may hold. -/
def isNameChar (atStart : Bool) (c : Char) : Bool :=
  c == '_' || Text.isLetter c ||
    !atStart && (Text.isLetterOrNumeral c || c == '.' || c == '[' || c == ']')

/-- Passes over the characters of a name. -/
def readNameChars : Nat → Bool → Reading (List Char)
  | 0, _ => return []
  | fuel + 1, atStart => do
    match ← peek? with
    | none => return []
    | some c =>
      if c = '>' then return []
      if !isNameChar atStart c then fail .nameInvalid [← nextSpan]
      skip 1
      return c :: (← readNameChars fuel false)

/-- Reads the name of a group and the bracket behind it. -/
def readName : Reading Unit := do
  let start ← place
  let name ← readNameChars (← get).rest.length true
  let span ← from' start
  if !(← accept ">") then fail .nameUnclosed [← here]
  if name = [] then fail .nameEmpty [start.point]
  match (← get).names.lookup name with
  | some earlier => fail .nameTwice [earlier, span]
  | none => modify fun c => { c with names := (name, span) :: c.names }

/-- Reads the beginning of a group from its parenthesis on. -/
def readGroupStart : Reading GroupStart := do
  let opening ← nextSpan
  step
  for mark in ["?=", "?!", "?<=", "?<!"] do
    if ← accept mark then fail .lookAround [← from' opening.first]
  let inner ← place
  for mark in ["?P<", "?<"] do
    if ← accept mark then
      readName
      return .group true []
  if !(← accept "?") then return .group true []
  if ← atEnd then fail .groupUnclosed [opening]
  let flags ← readFlags ((← get).rest.length + 1) []
  if ← accept ")" then
    if flags = [] then fail .nothingRepeated [inner.point]
    return .flags (changesOf flags)
  skip 1
  return .group false (changesOf flags)

/-! ## Repetitions -/

/-- Reads a decimal number among white space. -/
def readNumber : Reading (Except Error Nat) := do
  let _ ← takeWhile Text.isBlank
  let start ← place
  let digits ← stepWhile Char.isDigit (← get).rest.length
  let span ← from' start
  let _ ← stepWhile Text.isBlank (← get).rest.length
  if digits = [] then return .error { flaw := .countEmpty, spans := [span] }
  match (Numeral.ofDigits? 10 digits).filter (· < 0x100000000) with
  | some n => return .ok n
  | none => return .error { flaw := .countInvalid, spans := [span] }

def ofOutcome {α : Type} : Except Error α → Reading α
  | .ok a => return a
  | .error e => throw e

/-- Reads the bounds of a repetition from the brace on. -/
def readCount : Reading (Nat × Option Nat) := do
  let start ← place
  let unclosed : Reading Unit := do
    if ← atEnd then fail .countUnclosed [← from' start]
  step
  unclosed
  let least ← readNumber
  unclosed
  let range ← if (← peek?) = some ',' then do
      step
      unclosed
      let least ← ofOutcome least
      if (← peek?) = some '\x7d' then pure (least, none)
      else do
        let most ← ofOutcome (← readNumber)
        pure (least, some most)
    else do
      let least ← ofOutcome least
      pure (least, some least)
  if (← peek?) ≠ some '\x7d' then fail .countUnclosed [← from' start]
  step
  let _ ← accept "?"
  if range.2.any (· < range.1) then fail .countOrder [← from' start]
  return range

def isRepetition (c : Char) : Bool := c = '?' || c = '*' || c = '+' || c = '\x7b'

/-- Reads the bounds of the repetition that comes next. -/
def readRepetition (c : Char) : Reading (Nat × Option Nat) := do
  if c = '\x7b' then readCount
  else
    skip 1
    let _ ← accept "?"
    return if c = '?' then (0, some 1) else if c = '*' then (0, none) else (1, none)

/-! ## Patterns -/

/-- Reads a term that is no group. -/
def readTerm (c : Char) : Reading Term := do
  match c with
  | '[' =>
    match ← readClass ((← get).rest.length + 1) with
    | .bracketed span negated body => return .bracketed span negated body
    | p => return .nothing p.span
  | '\\' => return .ofEscape (← readEscape)
  | _ =>
    let span ← nextSpan
    skip 1
    match c with
    | '.' => return .dot span
    | '^' => return .anchor span .lineStart
    | '$' => return .anchor span .lineFinish
    | c => return .literal { span, char := c }

/-- The alternatives that have been read: those that are complete, where the first of them starts,
and the terms of the current one with its start.  Lists have the latest first. -/
structure TermsSoFar where
  complete : List Term := []
  first : Place
  start : Place
  terms : List Term := []

/-- The current alternative, which ends at a place. -/
def TermsSoFar.current (s : TermsSoFar) (stop : Place) : Term :=
  .inRow ⟨s.start, stop⟩ s.terms.reverse

/-- All alternatives, which end at a place. -/
def TermsSoFar.whole (s : TermsSoFar) (stop : Place) : Term :=
  match s.complete with
  | [] => s.current stop
  | ts => .alternatives ⟨s.first, stop⟩ (s.current stop :: ts).reverse

def TermsSoFar.add (s : TermsSoFar) (t : Term) : TermsSoFar := { s with terms := t :: s.terms }

/-- White space means something, or not, from here on. -/
def setVerbose (changes : FlagChanges) : Reading Unit :=
  modify fun c => { c with verbose := (changes.lookup .verbose).getD c.verbose }

/-- Reads alternatives up to the end of the text or of the group. -/
def readFrom (inside : Bool) : Nat → TermsSoFar → Reading Term
  | 0, s => return s.whole (← place)
  | fuel + 1, s => do
    space
    match ← peek? with
    | none => return s.whole (← place)
    | some ')' =>
      if inside then return s.whole (← place) else fail .groupUnopened [← nextSpan]
    | some '|' =>
      let complete := s.current (← place) :: s.complete
      skip 1
      readFrom inside fuel { complete, first := s.first, start := ← place }
    | some '(' =>
      let opening ← nextSpan
      match ← readGroupStart with
      | .flags changes =>
        setVerbose changes
        readFrom inside fuel (s.add (.flags (← from' opening.first) changes))
      | .group captures changes =>
        let verbose := (← get).verbose
        setVerbose changes
        let start ← place
        let t ← readFrom true fuel { first := start, start }
        if !(← accept ")") then fail .groupUnclosed [opening]
        modify fun c => { c with verbose }
        readFrom inside fuel (s.add (.group (← from' opening.first) captures changes t))
    | some c =>
      if isRepetition c then
        match s.terms.head?.filter Term.isRepeatable with
        | some t =>
          let (least, most) ← readRepetition c
          let span : Span := ⟨t.span.first, ← place⟩
          readFrom inside fuel { s with terms := .repeated span least most t :: s.terms.drop 1 }
        | none => fail .nothingRepeated [← here]
      else readFrom inside fuel (s.add (← readTerm c))

/-- The pattern of a text as it is written. -/
def read (text : String) : Except Error Term := do
  let cs := text.toList
  let (t, _) ← (readFrom false (cs.length + 1) { first := {}, start := {} }).run { rest := cs }
  t.checkDepth depthLimit
  return t

end BareMetal.Pattern
