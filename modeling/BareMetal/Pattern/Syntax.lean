import BareMetal.Pattern.Basic
import BareMetal.Pattern.Error

/-!
# The syntax of patterns

Patterns as they are written, every part with its place in the text.  What the parts stand for
depends on flags that are set along the way, and is found out later.
-/

namespace BareMetal.Pattern

/-! ## Flags -/

inductive Flag where
  | ignoreCase
  | multiLine
  | dotAll
  /-- Repetitions prefer to be short; which of several occurrences is found changes nothing here. -/
  | lazy
  /-- Classes, cases and words are not just those of ASCII. -/
  | wide
  /-- Carriage returns end lines as well. -/
  | returns
  /-- White space and comments mean nothing. -/
  | verbose
  deriving DecidableEq, Repr

def Flag.ofLetter? (c : Char) : Option Flag :=
  match c with
  | 'i' => some ignoreCase
  | 'm' => some multiLine
  | 's' => some dotAll
  | 'U' => some lazy
  | 'u' => some wide
  | 'R' => some returns
  | 'x' => some verbose
  | _ => none

/-- Flags in the order in which they are set, each with its new value. -/
abbrev FlagChanges := List (Flag × Bool)

/-! ## Single characters -/

/-- A character that stands for itself. -/
structure Literal where
  span : Span
  char : Char
  /-- It is given by two hexadecimal digits, which may stand for a byte. -/
  isByte : Bool := false
  deriving DecidableEq, Repr

/-- What a backslash and what follows it stand for. -/
inductive Escape where
  | literal (l : Literal)
  /-- A class that one letter stands for. -/
  | letter (span : Span) (s : CharSet) (negated : Bool)
  /-- The characters with some property. -/
  | property (span : Span)
  | anchor (span : Span) (a : Anchor)
  deriving DecidableEq, Repr

def Escape.span : Escape → Span
  | literal l => l.span
  | letter span _ _ | property span | anchor span _ => span

/-! ## Classes -/

/-- How two parts of a class are combined. -/
inductive SetOperation where
  | intersection
  | difference
  | symmetric
  deriving DecidableEq, Repr

/-- Part of a bracketed class. -/
inductive ClassPart where
  | nothing (span : Span)
  | literal (l : Literal)
  | range (span : Span) (first last : Literal)
  /-- A class of ASCII with a name. -/
  | named (span : Span) (s : CharSet) (negated : Bool)
  | letter (span : Span) (s : CharSet) (negated : Bool)
  | property (span : Span)
  | bracketed (span : Span) (negated : Bool) (body : ClassPart)
  | union (span : Span) (parts : List ClassPart)
  | operation (span : Span) (o : SetOperation) (left right : ClassPart)
  deriving Repr

def ClassPart.span : ClassPart → Span
  | literal l => l.span
  | nothing span | range span _ _ | named span _ _ | letter span _ _ | property span
  | bracketed span _ _ | union span _ | operation span _ _ _ => span

/-! ## Terms -/

/-- A part of a pattern as it is written. -/
inductive Term where
  | nothing (span : Span)
  | flags (span : Span) (changes : FlagChanges)
  | literal (l : Literal)
  | dot (span : Span)
  | anchor (span : Span) (a : Anchor)
  | letter (span : Span) (s : CharSet) (negated : Bool)
  | property (span : Span)
  | bracketed (span : Span) (negated : Bool) (body : ClassPart)
  | repeated (span : Span) (least : Nat) (most : Option Nat) (t : Term)
  | group (span : Span) (captures : Bool) (changes : FlagChanges) (t : Term)
  | alternatives (span : Span) (ts : List Term)
  | row (span : Span) (ts : List Term)
  deriving Repr

namespace Term

def span : Term → Span
  | literal l => l.span
  | nothing span | flags span _ | dot span | anchor span _ | letter span _ _ | property span
  | bracketed span _ _ | repeated span _ _ _ | group span _ _ _ | alternatives span _
  | row span _ => span

/-- Terms in a row. -/
def inRow (span : Span) : List Term → Term
  | [] => nothing span
  | [t] => t
  | ts => row span ts

def ofEscape : Escape → Term
  | .literal l => literal l
  | .letter span s negated => letter span s negated
  | .property span => property span
  | .anchor span a => anchor span a

/-- The term can be repeated. -/
def isRepeatable : Term → Bool
  | nothing _ | flags _ _ => false
  | _ => true

end Term

/-! ## Depth -/

/-- One step down to a part, of which `room` are left. -/
def descend (span : Span) : Nat → Except Error Nat
  | 0 => throw { flaw := .tooDeep, spans := [span] }
  | room + 1 => return room

mutual

/-- Refuses parts of a class that lie deeper than `room` steps. -/
def ClassPart.checkDepth (room : Nat) : ClassPart → Except Error Unit
  | .bracketed span _ body => do body.checkDepth (← descend span room)
  | .union span parts => do checkPartsDepth (← descend span room) parts
  | .operation span _ left right => do
    let room ← descend span room
    left.checkDepth room
    right.checkDepth room
  | _ => return ()

def checkPartsDepth (room : Nat) : List ClassPart → Except Error Unit
  | [] => return ()
  | p :: rest => do
    p.checkDepth room
    checkPartsDepth room rest

end

mutual

/-- Refuses terms that lie deeper than `room` steps. -/
def Term.checkDepth (room : Nat) : Term → Except Error Unit
  | .bracketed span _ body => do body.checkDepth (← descend span room)
  | .repeated span _ _ t | .group span _ _ t => do t.checkDepth (← descend span room)
  | .alternatives span ts | .row span ts => do checkTermsDepth (← descend span room) ts
  | _ => return ()

def checkTermsDepth (room : Nat) : List Term → Except Error Unit
  | [] => return ()
  | t :: rest => do
    t.checkDepth room
    checkTermsDepth room rest

end

end BareMetal.Pattern
