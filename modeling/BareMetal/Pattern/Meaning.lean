import BareMetal.Pattern.Syntax

/-!
# What patterns stand for

From patterns as they are written to patterns that can be looked for.  Flags decide what a part
stands for.  Classes, cases and words are known for ASCII only and have to be asked for as such; and
as text is made of characters, what would be a single byte above ASCII is refused.  The first part
that cannot be had is the one that is told of, where a whole comes behind its parts.
-/

namespace BareMetal.Pattern

/-- What holds for a part of a pattern. -/
structure Flags where
  ignoreCase : Bool := false
  multiLine : Bool := false
  dotAll : Bool := false
  returns : Bool := false
  /-- Classes, cases and words are not just those of ASCII. -/
  wide : Bool := true
  deriving DecidableEq, Repr

def Flags.set (f : Flags) (change : Flag × Bool) : Flags :=
  match change with
  | (.ignoreCase, value) => { f with ignoreCase := value }
  | (.multiLine, value) => { f with multiLine := value }
  | (.dotAll, value) => { f with dotAll := value }
  | (.returns, value) => { f with returns := value }
  | (.wide, value) => { f with wide := value }
  | (.lazy, _) | (.verbose, _) => f

def Flags.change (f : Flags) (changes : FlagChanges) : Flags := changes.foldl Flags.set f

def refuse {α : Type} (flaw : Flaw) (span : Span) : Except Error α :=
  throw { flaw, spans := [span] }

/-! ## Sets in any case -/

/-- A set of characters that may be known to have its characters in all their cases. -/
structure CaseSet where
  set : CharSet
  /-- The set has each of its characters in all cases. -/
  settled : Bool
  deriving DecidableEq, Repr

namespace CaseSet

def empty : CaseSet := ⟨.empty, true⟩

def plain (s : CharSet) : CaseSet := ⟨s, s.isEmpty⟩

def union (s t : CaseSet) : CaseSet :=
  if t.set.isEmpty ∨ s.set = t.set then s else ⟨s.set.union t.set, s.settled && t.settled⟩

def intersection (s t : CaseSet) : CaseSet :=
  if s.set.isEmpty then s
  else if t.set.isEmpty then empty
  else ⟨s.set.intersection t.set, s.settled && t.settled⟩

def difference (s t : CaseSet) : CaseSet :=
  if s.set.isEmpty ∨ t.set.isEmpty then s
  else ⟨s.set.difference t.set, s.settled && t.settled⟩

def combine (o : SetOperation) (s t : CaseSet) : CaseSet :=
  match o with
  | .intersection => s.intersection t
  | .difference => s.difference t
  | .symmetric => (s.union t).difference (s.intersection t)

def complement (s : CaseSet) : CaseSet :=
  ⟨s.set.complement, s.settled || s.set.isEmpty⟩

/-- The set in any case, if that is asked for; of sets with cases of all scripts only the empty one
can be had. -/
def inCase (f : Flags) (span : Span) (s : CaseSet) : Except Error CaseSet :=
  if !f.ignoreCase then return s
  else if !f.wide then return ⟨s.set.anyCase, true⟩
  else if s.settled || s.set.isEmpty then return { s with settled := true }
  else refuse .unknownCases span

/-- The set, or what is not in it, in any case if that is asked for. -/
def finish (f : Flags) (span : Span) (negated : Bool) (s : CaseSet) : Except Error CaseSet := do
  let s ← s.inCase f span
  let s := if negated then s.complement else s
  if !f.wide && !s.set.isAscii then refuse .notUtf8 span
  return s

end CaseSet

/-! ## Classes -/

/-- The class that one letter stands for. -/
def letterSet (f : Flags) (span : Span) (s : CharSet) (negated : Bool) : Except Error CharSet :=
  if f.wide then refuse .unknownClass span
  else if negated then refuse .notUtf8 span
  else return s

def refuseProperty {α : Type} (f : Flags) (span : Span) : Except Error α :=
  refuse (if f.wide then .unknownProperty else .codeOutside) span

/-- Refuses what would be a byte and no character. -/
def Literal.check (f : Flags) (l : Literal) : Except Error Unit :=
  if !f.wide && l.isByte && 0x80 ≤ l.char.toNat then refuse .notUtf8 l.span else return ()

/-- The code point of a member of a class. -/
def Literal.member (f : Flags) (l : Literal) : Except Error Nat := do
  l.check f
  if !f.wide && 0x80 ≤ l.char.toNat then refuse .codeOutside l.span
  return l.char.toNat

mutual

/-- The characters of part of a class. -/
def ClassPart.meaning (f : Flags) : ClassPart → Except Error CaseSet
  | .nothing _ => return .empty
  | .literal l => do
    let n ← l.member f
    return .plain ⟨[(n, n)]⟩
  | .range _ first last => do
    let low ← first.member f
    let high ← last.member f
    return .plain ⟨[(low, high)]⟩
  | .named span s negated => (CaseSet.plain s).finish f span negated
  | .letter span s negated => return .plain (← letterSet f span s negated)
  | .property span => refuseProperty f span
  | .bracketed span negated body => do (← body.meaning f).finish f span negated
  | .union _ parts => unionMeaning f .empty parts
  | .operation _ o left right => do
    let s ← left.meaning f
    let t ← right.meaning f
    let t ← t.inCase f right.span
    let s ← s.inCase f left.span
    return s.combine o t

/-- The characters of some parts of a class, and of what has been found before. -/
def unionMeaning (f : Flags) (found : CaseSet) : List ClassPart → Except Error CaseSet
  | [] => return found
  | p :: rest => do
    let s ← p.meaning f
    unionMeaning f (found.union s) rest

end

/-! ## Terms -/

abbrev Translating := StateT Flags (Except Error)

/-- The character that stands for itself. -/
def Literal.meaning (f : Flags) (l : Literal) : Except Error Pattern := do
  if f.wide && f.ignoreCase then refuse .unknownCases l.span
  l.check f
  let s := CharSet.single l.char
  return .one (if f.ignoreCase then s.anyCase else s)

/-- Any character, or any but the ends of lines. -/
def anyChar (f : Flags) : CharSet :=
  if f.dotAll then CharSet.empty.complement
  else if f.returns then ((CharSet.single '\n').union (.single '\r')).complement
  else (CharSet.single '\n').complement

/-- The anchor that is meant by what is written as one. -/
def Flags.anchor (f : Flags) (a : Anchor) : Anchor :=
  match a with
  | .lineStart => if !f.multiLine then .start else if f.returns then .returnStart else .lineStart
  | .lineFinish =>
    if !f.multiLine then .finish else if f.returns then .returnFinish else .lineFinish
  | .start => .start
  | .finish => .finish
  | a => if f.wide then .scriptEdge else a

mutual

/-- What a term stands for under the flags that are set. -/
def Term.meaning : Term → Translating Pattern
  | .nothing _ => return .empty
  | .flags _ changes => do
    modify fun f => f.change changes
    return .empty
  | .literal l => do l.meaning (← get)
  | .dot span => do
    if !(← get).wide then refuse .notUtf8 span
    return .one (anyChar (← get))
  | .anchor _ a => return .anchor ((← get).anchor a)
  | .letter span s negated => return .one (← letterSet (← get) span s negated)
  | .property span => do refuseProperty (← get) span
  | .bracketed span negated body => do
    let f ← get
    return .one (← (← body.meaning f).finish f span negated).set
  | .repeated _ least most t => return (← t.meaning).times least most
  | .group _ captures changes t => do
    let f ← get
    modify fun f => f.change changes
    let p ← t.meaning
    set f
    return if captures then .captured p else p
  | .alternatives _ ts => return anyOf (← meanings ts)
  | .row _ ts => return inRow (← meanings ts)

/-- What terms stand for, each under the flags that those before it leave. -/
def meanings : List Term → Translating (List Pattern)
  | [] => return []
  | t :: rest => do
    let p ← t.meaning
    return p :: (← meanings rest)

end

end BareMetal.Pattern
