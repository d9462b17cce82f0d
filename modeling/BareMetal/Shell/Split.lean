import BareMetal.Shell.Glob

/-!
# Fields

What the expansion of a word puts out is split into fields where separators stand in stretches that
come from parameters and commands.  Blanks among the separators count together, and the others one
by one.
-/

namespace BareMetal.Shell

/-- A character of the output, or a place at which quotes begin or end.  A null character separates
parameters. -/
inductive Atom where
  | char (c : Char) (kept : Bool)
  | mark
  deriving DecidableEq, Repr

/-- A part of the output that may be split. -/
structure Stretch where
  first : Nat
  past : Nat
  /-- It is split between parameters only. -/
  onlyGaps : Bool
  deriving DecidableEq, Repr

structure Output where
  atoms : Array Atom := #[]
  stretches : Array Stretch := #[]

namespace Atom

/-- The character that separates parameters. -/
def gap : Char := '\x00'

/-- The text of some output. -/
def text : List Atom → List Char
  | [] => []
  | .char c _ :: rest => c :: text rest
  | .mark :: rest => text rest

/-- The pattern that some output is: characters that are kept from their meaning have a backslash.
`free` says that there is no backslash right before. -/
def pattern (free quoted : Bool) : List Atom → List Char
  | [] => []
  | .mark :: rest => pattern free (!quoted) rest
  | .char '\\' false :: rest => '\\' :: pattern (!free) false rest
  | .char c true :: rest =>
    (if free then ['\\', c] else if quoted then ['\\', '\\', c] else [c]) ++
      pattern true quoted rest
  | .char c false :: rest => c :: pattern true quoted rest

end Atom

namespace Output

def text (o : Output) : List Char := Atom.text o.atoms.toList

def pattern (o : Output) : List Char := Atom.pattern true false o.atoms.toList

def put (o : Output) (a : Atom) : Output := { o with atoms := o.atoms.push a }

/-- Lets everything from some place on be split. -/
def splitFrom (o : Output) (first : Nat) (onlyGaps : Bool) : Output :=
  { o with stretches := o.stretches.push { first, past := o.atoms.size, onlyGaps } }

end Output

namespace Split

/-! ## Splitting -/

/-- Output on the way to its fields. -/
structure Splitting where
  /-- Where the field begins. -/
  start : Nat := 0
  /-- A blank has ended the last field. -/
  blank : Bool := false
  /-- Where the last field ends, unless something follows. -/
  cut : Option Nat := none
  /-- How many fields there may still be, if that is bounded. -/
  left : Option Nat := none
  /-- The fields by their places, the latest first. -/
  fields : List (Nat × Nat) := []

def isBlankSeparator (c : Char) : Bool :=
  c == ' ' || c == '\t' || c == '\n' || c == Atom.gap

/-- The last field gets everything but blanks at the end, and one separator if nothing follows. -/
def stepLast (isSeparator isBlank : Bool) (place : Nat) (x : Splitting) : Splitting :=
  if isBlank then { x with cut := some (x.cut.getD place) }
  else { x with cut := if isSeparator && x.blank then x.cut else none, blank := false }

/-- A separator ends a field. -/
def stepSeparator (isBlank joined : Bool) (place : Nat) (x : Splitting) : Splitting :=
  let x := if joined then x else { x with blank := isBlank }
  if place = x.start && x.blank then { x with start := place + 1, blank := false }
  else match x.left with
  | some 1 => { x with left := some 0, cut := some place }
  | left =>
    { x with
      left := left.map (· - 1)
      fields := (x.start, place) :: x.fields
      start := place + 1 }

/-- One character of a stretch; `joined` says that the stretch goes on where parameters end. -/
def step (separators : List Char) (joined : Bool) (x : Splitting) (item : Nat × Atom) : Splitting :=
  let place := item.1
  let isSeparator : Bool := match item.2 with
    | .char c _ => c == Atom.gap || separators.contains c
    | .mark => false
  let isBlank : Bool := match item.2 with
    | .char c _ => isSeparator && isBlankSeparator c
    | .mark => false
  if x.left = some 0 then stepLast isSeparator isBlank place x
  else if x.blank then
    let x := { x with start := if isSeparator then place + 1 else place }
    if isBlank then x else { x with blank := false }
  else if isSeparator then stepSeparator isBlank joined place x
  else x

/-- One stretch, behind another one. -/
def stretch (separators : List Char) (o : Output) (x : Bool × Splitting) (t : Stretch) :
    Bool × Splitting :=
  let atoms := (o.atoms.extract t.first t.past).toList
  let places := (List.range' t.first atoms.length).zip atoms
  let separators := if t.onlyGaps then [] else separators
  (t.onlyGaps,
    places.foldl (step separators (x.1 || t.onlyGaps)) { x.2 with blank := false })

/-- The fields of some output, of which there are at most `limit` if that is given. -/
def fields (separators : List Char) (limit : Option Nat) (o : Output) : List (List Atom) :=
  let (onlyGaps, x) := o.stretches.toList.foldl (stretch separators o) (false, { left := limit })
  let past := x.cut.getD o.atoms.size
  let all := if onlyGaps || x.start < past then (x.start, past) :: x.fields else x.fields
  all.reverse.map fun (first, past) => (o.atoms.extract first past).toList

end Split

end BareMetal.Shell
