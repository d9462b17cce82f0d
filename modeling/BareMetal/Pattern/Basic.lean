import BareMetal.Pattern.CharSet

/-!
# Text patterns

Regular expressions over characters.  `Pattern.ends` gives the places at which an occurrence that
starts at a place of a text may end; a text matches a pattern when it has an occurrence somewhere.
-/

namespace BareMetal

/-! ## Places between characters -/

/-- What holds at a place between two characters. -/
inductive Anchor where
  | start
  | finish
  | lineStart
  | lineFinish
  /-- A line starts behind `\n`, and behind a `\r` that has no `\n` behind it. -/
  | returnStart
  /-- A line ends at `\r`, and at a `\n` that has no `\r` before it. -/
  | returnFinish
  | wordEdge
  | noWordEdge
  | wordStart
  | wordFinish
  /-- No word ends here. -/
  | wordStartHalf
  /-- No word starts here. -/
  | wordFinishHalf
  /-- Asks for the words of all scripts, which are not told from other text. -/
  | scriptEdge
  deriving DecidableEq, Repr

namespace Anchor

/-- The anchor holds at the place before character `i`. -/
def holds (text : Array Char) (a : Anchor) (i : Nat) : Bool :=
  let before := if i = 0 then none else text[i - 1]?
  let after := text[i]?
  let wordBefore := before.any CharSet.word.contains
  let wordAfter := after.any CharSet.word.contains
  match a with
  | start => i == 0
  | finish => i == text.size
  | lineStart => before.all (· == '\n')
  | lineFinish => after.all (· == '\n')
  | returnStart => before.all (· == '\n') || before == some '\r' && after != some '\n'
  | returnFinish => after.all (· == '\r') || after == some '\n' && before != some '\r'
  | wordEdge => wordBefore != wordAfter
  | noWordEdge => wordBefore == wordAfter
  | wordStart => !wordBefore && wordAfter
  | wordFinish => wordBefore && !wordAfter
  | wordStartHalf => !wordBefore
  | wordFinishHalf => !wordAfter
  | scriptEdge => false

end Anchor

/-! ## Patterns -/

inductive Pattern where
  | empty
  | one (s : CharSet)
  | anchor (a : Anchor)
  | sequence (p q : Pattern)
  | either (p q : Pattern)
  /-- At least `least` occurrences in a row, and no more than `most` if that is given. -/
  | repeated (p : Pattern) (least : Nat) (most : Option Nat)
  /-- An occurrence whose place is remembered. -/
  | captured (p : Pattern)
  deriving DecidableEq, Repr

namespace Pattern

/-- The occurrences of a pattern have no characters. -/
def isThin : Pattern → Bool
  | empty | anchor _ => true
  | one _ => false
  | sequence p q | either p q => p.isThin && q.isThin
  | repeated p _ most => p.isThin || most == some 0
  | captured p => p.isThin

/-- Some occurrence of a pattern may have no characters. -/
def mayBeThin : Pattern → Bool
  | empty | anchor _ => true
  | one _ => false
  | sequence p q => p.mayBeThin && q.mayBeThin
  | either p q => p.mayBeThin || q.mayBeThin
  | repeated p least _ => least == 0 || p.mayBeThin
  | captured p => p.mayBeThin

/-- The pattern asks for the words of all scripts. -/
def asksForScripts : Pattern → Bool
  | empty | one _ => false
  | anchor a => a == .scriptEdge
  | sequence p q | either p q => p.asksForScripts || q.asksForScripts
  | repeated p _ _ | captured p => p.asksForScripts

/-! ## Building patterns -/

/-- One pattern behind another. -/
def followedBy : Pattern → Pattern → Pattern
  | empty, q => q
  | p, empty => p
  | p, q => sequence p q

/-- Patterns in a row. -/
def inRow (ps : List Pattern) : Pattern := ps.foldl followedBy empty

/-- The set of which a pattern takes one character. -/
def set? : Pattern → Option CharSet
  | one s => some s
  | _ => none

/-- One of some patterns; among single characters it is the choice of one of them. -/
def anyOf (ps : List Pattern) : Pattern :=
  match ps.mapM set? with
  | some sets => one (sets.foldl CharSet.union .empty)
  | none =>
    match ps with
    | [] => empty
    | p :: rest => rest.foldl either p

/-- A pattern some times in a row.  To repeat what has no characters is to have it once. -/
def times (p : Pattern) (least : Nat) (most : Option Nat) : Pattern :=
  let (least, most) := if p.isThin then (min least 1, some (min (most.getD 1) 1)) else (least, most)
  if most = some 0 then empty
  else if least = 1 ∧ most = some 1 then p
  else repeated p least most

/-! ## Occurrences -/

/-- The places that `n` steps lead to. -/
def after (step : Nat → List Nat) : Nat → List Nat → List Nat
  | 0, places => places
  | n + 1, places =>
    let further := (places.flatMap step).eraseDups
    if further = [] ∨ further = places then further else after step n further

/-- The places that at most `n` steps lead to. -/
def within (step : Nat → List Nat) : Nat → List Nat → List Nat
  | 0, places => places
  | n + 1, places =>
    let further := (places.flatMap step).filter (· ∉ places)
    if further = [] then places else within step n (places ++ further).eraseDups

/-- The places at which an occurrence that starts before character `i` may end.  No more steps than
the text has characters lead to a new place. -/
def ends (text : Array Char) : Pattern → Nat → List Nat
  | empty, i => [i]
  | one s, i => if text[i]?.any s.contains then [i + 1] else []
  | anchor a, i => if a.holds text i then [i] else []
  | sequence p q, i => ((ends text p i).flatMap (ends text q)).eraseDups
  | either p q, i => (ends text p i ++ ends text q i).eraseDups
  | repeated p least most, i =>
    let more := (most.map (· - least)).getD text.size
    within (ends text p) (min more text.size) (after (ends text p) least [i])
  | captured p, i => ends text p i

/-- The pattern occurs somewhere in a text. -/
def occursIn (p : Pattern) (text : String) : Bool :=
  let characters := text.toList.toArray
  (List.range (characters.size + 1)).any fun i => !(ends characters p i).isEmpty

end Pattern

end BareMetal
