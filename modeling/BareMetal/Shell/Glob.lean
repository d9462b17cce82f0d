import BareMetal.Shell.State

/-!
# Patterns for texts and paths

Patterns of the shell are rows of items, each of which matches a character or any text.  A backslash
in a pattern keeps the next character from its meaning.
-/

namespace BareMetal.Shell

open Host

namespace Glob

/-! ## Patterns -/

/-- What may stand between brackets. -/
inductive Member where
  | range (low high : Char)
  | kind (name : String)
  deriving DecidableEq, Repr

/-- A part of a pattern. -/
inductive Item where
  | char (c : Char)
  | any
  /-- A character that is among some, or is not if `inverted`. -/
  | among (inverted : Bool) (members : List Member)
  /-- Any text. -/
  | all
  deriving DecidableEq, Repr

/-- The kinds of characters that have names. -/
def kinds : List (String × (Char → Bool)) :=
  let graphic (c : Char) : Bool := '!' ≤ c && c ≤ '~'
  [("alnum", Char.isAlphanum), ("cntrl", fun c => c < ' ' || c == '\x7f'), ("lower", Char.isLower),
   ("space", Raw.isSpace), ("alpha", Char.isAlpha), ("digit", Char.isDigit),
   ("print", fun c => c == ' ' || graphic c), ("upper", Char.isUpper), ("blank", Raw.isBlank),
   ("graph", graphic), ("punct", fun c => graphic c && !c.isAlphanum),
   ("xdigit", fun c => (Numeral.digit? c).any (· < 16))]

/-- The kind of characters that is named behind a bracket, and what stands behind it. -/
def kindAt? (cs : List Char) : Option (String × List Char) :=
  kinds.findSome? fun (name, _) =>
    (Text.dropPrefix? (":" ++ name ++ ":]").toList cs).map fun rest => (name, rest)

/-- The members up to the bracket that closes them. -/
def members : Nat → List Char → Option (List Member × List Char)
  | 0, _ => none
  | _ + 1, [] => none
  | fuel + 1, c :: rest => do
    let more (m : Member) (rest : List Char) : Option (List Member × List Char) :=
      match rest with
      | ']' :: rest => some ([m], rest)
      | rest => (members fuel rest).map fun (ms, rest) => (m :: ms, rest)
    match if c = '[' then kindAt? rest else none with
    | some (name, rest) => more (.kind name) rest
    | none =>
      let (c, rest) ← match c, rest with
        | '\\', d :: rest => some (d, rest)
        | '\\', [] => none
        | c, rest => some (c, rest)
      match rest with
      | '-' :: '\\' :: high :: rest => more (.range c high) rest
      | '-' :: high :: rest =>
        if high = ']' then more (.range c c) ('-' :: high :: rest)
        else more (.range c high) rest
      | rest => more (.range c c) rest

/-- The items of a pattern. -/
def items : Nat → List Char → List Item
  | 0, _ => []
  | _ + 1, [] => []
  | fuel + 1, c :: rest =>
    match c, rest with
    | '\\', d :: rest => .char d :: items fuel rest
    | '?', rest => .any :: items fuel rest
    | '*', rest => .all :: items fuel rest
    | '[', rest =>
      let inverted := rest.head? = some '!'
      match members rest.length (if inverted then rest.drop 1 else rest) with
      | some (ms, rest) => .among inverted ms :: items fuel rest
      | none => .char '[' :: items fuel rest
    | c, rest => .char c :: items fuel rest

def ofText (cs : List Char) : List Item := items cs.length cs

/-! ## Matching -/

/-- Where a character stands among all; those outside of the basic ones come first. -/
def rank (c : Char) : Nat := (c.toNat + 128) % 256

def Member.has : Member → Char → Bool
  | range low high, c => rank low ≤ rank c && rank c ≤ rank high
  | kind name, c => ((kinds.lookup name).map (· c)).getD false

/-- A pattern matches a whole text. -/
def fits : List Item → List Char → Bool
  | [], cs => cs.isEmpty
  | .all :: rest, cs => (List.range (cs.length + 1)).any fun k => fits rest (cs.drop k)
  | .char d :: rest, cs =>
    match cs with
    | c :: cs => c == d && fits rest cs
    | [] => false
  | .any :: rest, cs =>
    match cs with
    | _ :: cs => fits rest cs
    | [] => false
  | .among inverted ms :: rest, cs =>
    match cs with
    | c :: cs => (ms.any (·.has c)) != inverted && fits rest cs
    | [] => false

/-- A text without what a pattern matches at one end. -/
def trim (atEnd greedy : Bool) (pattern : List Item) (cs : List Char) : Nat × Nat :=
  let lengths := List.range (cs.length + 1)
  if atEnd then
    let found := (if greedy then lengths else lengths.reverse).find? fun k =>
      fits pattern (cs.drop k)
    (0, found.getD cs.length)
  else
    let found := (if greedy then lengths.reverse else lengths).find? fun k =>
      fits pattern (cs.take k)
    (found.getD 0, cs.length)

/-! ## Paths -/

/-- The parts of a pattern between slashes; a slash may be kept from a meaning that it has not. -/
def parts : List Char → List Char → List (List Char)
  | taken, [] => [taken.reverse]
  | taken, '\\' :: '/' :: rest => taken.reverse :: parts [] rest
  | taken, '\\' :: c :: rest => parts (c :: '\\' :: taken) rest
  | taken, '/' :: rest => taken.reverse :: parts [] rest
  | taken, c :: rest => parts (c :: taken) rest

/-- A part of a path that stands for more than itself. -/
def isMeta (part : List Char) : Bool :=
  (ofText part).any fun
    | .char _ => false
    | _ => true

/-- A part of a path that stands for itself alone. -/
def literal : List Char → List Char
  | '\\' :: c :: rest => c :: literal rest
  | c :: rest => c :: literal rest
  | [] => []

/-- The names in a directory, with those of the directory and the one above it. -/
def namesIn (s : State) (directory : Raw) : List Raw :=
  match s.locate? (if directory = "" then "." else directory) with
  | none => []
  | some l =>
    if !s.world.files.isDirectory l then []
    else
      let inside := s.world.files.nodes.filterMap fun (m, _) =>
        if m.dropLast = l ∧ m ≠ [] then m.getLast?.map Raw.ofText else none
      "." :: ".." :: inside.eraseDups

/-- The paths that begin with some text and go on in the form of some parts. -/
def expand (s : State) : Raw → List (List Char) → List Raw
  | _, [] => []
  | start, [part] =>
    if isMeta part then
      let names := (namesIn s start).filter fun name =>
        (name.front ≠ '.' || (literal part).head? = some '.') && fits (ofText part) name.toList
      names.map (start ++ ·)
    else
      let path := start ++ String.ofList (literal part)
      if (s.node? path).isSome then [path] else []
  | start, part :: rest =>
    if isMeta part then
      let names := (namesIn s start).filter fun name =>
        (name.front ≠ '.' || (literal part).head? = some '.') && fits (ofText part) name.toList
      names.flatMap fun name => expand s (start ++ name ++ "/") rest
    else expand s (start ++ String.ofList (literal part) ++ "/") rest

/-- The paths that have the form of a pattern, in order. -/
def paths (s : State) (pattern : List Char) : List Raw :=
  let ps := parts [] pattern
  if ps.any isMeta then (expand s "" ps).mergeSort fun a b => !(b < a) else []

end Glob

end BareMetal.Shell
