import BareMetal.Shell.Builtin.Basic
import BareMetal.Shell.Condition

/-!
# Commands of the shell: directories

The commands about the working directory, and about the rights of new files.
-/

namespace BareMetal.Shell

open Host

namespace Builtin

/-- A path without dots and empty parts, seen from a directory. -/
def cleanPath (place path : Raw) : Raw :=
  let parts (r : Raw) : List Raw := (Text.splitOn '/' r.toList).map String.ofList
  let steps := (if path.startsWith "/" then [] else parts place) ++ parts path
  let taken := steps.foldl (fun taken step =>
    if step = "" || step = "." then taken
    else if step = ".." then taken.drop 1
    else step :: taken) []
  "/" ++ Text.joinWith "/" taken.reverse

/-- The directory that a name that is no path leads to, and whether it is to be told. -/
def searchDirectory (s : State) (name : Raw) : Raw × Bool :=
  let places := (Text.splitOn ':' ((s.value? "CDPATH").getD "").toList).map String.ofList
  let found := places.findSome? fun place =>
    let path := if place = "" then name else place ++ "/" ++ name
    if s.node? path = some .directory then some (path, decide (place ≠ "")) else none
  found.getD (name, false)

def changeDirectory : Action := fun arguments => do
  let (_, rest) ← readOptions "LP" arguments
  let s ← get
  let wanted := match rest with
    | [] => (s.value? "HOME").getD ""
    | "-" :: _ => (s.value? "OLDPWD").getD ""
    | path :: _ => path
  let isPath := wanted.startsWith "/" || wanted = "." || wanted.startsWith "./" ||
    wanted = ".." || wanted.startsWith "../"
  let (path, told) := if isPath then (wanted, false)
    else searchDirectory s (if wanted = "" then "." else wanted)
  let place := cleanPath s.place path
  if s.node? place ≠ some .directory then Act.fail ("can't cd to " ++ wanted)
  modify fun s => { s with directory := Raw.toText place }
  Act.setVariable "OLDPWD" s.place true
  Act.setVariable "PWD" place true
  if told || rest.head? = some "-" then printLines [place] else return 0

def printDirectory : Action := fun arguments => do
  let _ ← readOptions "LP" arguments
  printLines [(← get).place]

/-! ## Rights -/

/-- The bits that a letter for rights stands for. -/
def rightBits (before : Nat) : Char → Nat
  | 'r' => 4
  | 'w' => 2
  | 'x' => 1
  | 'u' => before >>> 6 % 8
  | 'g' => before >>> 3 % 8
  | 'o' => before % 8
  | 'X' => if before &&& 0o111 = 0 then 0 else 1
  | _ => 0

/-- The places of those whom a letter stands for. -/
def rightPlaces : Char → Nat
  | 'u' => 0o100
  | 'g' => 0o010
  | 'o' => 0o001
  | _ => 0o111

/-- The bits of some letters together. -/
def gatherBits (bits : Char → Nat) (cs : List Char) : Nat :=
  cs.foldl (fun found c => found ||| bits c) 0

/-- Changes rights as a text like `g+w,o=` says. -/
def changeRights (before : Nat) : Nat → List Char → Nat → Nat → Option Nat
  | 0, cs, _, rights => if cs = [] then some rights else none
  | fuel + 1, cs, places, rights =>
    let whom := cs.takeWhile fun c => "augo".contains c
    let places := places ||| gatherBits rightPlaces whom
    let places := if places = 0 then 0o111 else places
    match cs.drop whom.length with
    | [] => some rights
    | sign :: cs =>
      let what := cs.takeWhile fun c => "rwxugoXs".contains c
      let changed := gatherBits (rightBits before) what * places
      let rights? := match sign with
        | '+' => some (rights ||| changed)
        | '-' => some (rights - (rights &&& changed))
        | '=' => some ((rights - (rights &&& places * 7)) ||| changed)
        | _ => none
      rights?.bind fun rights =>
        match cs.drop what.length with
        | ',' :: cs => changeRights before fuel cs 0 rights
        | cs => changeRights before fuel cs places rights

/-- The rights that new files do not get, as digits or as letters. -/
def showMask (lettered : Bool) (mask : Nat) : Raw :=
  if lettered then
    let rights (shift : Nat) : Raw :=
      let allowed (bit : Nat) (letter : Raw) : Raw :=
        if (mask >>> shift) &&& bit = 0 then letter else ""
      allowed 4 "r" ++ allowed 2 "w" ++ allowed 1 "x"
    "u=" ++ rights 6 ++ ",g=" ++ rights 3 ++ ",o=" ++ rights 0
  else String.ofList (Numeral.zeroPad 4 (Nat.toDigits 8 mask))

def mask : Action := fun arguments => do
  let (found, rest) ← readOptions "S" arguments
  let current := (← get).mask
  match rest with
  | [] => printLines [showMask (found ≠ []) current]
  | text :: _ =>
    let cs := text.toList
    let new ← do
      if cs.head?.any Char.isDigit then
        match Numeral.ofDigits? 8 cs with
        | some n => pure (n % 0o1000)
        | none => Act.illegalNumber text
      else
        let rights := 0o777 - current
        match changeRights rights (cs.length + 1) cs 0 rights with
        | some rights => pure (0o777 - rights % 0o1000)
        | none => Act.fail ("Illegal mode: " ++ text)
    modify fun s => { s with mask := new }
    return 0

end Builtin

end BareMetal.Shell
