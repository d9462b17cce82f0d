import BareMetal.Shell.Builtin.Basic
import BareMetal.Shell.Condition
import BareMetal.Shell.Redirect

/-!
# Commands of the shell: what names stand for

The commands that say what a name stands for, and that change it: programs and aliases.
-/

namespace BareMetal.Shell

open Host

namespace Builtin

/-- The directories of the system with programs. -/
def standardPath : Raw := "/usr/local/sbin:/usr/local/bin:/usr/sbin:/usr/bin:/sbin:/bin"

/-- The file that a name stands for in some directories. -/
def findFile? (s : State) (path name : Raw) : Option Raw :=
  ((Text.splitOn ':' path.toList).map String.ofList).findSome? fun place =>
    let file := if place = "" then name else place ++ "/" ++ name
    if Condition.isFile s file then some file else none

/-- Why there is no file of a name in some directories; what stands there instead is refused. -/
def missingReason (s : State) (path name : Raw) : OsError :=
  let refused := ((Text.splitOn ':' path.toList).map String.ofList).any fun place =>
    (s.node? (if place = "" then name else place ++ "/" ++ name)).isSome
  if refused then .notPermitted else .notFound

/-- Where a program that has been found before stands, if the search path is still the same. -/
def located? (s : State) (name : Raw) : Option Raw :=
  if s.located.lookup name = some s.searchPath then findFile? s s.searchPath name else none

/-- Remembers that a program has been found. -/
def locate (s : State) (name : Raw) : State :=
  if name.contains '/' || (located? s name).isSome || (findFile? s s.searchPath name).isNone then s
  else
    { s with located := s.located.filter (·.1 ≠ name) ++ [(name, s.searchPath)] }

/-- The drawer of a cabinet that a name is kept in. -/
def drawer (count : Nat) (name : Raw) : Nat :=
  let codes := name.toList.map Char.toNat
  codes.foldl (· + ·) (16 * codes.headD 0) % count

/-- Things with names, drawer by drawer. -/
def byDrawer {α : Type} (count : Nat) (things : List (Raw × α)) : List (Raw × α) :=
  (List.range count).flatMap fun n => things.filter (drawer count ·.1 = n)

/-- Says what a name stands for, in full or only as far as it is needed to call it. -/
def describe (s : State) (full : Bool) (path name : Raw) : Option Raw :=
  let known (text : Raw) : Option Raw := some (if full then name ++ text else name)
  if Token.keywords.contains name then known " is a shell keyword"
  else match s.aliases.lookup name with
  | some text =>
    some (if full then name ++ " is an alias for " ++ text
      else "alias " ++ name ++ "=" ++ Raw.inQuotes text)
  | none =>
    if (s.functions.lookup name).isSome then known " is a shell function"
    else if isSpecial name then known " is a special shell builtin"
    else if isBuiltin name then known " is a shell builtin"
    else
      let file := if name.contains '/' then
          if (s.node? name).isSome then some name else none
        else findFile? s path name
      let found := if (located? s name).isSome then " is a tracked alias for " else " is "
      file.map fun file => if full then name ++ found ++ file else file

/-- Whether a name can only be that of a program. -/
def isPlain (s : State) (name : Raw) : Bool :=
  !Token.keywords.contains name && !isBuiltin name && (s.aliases.lookup name).isNone &&
    (s.functions.lookup name).isNone

/-- Describes some names. -/
def describeAll (full : Bool) (path : Raw) : List Raw → Act Nat
  | [] => return 0
  | name :: rest => do
    match describe (← get) full path name with
    | some text =>
      let _ ← printLines [text]
      if path = (← get).searchPath && isPlain (← get) name then modify (locate · name)
      describeAll full path rest
    | none =>
      if full then
        let _ ← printLines [name ++ ": not found"]
      let _ ← describeAll full path rest
      return 127

/-- Looks for programs once more. -/
def locateAll : List Raw → Act Nat
  | [] => return 0
  | name :: rest => do
    let s ← get
    let known := (s.functions.lookup name).isSome || isBuiltin name || name.contains '/' ||
      (findFile? s s.searchPath name).isSome
    if known then
      if (s.functions.lookup name).isNone && !isBuiltin name then modify (locate · name)
    else
      modify fun s =>
        s.warn (name ++ ": " ++ openReason "not found" (missingReason s s.searchPath name))
    let status ← locateAll rest
    return if known then status else 1

/-- Shows, forgets or looks for programs. -/
def hash : Action := fun arguments => do
  let (found, rest) ← readOptions "r" arguments
  let s ← get
  if found ≠ [] then
    set { s with located := [] }
    return 0
  else if rest = [] then
    printLines ((byDrawer 31 s.located).filterMap fun (name, _) => located? s name)
  else locateAll rest

def type : Action := fun arguments => do
  describeAll true (← get).searchPath arguments

/-- Describes a name, if that is what is asked for. -/
def command : Action := fun arguments => do
  let (found, rest) ← readOptions "pvV" arguments
  let s ← get
  let path := if found.any (·.1 = 'p') then standardPath else s.searchPath
  match found.filter (·.1 ≠ 'p'), rest with
  | [], _ | _, [] => return 0
  | asked, name :: _ => describeAll (asked.any (·.1 = 'V')) path [name]

/-- The aliases with another text for a name. -/
def withAlias (name text : Raw) : List (Raw × Raw) → List (Raw × Raw)
  | [] => [(name, text)]
  | known :: rest =>
    if known.1 = name then (name, text) :: rest else known :: withAlias name text rest

def setAliases : List Raw → Act Nat
  | [] => return 0
  | text :: rest => do
    let name := String.ofList (text.toList.takeWhile (· ≠ '='))
    let s ← get
    let known ← do
      if name ≠ text && name ≠ "" then
        modify fun s => { s with aliases := withAlias name (Raw.settingValue text) s.aliases }
        pure true
      else match s.aliases.lookup text with
      | some value =>
        let _ ← printLines [text ++ "=" ++ Raw.inQuotes value]
        pure true
      | none =>
        modify fun s => s.complain ("alias: " ++ text ++ " not found")
        pure false
    let status ← setAliases rest
    return if known then status else 1

/-- Shows or sets aliases. -/
def aliases : Action
  | [] => do
    let shown := byDrawer 39 (← get).aliases
    printLines (shown.map fun (name, text) => name ++ "=" ++ Raw.inQuotes text)
  | arguments => setAliases arguments

def removeAliases : List Raw → Act Nat
  | [] => return 0
  | name :: rest => do
    let known := ((← get).aliases.lookup name).isSome
    modify fun s => { s with aliases := s.aliases.filter (·.1 ≠ name) }
    if !known then modify fun s => s.complain ("unalias: " ++ name ++ " not found")
    let status ← removeAliases rest
    return if known then status else 1

def unalias : Action := fun arguments => do
  let (found, rest) ← readOptions "a" arguments
  if found ≠ [] then
    modify fun s => { s with aliases := [] }
    return 0
  else removeAliases rest

end Builtin

end BareMetal.Shell
