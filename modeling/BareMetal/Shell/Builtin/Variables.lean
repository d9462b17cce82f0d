import BareMetal.Shell.Builtin.Basic
import BareMetal.Shell.Split

/-!
# Commands of the shell: variables

The commands that set, show, protect and read variables.
-/

namespace BareMetal.Shell

open Host

namespace Builtin

/-- Lists variables; `word` stands in front of each. -/
def listVariables (word : Raw) (wanted : Binding → Bool) : Act Nat := do
  let s ← get
  let found := (s.bindings.filter (wanted ·.2)).mergeSort fun a b => !(b.1 < a.1)
  printLines (found.map fun (name, b) =>
    (if word = "" then "" else word ++ " ") ++ name ++
      match b.value with
      | some value => "=" ++ Raw.inQuotes value
      | none => "")

/-- Changes what kind of variables some are, which may get values. -/
def markAll (mark : Binding → Binding) : List Raw → Act Nat
  | [] => return 0
  | text :: rest => do
    let name := String.ofList (text.toList.takeWhile (· ≠ '='))
    if text.contains '=' then Act.assign name (Raw.settingValue text)
    else if !Raw.isName name then Act.fail (name ++ ": bad variable name")
    modify fun s =>
      s.setBinding name (mark ((s.bindings.lookup name).getD { value := none }))
    markAll mark rest

/-- Changes or lists variables of a kind. -/
def mark (word : Raw) (change : Binding → Binding) (has : Binding → Bool) : Action :=
  fun arguments => do
    let (found, rest) ← readOptions "p" arguments
    if found ≠ [] || rest = [] then listVariables word has else markAll change rest

def exportAll : Action :=
  mark "export" (fun b => { b with exported := true }) (·.exported)

def protect : Action :=
  mark "readonly" (fun b => { b with constant := true }) (·.constant)

/-- Lets variables be those of a function until it is over; `-` stands for the options. -/
def localAll : List Raw → Act Nat
  | [] => return 0
  | text :: rest => do
    if (← get).saved = [] then Act.fail (α := Unit) "not in a function"
    if text = "-" then Act.keepAs fun s => .options s.options
    else
      let name := String.ofList (text.toList.takeWhile (· ≠ '='))
      Act.keep name
      if text.contains '=' then Act.assign name (Raw.settingValue text)
    localAll rest

def unsetAll : List Raw → Act Nat
  | [] => return 0
  | name :: rest => do
    if !Raw.isName name then Act.fail (name ++ ": bad variable name")
    if ((← get).bindings.lookup name).any (·.constant) then Act.fail (name ++ ": is read only")
    modify fun s => s.removeBinding name
    unsetAll rest

def unset : Action := fun arguments => do
  let (found, rest) ← readOptions "vf" arguments
  if (found.getLast?).any (·.1 = 'f') then
    modify fun s => { s with functions := s.functions.filter (!rest.contains ·.1) }
    return 0
  else unsetAll rest

/-- A line as output that may be split where no backslash stands, how many characters it takes, and
whether it is complete. -/
def takeLine (literal : Bool) : List Char → Nat → Output → Output × Nat × Bool
  | [], first, o => (o.splitFrom first false, 0, false)
  | '\n' :: _, first, o => (o.splitFrom first false, 1, true)
  | '\x00' :: rest, first, o =>
    let (o, count, complete) := takeLine literal rest first o
    (o, count + 1, complete)
  | '\\' :: rest, first, o =>
    if literal then
      let (o, count, complete) := takeLine literal rest first (o.put (.char '\\' false))
      (o, count + 1, complete)
    else match rest with
    | [] => (o.splitFrom first false, 1, false)
    | c :: rest =>
      let (o, count, complete) := if c = '\n' then takeLine literal rest first o
        else
          let o := (o.splitFrom first false).put (.char c true)
          takeLine literal rest o.atoms.size o
      (o, count + 2, complete)
  | c :: rest, first, o =>
    let (o, count, complete) := takeLine literal rest first (o.put (.char c false))
    (o, count + 1, complete)

/-- Gives variables the fields of a line; those without a field are null. -/
def assignFields : List Raw → List (List Atom) → Act Unit
  | [], _ => return
  | name :: names, fields => do
    Act.assign name (String.ofList (Atom.text (fields.headD [])))
    assignFields names (fields.drop 1)

def read : Action := fun arguments => do
  let (found, names) ← readOptions "p:r" arguments
  if names = [] then Act.fail "arg count"
  let s ← get
  let input := match s.unread 0 with
    | .ok content => (Raw.ofBytes content).toList
    | .error _ => []
  let (o, count, complete) := takeLine (found.any (·.1 = 'r')) input 0 {}
  modify fun s => s.skip 0 count
  assignFields names (Split.fields s.separators.toList (some names.length) o)
  return if complete then 0 else 1

end Builtin

end BareMetal.Shell
