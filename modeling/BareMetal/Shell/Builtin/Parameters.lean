import BareMetal.Shell.Builtin.Variables

/-!
# Commands of the shell: options and parameters

The commands that change the options and the parameters of a script, or read them.
-/

namespace BareMetal.Shell

namespace Builtin

/-- Sets an option by its letter. -/
def setLetter (value : Bool) (letter : Char) : Act Unit := do
  match State.optionTable.find? (·.2 = some letter) with
  | some (name, _) => modify fun s => s.setOption name value
  | none => Act.fail ("Illegal option -" ++ String.singleton letter)

/-- Lists the options. -/
def listOptions (value : Bool) : Act Unit := do
  let s ← get
  let names := State.optionTable.map (·.1)
  let padded (name : String) : String :=
    String.ofList (name.toList ++ List.replicate (16 - name.length) ' ')
  let lines := if value then
      "Current option settings" ::
        names.map fun name => padded name ++ if s.hasOption name then "on" else "off"
    else names.map fun name => "set " ++ (if s.hasOption name then "-o " else "+o ") ++ name
  let _ ← printLines lines

/-- Sets the options of an argument; those with names take them from the arguments behind it. -/
def setLetters (value : Bool) : List Char → List Raw → Act (List Raw)
  | [], rest => return rest
  | 'o' :: cs, rest => do
    match rest with
    | [] => listOptions value
    | name :: _ =>
      if State.optionTable.any (·.1 = name) then modify fun s => s.setOption name value
      else Act.fail ("Illegal option -o " ++ name)
    setLetters value cs (rest.drop 1)
  | c :: cs, rest => do
    setLetter value c
    setLetters value cs rest

/-- Sets options and parameters. -/
def setFrom : Nat → List Raw → Act Unit
  | 0, _ => return
  | _ + 1, [] => return
  | fuel + 1, first :: rest => do
    let setParameters (arguments : List Raw) : Act Unit := modify fun s =>
      { s with parameters := arguments, optionIndex := 1, optionOffset := none }
    match first.toList with
    | ['-'] =>
      modify fun s => (s.setOption "xtrace" false).setOption "verbose" false
      if rest ≠ [] then setParameters rest
    | ['-', '-'] => setParameters rest
    | '-' :: cs => setFrom fuel (← setLetters true cs rest)
    | '+' :: cs => setFrom fuel (← setLetters false cs rest)
    | _ => setParameters (first :: rest)

def setAll : Action
  | [] => listVariables "" fun b => b.value.isSome
  | arguments => do
    setFrom (arguments.length + 1) arguments
    return 0

def shift : Action := fun arguments => do
  let n ← match arguments with
    | [] => pure 1
    | text :: _ => Act.natural text
  if (← get).parameters.length < n then Act.fail "can't shift that many"
  modify fun s =>
    { s with parameters := s.parameters.drop n, optionIndex := 1, optionOffset := none }
  return 0

/-- The next option of some arguments: its letter and its argument, or nothing when there are no
more, and where to look then. -/
def nextOption (allowed : List Char) (arguments : List Raw) (index : Nat) (offset : Option Nat) :
    Option (Char × Raw ⊕ Char × Bool) × Nat × Option Nat :=
  let current := match offset with
    | some k => ((arguments[index - 2]?).getD "").toList.drop k
    | none => []
  let started := match offset with
    | some _ => current ≠ []
    | none => false
  let text := ((arguments[index - 1]?).getD "").toList
  if !started && (text.head? ≠ some '-' || text.length < 2) then (none, index, none)
  else if !started && text = ['-', '-'] then (none, index + 1, none)
  else
    let index := if started then index else index + 1
    let offset := if started then offset.getD 0 else 1
    match if started then current else text.drop 1 with
    | [] => (none, index, none)
    | c :: behind =>
      let later : Option Nat := if behind = [] then none else some (offset + 1)
      match if c = ':' then [] else allowed.dropWhile (· ≠ c) with
      | [] => (some (.inr (c, true)), index, later)
      | _ :: ':' :: _ =>
        if behind ≠ [] then (some (.inl (c, String.ofList behind)), index, none)
        else match arguments[index - 1]? with
        | some value => (some (.inl (c, value)), index + 1, none)
        | none => (some (.inr (c, false)), index, none)
      | _ => (some (.inl (c, "")), index, later)

def getOptions : Action
  | allowed :: name :: arguments => do
    let s ← get
    let arguments := if arguments = [] then s.parameters else arguments
    let (index, offset) :=
      if arguments.length + 1 < s.optionIndex then (1, none) else (s.optionIndex, s.optionOffset)
    let letters := allowed.toList.dropWhile (· = ':')
    let (found, index, offset) := nextOption letters arguments index offset
    let silent := allowed.startsWith ":"
    let c ← match found with
      | none => pure '?'
      | some (.inl (c, value)) =>
        Act.assign "OPTARG" value
        pure c
      | some (.inr (c, unknown)) =>
        if silent then
          Act.assign "OPTARG" (String.singleton c)
          pure (if unknown then '?' else ':')
        else
          modify fun s => s.complain (if unknown then "Illegal option -" ++ String.singleton c
            else "No arg for -" ++ String.singleton c ++ " option")
          modify fun s => { s with bindings := s.bindings.filter (·.1 ≠ "OPTARG") }
          pure '?'
    Act.assign "OPTIND" (Raw.ofInt index)
    modify fun s => { s with optionIndex := index, optionOffset := offset }
    Act.assign name (String.singleton c)
    return if found.isNone then 1 else 0
  | _ => Act.fail "Usage: getopts optstring var [arg...]"

end Builtin

end BareMetal.Shell
