import BareMetal.Shell.Builtin

/-!
# Simple commands

The words of a simple command say what it calls: a function of the script, a command of the shell,
or a program.
-/

namespace BareMetal.Shell

open Host

/-! ## What is called -/

/-- What a simple command calls. -/
inductive Callee where
  /-- Nothing; the command only sets variables. -/
  | nothing
  | function (body : Command)
  | builtin (name : Raw)
  | program

/-- A call, with the words that count for it. -/
structure Call where
  callee : Callee
  words : List Raw
  /-- An error in it ends the script. -/
  special : Bool := false
  /-- Variables that are set for it are as before when it is over. -/
  keeps : Bool := false
  /-- Programs are looked for where those of the system are. -/
  standardPath : Bool := false

namespace Call

/-- The words behind `command` that are to be called, and whether those are to be programs of the
system; none if `command` does something itself. -/
def behindCommand : List Raw → Option (Bool × List Raw)
  | [] => none
  | first :: rest =>
    match first.toList with
    | ['-', '-'] => if rest = [] then none else some (false, rest)
    | '-' :: c :: cs =>
      if (c :: cs).all (· = 'p') then (behindCommand rest).map fun (_, words) => (true, words)
      else none
    | _ => some (false, first :: rest)

/-- What some words call behind `command`, which hides functions. -/
def hidden (standardPath : Bool) : Nat → List Raw → Call
  | 0, words => { callee := .builtin "command", words, keeps := true }
  | _ + 1, [] => { callee := .nothing, words := [], keeps := true }
  | fuel + 1, name :: rest =>
    if name = "command" then
      match behindCommand rest with
      | some (standard, words) => hidden (standardPath || standard) fuel words
      | none => { callee := .builtin name, words := name :: rest, keeps := true, standardPath }
    else if Builtin.isBuiltin name then
      { callee := .builtin name, words := name :: rest, keeps := true, standardPath }
    else { callee := .program, words := name :: rest, keeps := true, standardPath }

/-- What some words call. -/
def ofWords (s : State) (words : List Raw) : Call :=
  match words with
  | [] => { callee := .nothing, words }
  | name :: _ =>
    match s.functions.lookup name with
    | some body => { callee := .function body, words, keeps := true }
    | none =>
      if name = "command" then hidden false words.length words
      else if Builtin.isBuiltin name then
        let special := Builtin.isSpecial name
        { callee := .builtin name, words, special, keeps := !special }
      else { callee := .program, words, keeps := true }

def isExec (c : Call) : Bool :=
  match c.callee with
  | .builtin name => name == "exec"
  | _ => false

/-- The arguments of the call may set variables, so that they are not split. -/
def takesSettings (c : Call) : Bool :=
  match c.callee with
  | .builtin name => Builtin.takesSettings name
  | _ => false

end Call

/-! ## Expansion -/

namespace SimpleCommand

/-- The texts of the words of a command, behind those of the words before. -/
def expandWords (r : Runner) : List Word → List Raw → Act (List Raw)
  | [], before => return before
  | w :: rest, before => do
    let s ← get
    if (Call.ofWords s before).takesSettings && Word.isSetting w then
      expandWords r rest (before ++ [← Expand.settingText r w])
    else expandWords r rest (before ++ (← Expand.texts r w))

/-- Sets variables for a call, or for the script; gives what is set. -/
def applySettings (r : Runner) (c : Call) : List Word → Act (List Raw)
  | [] => return []
  | w :: rest => do
    let text ← Expand.settingText r w
    let name := String.ofList (text.toList.takeWhile (· ≠ '='))
    if c.keeps then Act.keep name
    Act.setVariable name (Raw.settingValue text) (c.keeps || (c.isExec && 1 < c.words.length))
    return text :: (← applySettings r c rest)

/-- The text of a prompt, in which parameters have a meaning. -/
def promptText (r : Runner) (text : Raw) : Act Raw := do
  let s ← get
  match Grammar.readPrompt.run (Source.ofText text.toList s.aliases s.nextKey) with
  | .ok (w, source) =>
    set { s with
      documents := source.documents ++ s.documents
      nextKey := source.nextKey
      options := s.options.filter (· ≠ "xtrace") }
    let text ← Expand.documentText r w
    modify fun after => { after with options := s.options }
    return text
  | .error _ => return text

/-- Shows a command, if that is asked for. -/
def trace (r : Runner) (texts : List Raw) (streams : List (Nat × Nat)) : Act Unit := do
  let s ← get
  if s.hasOption "xtrace" then
    let prompt ← promptText r ((s.value? "PS4").getD "")
    let line := prompt ++ Text.joinWith " " texts ++ "\n"
    modify fun s =>
      { ((({ s with streams }).write (Raw.bytes line) 2).toOption).getD s with
        streams := s.streams }

/-! ## Calls -/

/-- Calls a function. -/
def callFunction (r : Runner) (tested : Bool) (body : Command) (arguments : List Raw) (s : State) :
    State :=
  let after := r.command body tested
    { s with
      parameters := arguments
      loops := 0
      optionIndex := 1
      optionOffset := none }
  { after with
    parameters := s.parameters
    loops := s.loops
    optionIndex := s.optionIndex
    optionOffset := s.optionOffset
    flow := if after.flow = .returning then .running else after.flow }

/-- Carries out a call. -/
def call (r : Runner) (tested : Bool) (c : Call) (s : State) : State :=
  let arguments := c.words.drop 1
  match c.callee with
  | .nothing => { s with status := s.outputStatus }
  | .function body => callFunction r tested body arguments s
  | .program => r.program { arguments := c.words, standardPath := c.standardPath } s
  | .builtin name =>
    let after := Builtin.run r tested name arguments s
    if after.flow = .failed && !c.special then { after with flow := .running } else after

/-- Carries out a call whose streams lead where they should. -/
def callWith (r : Runner) (tested : Bool) (c : Call) (texts : List Raw) (settings : List Word)
    (streams : List (Nat × Nat)) (s : State) : State :=
  let prepare : Act Unit := do
    let set ← applySettings r c settings
    trace r (set ++ texts) streams
  match prepare.run.run s with
  | (.error (), s) => s
  | (.ok (), s) => call r tested c s

/-- Carries out a simple command. -/
def run (r : Runner) (tested : Bool) (settings words : List Word)
    (redirections : List Redirection) (s : State) : State :=
  let expand : Act (List Raw × List Redirect.Order × Call) := do
    let texts ← expandWords r words []
    let c := Call.ofWords (← get) texts
    return (texts, ← Redirect.orders r redirections, c)
  match expand.run.run { s with outputStatus := 0 } with
  | (.error (), s) => s
  | (.ok (texts, orders, c), expanded) =>
    let kept := if c.keeps then expanded.pushSaved else expanded
    let after := match Redirect.tryAll r orders kept with
      | (true, inner) => callWith r tested c texts settings s.streams inner
      | (false, inner) => { inner with flow := if c.special then .failed else inner.flow }
    let after := after.restoreSaved s.saved.length
    if c.isExec && after.isRunning then after else { after with streams := s.streams }

end SimpleCommand

end BareMetal.Shell
